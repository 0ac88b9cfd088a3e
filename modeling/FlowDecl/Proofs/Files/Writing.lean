import FlowDecl.Files.Tree
import FlowDecl.Proofs.Outcome
import Mathlib.Tactic.SplitIfs

/-!
# Written files

Writing puts a file at the place that a path leads to and changes no other place.  No directory goes
away, so a path that led somewhere still leads there, and every path that leads to the place of the
file reads what was written.
-/

namespace FlowDecl
namespace Files
namespace Tree

/-! ## Places -/

theorem lookup_filter_ne {entries : List (List String × Node)} {place other : List String}
    (h : other ≠ place) :
    (entries.filter fun e => e.1 != place).lookup other = entries.lookup other := by
  induction entries with
  | nil => rfl
  | cons e entries ih =>
      obtain ⟨key, node⟩ := e
      by_cases hkey : key = place
      · have hother : (other == key) = false := by
          rw [hkey]
          exact beq_eq_false_iff_ne.mpr h
        rw [List.filter_cons_of_neg (by simp [hkey]), ih, List.lookup_cons, hother]
      · rw [List.filter_cons_of_pos (by simp [hkey]), List.lookup_cons, List.lookup_cons, ih]

/-- What is put at one place is not seen at another. -/
theorem node?_put_of_ne {t : Tree} {place other : List String} (h : other ≠ place) (node : Node) :
    (t.put place node).node? other = t.node? other := by
  have hother : (other == place) = false := beq_eq_false_iff_ne.mpr h
  rw [node?, node?, put, List.lookup_cons, hother, lookup_filter_ne h]

/-- What is put where no directory stands is found there. -/
theorem node?_put_self {t : Tree} {place : List String} (h : t.node? place ≠ some .directory)
    (node : Node) : (t.put place node).node? place = some node := by
  rw [node?] at h
  split at h
  next => exact absurd rfl h
  next hplace =>
    rw [node?, if_neg hplace, put, List.lookup_cons, beq_self_eq_true]

/-! ## Paths -/

/-- Every part of a path but the last leads through a directory. -/
theorem node?_of_walk_cons {t : Tree} {start target : List String} {part : String}
    {parts : List String} (h : t.walk start (part :: parts) = .ok target) :
    t.node? start = some .directory := by
  rw [walk] at h
  split at h
  next => cases h
  next => cases h
  next hnode => exact hnode

/-- The step of a path out of a directory. -/
theorem walk_of_directory {t : Tree} {start : List String} (h : t.node? start = some .directory)
    (part : String) (parts : List String) :
    t.walk start (part :: parts) =
      if part = "." then t.walk start parts
      else if part = ".." then t.walk start.dropLast parts
      else if longestPart < part.utf8ByteSize then .error .tooLong
      else t.walk (start ++ [part]) parts := by
  rw [walk, h]

/-- A way through directories stays where a file is put. -/
theorem walk_put {t : Tree} {place : List String} (h : t.node? place ≠ some .directory)
    (node : Node) {start target : List String} {parts : List String}
    (hwalk : t.walk start parts = .ok target) :
    (t.put place node).walk start parts = .ok target := by
  induction parts generalizing start with
  | nil => exact hwalk
  | cons part parts ih =>
      have hstart := node?_of_walk_cons hwalk
      have hne : start ≠ place := by
        rintro rfl
        exact h hstart
      have hput := (node?_put_of_ne hne node).trans hstart
      rw [walk_of_directory hstart] at hwalk
      rw [walk_of_directory hput]
      split_ifs at hwalk ⊢
      · exact ih hwalk
      · exact ih hwalk
      · exact ih hwalk

/-- A path leads where it led before a file is put. -/
theorem locate_put {t : Tree} {place target : List String} (h : t.node? place ≠ some .directory)
    (node : Node) {path : String} (hlocate : t.locate path = .ok target) :
    (t.put place node).locate path = .ok target := by
  rw [locate] at hlocate ⊢
  split at hlocate
  next => cases hlocate
  next hnull =>
    rw [if_neg hnull]
    split at hlocate
    next => cases hlocate
    next hlong =>
      rw [if_neg hlong]
      split at hlocate
      next => cases hlocate
      next hempty =>
        rw [if_neg hempty]
        exact walk_put h node hlocate

/-! ## Files -/

/-- What writing does: it puts the file where the path leads, if no directory stands there. -/
theorem write_eq_ok_iff {t t' : Tree} {path : String} {octets : List UInt8} :
    t.write path octets = .ok t' ↔
      ∃ place, t.locate path = .ok place ∧ wantsDirectory path = false ∧
        t.node? place ≠ some .directory ∧ t' = t.put place (.file octets) := by
  rw [write, Outcome.bind_eq_ok_iff]
  refine exists_congr fun place => and_congr_right fun _ => ?_
  by_cases hdirectory : (wantsDirectory path || t.node? place = some .directory) = true
  · rw [if_pos hdirectory]
    refine iff_of_false ?_ ?_
    · intro h
      cases h
    · rintro ⟨hwants, hnode, -⟩
      simp [hwants, hnode] at hdirectory
  · rw [if_neg hdirectory]
    simp only [Bool.or_eq_true, decide_eq_true_eq, not_or, Bool.not_eq_true] at hdirectory
    constructor
    · intro h
      cases h
      exact ⟨hdirectory.1, hdirectory.2, rfl⟩
    · rintro ⟨-, -, rfl⟩
      rfl

/-- A written file is read by every path that leads to it. -/
theorem read_of_write {t t' : Tree} {path other : String} {octets : List UInt8}
    (hwrite : t.write path octets = .ok t') (hplace : t'.locate other = t'.locate path)
    (hother : wantsDirectory other = false) :
    t'.stat other = .ok (.file octets) ∧ t'.read other = .ok octets := by
  obtain ⟨place, hlocate, -, hnode, rfl⟩ := write_eq_ok_iff.mp hwrite
  have hstat : (t.put place (.file octets)).stat other = .ok (.file octets) := by
    rw [stat, hplace, locate_put hnode (.file octets) hlocate]
    simp only [bind, Except.bind, node?_put_self hnode, hother]
    rfl
  refine ⟨hstat, ?_⟩
  rw [read, hstat]
  rfl

end Tree
end Files
end FlowDecl
