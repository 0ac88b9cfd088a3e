import FlowDecl.CommandLine.Names
import FlowDecl.Proofs.Text.Pieces
import FlowDecl.Proofs.Text.Trimming
import Mathlib.Data.List.Sort
import Mathlib.Data.String.Basic

/-!
# Sets of names

A set of names is told by any number of texts.  The names are what stands between commas, without
blanks around it, and they are kept in order and each once.  So a set has one form only, and it does
not matter which name is told by which text: one text with commas between the others tells the same
names, as do the texts in another order or several times, and the names themselves.
-/

namespace FlowDecl
namespace CommandLine

open Text (IsPiece IsTrimmed trimChars)

/-- What stands between commas in one of some texts, without the blanks around it, unless nothing is
left of it. -/
def IsNameIn (texts : List String) (name : String) : Prop :=
  name ≠ "" ∧ ∃ text ∈ texts, ∃ piece,
    IsPiece ',' text.toList piece ∧ IsTrimmed piece name.toList

/-! ## One text -/

theorem mem_namesIn_iff {text name : String} :
    name ∈ namesIn text ↔
      name ≠ "" ∧ ∃ piece, IsPiece ',' text.toList piece ∧ IsTrimmed piece name.toList := by
  have hchars (piece : List Char) :
      String.ofList (trimChars piece) = name ↔ IsTrimmed piece name.toList := by
    rw [Text.isTrimmed_iff, ← String.toList_inj, String.toList_ofList, eq_comm]
  simp only [namesIn, List.mem_filter, List.mem_map, Text.mem_splitOn_iff, hchars, bne_iff_ne]
  exact and_comm

/-- A name that stands in some text tells itself and nothing else. -/
theorem namesIn_of_mem {text name : String} (h : name ∈ namesIn text) :
    namesIn name = [name] := by
  obtain ⟨hne, piece, hpiece, htrimmed⟩ := mem_namesIn_iff.mp h
  have hcomma : ',' ∉ name.toList := fun hmem => hpiece.plain (htrimmed.subset hmem)
  rw [namesIn, Text.splitOn_of_notMem hcomma, List.map_singleton, htrimmed.trimChars_kept,
    String.ofList_toList, List.filter_cons_of_pos (by simpa using hne), List.filter_nil]

/-- One text with commas between others has the names of all of them. -/
theorem namesIn_intercalate (texts : List String) :
    namesIn (",".intercalate texts) = texts.flatMap namesIn := by
  by_cases h : texts = []
  · subst h
    decide
  · have hcomma : ",".toList = [','] := rfl
    have hlists : texts.map String.toList ≠ [] := by simpa using h
    rw [namesIn, String.toList_intercalate, hcomma, Text.splitOn_intercalate hlists,
      List.flatMap_map, List.map_flatMap, List.filter_flatMap]
    rfl

/-! ## Names in order -/

theorem mem_sortNames {names : List String} {name : String} :
    name ∈ sortNames names ↔ name ∈ names := by
  rw [sortNames, List.mem_eraseDups, List.mem_mergeSort]

/-- Names in order are strictly in order once their repetitions are left out. -/
theorem pairwise_lt_eraseDups {names : List String} (h : names.Pairwise (· ≤ ·)) :
    names.eraseDups.Pairwise (· < ·) := by
  induction hlength : names.length using Nat.strongRecOn generalizing names with
  | ind length ih =>
      cases names with
      | nil => exact List.Pairwise.nil
      | cons name others =>
          rw [List.pairwise_cons] at h
          rw [List.eraseDups_cons, List.pairwise_cons]
          constructor
          · intro other hother
            rw [List.mem_eraseDups, List.mem_filter] at hother
            have hne : other ≠ name := by simpa using hother.2
            exact lt_of_le_of_ne (h.1 other hother.1) hne.symm
          · refine ih _ ?_ (h.2.filter _) rfl
            rw [← hlength, List.length_cons]
            exact Nat.lt_succ_of_le (List.length_filter_le _ _)

theorem pairwise_sortNames (names : List String) : (sortNames names).Pairwise (· < ·) := by
  have hsorted : (names.mergeSort fun a b => decide (a ≤ b)).Pairwise fun a b =>
      decide (a ≤ b) = true := by
    refine List.pairwise_mergeSort ?_ ?_ names
    · intro a b c hab hbc
      exact decide_eq_true (le_trans (of_decide_eq_true hab) (of_decide_eq_true hbc))
    · intro a b
      simpa using le_total a b
  exact pairwise_lt_eraseDups (hsorted.imp of_decide_eq_true)

/-- There is one way to have the names of a set in order and each once. -/
theorem sortNames_eq_of_pairwise {names ordered : List String}
    (hordered : ordered.Pairwise (· < ·)) (h : ∀ name, name ∈ names ↔ name ∈ ordered) :
    sortNames names = ordered := by
  refine (pairwise_sortNames names).eq_of_mem_iff hordered fun name => ?_
  rw [mem_sortNames, h]

theorem sortNames_eq_iff {names others : List String} :
    sortNames names = sortNames others ↔ ∀ name, name ∈ names ↔ name ∈ others := by
  constructor
  · intro h name
    rw [← mem_sortNames, h, mem_sortNames]
  · intro h
    refine sortNames_eq_of_pairwise (pairwise_sortNames others) fun name => ?_
    rw [mem_sortNames, h]

/-! ## Several texts -/

theorem mem_splitNames_iff {texts : List String} {name : String} :
    name ∈ splitNames texts ↔ IsNameIn texts name := by
  simp only [splitNames, mem_sortNames, List.mem_flatMap, mem_namesIn_iff, IsNameIn]
  constructor
  · rintro ⟨text, htext, hne, hname⟩
    exact ⟨hne, text, htext, hname⟩
  · rintro ⟨hne, text, htext, hname⟩
    exact ⟨text, htext, hne, hname⟩

theorem splitNames_intercalate (texts : List String) :
    splitNames [",".intercalate texts] = splitNames texts := by
  rw [splitNames, splitNames, List.flatMap_singleton, namesIn_intercalate]

theorem splitNames_congr {texts others : List String}
    (h : ∀ text, text ∈ others ↔ text ∈ texts) : splitNames others = splitNames texts := by
  rw [splitNames, splitNames, sortNames_eq_iff]
  intro name
  simp only [List.mem_flatMap, h]

theorem splitNames_append_congr {texts others : List String}
    (h : splitNames texts = splitNames others) (more : List String) :
    splitNames (texts ++ more) = splitNames (others ++ more) := by
  rw [splitNames, splitNames, sortNames_eq_iff] at h ⊢
  intro name
  rw [List.flatMap_append, List.flatMap_append, List.mem_append, List.mem_append, h]

/-- A set of names tells itself. -/
theorem splitNames_splitNames (texts : List String) :
    splitNames (splitNames texts) = splitNames texts := by
  have hnames : ∀ name ∈ splitNames texts, namesIn name = [name] := by
    intro name hname
    obtain ⟨text, -, htext⟩ := List.mem_flatMap.mp (mem_sortNames.mp hname)
    exact namesIn_of_mem htext
  have hsame : (splitNames texts).flatMap namesIn = splitNames texts := by
    rw [List.flatMap_congr hnames, List.flatMap_singleton']
  rw [splitNames, hsame]
  exact sortNames_eq_of_pairwise (pairwise_sortNames _) fun name => Iff.rfl

end CommandLine
end FlowDecl
