import FlowDecl.Proofs.Files.PathTexts
import FlowDecl.Proofs.Files.Writing

/-!
# Sound trees

A tree is sound if the place that paths start at has proper names, and if everything in it stands in
a directory.  In a sound tree a path of names leads to the place of these names, exactly if the
directory above is there and no part is too long.
-/

namespace FlowDecl
namespace Files
namespace Tree

/-- A tree with proper names for its current place in which everything stands in a directory. -/
structure IsSound (t : Tree) : Prop where
  current : AreNames t.current
  above : ∀ names, AreNames names → names ≠ [] → t.node? names ≠ none →
    t.node? names.dropLast = some .directory

/-- A path with too many octets in all or in one of its parts. -/
def IsOverlong (path : String) : Prop :=
  longestPath < path.utf8ByteSize ∨ ∃ part ∈ parts path, longestPart < part.utf8ByteSize

variable {t : Tree}

theorem node?_nil (t : Tree) : t.node? [] = some .directory :=
  rfl

namespace IsSound

/-- What stands at a place stands in directories, up to the top. -/
theorem node?_of_append (hs : t.IsSound) {before more : List String}
    (hnames : AreNames (before ++ more)) (h : t.node? (before ++ more) ≠ none)
    (hmore : more ≠ []) : t.node? before = some .directory := by
  induction more using List.reverseRecOn with
  | nil => exact absurd rfl hmore
  | append_singleton more name ih =>
      rw [← List.append_assoc] at hnames h
      have hne : before ++ more ++ [name] ≠ [] := by simp
      have hdirectory := hs.above _ hnames hne h
      rw [List.dropLast_concat] at hdirectory
      by_cases hnil : more = []
      · rw [hnil, List.append_nil] at hdirectory
        exact hdirectory
      · have hthere : t.node? (before ++ more) ≠ none := by
          rw [hdirectory]
          exact Option.some_ne_none _
        exact ih (hnames.of_isPrefix (List.prefix_append _ _)) hthere hnil

theorem node?_of_isPrefix (hs : t.IsSound) {before names : List String} (hnames : AreNames names)
    (h : t.node? names ≠ none) (hbefore : before <+: names) : t.node? before ≠ none := by
  obtain ⟨more, rfl⟩ := hbefore
  by_cases hmore : more = []
  · rwa [hmore, List.append_nil] at h
  · rw [hs.node?_of_append hnames h hmore]
    exact Option.some_ne_none _

end IsSound

/-! ## Ways -/

section Walk

variable {before after : List String} (hnames : AreNames (before ++ after))

include hnames

/-- The way of names leads to their place if the directory above is there. -/
theorem walk_names (hs : t.IsSound) (hfits : ∀ name ∈ after, ¬longestPart < name.utf8ByteSize)
    (habove : after = [] ∨ t.node? (before ++ after).dropLast = some .directory) :
    t.walk before after = .ok (before ++ after) := by
  induction after generalizing before with
  | nil => rw [walk, List.append_nil]
  | cons name rest ih =>
      have hname : IsName name := hnames name (by simp)
      have habove := habove.resolve_left (List.cons_ne_nil _ _)
      have hstart : t.node? before = some .directory := by
        rw [List.dropLast_append_of_ne_nil (List.cons_ne_nil _ _)] at habove
        by_cases hrest : rest = []
        · rw [hrest, List.dropLast_singleton, List.append_nil] at habove
          exact habove
        · rw [List.dropLast_cons_of_ne_nil hrest] at habove
          refine hs.node?_of_append ?_ (habove ▸ Option.some_ne_none _) (List.cons_ne_nil _ _)
          refine hnames.of_isPrefix ?_
          rw [List.prefix_append_right_inj, List.prefix_cons_inj]
          exact List.dropLast_prefix rest
      have hassoc : before ++ name :: rest = (before ++ [name]) ++ rest := by simp
      rw [walk_of_directory hstart, if_neg hname.ne_dot, if_neg hname.ne_dots,
        if_neg (hfits name List.mem_cons_self)]
      rw [hassoc] at hnames habove ⊢
      exact ih hnames (fun name hmem => hfits name (List.mem_cons_of_mem _ hmem)) (Or.inr habove)

/-- The way of names leads nowhere else, and only out of a directory. -/
theorem eq_append_of_walk {target : List String} (h : t.walk before after = .ok target) :
    target = before ++ after ∧
      (after ≠ [] → t.node? (before ++ after).dropLast = some .directory) := by
  induction after generalizing before with
  | nil =>
      rw [walk] at h
      rw [List.append_nil]
      exact ⟨(Except.ok.inj h).symm, fun hne => absurd rfl hne⟩
  | cons name rest ih =>
      have hname : IsName name := hnames name (by simp)
      have hstart : t.node? before = some .directory := node?_of_walk_cons h
      have hassoc : before ++ name :: rest = (before ++ [name]) ++ rest := by simp
      rw [walk_of_directory hstart, if_neg hname.ne_dot, if_neg hname.ne_dots] at h
      split at h
      next => cases h
      next =>
        rw [hassoc] at hnames ⊢
        obtain ⟨htarget, habove⟩ := ih hnames h
        refine ⟨htarget, fun _ => ?_⟩
        by_cases hrest : rest = []
        · rw [hrest, List.append_nil, List.dropLast_concat]
          exact hstart
        · exact habove hrest

end Walk

/-! ## Paths of names -/

section Names

variable {names : List String} (hnames : AreNames names)

include hnames

/-- The path of names starts at the top. -/
theorem route_pathText : t.route (pathText names) = ([], names) := by
  rw [route, head?_pathText, if_pos rfl, parts_pathText hnames]

theorem follow_names (place : List String) : follow place names = place ++ names := by
  induction names generalizing place with
  | nil => rw [follow, List.append_nil]
  | cons name names ih =>
      have hname := hnames name List.mem_cons_self
      rw [follow, if_neg hname.ne_dot, if_neg hname.ne_dots,
        ih fun name hmem => hnames name (List.mem_cons_of_mem _ hmem), List.append_assoc]
      rfl

theorem resolve_pathText : t.resolve (pathText names) = names := by
  rw [resolve, route_pathText hnames]
  exact follow_names hnames []

theorem locate_pathText_eq (t : Tree) :
    t.locate (pathText names) =
      if longestPath < (pathText names).utf8ByteSize then .error .tooLong else t.walk [] names := by
  rw [locate, hasNull_pathText hnames, if_neg Bool.false_ne_true, if_neg (pathText_ne_empty names),
    route_pathText hnames]

theorem eq_of_locate {target : List String} (h : t.locate (pathText names) = .ok target) :
    target = names ∧ (names ≠ [] → t.node? names.dropLast = some .directory) := by
  rw [locate_pathText_eq hnames] at h
  split at h
  next => cases h
  next =>
    have hway : AreNames ([] ++ names) := hnames
    simpa using eq_append_of_walk hway h

theorem wantsDirectory_pathText (hne : names ≠ []) : wantsDirectory (pathText names) = false := by
  obtain ⟨hdrop, hfull⟩ := head?_reverse_nameChars hnames hne
  rw [wantsDirectory, toList_pathText_of_ne hne, List.getLast?_eq_head?_reverse]
  obtain ⟨c, cs, hcs⟩ := List.exists_cons_of_ne_nil (List.reverse_ne_nil_iff.mpr hfull)
  rw [hcs] at hdrop ⊢
  refine decide_eq_false ?_
  intro hc
  cases Option.some.inj hc
  have hlength := congrArg List.length hdrop
  rw [List.dropWhile_cons_of_pos rfl] at hlength
  have hle := (List.dropWhile_sublist (· = '/') (l := cs)).length_le
  rw [hlength, List.length_cons] at hle
  omega

theorem node?_of_stat {node : Node} (h : t.stat (pathText names) = .ok node) :
    t.node? names = some node := by
  obtain ⟨target, htarget, h⟩ := Outcome.bind_eq_ok_iff.mp h
  rw [(eq_of_locate hnames htarget).1] at h
  cases hnode : t.node? names with
  | none =>
      rw [hnode] at h
      cases h
  | some found =>
      rw [hnode] at h
      cases found with
      | directory =>
          cases h
          rfl
      | file octets =>
          simp only at h
          split at h
          · cases h
          · cases h
            rfl

theorem node?_of_isDirectory (h : t.isDirectory (pathText names) = true) :
    t.node? names = some .directory := by
  rw [isDirectory, decide_eq_true_eq] at h
  cases hstat : t.stat (pathText names) with
  | error cause =>
      rw [hstat] at h
      cases h
  | ok node =>
      rw [hstat] at h
      cases Option.some.inj h
      exact node?_of_stat hnames hstat

/-- A directory is made where nothing stands and the directory above is there. -/
theorem eq_put_of_makeDirectory {t' : Tree} (h : t.makeDirectory (pathText names) = .ok t') :
    t.node? names.dropLast = some .directory ∧ t.node? names = none ∧
      t' = t.put names .directory := by
  obtain ⟨target, htarget, hmade⟩ := Outcome.bind_eq_ok_iff.mp h
  obtain ⟨rfl, habove⟩ := eq_of_locate hnames htarget
  split at hmade
  next => cases hmade
  next hnone =>
    have hnone : t.node? target = none := by simpa using hnone
    have hne : target ≠ [] := by
      rintro rfl
      rw [node?_nil] at hnone
      cases hnone
    exact ⟨habove hne, hnone, (Except.ok.inj hmade).symm⟩

theorem eq_put_of_write {octets : List UInt8} {t' : Tree}
    (h : t.write (pathText names) octets = .ok t') :
    t' = t.put names (.file octets) := by
  obtain ⟨target, hlocate, -, -, rfl⟩ := write_eq_ok_iff.mp h
  rw [(eq_of_locate hnames hlocate).1]

section Sound

variable (hs : t.IsSound) (hfits : ¬IsOverlong (pathText names))

include hs hfits

/-- A path of names leads to their place if the directory above is there and nothing is too long. -/
theorem locate_pathText (habove : names = [] ∨ t.node? names.dropLast = some .directory) :
    t.locate (pathText names) = .ok names := by
  obtain ⟨hpath, hparts⟩ := not_or.mp hfits
  rw [parts_pathText hnames] at hparts
  have hway : AreNames ([] ++ names) := hnames
  rw [locate_pathText_eq hnames, if_neg hpath]
  refine walk_names hway hs ?_ habove
  exact fun name hname hlong => hparts ⟨name, hname, hlong⟩

theorem locate_of_node? (h : t.node? names ≠ none) : t.locate (pathText names) = .ok names := by
  refine locate_pathText hnames hs hfits ?_
  by_cases hnil : names = []
  · exact Or.inl hnil
  · exact Or.inr (hs.above names hnames hnil h)

theorem hasPath_pathText (h : t.node? names ≠ none) : t.hasPath (pathText names) = true := by
  obtain ⟨node, hnode⟩ := Option.ne_none_iff_exists'.mp h
  have hlocate := locate_of_node? hnames hs hfits h
  have hstat : t.stat (pathText names) = .ok node := by
    rw [stat, hlocate]
    simp only [bind, Except.bind, hnode]
    cases node with
    | directory => rfl
    | file octets =>
        have hne : names ≠ [] := by
          rintro rfl
          cases hnode
        rw [wantsDirectory_pathText hnames hne]
        rfl
  rw [hasPath, hstat]
  rfl

theorem makeDirectory_pathText (habove : t.node? names.dropLast = some .directory)
    (hnone : t.node? names = none) :
    t.makeDirectory (pathText names) = .ok (t.put names .directory) := by
  rw [makeDirectory, locate_pathText hnames hs hfits (Or.inr habove)]
  simp only [bind, Except.bind, hnone]
  rfl

theorem node?_of_missing (h : t.makeDirectory (pathText names) = .error .missing) :
    t.node? names = none := by
  by_contra hthere
  obtain ⟨node, hnode⟩ := Option.ne_none_iff_exists'.mp hthere
  rw [makeDirectory, locate_of_node? hnames hs hfits hthere] at h
  simp only [bind, Except.bind, hnode] at h
  cases h

/-- Where the directory above is there and nothing is too long, only another directory keeps a file
from being written. -/
theorem node?_of_write (hne : names ≠ []) (habove : t.node? names.dropLast = some .directory)
    {octets : List UInt8} {cause : Cause}
    (h : t.write (pathText names) octets = .error cause) :
    t.node? names = some .directory := by
  by_contra hfree
  have hlocate := locate_pathText hnames hs hfits (Or.inr habove)
  have hwritten : t.write (pathText names) octets = .ok (t.put names (.file octets)) :=
    write_eq_ok_iff.mpr ⟨_, hlocate, wantsDirectory_pathText hnames hne, hfree, rfl⟩
  cases hwritten.symm.trans h

end Sound

end Names

/-! ## Places of paths -/

theorem areNames_concat {names : List String} (h : AreNames names) {name : String}
    (hname : IsName name) : AreNames (names ++ [name]) := by
  refine h.append ?_
  intro other hother
  cases List.mem_singleton.mp hother
  exact hname

/-- Parts lead from names to names, whether they go on or up. -/
theorem areNames_follow {place : List String} (h : AreNames place) {path : String}
    (hnull : hasNull path = false) {more : List String}
    (hparts : ∀ part ∈ more, part.toList ≠ [] ∧ '/' ∉ part.toList ∧
      part.toList ⊆ path.toList) : AreNames (follow place more) := by
  induction more generalizing place with
  | nil => exact h
  | cons part rest ih =>
      obtain ⟨⟨hfull, hslash, hchars⟩, hrest⟩ := List.forall_mem_cons.mp hparts
      rw [follow]
      by_cases hdot : part = "."
      · rw [if_pos hdot]
        exact ih h hrest
      · rw [if_neg hdot]
        by_cases hdots : part = ".."
        · rw [if_pos hdots]
          exact ih h.dropLast hrest
        · rw [if_neg hdots]
          refine ih (areNames_concat h ⟨hfull, hdot, hdots, hslash, ?_⟩) hrest
          rw [hasNull, List.contains_eq_mem, decide_eq_false_iff_not] at hnull ⊢
          exact fun hmem => hnull (hchars hmem)

theorem areNames_resolve (hs : t.IsSound) {path : String} (hnull : hasNull path = false) :
    AreNames (t.resolve path) := by
  refine areNames_follow ?_ hnull fun part => chars_of_mem_parts
  rw [route]
  split
  · exact .nil
  · exact hs.current

theorem absolute_eq (t : Tree) (path : String) : t.absolute path = pathText (t.resolve path) :=
  fullPath_eq_pathText _

/-! ## New nodes -/

theorem node?_put_of_none {names : List String} (h : t.node? names = none) (node : Node) :
    (t.put names node).node? names = some node := by
  refine node?_put_self ?_ node
  rw [h]
  exact fun heq => nomatch heq

theorem IsSound.put_directory (hs : t.IsSound) {names : List String}
    (habove : t.node? names.dropLast = some .directory) (hnone : t.node? names = none) :
    (t.put names .directory).IsSound := by
  refine ⟨hs.current, ?_⟩
  intro others hothers hne hthere
  have hparent : t.node? others.dropLast = some .directory := by
    by_cases heq : others = names
    · rw [heq]
      exact habove
    · rw [node?_put_of_ne heq] at hthere
      exact hs.above others hothers hne hthere
  have hother : others.dropLast ≠ names := by
    intro heq
    rw [heq, hnone] at hparent
    cases hparent
  rw [node?_put_of_ne hother]
  exact hparent

end Tree
end Files
end FlowDecl
