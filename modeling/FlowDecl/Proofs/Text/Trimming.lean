import FlowDecl.Text.Blank
import Mathlib.Data.List.TakeWhile

/-!
# Trimmed texts

Trimming takes blanks away from both ends and nothing else.  What is left is the only part of a text
with blanks on both sides of it and none at its own ends, and nothing is left of a text of blanks.
-/

namespace FlowDecl
namespace Text

/-- A part of some characters with blanks on both sides of it and none at its own ends. -/
structure IsTrimmed (cs kept : List Char) : Prop where
  split : ∃ left right, cs = left ++ kept ++ right ∧ (∀ c ∈ left, isBlank c = true) ∧
    ∀ c ∈ right, isBlank c = true
  first : ∀ c ∈ kept.head?, isBlank c = false
  last : ∀ c ∈ kept.getLast?, isBlank c = false

theorem dropWhile_isBlank_of_head {cs : List Char} (h : ∀ c ∈ cs.head?, isBlank c = false) :
    cs.dropWhile isBlank = cs := by
  cases cs with
  | nil => rfl
  | cons c cs =>
      apply List.dropWhile_cons_of_neg
      simp [h c rfl]

theorem isBlank_head?_dropWhile {cs : List Char} :
    ∀ c ∈ (cs.dropWhile isBlank).head?, isBlank c = false := by
  intro c hc
  have hhead := List.head?_dropWhile_not isBlank cs
  rw [Option.mem_def.mp hc] at hhead
  exact hhead

/-- Trimming leaves the one part with blanks on both sides and none at its ends. -/
theorem IsTrimmed.eq_trimChars {cs kept : List Char} (h : IsTrimmed cs kept) :
    kept = trimChars cs := by
  obtain ⟨left, right, rfl, hleft, hright⟩ := h.split
  rw [trimChars, List.append_assoc, List.dropWhile_append_of_pos hleft]
  cases hkept : kept with
  | nil =>
      rw [List.nil_append, List.dropWhile_eq_nil_iff.mpr hright]
      rfl
  | cons c rest =>
      have hfirst : ∀ d ∈ (kept ++ right).head?, isBlank d = false := by
        simpa [hkept] using h.first
      have hright' : ∀ d ∈ right.reverse, isBlank d = true := by
        simpa using hright
      have hlast : ∀ d ∈ kept.reverse.head?, isBlank d = false := by
        simpa using h.last
      rw [← hkept, dropWhile_isBlank_of_head hfirst, List.reverse_append,
        List.dropWhile_append_of_pos hright', dropWhile_isBlank_of_head hlast,
        List.reverse_reverse]

theorem isTrimmed_trimChars (cs : List Char) : IsTrimmed cs (trimChars cs) := by
  have hsplit : cs = cs.takeWhile isBlank ++ trimChars cs ++
      ((cs.dropWhile isBlank).reverse.takeWhile isBlank).reverse := by
    rw [trimChars, List.append_assoc, ← List.reverse_append, List.takeWhile_append_dropWhile,
      List.reverse_reverse, List.takeWhile_append_dropWhile]
  refine ⟨⟨_, _, hsplit, ?_, ?_⟩, ?_, ?_⟩
  · exact List.all_eq_true.mp List.all_takeWhile
  · intro c hc
    exact List.all_eq_true.mp List.all_takeWhile c (List.mem_reverse.mp hc)
  · -- What is left of the text without its first blanks begins as that text does.
    intro c hc
    have hprefix : trimChars cs <+: cs.dropWhile isBlank := by
      rw [trimChars, ← List.reverse_suffix, List.reverse_reverse]
      exact List.dropWhile_suffix _
    obtain ⟨rest, hrest⟩ := hprefix
    have hhead : c ∈ (cs.dropWhile isBlank).head? := by
      rw [← hrest, List.head?_append, Option.mem_def.mp hc]
      rfl
    exact isBlank_head?_dropWhile c hhead
  · intro c hc
    rw [trimChars, List.getLast?_reverse] at hc
    exact isBlank_head?_dropWhile c hc

theorem isTrimmed_iff {cs kept : List Char} : IsTrimmed cs kept ↔ kept = trimChars cs := by
  constructor
  · exact IsTrimmed.eq_trimChars
  · rintro rfl
    exact isTrimmed_trimChars cs

theorem IsTrimmed.subset {cs kept : List Char} (h : IsTrimmed cs kept) : kept ⊆ cs := by
  obtain ⟨left, right, rfl, -, -⟩ := h.split
  exact List.subset_append_of_subset_left right (List.subset_append_right left kept)

/-- Trimming a second time leaves all that is there. -/
theorem IsTrimmed.trimChars_kept {cs kept : List Char} (h : IsTrimmed cs kept) :
    trimChars kept = kept := by
  have hkept : IsTrimmed kept kept :=
    ⟨⟨[], [], by simp, by simp, by simp⟩, h.first, h.last⟩
  exact hkept.eq_trimChars.symm

theorem trimChars_eq_nil_iff {cs : List Char} :
    trimChars cs = [] ↔ ∀ c ∈ cs, isBlank c = true := by
  constructor
  · intro h
    obtain ⟨left, right, hsplit, hleft, hright⟩ := (isTrimmed_trimChars cs).split
    rw [h, List.append_nil] at hsplit
    rw [hsplit, List.forall_mem_append]
    exact ⟨hleft, hright⟩
  · intro h
    have hnone : IsTrimmed cs [] :=
      ⟨⟨cs, [], by simp, h, by simp⟩, by simp, by simp⟩
    exact hnone.eq_trimChars.symm

end Text
end FlowDecl
