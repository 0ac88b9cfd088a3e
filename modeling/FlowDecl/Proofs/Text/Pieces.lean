import FlowDecl.Text.Pieces
import Mathlib.Data.List.Infix

/-!
# Parts between separators

The pieces of a text are exactly its parts without a separator that have a separator or an end of
the text on either side.  A text that is made of others with a separator between them has the pieces
of these others, one after the other.
-/

namespace FlowDecl
namespace Text

variable {sep : Char}

/-- A part without a separator, between two places that are separators or ends of the text. -/
structure IsPiece (sep : Char) (cs piece : List Char) : Prop where
  split : ∃ before after, cs = before ++ piece ++ after ∧ (∀ c ∈ before.getLast?, c = sep) ∧
    ∀ c ∈ after.head?, c = sep
  plain : sep ∉ piece

/-! ## Splitting -/

theorem splitOn_ne_nil (cs : List Char) : splitOn sep cs ≠ [] := by
  cases cs with
  | nil => exact List.cons_ne_nil _ _
  | cons c cs =>
      rw [splitOn]
      split
      · exact List.cons_ne_nil _ _
      · split
        · exact List.cons_ne_nil _ _
        · exact List.cons_ne_nil _ _

/-- A character that is no separator belongs to the first piece. -/
theorem splitOn_cons_of_ne {c : Char} (h : c ≠ sep) (cs : List Char) :
    ∃ piece pieces, splitOn sep cs = piece :: pieces ∧
      splitOn sep (c :: cs) = (c :: piece) :: pieces := by
  have hne : splitOn sep cs ≠ [] := splitOn_ne_nil cs
  obtain ⟨piece, pieces, hcs⟩ := List.exists_cons_of_ne_nil hne
  refine ⟨piece, pieces, hcs, ?_⟩
  rw [splitOn, if_neg h, hcs]

theorem splitOn_of_notMem {cs : List Char} (h : sep ∉ cs) : splitOn sep cs = [cs] := by
  induction cs with
  | nil => rfl
  | cons c cs ih =>
      obtain ⟨hc, hcs⟩ : sep ≠ c ∧ sep ∉ cs := by simpa using h
      rw [splitOn, if_neg hc.symm, ih hcs]

theorem splitOn_append_cons (start rest : List Char) :
    splitOn sep (start ++ sep :: rest) = splitOn sep start ++ splitOn sep rest := by
  induction start with
  | nil => exact if_pos rfl
  | cons c start ih =>
      by_cases hc : c = sep
      · rw [List.cons_append, splitOn, if_pos hc, splitOn, if_pos hc, ih, List.cons_append]
      · obtain ⟨piece, pieces, hstart, hcons⟩ := splitOn_cons_of_ne hc start
        rw [List.cons_append, splitOn, if_neg hc, ih, hcons, hstart]
        rfl

/-- Joining puts separators between the pieces and changes none of them. -/
theorem splitOn_intercalate {parts : List (List Char)} (h : parts ≠ []) :
    splitOn sep ([sep].intercalate parts) = parts.flatMap (splitOn sep) := by
  induction parts with
  | nil => exact absurd rfl h
  | cons part others ih =>
      cases others with
      | nil => rw [List.intercalate_singleton, List.flatMap_singleton]
      | cons next others =>
          rw [List.intercalate_cons_cons, List.append_assoc, List.singleton_append,
            splitOn_append_cons, ih (List.cons_ne_nil _ _)]
          exact List.flatMap_cons.symm

/-! ## Pieces -/

/-- What stands before a separator has no part in the pieces after it. -/
theorem IsPiece.append_cons {rest piece : List Char} (h : IsPiece sep rest piece)
    (start : List Char) : IsPiece sep (start ++ sep :: rest) piece := by
  obtain ⟨before, after, rfl, hbefore, hafter⟩ := h.split
  refine ⟨⟨start ++ sep :: before, after, by simp, ?_, hafter⟩, h.plain⟩
  intro c hc
  rw [List.getLast?_append_cons, List.getLast?_cons, Option.mem_some_iff] at hc
  cases hlast : before.getLast? with
  | none => simpa [hlast] using hc.symm
  | some d =>
      have hd : d = sep := hbefore d hlast
      simpa [hlast, hd] using hc.symm

theorem isPiece_of_mem_splitOn {cs piece : List Char} (h : piece ∈ splitOn sep cs) :
    IsPiece sep cs piece := by
  induction hlength : cs.length using Nat.strongRecOn generalizing cs with
  | ind length ih =>
      by_cases hsep : sep ∈ cs
      · -- The text is cut at its first separator.
        obtain ⟨start, rest, rfl, hstart⟩ := List.eq_append_cons_of_mem hsep
        rw [splitOn_append_cons, splitOn_of_notMem hstart, List.singleton_append,
          List.mem_cons] at h
        rcases h with rfl | h
        · exact ⟨⟨[], sep :: rest, rfl, by simp, by simp⟩, hstart⟩
        · have hrest : rest.length < length := by
            rw [← hlength, List.length_append, List.length_cons]
            omega
          exact (ih rest.length hrest h rfl).append_cons start
      · rw [splitOn_of_notMem hsep, List.mem_singleton] at h
        subst h
        exact ⟨⟨[], [], by simp, by simp, by simp⟩, hsep⟩

theorem IsPiece.mem_splitOn {cs piece : List Char} (h : IsPiece sep cs piece) :
    piece ∈ splitOn sep cs := by
  obtain ⟨before, after, rfl, hbefore, hafter⟩ := h.split
  have hfirst : piece ∈ splitOn sep (piece ++ after) := by
    cases after with
    | nil =>
        rw [List.append_nil, splitOn_of_notMem h.plain]
        exact List.mem_singleton_self piece
    | cons c after =>
        obtain rfl : c = sep := hafter c rfl
        rw [splitOn_append_cons, splitOn_of_notMem h.plain]
        exact List.mem_cons_self
  rcases List.eq_nil_or_concat before with rfl | ⟨start, c, rfl⟩
  · exact hfirst
  · obtain rfl : c = sep := hbefore c (by simp)
    rw [List.concat_eq_append, List.append_assoc, List.append_assoc, List.singleton_append,
      splitOn_append_cons]
    exact List.mem_append_right _ hfirst

theorem mem_splitOn_iff {cs piece : List Char} :
    piece ∈ splitOn sep cs ↔ IsPiece sep cs piece :=
  ⟨isPiece_of_mem_splitOn, IsPiece.mem_splitOn⟩

theorem IsPiece.subset {cs piece : List Char} (h : IsPiece sep cs piece) : piece ⊆ cs := by
  obtain ⟨before, after, rfl, -, -⟩ := h.split
  exact List.subset_append_of_subset_left after (List.subset_append_right before piece)

end Text
end FlowDecl
