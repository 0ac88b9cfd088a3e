import Mathlib.Data.List.Infix

/-!
# Comments

A block comment is taken out of a text in one pass that knows whether it is inside of a comment.
What is put into a comment stays there exactly if it does not end the comment, or if it begins
another one wherever it ends one; in every other case something of it, or the end of the comment
itself, becomes code.

This holds in front of code without a slash, which neither begins nor ends a comment.
-/

namespace FlowDecl
namespace Flow

/-! ## Code outside of comments -/

/-- The characters outside of block comments.  A comment goes from `/*` to the next `*/` and takes
the newline after it along; one that is not ended goes on to the end of the text.  The first
argument tells whether the text begins inside of a comment. -/
def codeFrom : Bool → List Char → List Char
  | true, '*' :: '/' :: '\n' :: rest => codeFrom false rest
  | true, '*' :: '/' :: rest => codeFrom false rest
  | true, _ :: rest => codeFrom true rest
  | false, '/' :: '*' :: rest => codeFrom true rest
  | false, c :: rest => c :: codeFrom false rest
  | _, [] => []

def code (text : String) : String :=
  String.ofList (codeFrom false text.toList)

def afterComment : List Char → List Char
  | '\n' :: rest => rest
  | rest => rest

/-- A text that stays in the comment that it is put into: wherever it ends the comment, another one
begins at once or on the next line. -/
inductive Enclosed : List Char → Prop where
  | plain {text : List Char} (hplain : ¬['*', '/'] <:+: text) : Enclosed text
  | next {first rest : List Char} (hfirst : ¬['*', '/'] <:+: first) (hrest : Enclosed rest) :
      Enclosed (first ++ '*' :: '/' :: '/' :: '*' :: rest)
  | nextLine {first rest : List Char} (hfirst : ¬['*', '/'] <:+: first) (hrest : Enclosed rest) :
      Enclosed (first ++ '*' :: '/' :: '\n' :: '/' :: '*' :: rest)

/-- The end of a comment on a line of its own, and what follows. -/
def terminated (rest : List Char) : List Char :=
  '\n' :: '*' :: '/' :: '\n' :: rest

variable {text first rest : List Char}

theorem afterComment_cons_of_ne {c : Char} (hc : c ≠ '\n') (rest : List Char) :
    afterComment (c :: rest) = c :: rest := by
  simp [afterComment, hc]

theorem codeFrom_end (rest : List Char) :
    codeFrom true ('*' :: '/' :: rest) = codeFrom false (afterComment rest) := by
  cases rest with
  | nil => rfl
  | cons c rest =>
      by_cases hc : c = '\n'
      · subst hc
        rfl
      · rw [afterComment_cons_of_ne hc, codeFrom]
        simp [hc]

theorem codeFrom_inside_cons {c : Char} (h : ¬['*', '/'] <+: c :: rest) :
    codeFrom true (c :: rest) = codeFrom true rest := by
  rw [codeFrom]
  · rintro rest' rfl rfl
    exact h ⟨_, rfl⟩
  · rintro rest' rfl rfl
    exact h ⟨_, rfl⟩

theorem codeFrom_outside_cons {c : Char} (h : ¬['/', '*'] <+: c :: rest) :
    codeFrom false (c :: rest) = c :: codeFrom false rest := by
  rw [codeFrom]
  rintro rest' rfl rfl
  exact h ⟨_, rfl⟩

/-- A text without a slash is code. -/
theorem codeFrom_of_slashless (h : '/' ∉ text) :
    codeFrom false text = text := by
  induction text with
  | nil => rfl
  | cons c text ih =>
      rw [List.mem_cons, not_or] at h
      have hopen : ¬['/', '*'] <+: c :: text := by
        rintro ⟨rest, hrest⟩
        cases hrest
        exact h.1 rfl
      rw [codeFrom_outside_cons hopen, ih h.2]

/-- A text that does not end a comment is passed over inside of one, if it does not end it together
with what follows. -/
theorem codeFrom_pass {tail : List Char} (h : ¬['*', '/'] <:+: first)
    (htail : ∀ rest, tail ≠ '/' :: rest) :
    codeFrom true (first ++ tail) = codeFrom true tail := by
  induction first with
  | nil => rfl
  | cons c first ih =>
      rw [List.infix_cons_iff, not_or] at h
      have hend : ¬['*', '/'] <+: c :: (first ++ tail) := by
        rintro ⟨rest, hrest⟩
        cases first with
        | nil =>
            cases hrest
            exact htail rest rfl
        | cons d first =>
            cases hrest
            exact h.1 ⟨first, rfl⟩
      rw [List.cons_append, codeFrom_inside_cons hend, ih h.2]

/-- A text without a star is passed over inside of a comment. -/
theorem codeFrom_of_starless {tail : List Char} (h : '*' ∉ first) :
    codeFrom true (first ++ tail) = codeFrom true tail := by
  induction first with
  | nil => rfl
  | cons c first ih =>
      rw [List.mem_cons, not_or] at h
      have hend : ¬['*', '/'] <+: c :: (first ++ tail) := by
        rintro ⟨rest, hrest⟩
        exact h.1 (List.cons.inj hrest).1
      rw [List.cons_append, codeFrom_inside_cons hend, ih h.2]

/-! ## Enclosed texts -/

/-- After an enclosed text only what follows on the comment is code. -/
theorem codeFrom_of_enclosed (h : Enclosed text) (rest : List Char) :
    codeFrom true (text ++ terminated rest) = codeFrom false rest := by
  induction h with
  | plain hplain =>
      rw [codeFrom_pass hplain (by simp [terminated])]
      rfl
  | next hfirst _ ih =>
      rw [List.append_assoc, codeFrom_pass hfirst (by simp)]
      exact ih
  | nextLine hfirst _ ih =>
      rw [List.append_assoc, codeFrom_pass hfirst (by simp)]
      exact ih

/-- The end of a comment that does not begin is code. -/
theorem codeFrom_stray_end (hrest : '/' ∉ rest) :
    codeFrom false ('*' :: '/' :: '\n' :: rest) = '*' :: '/' :: '\n' :: rest := by
  have hnewline : '/' ∉ '\n' :: rest := by simp [hrest]
  have hstar : ¬['/', '*'] <+: '*' :: '/' :: '\n' :: rest := by
    rintro ⟨_, h⟩
    cases h
  have hslash : ¬['/', '*'] <+: '/' :: '\n' :: rest := by
    rintro ⟨_, h⟩
    cases h
  rw [codeFrom_outside_cons hstar, codeFrom_outside_cons hslash, codeFrom_of_slashless hnewline]

theorem codeFrom_stray_terminated (hrest : '/' ∉ rest) :
    codeFrom false (terminated rest) = terminated rest := by
  have hnewline : ¬['/', '*'] <+: '\n' :: '*' :: '/' :: '\n' :: rest := by
    rintro ⟨_, h⟩
    cases h
  rw [terminated, codeFrom_outside_cons hnewline, codeFrom_stray_end hrest]

/-- The newline in front of the end of a comment keeps the characters on its sides apart. -/
theorem not_pair_append_terminated {a b c : Char} (hb : b ≠ '\n')
    (h : ¬[a, b] <+: c :: text) :
    ¬[a, b] <+: c :: (text ++ terminated rest) := by
  rintro ⟨after, hafter⟩
  obtain ⟨hc, hafter⟩ := List.cons.inj hafter
  cases text with
  | nil => exact hb (List.cons.inj hafter).1
  | cons d text =>
      obtain ⟨hd, -⟩ := List.cons.inj hafter
      exact h ⟨text, by rw [hc, hd]; rfl⟩

/-- Whatever stands before the end of a comment, the code ends with what follows on it. -/
theorem suffix_codeFrom_terminated (hrest : '/' ∉ rest) (inside : Bool) (text : List Char) :
    rest <:+ codeFrom inside (text ++ terminated rest) := by
  -- The cases are those of `codeFrom` on the text; only its last character meets the end.
  fun_induction codeFrom inside text with
  | case1 text ih => exact ih
  | case2 text hnewline ih =>
      rw [List.cons_append, List.cons_append, codeFrom_end]
      cases text with
      | nil =>
          change rest <:+ codeFrom false ('*' :: '/' :: '\n' :: rest)
          rw [codeFrom_stray_end hrest]
          exact ⟨['*', '/', '\n'], rfl⟩
      | cons c text =>
          have hc : c ≠ '\n' := by
            rintro rfl
            exact hnewline text rfl
          rw [List.cons_append, afterComment_cons_of_ne hc]
          exact ih
  | case3 c text _ hend ih =>
      have hpair : ¬['*', '/'] <+: c :: text := by
        rintro ⟨after, hafter⟩
        cases hafter
        exact hend after rfl rfl
      rw [List.cons_append,
        codeFrom_inside_cons (not_pair_append_terminated (by decide) hpair)]
      exact ih
  | case4 text ih => exact ih
  | case5 c text hopen ih =>
      have hpair : ¬['/', '*'] <+: c :: text := by
        rintro ⟨after, hafter⟩
        cases hafter
        exact hopen after rfl rfl
      rw [List.cons_append,
        codeFrom_outside_cons (not_pair_append_terminated (by decide) hpair)]
      exact ih.trans (List.suffix_cons c _)
  | case6 inside =>
      cases inside with
      | false =>
          rw [List.nil_append, codeFrom_stray_terminated hrest]
          exact ⟨['\n', '*', '/', '\n'], rfl⟩
      | true =>
          change rest <:+ codeFrom false rest
          rw [codeFrom_of_slashless hrest]

/-- A text after a comment leaves nothing but what follows on the end of a comment only if it begins
another comment at once. -/
theorem exists_reopened (hrest : '/' ∉ rest)
    (h : codeFrom false (text ++ terminated rest) = rest) :
    ∃ inner, text = '/' :: '*' :: inner ∧ codeFrom true (inner ++ terminated rest) = rest := by
  cases text with
  | nil =>
      rw [List.nil_append, codeFrom_stray_terminated hrest] at h
      have hlength := congrArg List.length h
      simp only [terminated, List.length_cons] at hlength
      omega
  | cons c text =>
      by_cases hopen : ['/', '*'] <+: c :: text
      · obtain ⟨inner, hinner⟩ := hopen
        rw [← hinner] at h
        exact ⟨inner, hinner.symm, h⟩
      · rw [List.cons_append,
          codeFrom_outside_cons (not_pair_append_terminated (by decide) hopen)] at h
        have hshort := (suffix_codeFrom_terminated hrest false text).length_le
        have hlong := congrArg List.length h
        rw [List.length_cons] at hlong
        omega

/-- A text that ends a comment has a first place where it does. -/
theorem exists_first_end (h : ['*', '/'] <:+: text) :
    ∃ first after, text = first ++ '*' :: '/' :: after ∧ ¬['*', '/'] <:+: first := by
  induction text with
  | nil => cases List.infix_nil.mp h
  | cons c text ih =>
      by_cases hhead : ['*', '/'] <+: c :: text
      · obtain ⟨after, hafter⟩ := hhead
        exact ⟨[], after, hafter.symm, by simp⟩
      · obtain ⟨first, after, htext, hfirst⟩ :=
          ih ((List.infix_cons_iff.mp h).resolve_left hhead)
        refine ⟨c :: first, after, by rw [htext]; rfl, ?_⟩
        rw [List.infix_cons_iff, not_or]
        refine ⟨fun hprefix => hhead ?_, hfirst⟩
        rw [htext]
        exact hprefix.trans (List.prefix_append (c :: first) _)

/-- A text that leaves nothing but what follows on the end of the comment is enclosed. -/
theorem enclosed_of_codeFrom (hrest : '/' ∉ rest) (text : List Char)
    (h : codeFrom true (text ++ terminated rest) = rest) :
    Enclosed text := by
  by_cases hplain : ['*', '/'] <:+: text
  · obtain ⟨first, after, htext, hfirst⟩ := exists_first_end hplain
    rw [htext, List.append_assoc, codeFrom_pass hfirst (by simp)] at h
    change codeFrom true ('*' :: '/' :: (after ++ terminated rest)) = rest at h
    rw [codeFrom_end] at h
    cases after with
    | nil =>
        change codeFrom false ('*' :: '/' :: '\n' :: rest) = rest at h
        rw [codeFrom_stray_end hrest] at h
        have hlength := congrArg List.length h
        simp only [List.length_cons] at hlength
        omega
    | cons c after =>
        by_cases hc : c = '\n'
        · subst hc
          change codeFrom false (after ++ terminated rest) = rest at h
          obtain ⟨inner, rfl, hinner⟩ := exists_reopened hrest h
          rw [htext]
          exact .nextLine hfirst (enclosed_of_codeFrom hrest inner hinner)
        · have hafter : afterComment (c :: after ++ terminated rest) =
              c :: after ++ terminated rest := by
            simp [afterComment, hc]
          rw [hafter] at h
          obtain ⟨inner, hinner, hcode⟩ := exists_reopened hrest h
          rw [htext, hinner]
          exact .next hfirst (enclosed_of_codeFrom hrest inner hcode)
  · exact .plain hplain
termination_by text.length
decreasing_by
  · rw [htext]
    simp
    omega
  · rw [htext, hinner]
    simp
    omega

/-- What follows on a comment is all the code exactly if the text in the comment is enclosed. -/
theorem codeFrom_eq_iff_enclosed (hrest : '/' ∉ rest) :
    codeFrom true (text ++ terminated rest) = rest ↔ Enclosed text := by
  constructor
  · exact enclosed_of_codeFrom hrest text
  · intro h
    rw [codeFrom_of_enclosed h, codeFrom_of_slashless hrest]

end Flow
end FlowDecl
