import FlowDecl.Json.Reader
import FlowDecl.Json.Writer
import Mathlib.Data.List.Basic
import Mathlib.Tactic.IntervalCases

/-!
# Written tokens

The tokens of JSON are blanks, words, whole numbers and texts.  Each of them is read back as it was
written, whatever comes after it; only a whole number has to be followed by a character that does
not continue it.
-/

namespace FlowDecl
namespace Json
namespace Reader

open Text (isHighSurrogate isLowSurrogate pairChar unitChar)

/-! ## Blanks -/

theorem skipSpace_append {blanks : List Char} (h : ∀ c ∈ blanks, isSpace c = true)
    (cs : List Char) : skipSpace (blanks ++ cs) = skipSpace cs :=
  List.dropWhile_append_of_pos h

theorem skipSpace_cons_of_not_space {c : Char} (h : isSpace c = false) (cs : List Char) :
    skipSpace (c :: cs) = c :: cs :=
  List.dropWhile_cons_of_neg (by simp [h])

/-! ## Whole numbers -/

def continuesNumber (c : Char) : Bool :=
  c.isDigit || c = '.' || c = 'e' || c = 'E'

/-- What can come after a written value without changing it. -/
def EndsNumber (cs : List Char) : Prop :=
  ∀ c ∈ cs.head?, continuesNumber c = false

theorem endsNumber_cons {c : Char} {cs : List Char} :
    EndsNumber (c :: cs) ↔ continuesNumber c = false := by
  simp [EndsNumber]

theorem EndsNumber.append {blanks cs : List Char} (hblanks : ∀ c ∈ blanks, isSpace c = true)
    (hcs : EndsNumber cs) : EndsNumber (blanks ++ cs) := by
  cases blanks with
  | nil => exact hcs
  | cons c blanks =>
      have hc := hblanks c List.mem_cons_self
      simp only [isSpace, Bool.or_eq_true, decide_eq_true_eq] at hc
      rw [List.cons_append, endsNumber_cons]
      rcases hc with ((rfl | rfl) | rfl) | rfl <;> rfl

theorem isDigit_eq_false_of_endsNumber {c : Char} {cs : List Char} (h : EndsNumber (c :: cs)) :
    c.isDigit = false := by
  rw [endsNumber_cons, continuesNumber] at h
  simp only [Bool.or_eq_false_iff] at h
  exact h.1.1.1

theorem takeDigits_append {digits cs : List Char} (hdigits : ∀ c ∈ digits, c.isDigit = true)
    (hcs : EndsNumber cs) : takeDigits (digits ++ cs) = (digits, cs) := by
  rw [takeDigits, List.takeWhile_append_of_pos hdigits, List.dropWhile_append_of_pos hdigits]
  cases cs with
  | nil => simp
  | cons c cs =>
      have hc := isDigit_eq_false_of_endsNumber hcs
      simp [hc]

theorem readFraction_of_endsNumber {cs : List Char} (h : EndsNumber cs) :
    readFraction cs = ([], cs) := by
  rw [readFraction.eq_def]
  split
  next c rest =>
    cases endsNumber_cons.mp h
  next => rfl

theorem readExponent_of_endsNumber {cs : List Char} (h : EndsNumber cs) :
    readExponent cs = (none, cs) := by
  cases cs with
  | nil => rfl
  | cons c cs =>
      rw [endsNumber_cons, continuesNumber] at h
      simp only [Bool.or_eq_false_iff, decide_eq_false_iff_not] at h
      rw [readExponent, if_neg (by simp [h.1.2, h.2])]

theorem digitsValue_toDigits (n : Nat) : digitsValue (Nat.toDigits 10 n) = n := by
  have hvalue := Nat.ofDigitChars_ten_toDigits (n := n)
  rw [Nat.ofDigitChars_eq_foldl] at hvalue
  exact hvalue

theorem isDigit_of_mem_toDigits {n : Nat} {c : Char} (h : c ∈ Nat.toDigits 10 n) :
    c.isDigit = true :=
  Nat.isDigit_of_mem_toDigits (by decide) (by decide) h

/-- The digits of a number begin with no zero. -/
theorem exists_toDigits_eq_cons {n : Nat} (h : 0 < n) :
    ∃ c cs, Nat.toDigits 10 n = c :: cs ∧ c ≠ '0' := by
  induction n using Nat.strong_induction_on with
  | _ n ih =>
      by_cases hn : n < 10
      · refine ⟨Nat.digitChar n, [], Nat.toDigits_of_lt_base hn, ?_⟩
        interval_cases n <;> decide
      · have hten : 10 ≤ n := Nat.le_of_not_lt hn
        have hpos : 0 < n / 10 := Nat.div_pos hten (by decide)
        obtain ⟨c, cs, hdigits, hc⟩ := ih (n / 10) (Nat.div_lt_self h (by decide)) hpos
        refine ⟨c, cs ++ [Nat.digitChar (n % 10)], ?_, hc⟩
        rw [Nat.toDigits_of_base_le (by decide) hten, hdigits]
        rfl

theorem readWhole_append {n : Nat} {cs : List Char} (h : EndsNumber cs) :
    readWhole (Nat.toDigits 10 n ++ cs) = some (Nat.toDigits 10 n, cs) := by
  rcases Nat.eq_zero_or_pos n with rfl | hn
  · rfl
  · obtain ⟨c, digits, hdigits, hc⟩ := exists_toDigits_eq_cons hn
    have hall : ∀ d ∈ c :: digits, d.isDigit = true := by
      intro d hd
      rw [← hdigits] at hd
      exact isDigit_of_mem_toDigits hd
    have htake := takeDigits_append hall h
    rw [hdigits, List.cons_append, readWhole, if_neg hc, if_pos (hall c List.mem_cons_self)]
    rw [← List.cons_append, htake]

theorem readUnsigned_append (negative : Bool) (n : Nat) {cs : List Char} (h : EndsNumber cs) :
    readUnsigned negative (Nat.toDigits 10 n ++ cs) =
      some (.int (if negative then -(n : Int) else n), cs) := by
  rw [readUnsigned, readWhole_append h]
  simp only [Option.bind_eq_bind, Option.bind_some, readFraction_of_endsNumber h,
    readExponent_of_endsNumber h, digitsValue_toDigits]
  rfl

/-! ## Words and numbers -/

theorem readPlain_null (cs : List Char) :
    readPlain ('n' :: 'u' :: 'l' :: 'l' :: cs) = .ok (.null, cs) :=
  rfl

theorem readPlain_true (cs : List Char) :
    readPlain ('t' :: 'r' :: 'u' :: 'e' :: cs) = .ok (.bool true, cs) :=
  rfl

theorem readPlain_false (cs : List Char) :
    readPlain ('f' :: 'a' :: 'l' :: 's' :: 'e' :: cs) = .ok (.bool false, cs) :=
  rfl

/-- No word begins with a digit, and no word has one after a sign. -/
theorem ne_of_isDigit {c : Char} (h : c.isDigit = true) :
    c ≠ 'n' ∧ c ≠ 't' ∧ c ≠ 'f' ∧ c ≠ 'N' ∧ c ≠ 'I' ∧ c ≠ '-' := by
  refine ⟨?_, ?_, ?_, ?_, ?_, ?_⟩ <;> rintro rfl <;> cases h

theorem readKeyword_of_isDigit {c : Char} (h : c.isDigit = true) (cs : List Char) :
    readKeyword (c :: cs) = none ∧ readKeyword ('-' :: c :: cs) = none := by
  obtain ⟨hn, ht, hf, hN, hI, hminus⟩ := ne_of_isDigit h
  constructor
  · simp [readKeyword, keywords, hn.symm, ht.symm, hf.symm, hN.symm, hI.symm, hminus.symm]
  · simp [readKeyword, keywords, hI.symm]

theorem toList_toString_ofNat (n : Nat) :
    (toString (Int.ofNat n)).toList = Nat.toDigits 10 n := by
  change (toString n).toList = _
  rw [Nat.toString_eq_ofList_toDigits, String.toList_ofList]

theorem toList_toString_negSucc (n : Nat) :
    (toString (Int.negSucc n)).toList = '-' :: Nat.toDigits 10 (n + 1) := by
  change ("-" ++ toString (n + 1)).toList = _
  rw [String.toList_append, Nat.toString_eq_ofList_toDigits]
  simp only [String.toList_ofList]
  rfl

theorem exists_digit_toDigits (n : Nat) :
    ∃ c cs, Nat.toDigits 10 n = c :: cs ∧ c.isDigit = true := by
  obtain ⟨c, cs, hdigits⟩ := List.exists_cons_of_ne_nil (Nat.toDigits_ne_nil (n := n) (b := 10))
  have hc : c ∈ Nat.toDigits 10 n := by
    rw [hdigits]
    exact List.mem_cons_self
  exact ⟨c, cs, hdigits, isDigit_of_mem_toDigits hc⟩

/-- A written number begins with no blank, no mark and no quote or bracket. -/
theorem exists_toString_eq_cons (n : Int) :
    ∃ c cs, (toString n).toList = c :: cs ∧ isSpace c = false ∧
      c ∉ ['"', '{', '[', ']', '\ufeff'] := by
  cases n with
  | ofNat n =>
      obtain ⟨c, cs, hdigits, hc⟩ := exists_digit_toDigits n
      refine ⟨c, cs, (toList_toString_ofNat n).trans hdigits, ?_, ?_⟩
      · simp only [isSpace, Bool.or_eq_false_iff, decide_eq_false_iff_not]
        refine ⟨⟨⟨?_, ?_⟩, ?_⟩, ?_⟩ <;> rintro rfl <;> cases hc
      · simp only [List.mem_cons, List.not_mem_nil, or_false, not_or]
        refine ⟨?_, ?_, ?_, ?_, ?_⟩ <;> rintro rfl <;> cases hc
  | negSucc n => exact ⟨'-', _, toList_toString_negSucc n, rfl, by decide⟩

/-- A written number is read back. -/
theorem readPlain_int (n : Int) {cs : List Char} (h : EndsNumber cs) :
    readPlain ((toString n).toList ++ cs) = .ok (.int n, cs) := by
  cases n with
  | ofNat n =>
      rw [toList_toString_ofNat]
      have hread := readUnsigned_append false n h
      obtain ⟨c, digits, hdigits, hc⟩ := exists_digit_toDigits n
      rw [hdigits, List.cons_append] at hread ⊢
      have hminus := (ne_of_isDigit hc).2.2.2.2.2
      rw [readPlain, (readKeyword_of_isDigit hc _).1, hread]
      · rfl
      · intro rest heq
        cases heq
        exact hminus rfl
  | negSucc n =>
      rw [toList_toString_negSucc, List.cons_append]
      have hread := readUnsigned_append true (n + 1) h
      obtain ⟨c, digits, hdigits, hc⟩ := exists_digit_toDigits (n + 1)
      rw [hdigits, List.cons_append] at hread ⊢
      rw [readPlain, (readKeyword_of_isDigit hc _).2]
      simp only [hread]
      rfl

/-! ## Escapes -/

theorem hexValue?_hexDigit {n : Nat} (h : n < 16) : Text.hexValue? (Text.hexDigit n) = some n := by
  interval_cases n <;> rfl

/-- The four digits of a code unit. -/
theorem exists_hexDigits {n : Nat} (h : n < 0x10000) :
    ∃ a b c d, Text.hexDigits 4 n = [a, b, c, d] ∧ hexNumber? a b c d = some n := by
  refine ⟨_, _, _, _, rfl, ?_⟩
  have hmod : ∀ m, m % 16 < 16 := fun m => Nat.mod_lt m (by decide)
  simp only [hexNumber?, hexValue?_hexDigit (hmod _), Option.bind_eq_bind, Option.bind_some]
  refine congrArg some ?_
  omega

/-- An escaped character outside of the surrogates is read back. -/
theorem readText_unitEscape {c : Char} (h : c.toNat < 0x10000) (start done : List Char)
    (next : Char) (rest : List Char) :
    readText start done (Value.unitEscape c.toNat ++ next :: rest) =
      readText start (c :: done) (next :: rest) := by
  obtain ⟨h1, h2, h3, h4, hdigits, hnumber⟩ := exists_hexDigits h
  have hhigh : isHighSurrogate c.toNat = false := by
    rw [isHighSurrogate, Bool.and_eq_false_iff, decide_eq_false_iff_not, decide_eq_false_iff_not]
    rcases c.valid with hlow | ⟨hlow, -⟩
    · exact Or.inl (Nat.not_le_of_lt hlow)
    · exact Or.inr (Nat.not_lt_of_le (Nat.le_trans (by decide) (Nat.le_of_lt hlow)))
  have hunit : unitChar c.toNat = c := by
    rw [unitChar, if_pos (show c.toNat.isValidChar from c.valid)]
    exact Char.ofNat_toNat c
  rw [Value.unitEscape, hdigits]
  simp only [List.cons_append, List.nil_append]
  rw [readText]
  simp [hnumber, hhigh, hunit]

/-- A surrogate pair is read back as the character that it stands for. -/
theorem readText_surrogates {c : Char} (h : 0x10000 ≤ c.toNat) (start done : List Char)
    (next : Char) (rest : List Char) :
    readText start done
        (Value.unitEscape (0xd800 + (c.toNat - 0x10000) / 0x400) ++
          Value.unitEscape (0xdc00 + (c.toNat - 0x10000) % 0x400) ++ next :: rest) =
      readText start (c :: done) (next :: rest) := by
  have hc : c.toNat < 0x110000 := by
    rcases c.valid with hlow | ⟨-, hlow⟩
    · exact Nat.lt_trans hlow (by decide)
    · exact hlow
  generalize hhigh : 0xd800 + (c.toNat - 0x10000) / 0x400 = high
  generalize hlow : 0xdc00 + (c.toNat - 0x10000) % 0x400 = low
  have hpair : pairChar high low = c := by
    have hcode : 0x10000 + (high - 0xd800) * 0x400 + (low - 0xdc00) = c.toNat := by omega
    rw [pairChar, hcode]
    exact Char.ofNat_toNat c
  have hisHigh : isHighSurrogate high = true := by
    rw [isHighSurrogate, Bool.and_eq_true, decide_eq_true_eq, decide_eq_true_eq]
    omega
  have hisLow : isLowSurrogate low = true := by
    rw [isLowSurrogate, Bool.and_eq_true, decide_eq_true_eq, decide_eq_true_eq]
    omega
  obtain ⟨h1, h2, h3, h4, hhighDigits, hhighNumber⟩ :=
    exists_hexDigits (n := high) (by omega)
  obtain ⟨l1, l2, l3, l4, hlowDigits, hlowNumber⟩ := exists_hexDigits (n := low) (by omega)
  rw [Value.unitEscape, Value.unitEscape, hhighDigits, hlowDigits]
  simp only [List.cons_append, List.nil_append]
  rw [readText]
  simp [hhighNumber, hlowNumber, hisHigh, hisLow, hpair]

/-! ## Texts -/

/-- A character after a backslash is read as the one that it stands for. -/
theorem readText_simpleEscape {e d : Char} (hescape : simpleEscape? e = some d) (hu : e ≠ 'u')
    (start done rest : List Char) :
    readText start done ('\\' :: e :: rest) = readText start (d :: done) rest := by
  rw [readText.eq_def]
  simp [hescape, hu]

/-- A written character is read back, if something comes after it. -/
theorem readText_writeChar (c : Char) (start done : List Char) (next : Char) (rest : List Char) :
    readText start done (Value.writeChar c ++ next :: rest) =
      readText start (c :: done) (next :: rest) := by
  have hofNat : ∀ n, c.toNat = n → Char.ofNat n = c := by
    rintro n rfl
    exact Char.ofNat_toNat c
  rw [Value.writeChar]
  split
  next hquote =>
    rcases hquote with rfl | rfl
    · exact readText_simpleEscape rfl (by decide) _ _ _
    · exact readText_simpleEscape rfl (by decide) _ _ _
  next hquote =>
  split
  next hnewline =>
    subst hnewline
    exact readText_simpleEscape rfl (by decide) _ _ _
  next =>
  split
  next hreturn =>
    subst hreturn
    exact readText_simpleEscape rfl (by decide) _ _ _
  next =>
  split
  next htab =>
    subst htab
    exact readText_simpleEscape rfl (by decide) _ _ _
  next =>
  split
  next hback =>
    rw [← hofNat 8 hback]
    exact readText_simpleEscape rfl (by decide) _ _ _
  next =>
  split
  next hfeed =>
    rw [← hofNat 12 hfeed]
    exact readText_simpleEscape rfl (by decide) _ _ _
  next =>
  split
  next hplain =>
    obtain ⟨hnoQuote, hnoSlash⟩ := not_or.mp hquote
    change readText start done (c :: next :: rest) = _
    rw [readText.eq_def]
    simp [hnoQuote, hnoSlash, Nat.not_lt_of_le hplain.1]
  next =>
  split
  next hunit => exact readText_unitEscape hunit start done next rest
  next hunit => exact readText_surrogates (Nat.le_of_not_lt hunit) start done next rest

/-- The characters of a written text are read back up to the closing quote. -/
theorem readText_flatMap_writeChar (cs start done rest : List Char) :
    readText start done (cs.flatMap Value.writeChar ++ '"' :: rest) =
      .ok (String.ofList (done.reverse ++ cs), rest) := by
  induction cs generalizing done with
  | nil =>
      rw [List.flatMap_nil, List.nil_append, readText.eq_def, List.append_nil]
      rfl
  | cons c cs ih =>
      rw [List.flatMap_cons, List.append_assoc]
      -- What follows the character is the rest of the text with its closing quote.
      obtain ⟨next, more, hmore⟩ : ∃ next more,
          cs.flatMap Value.writeChar ++ '"' :: rest = next :: more :=
        List.exists_cons_of_ne_nil (by simp)
      rw [hmore, readText_writeChar, ← hmore, ih]
      simp

/-- A written text is read back. -/
theorem readText_writeText (s : String) (rest : List Char) :
    ∃ cs, Value.writeText s ++ rest = '"' :: cs ∧
      ∀ start, readText start [] cs = .ok (s, rest) := by
  refine ⟨s.toList.flatMap Value.writeChar ++ '"' :: rest, by simp [Value.writeText], ?_⟩
  intro start
  rw [readText_flatMap_writeChar]
  simp

end Reader
end Json
end FlowDecl
