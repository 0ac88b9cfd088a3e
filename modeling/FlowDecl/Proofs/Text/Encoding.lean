import FlowDecl.Text.Lines
import FlowDecl.Text.Utf8
import Mathlib.Logic.Basic
import Mathlib.Tactic.SplitIfs

/-!
# Encoded texts

The octets of a text are read as that text, and no other octets are read at all: octets that are
read are the encoding of what they are read as.  For each width of a character there is one lemma
about the step that reads it and one about what the read character is written as.  Texts without
carriage returns keep their line ends.
-/

namespace FlowDecl
namespace Text
namespace Utf8

/-! ## Octets as numbers -/

theorem toNat_ofNat_of_isValidChar {n : Nat} (h : n.isValidChar) : (Char.ofNat n).toNat = n := by
  rw [Char.ofNat, dif_pos h]
  rfl

theorem toNat_toUInt8 {n : Nat} (h : n < 256) : n.toUInt8.toNat = n := by
  rw [Nat.toUInt8_eq, UInt8.toNat_ofNat']
  exact Nat.mod_eq_of_lt h

theorem toUInt8_eq {n : Nat} {b : UInt8} (h : n = b.toNat) : n.toUInt8 = b := by
  rw [h, Nat.toUInt8_eq, UInt8.ofNat_toNat]

theorem isContinuation_iff {b : UInt8} :
    isContinuation b = true ↔ 128 ≤ b.toNat ∧ b.toNat < 192 := by
  simp [isContinuation, UInt8.le_iff_toNat_le, UInt8.lt_iff_toNat_lt]

theorem secondOfThree_iff {lead b : UInt8} :
    secondOfThree lead b = true ↔
      (128 ≤ b.toNat ∧ b.toNat < 192) ∧ (lead.toNat = 224 → 160 ≤ b.toNat) ∧
        (lead.toNat = 237 → b.toNat < 160) := by
  simp [secondOfThree, isContinuation, UInt8.le_iff_toNat_le, UInt8.lt_iff_toNat_lt,
    ← UInt8.toNat_inj, and_assoc, imp_iff_not_or]

theorem secondOfFour_iff {lead b : UInt8} :
    secondOfFour lead b = true ↔
      (128 ≤ b.toNat ∧ b.toNat < 192) ∧ (lead.toNat = 240 → 144 ≤ b.toNat) ∧
        (lead.toNat = 244 → b.toNat < 144) := by
  simp [secondOfFour, isContinuation, UInt8.le_iff_toNat_le, UInt8.lt_iff_toNat_lt,
    ← UInt8.toNat_inj, and_assoc, imp_iff_not_or]

theorem payload_eq {b : UInt8} (h : 128 ≤ b.toNat ∧ b.toNat < 192) :
    payload b = b.toNat - 128 := by
  rw [payload]
  omega

/-! ## Reading one character -/

section

variable {b₀ b₁ b₂ b₃ : UInt8} (pos : Nat) (done : List Char) (rest : List UInt8)

theorem decodeFrom_one (h₀ : b₀.toNat < 128) :
    decodeFrom pos done (b₀ :: rest) =
      decodeFrom (pos + 1) (Char.ofNat b₀.toNat :: done) rest := by
  rw [decodeFrom.eq_def]
  simp only [UInt8.lt_iff_toNat_lt, UInt8.le_iff_toNat_le, UInt8.reduceToNat]
  rw [if_pos h₀]

theorem decodeFrom_two (h₀ : 194 ≤ b₀.toNat) (h₀' : b₀.toNat < 224)
    (h₁ : isContinuation b₁ = true) :
    decodeFrom pos done (b₀ :: b₁ :: rest) =
      decodeFrom (pos + 2) (Char.ofNat ((b₀.toNat - 0xc0) * 64 + payload b₁) :: done) rest := by
  rw [decodeFrom.eq_def]
  simp only [UInt8.lt_iff_toNat_lt, UInt8.le_iff_toNat_le, UInt8.reduceToNat]
  rw [if_neg (by omega), if_neg (by omega), if_pos h₀', if_pos h₁]

theorem decodeFrom_three (h₀ : 224 ≤ b₀.toNat) (h₀' : b₀.toNat < 240)
    (h₁ : secondOfThree b₀ b₁ = true) (h₂ : isContinuation b₂ = true) :
    decodeFrom pos done (b₀ :: b₁ :: b₂ :: rest) =
      decodeFrom (pos + 3)
        (Char.ofNat (((b₀.toNat - 0xe0) * 64 + payload b₁) * 64 + payload b₂) :: done) rest := by
  rw [decodeFrom.eq_def]
  simp only [UInt8.lt_iff_toNat_lt, UInt8.le_iff_toNat_le, UInt8.reduceToNat]
  rw [if_neg (by omega), if_neg (by omega), if_neg (by omega), if_pos h₀', if_pos h₁, if_pos h₂]

theorem decodeFrom_four (h₀ : 240 ≤ b₀.toNat) (h₀' : b₀.toNat < 245)
    (h₁ : secondOfFour b₀ b₁ = true) (h₂ : isContinuation b₂ = true)
    (h₃ : isContinuation b₃ = true) :
    decodeFrom pos done (b₀ :: b₁ :: b₂ :: b₃ :: rest) =
      decodeFrom (pos + 4)
        (Char.ofNat ((((b₀.toNat - 0xf0) * 64 + payload b₁) * 64 + payload b₂) * 64 +
          payload b₃) :: done) rest := by
  rw [decodeFrom.eq_def]
  simp only [UInt8.lt_iff_toNat_lt, UInt8.le_iff_toNat_le, UInt8.reduceToNat]
  rw [if_neg (by omega), if_neg (by omega), if_neg (by omega), if_neg (by omega), if_pos h₁,
    if_pos h₂, if_pos h₃]

/-! ## Writing what is read -/

theorem encodeChar_one (h₀ : b₀.toNat < 128) : encodeChar (Char.ofNat b₀.toNat) = [b₀] := by
  have hvalid : b₀.toNat.isValidChar := by
    left
    omega
  rw [encodeChar, toNat_ofNat_of_isValidChar hvalid, if_pos h₀, toUInt8_eq rfl]

theorem encodeChar_two (h₀ : 194 ≤ b₀.toNat) (h₀' : b₀.toNat < 224)
    (h₁ : isContinuation b₁ = true) :
    encodeChar (Char.ofNat ((b₀.toNat - 0xc0) * 64 + payload b₁)) = [b₀, b₁] := by
  rw [isContinuation_iff] at h₁
  rw [payload_eq h₁]
  obtain ⟨n, hn⟩ : ∃ n, n = (b₀.toNat - 0xc0) * 64 + (b₁.toNat - 128) := ⟨_, rfl⟩
  have hvalid : n.isValidChar := by
    left
    omega
  have hfirst : (0xc0 + n / 64).toUInt8 = b₀ := toUInt8_eq (by omega)
  have hsecond : (0x80 + n % 64).toUInt8 = b₁ := toUInt8_eq (by omega)
  rw [← hn, encodeChar, toNat_ofNat_of_isValidChar hvalid, if_neg (by omega), if_pos (by omega),
    hfirst, hsecond]

theorem encodeChar_three (h₀ : 224 ≤ b₀.toNat) (h₀' : b₀.toNat < 240)
    (h₁ : secondOfThree b₀ b₁ = true) (h₂ : isContinuation b₂ = true) :
    encodeChar (Char.ofNat (((b₀.toNat - 0xe0) * 64 + payload b₁) * 64 + payload b₂)) =
      [b₀, b₁, b₂] := by
  rw [secondOfThree_iff] at h₁
  rw [isContinuation_iff] at h₂
  rw [payload_eq h₁.1, payload_eq h₂]
  obtain ⟨n, hn⟩ : ∃ n, n = ((b₀.toNat - 0xe0) * 64 + (b₁.toNat - 128)) * 64 +
    (b₂.toNat - 128) := ⟨_, rfl⟩
  -- Neither an overlong form nor a surrogate: that is what the second octet is checked for.
  have hvalid : n.isValidChar := by
    rw [Nat.isValidChar]
    omega
  have hfirst : (0xe0 + n / 4096).toUInt8 = b₀ := toUInt8_eq (by omega)
  have hsecond : (0x80 + n / 64 % 64).toUInt8 = b₁ := toUInt8_eq (by omega)
  have hthird : (0x80 + n % 64).toUInt8 = b₂ := toUInt8_eq (by omega)
  rw [← hn, encodeChar, toNat_ofNat_of_isValidChar hvalid, if_neg (by omega),
    if_neg (by omega), if_pos (by omega), hfirst, hsecond, hthird]

theorem encodeChar_four (h₀ : 240 ≤ b₀.toNat) (h₀' : b₀.toNat < 245)
    (h₁ : secondOfFour b₀ b₁ = true) (h₂ : isContinuation b₂ = true)
    (h₃ : isContinuation b₃ = true) :
    encodeChar (Char.ofNat
        ((((b₀.toNat - 0xf0) * 64 + payload b₁) * 64 + payload b₂) * 64 + payload b₃)) =
      [b₀, b₁, b₂, b₃] := by
  rw [secondOfFour_iff] at h₁
  rw [isContinuation_iff] at h₂ h₃
  rw [payload_eq h₁.1, payload_eq h₂, payload_eq h₃]
  obtain ⟨n, hn⟩ : ∃ n, n = (((b₀.toNat - 0xf0) * 64 + (b₁.toNat - 128)) * 64 +
    (b₂.toNat - 128)) * 64 + (b₃.toNat - 128) := ⟨_, rfl⟩
  have hvalid : n.isValidChar := by
    right
    omega
  have hfirst : (0xf0 + n / 262144).toUInt8 = b₀ := toUInt8_eq (by omega)
  have hsecond : (0x80 + n / 4096 % 64).toUInt8 = b₁ := toUInt8_eq (by omega)
  have hthird : (0x80 + n / 64 % 64).toUInt8 = b₂ := toUInt8_eq (by omega)
  have hfourth : (0x80 + n % 64).toUInt8 = b₃ := toUInt8_eq (by omega)
  rw [← hn, encodeChar, toNat_ofNat_of_isValidChar hvalid, if_neg (by omega),
    if_neg (by omega), if_neg (by omega), hfirst, hsecond, hthird, hfourth]

end

/-! ## Reading what is written -/

section

variable {n : Nat} (pos : Nat) (done : List Char) (rest : List UInt8)

theorem decodeFrom_written_one (h : n < 0x80) :
    decodeFrom pos done (n.toUInt8 :: rest) = decodeFrom (pos + 1) (Char.ofNat n :: done) rest := by
  have hfirst : n.toUInt8.toNat = n := toNat_toUInt8 (by omega)
  rw [decodeFrom_one pos done rest (by omega), hfirst]

theorem decodeFrom_written_two (h : 0x80 ≤ n) (h' : n < 0x800) :
    decodeFrom pos done ((0xc0 + n / 64).toUInt8 :: (0x80 + n % 64).toUInt8 :: rest) =
      decodeFrom (pos + 2) (Char.ofNat n :: done) rest := by
  have hfirst := toNat_toUInt8 (n := 0xc0 + n / 64) (by omega)
  have hsecond := toNat_toUInt8 (n := 0x80 + n % 64) (by omega)
  have hnumber : ((0xc0 + n / 64).toUInt8.toNat - 0xc0) * 64 +
      payload (0x80 + n % 64).toUInt8 = n := by
    rw [payload, hfirst, hsecond]
    omega
  rw [decodeFrom_two pos done rest (by omega) (by omega) (isContinuation_iff.mpr (by omega)),
    hnumber]

theorem decodeFrom_written_three (h : 0x800 ≤ n) (h' : n < 0x10000) (hvalid : n.isValidChar) :
    decodeFrom pos done
        ((0xe0 + n / 4096).toUInt8 :: (0x80 + n / 64 % 64).toUInt8 ::
          (0x80 + n % 64).toUInt8 :: rest) =
      decodeFrom (pos + 3) (Char.ofNat n :: done) rest := by
  rw [Nat.isValidChar] at hvalid
  have hfirst := toNat_toUInt8 (n := 0xe0 + n / 4096) (by omega)
  have hsecond := toNat_toUInt8 (n := 0x80 + n / 64 % 64) (by omega)
  have hthird := toNat_toUInt8 (n := 0x80 + n % 64) (by omega)
  have hnumber : (((0xe0 + n / 4096).toUInt8.toNat - 0xe0) * 64 +
      payload (0x80 + n / 64 % 64).toUInt8) * 64 + payload (0x80 + n % 64).toUInt8 = n := by
    rw [payload, payload, hfirst, hsecond, hthird]
    omega
  rw [decodeFrom_three pos done rest (by omega) (by omega) (secondOfThree_iff.mpr (by omega))
    (isContinuation_iff.mpr (by omega)), hnumber]

theorem decodeFrom_written_four (h : 0x10000 ≤ n) (hvalid : n.isValidChar) :
    decodeFrom pos done
        ((0xf0 + n / 262144).toUInt8 :: (0x80 + n / 4096 % 64).toUInt8 ::
          (0x80 + n / 64 % 64).toUInt8 :: (0x80 + n % 64).toUInt8 :: rest) =
      decodeFrom (pos + 4) (Char.ofNat n :: done) rest := by
  rw [Nat.isValidChar] at hvalid
  have hfirst := toNat_toUInt8 (n := 0xf0 + n / 262144) (by omega)
  have hsecond := toNat_toUInt8 (n := 0x80 + n / 4096 % 64) (by omega)
  have hthird := toNat_toUInt8 (n := 0x80 + n / 64 % 64) (by omega)
  have hfourth := toNat_toUInt8 (n := 0x80 + n % 64) (by omega)
  have hnumber : ((((0xf0 + n / 262144).toUInt8.toNat - 0xf0) * 64 +
      payload (0x80 + n / 4096 % 64).toUInt8) * 64 + payload (0x80 + n / 64 % 64).toUInt8) * 64 +
      payload (0x80 + n % 64).toUInt8 = n := by
    rw [payload, payload, payload, hfirst, hsecond, hthird, hfourth]
    omega
  rw [decodeFrom_four pos done rest (by omega) (by omega) (secondOfFour_iff.mpr (by omega))
    (isContinuation_iff.mpr (by omega)) (isContinuation_iff.mpr (by omega)), hnumber]

end

/-- The octets of a character are read as that character, whatever follows them. -/
theorem decodeFrom_encodeChar (c : Char) (pos : Nat) (done : List Char) (rest : List UInt8) :
    decodeFrom pos done (encodeChar c ++ rest) =
      decodeFrom (pos + (encodeChar c).length) (c :: done) rest := by
  have hvalid : c.toNat.isValidChar := c.valid
  have hchar : Char.ofNat c.toNat = c := Char.ofNat_toNat c
  rw [encodeChar]
  split_ifs with hone htwo hthree
  · have hread := decodeFrom_written_one pos done rest hone
    rwa [hchar] at hread
  · have hread := decodeFrom_written_two pos done rest (by omega) htwo
    rwa [hchar] at hread
  · have hread := decodeFrom_written_three pos done rest (by omega) hthree hvalid
    rwa [hchar] at hread
  · have hread := decodeFrom_written_four pos done rest (by omega) hvalid
    rwa [hchar] at hread

theorem decodeFrom_flatMap_encodeChar (cs : List Char) (pos : Nat) (done : List Char) :
    decodeFrom pos done (cs.flatMap encodeChar) = .ok (done.reverse ++ cs) := by
  induction cs generalizing pos done with
  | nil =>
      rw [List.append_nil]
      rfl
  | cons c cs ih =>
      rw [List.flatMap_cons, decodeFrom_encodeChar, ih]
      simp

/-! ## What is read -/

theorem exists_encoded_cons {done cs : List Char} {c : Char} {octets : List UInt8}
    (h : ∃ rest, cs = (c :: done).reverse ++ rest ∧ octets = rest.flatMap encodeChar) :
    ∃ rest, cs = done.reverse ++ rest ∧ encodeChar c ++ octets = rest.flatMap encodeChar := by
  obtain ⟨rest, hcs, hoctets⟩ := h
  refine ⟨c :: rest, ?_, ?_⟩
  · rw [hcs, List.reverse_cons, List.append_assoc, List.singleton_append]
  · rw [hoctets, List.flatMap_cons]

theorem exists_encoded_of_decodeFrom {pos : Nat} {done cs : List Char} {octets : List UInt8}
    (h : decodeFrom pos done octets = .ok cs) :
    ∃ rest, cs = done.reverse ++ rest ∧ octets = rest.flatMap encodeChar := by
  fun_induction decodeFrom pos done octets
  case case1 =>
    cases h
    exact ⟨[], by simp, rfl⟩
  case case2 hlead ih =>
    rw [UInt8.lt_iff_toNat_lt] at hlead
    have hrest := exists_encoded_cons (ih h)
    rwa [encodeChar_one hlead] at hrest
  case case5 hascii hlead htwo b₁ rest h₁ n ih =>
    simp only [UInt8.lt_iff_toNat_lt, UInt8.le_iff_toNat_le, UInt8.reduceToNat] at hlead htwo
    have hrest := exists_encoded_cons (ih h)
    rwa [encodeChar_two (by omega) htwo h₁] at hrest
  case case9 hascii hlead htwo hthree b₁ h₁ b₂ rest h₂ n ih =>
    simp only [UInt8.lt_iff_toNat_lt, UInt8.reduceToNat] at htwo hthree
    have hrest := exists_encoded_cons (ih h)
    rwa [encodeChar_three (by omega) hthree h₁ h₂] at hrest
  case case15 hascii hlead htwo hthree b₁ h₁ b₂ h₂ b₃ rest h₃ n ih =>
    simp only [UInt8.lt_iff_toNat_lt, UInt8.le_iff_toNat_le, UInt8.reduceToNat] at hlead hthree
    have hrest := exists_encoded_cons (ih h)
    rwa [encodeChar_four (by omega) (by omega) h₁ h₂ h₃] at hrest
  -- In all other cases the octets are refused.
  all_goals cases h

/-- Octets are read as the characters that they encode, and refused if they encode none. -/
theorem decodeFrom_eq_ok_iff {octets : List UInt8} {cs : List Char} :
    decodeFrom 0 [] octets = .ok cs ↔ octets = cs.flatMap encodeChar := by
  constructor
  · intro h
    obtain ⟨rest, rfl, hoctets⟩ := exists_encoded_of_decodeFrom h
    exact hoctets
  · rintro rfl
    exact decodeFrom_flatMap_encodeChar cs 0 []

end Utf8

/-! ## Line ends -/

theorem unifyNewlines_of_notMem {cs : List Char} (h : '\r' ∉ cs) : unifyNewlines cs = cs := by
  induction cs with
  | nil => rfl
  | cons c cs ih =>
      rw [List.mem_cons, not_or] at h
      obtain ⟨hreturn, hrest⟩ := h
      rw [unifyNewlines.eq_def]
      split
      next heq => cases heq
      next heq => exact absurd (List.cons.inj heq).1.symm hreturn
      next heq => exact absurd (List.cons.inj heq).1.symm hreturn
      next heq =>
        cases heq
        rw [ih hrest]

end Text
end FlowDecl
