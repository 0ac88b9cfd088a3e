import FlowDecl.Proofs.Json.RoundTrip
import FlowDecl.Proofs.Text.Encoding

/-!
# Written values in files

A written value consists of plain characters: they are in ASCII and none of them is a carriage
return.  The line ends of a file with such characters are read as they are.
-/

namespace FlowDecl
namespace Text

/-- A character that is read from a file as it was written. -/
def IsPlain (c : Char) : Prop :=
  c.toNat < 0x80 ∧ c ≠ '\r'

instance (c : Char) : Decidable (IsPlain c) :=
  inferInstanceAs (Decidable (_ ∧ _))

theorem isPlain_of_isDigit {c : Char} (h : c.isDigit = true) : IsPlain c := by
  rw [Char.isDigit, Bool.and_eq_true, decide_eq_true_eq, decide_eq_true_eq] at h
  have hupper : c.toNat ≤ 57 := UInt32.le_iff_toNat_le.mp h.2
  refine ⟨by omega, ?_⟩
  rintro rfl
  exact absurd h.1 (by decide)

theorem unifyNewlines_plain {cs : List Char} (h : ∀ c ∈ cs, IsPlain c) :
    unifyNewlines cs = cs :=
  unifyNewlines_of_notMem fun hreturn => (h _ hreturn).2 rfl

end Text

namespace Json
namespace Value

open Text (IsPlain)

/-- Plain characters are checked one by one. -/
theorem isPlain_of_all {cs : List Char} (h : (cs.all fun c => decide (IsPlain c)) = true) :
    ∀ c ∈ cs, IsPlain c := by
  simpa using h

theorem isPlain_hexDigit {n : Nat} (h : n < 16) : IsPlain (Text.hexDigit n) := by
  interval_cases n <;> exact ⟨by decide, by decide⟩

theorem isPlain_of_mem_unitEscape {n : Nat} {c : Char} (h : c ∈ unitEscape n) : IsPlain c := by
  have hmod : ∀ m, IsPlain (Text.hexDigit (m % 16)) :=
    fun m => isPlain_hexDigit (Nat.mod_lt m (by decide))
  simp only [unitEscape, Text.hexDigits, List.nil_append, List.cons_append, List.mem_cons,
    List.not_mem_nil, or_false] at h
  rcases h with rfl | rfl | rfl | rfl | rfl | rfl
  · decide
  · decide
  all_goals exact hmod _

theorem isPlain_of_mem_writeChar {c d : Char} (h : d ∈ writeChar c) : IsPlain d := by
  have hescape : ∀ e : Char, IsPlain e → d ∈ ['\\', e] → IsPlain d := by
    intro e he hd
    rcases List.mem_cons.mp hd with rfl | hd
    · decide
    · rwa [List.mem_singleton.mp hd]
  rw [writeChar] at h
  split_ifs at h with hquote _ _ _ _ _ hplain
  · refine hescape c ?_ h
    rcases hquote with rfl | rfl <;> decide
  · exact hescape 'n' (by decide) h
  · exact hescape 'r' (by decide) h
  · exact hescape 't' (by decide) h
  · exact hescape 'b' (by decide) h
  · exact hescape 'f' (by decide) h
  · rw [List.mem_singleton.mp h]
    refine ⟨by omega, ?_⟩
    rintro rfl
    exact absurd hplain.1 (by decide)
  · exact isPlain_of_mem_unitEscape h
  · rcases List.mem_append.mp h with h | h
    · exact isPlain_of_mem_unitEscape h
    · exact isPlain_of_mem_unitEscape h

theorem isPlain_of_mem_writeText {s : String} {c : Char} (h : c ∈ writeText s) : IsPlain c := by
  rw [writeText, List.cons_append, List.mem_cons, List.mem_append] at h
  rcases h with rfl | h | h
  · decide
  · obtain ⟨d, -, hc⟩ := List.mem_flatMap.mp h
    exact isPlain_of_mem_writeChar hc
  · rw [List.mem_singleton.mp h]
    decide

theorem isPlain_of_mem_toString {n : Int} {c : Char} (h : c ∈ (toString n).toList) :
    IsPlain c := by
  cases n with
  | ofNat n =>
      rw [Reader.toList_toString_ofNat] at h
      exact Text.isPlain_of_isDigit (Reader.isDigit_of_mem_toDigits h)
  | negSucc n =>
      rw [Reader.toList_toString_negSucc] at h
      rcases List.mem_cons.mp h with rfl | h
      · decide
      · exact Text.isPlain_of_isDigit (Reader.isDigit_of_mem_toDigits h)

theorem isPlain_of_mem_opening {layout : Layout} {depth : Nat} {c : Char}
    (h : c ∈ layout.opening depth) : IsPlain c := by
  cases layout with
  | oneLine => cases h
  | indented =>
      rcases List.mem_cons.mp h with rfl | h
      · decide
      · rw [List.eq_of_mem_replicate h]
        decide

theorem isPlain_of_mem_between {layout : Layout} {depth : Nat} {c : Char}
    (h : c ∈ layout.between depth) : IsPlain c := by
  cases layout with
  | oneLine =>
      have hmarks : ∀ c ∈ [',', ' '], IsPlain c := isPlain_of_all (by decide)
      exact hmarks c h
  | indented =>
      rcases List.mem_cons.mp h with rfl | h
      · decide
      · have hopening : c ∈ Layout.indented.opening depth := h
        exact isPlain_of_mem_opening hopening

/-- What a value is written as has plain characters only. -/
def WritesPlain (layout : Layout) (v : Value) : Prop :=
  ∀ depth, ∀ c ∈ write layout depth v, IsPlain c

theorem isPlain_of_mem_writeItems {layout : Layout} {items : List Value}
    (hitems : ∀ v ∈ items, WritesPlain layout v) {depth : Nat} {c : Char}
    (h : c ∈ writeItems layout depth items) : IsPlain c := by
  induction items with
  | nil => cases h
  | cons item items ih =>
      rw [List.forall_mem_cons] at hitems
      rw [writeItems, List.mem_append, List.mem_append] at h
      rcases h with (h | h) | h
      · exact isPlain_of_mem_between h
      · exact hitems.1 depth c h
      · exact ih hitems.2 h

theorem isPlain_of_mem_writeMembers {layout : Layout} {members : List (String × Value)}
    (hmembers : ∀ m ∈ members, WritesPlain layout m.2) {depth : Nat} {c : Char}
    (h : c ∈ writeMembers layout depth members) : IsPlain c := by
  induction members with
  | nil => cases h
  | cons m members ih =>
      obtain ⟨key, value⟩ := m
      rw [List.forall_mem_cons] at hmembers
      simp only [writeMembers, List.mem_append] at h
      rcases h with (((h | h) | h) | h) | h
      · exact isPlain_of_mem_between h
      · exact isPlain_of_mem_writeText h
      · have hmarks : ∀ c ∈ [':', ' '], IsPlain c := isPlain_of_all (by decide)
        exact hmarks c h
      · exact hmembers.1 depth c h
      · exact ih hmembers.2 h

theorem writesPlain_arr {layout : Layout} {items : List Value}
    (hitems : ∀ v ∈ items, WritesPlain layout v) : WritesPlain layout (.arr items) := by
  intro depth c h
  cases items with
  | nil =>
      have hmarks : ∀ c ∈ ['[', ']'], IsPlain c := isPlain_of_all (by decide)
      exact hmarks c h
  | cons item items =>
      rw [List.forall_mem_cons] at hitems
      simp only [write, List.cons_append, List.mem_cons, List.mem_append,
        List.not_mem_nil, or_false] at h
      rcases h with rfl | (((h | h) | h) | h) | rfl
      · decide
      · exact isPlain_of_mem_opening h
      · exact hitems.1 _ c h
      · exact isPlain_of_mem_writeItems hitems.2 h
      · exact isPlain_of_mem_opening h
      · decide

theorem writesPlain_obj {layout : Layout} {members : List (String × Value)}
    (hmembers : ∀ m ∈ members, WritesPlain layout m.2) : WritesPlain layout (.obj members) := by
  intro depth c h
  cases members with
  | nil =>
      have hmarks : ∀ c ∈ ['{', '}'], IsPlain c := isPlain_of_all (by decide)
      exact hmarks c h
  | cons m members =>
      obtain ⟨key, value⟩ := m
      rw [List.forall_mem_cons] at hmembers
      simp only [write, List.cons_append, List.mem_cons, List.mem_append,
        List.not_mem_nil, or_false] at h
      rcases h with rfl | (((((h | h) | (rfl | rfl)) | h) | h) | h) | rfl
      · decide
      · exact isPlain_of_mem_opening h
      · exact isPlain_of_mem_writeText h
      · decide
      · decide
      · exact hmembers.1 _ c h
      · exact isPlain_of_mem_writeMembers hmembers.2 h
      · exact isPlain_of_mem_opening h
      · decide

/-- A written value has plain characters only. -/
theorem writesPlain_of_isFloatless {layout : Layout} {v : Value} (hv : v.IsFloatless) :
    WritesPlain layout v := by
  induction hv with
  | null =>
      have hword : ∀ c ∈ "null".toList, IsPlain c := isPlain_of_all (by decide)
      exact fun _ => hword
  | bool b =>
      have hword : ∀ c ∈ (if b then "true" else "false").toList, IsPlain c := by
        cases b <;> exact isPlain_of_all (by decide)
      exact fun _ => hword
  | int n => exact fun _ _ h => isPlain_of_mem_toString h
  | str s => exact fun _ _ h => isPlain_of_mem_writeText h
  | arr _ ih => exact writesPlain_arr ih
  | obj _ ih => exact writesPlain_obj ih

end Value
end Json
end FlowDecl
