import FlowDecl.Proofs.Schema.DocumentReading

/-!
# The grammar of documents

The reader of documents checks nothing in advance: a document is a schema if no reader inside meets
a value that it cannot use.  The values that are read in this way are described here without the
reader, and the reader answers a schema for them and for no others.

A value outside of the grammar is refused.  It is refused for its depth only if one of its
references goes on over more links than are read.
-/

namespace FlowDecl
namespace Document

open Json (Value)
open Outcome (Succeeds)

/-! ## The grammar -/

/-- A member that is absent, counts as missing or satisfies a condition. -/
def MemberIs (P : Value → Prop) (name : String) (members : List (String × Value)) : Prop :=
  ∀ v, Value.lookup? name members = some v → v.isTruthy = false ∨ P v

/-- An object has a member of a name. -/
def HasMember (name : String) (members : List (String × Value)) : Prop :=
  ∃ v, Value.lookup? name members = some v

/-- A value is an object whose members satisfy a condition. -/
def IsObjectWith (P : List (String × Value) → Prop) (v : Value) : Prop :=
  ∃ members, v = .obj members ∧ P members

/-- A value is a list whose items satisfy a condition. -/
def IsListOf (P : Value → Prop) (v : Value) : Prop :=
  ∃ xs, v = .arr xs ∧ ∀ x ∈ xs, P x

/-- A number of objects, each but the last with the next one as a member `ofType` that does not
count as missing. -/
inductive IsChain : Nat → Value → Prop where
  | last {members : List (String × Value)}
      (hlast : MemberIs (fun _ => False) "ofType" members) :
      IsChain 1 (.obj members)
  | link {members : List (String × Value)} {next : Value} {n : Nat}
      (hnext : Value.lookup? "ofType" members = some next)
      (htruthy : next.isTruthy = true)
      (hchain : IsChain n next) :
      IsChain (n + 1) (.obj members)

/-- A reference counts as missing or is a chain of at most one object more than `maxDepth`. -/
def IsReference (v : Value) : Prop :=
  v.isTruthy = false ∨ ∃ n ≤ maxDepth + 1, IsChain n v

structure IsField (members : List (String × Value)) : Prop where
  name : HasMember "name" members
  type : MemberIs IsReference "type" members

/-- The values of an enum: a text, an object or a list whose objects have names. -/
def IsEnumValues (v : Value) : Prop :=
  (∃ text, v = .str text) ∨ IsObjectWith (fun _ => True) v ∨
    IsListOf (fun x => ∀ members, x = .obj members → HasMember "name" members) v

/-- Possible types: a list of references, or an object whose only key is empty. -/
def IsPossibleTypes (v : Value) : Prop :=
  IsListOf IsReference v ∨ IsObjectWith (fun members => ∀ m ∈ members, m.1 = "") v

structure IsType (members : List (String × Value)) : Prop where
  name : HasMember "name" members
  fields : MemberIs (IsListOf (IsObjectWith IsField)) "fields" members
  inputFields : MemberIs (IsListOf (IsObjectWith IsField)) "inputFields" members
  enumValues : MemberIs IsEnumValues "enumValues" members
  possibleTypes : MemberIs IsPossibleTypes "possibleTypes" members

/-- The members of a schema object. -/
structure IsSchema (members : List (String × Value)) : Prop where
  queryType : MemberIs (IsObjectWith fun _ => True) "queryType" members
  mutationType : MemberIs (IsObjectWith fun _ => True) "mutationType" members
  types : MemberIs (IsListOf (IsObjectWith IsType)) "types" members

/-- A document is an object with a schema object in its member `data`, or in itself if it has no
such member. -/
def IsDocument (d : Value) : Prop :=
  ∃ schema, HasSchemaObject d schema ∧ IsSchema schema

/-! ## Long references -/

/-- A value leads over a number of objects, each with the next one as a member `ofType` that does
not count as missing, to one more value. -/
inductive Exceeds : Nat → Value → Prop where
  | here (v : Value) : Exceeds 0 v
  | link {members : List (String × Value)} {next : Value} {n : Nat}
      (hnext : Value.lookup? "ofType" members = some next)
      (htruthy : next.isTruthy = true)
      (hexceeds : Exceeds n next) :
      Exceeds (n + 1) (.obj members)

/-- A value is an item of a member that is a list. -/
def IsItemOf (name : String) (members : List (String × Value)) (x : Value) : Prop :=
  ∃ xs, Value.lookup? name members = some (.arr xs) ∧ x ∈ xs

/-- A value stands for a reference among the members of a type. -/
def TypeRefersTo (members : List (String × Value)) (ref : Value) : Prop :=
  IsItemOf "possibleTypes" members ref ∨
    ∃ field, (IsItemOf "fields" members (.obj field) ∨
        IsItemOf "inputFields" members (.obj field)) ∧
      Value.lookup? "type" field = some ref

/-- A document has a reference that leads over more than `maxDepth` objects to one more value. -/
def HasLongReference (d : Value) : Prop :=
  ∃ schema, HasSchemaObject d schema ∧
    ∃ type, IsItemOf "types" schema (.obj type) ∧
      ∃ ref, TypeRefersTo type ref ∧ Exceeds (maxDepth + 1) ref

/-! ## References -/

theorem memberIs_iff {P : Value → Prop} {name : String} {members : List (String × Value)} :
    MemberIs P name members ↔
      (member name members).isTruthy = false ∨ P (member name members) := by
  rw [MemberIs, member]
  cases Value.lookup? name members with
  | none => simp [Value.isTruthy]
  | some v => simp

theorem lookup?_of_member_truthy {name : String} {members : List (String × Value)}
    (h : (member name members).isTruthy = true) :
    Value.lookup? name members = some (member name members) := by
  rw [member] at *
  cases hlookup : Value.lookup? name members with
  | none => simp [hlookup, Value.isTruthy] at h
  | some v => rfl

theorem member_of_lookup? {name : String} {members : List (String × Value)} {v : Value}
    (h : Value.lookup? name members = some v) :
    member name members = v := by
  rw [member, h]
  rfl

theorem isTruthy_of_lookup? {name : String} {members : List (String × Value)} {v : Value}
    (h : Value.lookup? name members = some v) :
    (Value.obj members).isTruthy = true := by
  cases members with
  | nil => cases h
  | cons m members => rfl

theorem IsChain.pos {n : Nat} {v : Value} (h : IsChain n v) : 0 < n := by
  cases h with
  | last => exact Nat.one_pos
  | link => exact Nat.succ_pos _

theorem IsChain.exists_obj {n : Nat} {v : Value} (h : IsChain n v) :
    ∃ members, v = .obj members := by
  cases h with
  | last => exact ⟨_, rfl⟩
  | link => exact ⟨_, rfl⟩

/-- The chain of an object that wraps a value goes on with the chain of that value. -/
theorem isChain_obj_iff {members : List (String × Value)} {n : Nat}
    (h : (member "ofType" members).isTruthy = true) :
    IsChain n (.obj members) ↔ ∃ k, n = k + 1 ∧ IsChain k (member "ofType" members) := by
  constructor
  · intro hchain
    cases hchain with
    | last hlast =>
        rcases memberIs_iff.mp hlast with hfalsy | hfalse
        · rw [hfalsy] at h
          cases h
        · exact hfalse.elim
    | link hnext htruthy hrest =>
        rw [member_of_lookup? hnext]
        exact ⟨_, rfl, hrest⟩
  · rintro ⟨k, rfl, hrest⟩
    exact .link (lookup?_of_member_truthy h) h hrest

/-- Links are read from a value that counts as missing and from a chain of no more objects than
links may be read. -/
theorem succeeds_readLinks_iff {budget : Nat} {raw : Value} :
    Succeeds (readLinks budget raw) ↔
      0 < budget ∧ (raw.isTruthy = false ∨ ∃ n ≤ budget, IsChain n raw) := by
  -- What an object wraps is read with one link less, so the budget and the chain go down together.
  induction budget generalizing raw with
  | zero => exact iff_of_false (Outcome.not_succeeds_error _) (by simp)
  | succ budget ih =>
      by_cases htruthy : raw.isTruthy = true
      · by_cases hobj : ∃ members, raw = .obj members
        · obtain ⟨members, rfl⟩ := hobj
          rw [readLinks_obj budget htruthy, Outcome.succeeds_map_iff]
          by_cases hnext : (member "ofType" members).isTruthy = true
          · rw [if_pos hnext, ih]
            simp only [isChain_obj_iff hnext, htruthy, hnext, Bool.true_eq_false, false_or]
            constructor
            · rintro ⟨-, n, hn, hchain⟩
              exact ⟨Nat.succ_pos _, n + 1, Nat.succ_le_succ hn, n, rfl, hchain⟩
            · rintro ⟨-, -, hn, n, rfl, hchain⟩
              have hpos := hchain.pos
              exact ⟨by omega, n, by omega, hchain⟩
          · rw [if_neg hnext]
            rw [Bool.not_eq_true] at hnext
            refine iff_of_true (Outcome.succeeds_ok _) ⟨Nat.succ_pos _, Or.inr ⟨1, by omega, ?_⟩⟩
            exact .last (memberIs_iff.mpr (Or.inl hnext))
        · rw [readLinks_of_not_obj budget htruthy (not_exists.mp hobj)]
          refine iff_of_false (Outcome.not_succeeds_error _) ?_
          rintro ⟨-, hfalsy | ⟨n, -, hchain⟩⟩
          · rw [htruthy] at hfalsy
            cases hfalsy
          · exact hobj hchain.exists_obj
      · rw [Bool.not_eq_true] at htruthy
        rw [readLinks_of_not_truthy budget htruthy]
        exact iff_of_true (Outcome.succeeds_ok _) ⟨Nat.succ_pos _, Or.inl htruthy⟩

/-- Links are too many exactly if a value leads over as many objects as links may be read to one
more value. -/
theorem readLinks_eq_tooDeep_iff {budget : Nat} {raw : Value} :
    readLinks budget raw = .error .tooDeep ↔ Exceeds budget raw := by
  induction budget generalizing raw with
  | zero => exact iff_of_true rfl (.here raw)
  | succ budget ih =>
      constructor
      · intro h
        by_cases htruthy : raw.isTruthy = true
        · by_cases hobj : ∃ members, raw = .obj members
          · obtain ⟨members, rfl⟩ := hobj
            rw [readLinks_obj budget htruthy, Outcome.map_eq_error_iff] at h
            split at h
            next hnext => exact .link (lookup?_of_member_truthy hnext) hnext (ih.mp h)
            next => cases h
          · rw [readLinks_of_not_obj budget htruthy (not_exists.mp hobj)] at h
            cases h
        · rw [Bool.not_eq_true] at htruthy
          rw [readLinks_of_not_truthy budget htruthy] at h
          cases h
      · intro h
        cases h with
        | link hnext htruthy hexceeds =>
            rw [readLinks_obj budget (isTruthy_of_lookup? hnext), Outcome.map_eq_error_iff,
              member_of_lookup? hnext, if_pos htruthy]
            exact ih.mpr hexceeds

theorem succeeds_readRef_iff {raw : Value} :
    Succeeds (readRef raw) ↔ IsReference raw := by
  have hlinks : Succeeds (readRef raw) ↔ Succeeds (readLinks (maxDepth + 1) raw) := by
    constructor
    · rintro ⟨ref, href⟩
      exact ⟨_, readRef_eq_ok_iff.mp href⟩
    · rintro ⟨links, hlinks⟩
      cases links with
      | nil => exact absurd (length_readLinks hlinks).1 (by simp)
      | cons outer inner => exact ⟨⟨outer, inner⟩, readRef_eq_ok_iff.mpr hlinks⟩
  rw [hlinks, succeeds_readLinks_iff, IsReference]
  simp

theorem readRef_eq_tooDeep_iff {raw : Value} :
    readRef raw = .error .tooDeep ↔ Exceeds (maxDepth + 1) raw := by
  rw [readRef_eq_error_iff, readLinks_eq_tooDeep_iff]

/-! ## Fields, types and schemas -/

theorem succeeds_readField_iff {raw : Value} :
    Succeeds (readField raw) ↔ IsObjectWith IsField raw := by
  constructor
  · rintro ⟨f, hf⟩
    obtain ⟨members, rfl, hname, htype⟩ := readField_eq_ok_iff.mp hf
    refine ⟨members, rfl, ⟨_, hname⟩, ?_⟩
    exact memberIs_iff.mpr (Or.inr (succeeds_readRef_iff.mp ⟨_, htype⟩))
  · rintro ⟨members, rfl, ⟨name, hname⟩, htype⟩
    have href : IsReference (member "type" members) := by
      rcases memberIs_iff.mp htype with hfalsy | href
      · exact Or.inl hfalsy
      · exact href
    obtain ⟨ref, href⟩ := succeeds_readRef_iff.mpr href
    exact ⟨⟨name, ref⟩, readField_eq_ok_iff.mpr ⟨members, rfl, hname, href⟩⟩

theorem succeeds_readEnumValue_iff {raw : Value} :
    Succeeds (readEnumValue raw) ↔ ∀ members, raw = .obj members → HasMember "name" members := by
  cases raw with
  | obj members =>
      change Succeeds (required "name" (.obj members)) ↔ _
      constructor
      · rintro ⟨name, hname⟩ members' hmembers
        obtain ⟨members'', hmembers', hlookup⟩ := required_eq_ok_iff.mp hname
        cases hmembers
        cases hmembers'
        exact ⟨name, hlookup⟩
      · intro h
        obtain ⟨name, hname⟩ := h members rfl
        exact ⟨name, required_eq_ok_iff.mpr ⟨members, rfl, hname⟩⟩
  | _ => exact iff_of_true (Outcome.succeeds_ok _) (by simp)

theorem succeeds_readRoot_iff {raw : Value} :
    Succeeds (readRoot raw) ↔ raw.isTruthy = false ∨ IsObjectWith (fun _ => True) raw := by
  rw [readRoot]
  split
  next htruthy =>
    constructor
    · rintro ⟨name, hname⟩
      obtain ⟨members, rfl, -⟩ := optional_eq_ok_iff.mp hname
      exact Or.inr ⟨members, rfl, trivial⟩
    · rintro (hfalsy | ⟨members, rfl, -⟩)
      · rw [htruthy] at hfalsy
        cases hfalsy
      · exact ⟨_, optional_obj "name" members⟩
  next hfalsy =>
    rw [Bool.not_eq_true] at hfalsy
    exact iff_of_true (Outcome.succeeds_ok _) (Or.inl hfalsy)

theorem succeeds_readEach_readField_iff {name : String} {members : List (String × Value)} :
    Succeeds (readEach readField (member name members)) ↔
      MemberIs (IsListOf (IsObjectWith IsField)) name members := by
  have htext : ∀ text, ¬Succeeds (readField (.str text)) := by
    intro text h
    obtain ⟨members, hmembers, -⟩ := succeeds_readField_iff.mp h
    cases hmembers
  rw [succeeds_readEach_iff_of_not_text htext, memberIs_iff]
  simp only [succeeds_readField_iff, IsListOf]

theorem succeeds_readEach_readEnumValue_iff {members : List (String × Value)} :
    Succeeds (readEach readEnumValue (member "enumValues" members)) ↔
      MemberIs IsEnumValues "enumValues" members := by
  rw [succeeds_readEach_iff, memberIs_iff, IsEnumValues, IsListOf, IsObjectWith]
  simp only [succeeds_readEnumValue_iff, reduceCtorEq, false_implies, implies_true, and_true]
  constructor
  · rintro (hfalsy | hlist | htext | hkeys)
    · exact Or.inl hfalsy
    · exact Or.inr (Or.inr (Or.inr hlist))
    · exact Or.inr (Or.inl htext)
    · exact Or.inr (Or.inr (Or.inl hkeys))
  · rintro (hfalsy | htext | hkeys | hlist)
    · exact Or.inl hfalsy
    · exact Or.inr (Or.inr (Or.inl htext))
    · exact Or.inr (Or.inr (Or.inr hkeys))
    · exact Or.inr (Or.inl hlist)

theorem isReference_str_iff {text : String} :
    IsReference (.str text) ↔ text = "" := by
  constructor
  · rintro (hfalsy | ⟨n, -, hchain⟩)
    · simpa [Value.isTruthy] using hfalsy
    · cases hchain
  · rintro rfl
    exact Or.inl rfl

theorem succeeds_readEach_readRef_iff {members : List (String × Value)} :
    Succeeds (readEach readRef (member "possibleTypes" members)) ↔
      MemberIs IsPossibleTypes "possibleTypes" members := by
  rw [succeeds_readEach_iff, memberIs_iff, IsPossibleTypes, IsListOf, IsObjectWith]
  simp only [succeeds_readRef_iff, isReference_str_iff]
  -- A character is a text that is not empty, so a text has no items that are references.
  have hchar : ∀ c : Char, String.singleton c ≠ "" := by
    intro c h
    have hlist := congrArg String.toList h
    simp at hlist
  simp only [hchar, imp_false]
  constructor
  · rintro (hfalsy | hlist | ⟨text, hmember, htext⟩ | hkeys)
    · exact Or.inl hfalsy
    · exact Or.inr (Or.inl hlist)
    · left
      rw [← List.eq_nil_iff_forall_not_mem, String.toList_eq_nil_iff] at htext
      rw [hmember, htext]
      rfl
    · exact Or.inr (Or.inr hkeys)
  · rintro (hfalsy | hlist | hkeys)
    · exact Or.inl hfalsy
    · exact Or.inr (Or.inl hlist)
    · exact Or.inr (Or.inr (Or.inr hkeys))

theorem succeeds_readType_iff {raw : Value} :
    Succeeds (readType raw) ↔ IsObjectWith IsType raw := by
  constructor
  · rintro ⟨t, ht⟩
    obtain ⟨members, rfl, hname, -, -, hfields, hinputFields, henumValues, hpossibleTypes⟩ :=
      readType_eq_ok_iff.mp ht
    exact ⟨members, rfl, ⟨_, hname⟩, succeeds_readEach_readField_iff.mp ⟨_, hfields⟩,
      succeeds_readEach_readField_iff.mp ⟨_, hinputFields⟩,
      succeeds_readEach_readEnumValue_iff.mp ⟨_, henumValues⟩,
      succeeds_readEach_readRef_iff.mp ⟨_, hpossibleTypes⟩⟩
  · rintro ⟨members, rfl, h⟩
    obtain ⟨name, hname⟩ := h.name
    obtain ⟨fields, hfields⟩ := succeeds_readEach_readField_iff.mpr h.fields
    obtain ⟨inputFields, hinputFields⟩ := succeeds_readEach_readField_iff.mpr h.inputFields
    obtain ⟨enumValues, henumValues⟩ := succeeds_readEach_readEnumValue_iff.mpr h.enumValues
    obtain ⟨possibleTypes, hpossibleTypes⟩ := succeeds_readEach_readRef_iff.mpr h.possibleTypes
    exact ⟨{ name, kind := _, description := _, fields, inputFields, enumValues, possibleTypes },
      readType_eq_ok_iff.mpr ⟨members, rfl, hname, rfl, rfl, hfields, hinputFields, henumValues,
        hpossibleTypes⟩⟩

theorem succeeds_readSchema_iff {members : List (String × Value)} :
    Succeeds (readSchema (.obj members)) ↔ IsSchema members := by
  have htypes : Succeeds (readEach readType (member "types" members)) ↔
      MemberIs (IsListOf (IsObjectWith IsType)) "types" members := by
    have htext : ∀ text, ¬Succeeds (readType (.str text)) := by
      intro text h
      obtain ⟨members, hmembers, -⟩ := succeeds_readType_iff.mp h
      cases hmembers
    rw [succeeds_readEach_iff_of_not_text htext, memberIs_iff]
    simp only [succeeds_readType_iff, IsListOf]
  constructor
  · rintro ⟨s, hs⟩
    obtain ⟨hquery, hmutation, hlist⟩ := readSchema_eq_ok_iff.mp hs
    exact ⟨memberIs_iff.mpr (succeeds_readRoot_iff.mp ⟨_, hquery⟩),
      memberIs_iff.mpr (succeeds_readRoot_iff.mp ⟨_, hmutation⟩), htypes.mp ⟨_, hlist⟩⟩
  · intro h
    obtain ⟨queryType, hquery⟩ := succeeds_readRoot_iff.mpr (memberIs_iff.mp h.queryType)
    obtain ⟨mutationType, hmutation⟩ := succeeds_readRoot_iff.mpr (memberIs_iff.mp h.mutationType)
    obtain ⟨types, hlist⟩ := htypes.mpr h.types
    exact ⟨⟨queryType, mutationType, types⟩,
      readSchema_eq_ok_iff.mpr ⟨hquery, hmutation, hlist⟩⟩

/-- A value is read as a schema exactly if it belongs to the grammar. -/
theorem succeeds_read_iff {d : Value} :
    Succeeds (read d) ↔ IsDocument d := by
  constructor
  · rintro ⟨s, hs⟩
    obtain ⟨schema, hschema, hread⟩ := read_eq_ok_iff.mp hs
    exact ⟨schema, hschema, succeeds_readSchema_iff.mp ⟨s, hread⟩⟩
  · rintro ⟨schema, hschema, hgrammar⟩
    obtain ⟨s, hs⟩ := succeeds_readSchema_iff.mpr hgrammar
    exact ⟨s, read_eq_ok_iff.mpr ⟨schema, hschema, hs⟩⟩

/-! ## Refusals for depth -/

theorem Exceeds.isTruthy {n : Nat} {v : Value} (h : Exceeds (n + 1) v) :
    v.isTruthy = true := by
  cases h with
  | link hnext => exact isTruthy_of_lookup? hnext

theorem readField_str_ne_tooDeep (text : String) :
    readField (.str text) ≠ .error .tooDeep := by
  intro h
  cases h

theorem readType_str_ne_tooDeep (text : String) :
    readType (.str text) ≠ .error .tooDeep := by
  intro h
  cases h

theorem readRef_str_ne_tooDeep (text : String) :
    readRef (.str text) ≠ .error .tooDeep := by
  intro h
  cases readRef_eq_tooDeep_iff.mp h

theorem readEnumValue_ne_tooDeep (raw : Value) :
    readEnumValue raw ≠ .error .tooDeep := by
  cases raw with
  | obj members =>
      change required "name" (.obj members) ≠ _
      exact required_ne_tooDeep "name" _
  | _ => simp [readEnumValue]

theorem readRoot_ne_tooDeep (raw : Value) :
    readRoot raw ≠ .error .tooDeep := by
  rw [readRoot]
  split
  · exact optional_ne_tooDeep "name" raw
  · simp

/-- If the items of a member are too deep, one of them is. -/
theorem exists_item_of_tooDeep {α : Type} {f : Value → Except Fault α}
    (hf : ∀ text, f (.str text) ≠ .error .tooDeep)
    {name : String} {members : List (String × Value)}
    (h : readEach f (member name members) = .error .tooDeep) :
    ∃ x, IsItemOf name members x ∧ f x = .error .tooDeep := by
  obtain ⟨xs, hmember, x, hx, hdeep⟩ := exists_mem_of_readEach_tooDeep hf h
  have htruthy : (member name members).isTruthy = true := by
    rw [hmember, Value.isTruthy, List.isEmpty_eq_false_iff_exists_mem.mpr ⟨x, hx⟩]
    rfl
  exact ⟨x, ⟨xs, hmember ▸ lookup?_of_member_truthy htruthy, hx⟩, hdeep⟩

theorem exists_ref_of_readField_tooDeep {raw : Value} (h : readField raw = .error .tooDeep) :
    ∃ members ref, raw = .obj members ∧ Value.lookup? "type" members = some ref ∧
      Exceeds (maxDepth + 1) ref := by
  rcases Outcome.bind_eq_error_iff.mp h with hname | ⟨name, -, h⟩
  · exact absurd hname (required_ne_tooDeep _ _)
  rcases Outcome.bind_eq_error_iff.mp h with hoptional | ⟨type, htype, h⟩
  · exact absurd hoptional (optional_ne_tooDeep _ _)
  rcases Outcome.bind_eq_error_iff.mp h with href | ⟨ref, -, hpure⟩
  · obtain ⟨members, rfl, rfl⟩ := optional_eq_ok_iff.mp htype
    have hexceeds := readRef_eq_tooDeep_iff.mp href
    exact ⟨members, _, rfl, lookup?_of_member_truthy hexceeds.isTruthy, hexceeds⟩
  · cases hpure

/-- If the fields of a member are too deep, one of them has a long reference. -/
theorem exists_ref_of_fields_tooDeep {name : String} {members : List (String × Value)}
    (h : readEach readField (member name members) = .error .tooDeep) :
    ∃ field ref, IsItemOf name members (.obj field) ∧ Value.lookup? "type" field = some ref ∧
      Exceeds (maxDepth + 1) ref := by
  obtain ⟨x, hitem, hx⟩ := exists_item_of_tooDeep readField_str_ne_tooDeep h
  obtain ⟨field, ref, rfl, href, hexceeds⟩ := exists_ref_of_readField_tooDeep hx
  exact ⟨field, ref, hitem, href, hexceeds⟩

theorem exists_ref_of_readType_tooDeep {raw : Value} (h : readType raw = .error .tooDeep) :
    ∃ members, raw = .obj members ∧
      ∃ ref, TypeRefersTo members ref ∧ Exceeds (maxDepth + 1) ref := by
  cases raw with
  | obj members =>
      refine ⟨members, rfl, ?_⟩
      rw [readType_obj] at h
      rcases Outcome.bind_eq_error_iff.mp h with hname | ⟨name, -, h⟩
      · exact absurd hname (required_ne_tooDeep _ _)
      rcases Outcome.bind_eq_error_iff.mp h with hfields | ⟨fields, -, h⟩
      · obtain ⟨field, ref, hitem, href, hexceeds⟩ := exists_ref_of_fields_tooDeep hfields
        exact ⟨ref, Or.inr ⟨field, Or.inl hitem, href⟩, hexceeds⟩
      rcases Outcome.bind_eq_error_iff.mp h with hinputFields | ⟨inputFields, -, h⟩
      · obtain ⟨field, ref, hitem, href, hexceeds⟩ := exists_ref_of_fields_tooDeep hinputFields
        exact ⟨ref, Or.inr ⟨field, Or.inr hitem, href⟩, hexceeds⟩
      rcases Outcome.bind_eq_error_iff.mp h with henumValues | ⟨enumValues, -, h⟩
      · obtain ⟨x, -, hx⟩ :=
          exists_item_of_tooDeep (fun text => readEnumValue_ne_tooDeep _) henumValues
        exact absurd hx (readEnumValue_ne_tooDeep x)
      rcases Outcome.bind_eq_error_iff.mp h with hpossibleTypes | ⟨possibleTypes, -, hpure⟩
      · obtain ⟨ref, hitem, href⟩ := exists_item_of_tooDeep readRef_str_ne_tooDeep hpossibleTypes
        exact ⟨ref, Or.inl hitem, readRef_eq_tooDeep_iff.mp href⟩
      · cases hpure
  | _ => cases h

/-- A value that is refused for its depth has a long reference. -/
theorem hasLongReference_of_tooDeep {d : Value} (h : read d = .error .tooDeep) :
    HasLongReference d := by
  by_cases hschema : ∃ schema, HasSchemaObject d schema
  · obtain ⟨schema, hschema⟩ := hschema
    rw [read_of_hasSchemaObject hschema, readSchema_obj] at h
    rcases Outcome.bind_eq_error_iff.mp h with hquery | ⟨queryType, -, h⟩
    · exact absurd hquery (readRoot_ne_tooDeep _)
    rcases Outcome.bind_eq_error_iff.mp h with hmutation | ⟨mutationType, -, h⟩
    · exact absurd hmutation (readRoot_ne_tooDeep _)
    rcases Outcome.bind_eq_error_iff.mp h with htypes | ⟨types, -, hpure⟩
    · obtain ⟨x, hitem, hx⟩ := exists_item_of_tooDeep readType_str_ne_tooDeep htypes
      obtain ⟨type, rfl, href⟩ := exists_ref_of_readType_tooDeep hx
      exact ⟨schema, hschema, type, hitem, href⟩
    · cases hpure
  · obtain ⟨fault, hfault, hne⟩ := read_of_not_hasSchemaObject (not_exists.mp hschema)
    rw [h] at hfault
    exact absurd (Except.error.inj hfault).symm hne

/-- A schema is read from exactly the values of the grammar.  Every other value is refused, for its
depth only if it has a long reference. -/
theorem read_accepts_exactly (d : Value) :
    ((∃ s, read d = .ok s) ↔ IsDocument d) ∧
      (IsDocument d ∨
        (read d = .error .tooDeep ∧ HasLongReference d) ∨
          ∃ fault, read d = .error fault ∧ fault ≠ .tooDeep) := by
  refine ⟨succeeds_read_iff, ?_⟩
  by_cases hgrammar : IsDocument d
  · exact Or.inl hgrammar
  · right
    rw [← succeeds_read_iff, Outcome.not_succeeds_iff] at hgrammar
    obtain ⟨fault, hfault⟩ := hgrammar
    by_cases hdeep : fault = .tooDeep
    · rw [hdeep] at hfault
      exact Or.inl ⟨hfault, hasLongReference_of_tooDeep hfault⟩
    · exact Or.inr ⟨fault, hfault, hdeep⟩

end Document
end FlowDecl
