import FlowDecl.Proofs.Outcome
import FlowDecl.Schema.Document

/-!
# How documents are read

Every reader of a document takes members of an object and reads the items of some of them.  This
module says when a reader answers, what its answer is made of, and that a reference that is read
has at most one link more than `maxDepth`.
-/

namespace FlowDecl

open Json (Value)

/-- A name that is a text or missing. -/
def IsPlainName (name : Value) : Prop :=
  name = .null ∨ ∃ text, name = .str text

theorem isPlainName_str (text : String) : IsPlainName (.str text) :=
  Or.inr ⟨text, rfl⟩

theorem hashable_of_isPlainName {name : Value} (h : IsPlainName name) :
    name.hashable = true := by
  rcases h with rfl | ⟨text, rfl⟩
  · rfl
  · rfl

namespace Document

open Outcome (Succeeds)

variable {α : Type}

/-! ## Members and items -/

/-- The member of an object, null if it is missing. -/
def member (name : String) (members : List (String × Value)) : Value :=
  (Value.lookup? name members).getD .null

theorem optional_obj (name : String) (members : List (String × Value)) :
    optional name (.obj members) = .ok (member name members) :=
  rfl

theorem optional_eq_ok_iff {name : String} {raw v : Value} :
    optional name raw = .ok v ↔ ∃ members, raw = .obj members ∧ member name members = v := by
  cases raw with
  | obj members => simp [optional_obj]
  | _ => simp [optional]

theorem required_eq_ok_iff {name : String} {raw v : Value} :
    required name raw = .ok v ↔
      ∃ members, raw = .obj members ∧ Value.lookup? name members = some v := by
  cases raw with
  | obj members =>
      rw [required]
      split <;> simp_all
  | _ => simp [required]

theorem optional_ne_tooDeep (name : String) (raw : Value) :
    optional name raw ≠ .error .tooDeep := by
  cases raw <;> simp [optional]

theorem required_ne_tooDeep (name : String) (raw : Value) :
    required name raw ≠ .error .tooDeep := by
  cases raw with
  | obj members =>
      rw [required]
      split <;> simp
  | _ => simp [required]

theorem items_of_not_truthy {v : Value} (h : v.isTruthy = false) :
    items v = .ok [] := by
  cases v with
  | arr xs => simpa [items, Value.isTruthy] using h
  | str text =>
      have htext : text = "" := by simpa [Value.isTruthy] using h
      rw [htext]
      rfl
  | obj members => simpa [items, Value.isTruthy] using h
  | _ => simp [items, h]

theorem items_ne_tooDeep (v : Value) :
    items v ≠ .error .tooDeep := by
  cases v with
  | arr xs => simp [items]
  | str text => simp [items]
  | obj members => simp [items]
  | _ =>
      simp only [items]
      split <;> simp

/-- Reads each item of a value. -/
def readEach (f : Value → Except Fault α) (v : Value) : Except Fault (List α) := do
  (← items v).mapM f

/-- Items are read where there are none, or from a list, from the characters of a text or from the
names of an object. -/
theorem succeeds_readEach_iff {f : Value → Except Fault α} {v : Value} :
    Succeeds (readEach f v) ↔
      v.isTruthy = false ∨
        (∃ xs, v = .arr xs ∧ ∀ x ∈ xs, Succeeds (f x)) ∨
          (∃ text, v = .str text ∧ ∀ c ∈ text.toList, Succeeds (f (.str (String.singleton c)))) ∨
            ∃ members, v = .obj members ∧ ∀ m ∈ members, Succeeds (f (.str m.1)) := by
  rw [readEach, Outcome.succeeds_bind_iff]
  simp only [Outcome.succeeds_mapM_iff]
  by_cases htruthy : v.isTruthy = true
  · cases v with
    | arr xs => simp [items, htruthy]
    | str text => simp [items, htruthy]
    | obj members =>
        simp only [items, htruthy, Except.ok.injEq, exists_eq_left', List.forall_mem_map]
        simp
    | _ => simp [items, htruthy]
  · rw [Bool.not_eq_true] at htruthy
    simp [items_of_not_truthy htruthy, htruthy]

/-- A reader that reads no text reads each item of a list only. -/
theorem succeeds_readEach_iff_of_not_text {f : Value → Except Fault α}
    (hf : ∀ text, ¬Succeeds (f (.str text))) {v : Value} :
    Succeeds (readEach f v) ↔
      v.isTruthy = false ∨ ∃ xs, v = .arr xs ∧ ∀ x ∈ xs, Succeeds (f x) := by
  rw [succeeds_readEach_iff]
  constructor
  · rintro (hfalsy | hlist | ⟨text, rfl, htext⟩ | ⟨members, rfl, hmembers⟩)
    · exact Or.inl hfalsy
    · exact Or.inr hlist
    · left
      have hempty : text.toList = [] := by
        rw [List.eq_nil_iff_forall_not_mem]
        intro c hc
        exact hf _ (htext c hc)
      rw [String.toList_eq_nil_iff] at hempty
      rw [hempty]
      rfl
    · left
      have hempty : members = [] := by
        rw [List.eq_nil_iff_forall_not_mem]
        intro m hm
        exact hf _ (hmembers m hm)
      rw [hempty]
      rfl
  · rintro (hfalsy | hlist)
    · exact Or.inl hfalsy
    · exact Or.inr (Or.inl hlist)

/-- A reader that calls no text too deep calls no item but one of a list so. -/
theorem exists_mem_of_readEach_tooDeep {f : Value → Except Fault α}
    (hf : ∀ text, f (.str text) ≠ .error .tooDeep) {v : Value}
    (h : readEach f v = .error .tooDeep) :
    ∃ xs, v = .arr xs ∧ ∃ x ∈ xs, f x = .error .tooDeep := by
  rcases Outcome.bind_eq_error_iff.mp h with hitems | ⟨xs, hitems, hxs⟩
  · exact absurd hitems (items_ne_tooDeep v)
  · obtain ⟨before, x, after, rfl, -, hx⟩ := Outcome.mapM_eq_error_iff.mp hxs
    have hmem : x ∈ before ++ x :: after := by simp
    cases v with
    | arr xs =>
        refine ⟨xs, rfl, x, ?_, hx⟩
        rw [Except.ok.inj hitems]
        exact hmem
    | str text =>
        rw [← Except.ok.inj hitems] at hmem
        obtain ⟨c, -, rfl⟩ := List.mem_map.mp hmem
        exact absurd hx (hf _)
    | obj members =>
        rw [← Except.ok.inj hitems] at hmem
        obtain ⟨m, -, rfl⟩ := List.mem_map.mp hmem
        exact absurd hx (hf _)
    | _ =>
        simp only [items] at hitems
        split at hitems <;> simp at hitems

/-- What is read from items is read from one of them. -/
theorem mem_readEach {f : Value → Except Fault α} {v : Value} {results : List α}
    (h : readEach f v = .ok results) {a : α} (ha : a ∈ results) :
    ∃ x, f x = .ok a := by
  obtain ⟨xs, -, hxs⟩ := Outcome.bind_eq_ok_iff.mp h
  obtain ⟨x, -, hx⟩ := (Outcome.mem_mapM_iff hxs).mp ha
  exact ⟨x, hx⟩

/-! ## References -/

theorem readLinks_of_not_truthy (budget : Nat) {raw : Value} (h : raw.isTruthy = false) :
    readLinks (budget + 1) raw = .ok [⟨.unrecognized, .null⟩] := by
  rw [readLinks, h]
  rfl

theorem readLinks_of_not_obj (budget : Nat) {raw : Value}
    (htruthy : raw.isTruthy = true) (hobj : ∀ members, raw ≠ .obj members) :
    readLinks (budget + 1) raw = .error (.noAttribute raw.sort) := by
  rw [readLinks, if_pos htruthy]
  cases raw with
  | obj members => exact absurd rfl (hobj members)
  | _ => rfl

/-- The links of an object are its own link and the links of what it wraps. -/
theorem readLinks_obj (budget : Nat) {members : List (String × Value)}
    (htruthy : (Value.obj members).isTruthy = true) :
    readLinks (budget + 1) (.obj members) =
      (⟨TypeKind.ofValue (member "kind" members), member "name" members⟩ :: ·) <$>
        if (member "ofType" members).isTruthy then readLinks budget (member "ofType" members)
        else .ok [] := by
  rw [readLinks, if_pos htruthy]
  simp only [optional_obj]
  change (if (member "ofType" members).isTruthy = true then _ else _) = _
  split
  · cases readLinks budget (member "ofType" members) <;> rfl
  · rfl

/-- A reference that is read has at least one link, and no more links than may be read. -/
theorem length_readLinks {budget : Nat} {raw : Value} {links : List Link}
    (h : readLinks budget raw = .ok links) :
    1 ≤ links.length ∧ links.length ≤ budget := by
  induction budget generalizing raw links with
  | zero => cases h
  | succ budget ih =>
      by_cases htruthy : raw.isTruthy = true
      · by_cases hobj : ∃ members, raw = .obj members
        · obtain ⟨members, rfl⟩ := hobj
          rw [readLinks_obj budget htruthy] at h
          obtain ⟨inner, hinner, rfl⟩ := Outcome.map_eq_ok_iff.mp h
          rw [List.length_cons]
          split at hinner
          · have := (ih hinner).2
            omega
          · cases hinner
            simp
        · rw [readLinks_of_not_obj budget htruthy fun members hraw => hobj ⟨members, hraw⟩] at h
          cases h
      · rw [Bool.not_eq_true] at htruthy
        rw [readLinks_of_not_truthy budget htruthy] at h
        cases h
        simp

theorem readRef_eq_ok_iff {raw : Value} {ref : TypeRef} :
    readRef raw = .ok ref ↔ readLinks (maxDepth + 1) raw = .ok ref.links := by
  rw [readRef, Outcome.bind_eq_ok_iff]
  constructor
  · rintro ⟨links, hlinks, href⟩
    cases links with
    | nil => exact absurd (length_readLinks hlinks).1 (by simp)
    | cons outer inner =>
        cases href
        exact hlinks
  · intro hlinks
    exact ⟨ref.links, hlinks, rfl⟩

theorem readRef_eq_error_iff {raw : Value} {fault : Fault} :
    readRef raw = .error fault ↔ readLinks (maxDepth + 1) raw = .error fault := by
  rw [readRef, Outcome.bind_eq_error_iff]
  constructor
  · rintro (hlinks | ⟨links, -, href⟩)
    · exact hlinks
    · cases links <;> cases href
  · exact Or.inl

/-- A reference that is read is at most `maxDepth` steps long. -/
theorem length_inner_of_readRef {raw : Value} {ref : TypeRef} (h : readRef raw = .ok ref) :
    ref.inner.length ≤ maxDepth := by
  have hlength := (length_readLinks (readRef_eq_ok_iff.mp h)).2
  rw [TypeRef.links, List.length_cons] at hlength
  omega

/-! ## Fields, types and schemas -/

theorem readField_eq_ok_iff {raw : Value} {f : Field} :
    readField raw = .ok f ↔
      ∃ members, raw = .obj members ∧ Value.lookup? "name" members = some f.name ∧
        readRef (member "type" members) = .ok f.type := by
  simp only [readField, Outcome.bind_eq_ok_iff, required_eq_ok_iff, optional_eq_ok_iff]
  constructor
  · rintro ⟨name, ⟨members, rfl, hname⟩, raw, ⟨members', hmembers, rfl⟩, type, htype, hf⟩
    cases hmembers
    cases hf
    exact ⟨members, rfl, hname, htype⟩
  · rintro ⟨members, rfl, hname, htype⟩
    exact ⟨_, ⟨members, rfl, hname⟩, _, ⟨members, rfl, rfl⟩, _, htype, rfl⟩

/-- The lists of a type are read item by item, one list after the other. -/
theorem readType_obj (members : List (String × Value)) :
    readType (.obj members) = (do
      let name ← required "name" (.obj members)
      let fields ← readEach readField (member "fields" members)
      let inputFields ← readEach readField (member "inputFields" members)
      let enumValues ← readEach readEnumValue (member "enumValues" members)
      let possibleTypes ← readEach readRef (member "possibleTypes" members)
      return {
        name
        kind := TypeKind.ofValue (member "kind" members)
        description := readDescription (member "description" members)
        fields
        inputFields
        enumValues
        possibleTypes }) := by
  simp only [readEach, bind_assoc]
  rfl

theorem exists_obj_of_readType {raw : Value} {t : TypeDef} (h : readType raw = .ok t) :
    ∃ members, raw = .obj members := by
  cases raw with
  | obj members => exact ⟨members, rfl⟩
  | _ => cases h

/-- A type is read from an object with a name, whose lists are read item by item. -/
theorem readType_eq_ok_iff {raw : Value} {t : TypeDef} :
    readType raw = .ok t ↔
      ∃ members, raw = .obj members ∧ Value.lookup? "name" members = some t.name ∧
        TypeKind.ofValue (member "kind" members) = t.kind ∧
        readDescription (member "description" members) = t.description ∧
        readEach readField (member "fields" members) = .ok t.fields ∧
        readEach readField (member "inputFields" members) = .ok t.inputFields ∧
        readEach readEnumValue (member "enumValues" members) = .ok t.enumValues ∧
        readEach readRef (member "possibleTypes" members) = .ok t.possibleTypes := by
  constructor
  · intro h
    obtain ⟨members, rfl⟩ := exists_obj_of_readType h
    simp only [readType_obj, Outcome.bind_eq_ok_iff] at h
    obtain ⟨name, hname, fields, hfields, inputFields, hinputFields, enumValues, henumValues,
      possibleTypes, hpossibleTypes, ht⟩ := h
    obtain ⟨_, hmembers, hlookup⟩ := required_eq_ok_iff.mp hname
    cases hmembers
    cases ht
    exact ⟨members, rfl, hlookup, rfl, rfl, hfields, hinputFields, henumValues, hpossibleTypes⟩
  · rintro ⟨members, rfl, hlookup, hkind, hdescription, hfields, hinputFields, henumValues,
      hpossibleTypes⟩
    simp only [readType_obj, Outcome.bind_eq_ok_iff]
    refine ⟨_, required_eq_ok_iff.mpr ⟨members, rfl, hlookup⟩, _, hfields, _, hinputFields,
      _, henumValues, _, hpossibleTypes, ?_⟩
    rw [hkind, hdescription]
    rfl

theorem readSchema_obj (members : List (String × Value)) :
    readSchema (.obj members) = (do
      let queryType ← readRoot (member "queryType" members)
      let mutationType ← readRoot (member "mutationType" members)
      let types ← readEach readType (member "types" members)
      return ⟨queryType, mutationType, types⟩) := by
  simp only [readEach, bind_assoc]
  rfl

theorem readSchema_eq_ok_iff {members : List (String × Value)} {s : Schema} :
    readSchema (.obj members) = .ok s ↔
      readRoot (member "queryType" members) = .ok s.queryType ∧
        readRoot (member "mutationType" members) = .ok s.mutationType ∧
          readEach readType (member "types" members) = .ok s.types := by
  simp only [readSchema_obj, Outcome.bind_eq_ok_iff]
  constructor
  · rintro ⟨query, hquery, mutation, hmutation, types, htypes, hs⟩
    cases hs
    exact ⟨hquery, hmutation, htypes⟩
  · rintro ⟨hquery, hmutation, htypes⟩
    exact ⟨_, hquery, _, hmutation, _, htypes, rfl⟩

/-- The object under `__schema` in the member `data` of a document, or in the document itself if it
has no such member. -/
def HasSchemaObject (d : Value) (schema : List (String × Value)) : Prop :=
  ∃ document data, d = .obj document ∧
    (Value.lookup? "data" document).getD d = .obj data ∧
      Value.lookup? "__schema" data = some (.obj schema)

theorem read_of_hasSchemaObject {d : Value} {schema : List (String × Value)}
    (h : HasSchemaObject d schema) :
    read d = readSchema (.obj schema) := by
  obtain ⟨document, data, rfl, hdata, hschema⟩ := h
  simp only [read, hdata, hschema]

theorem read_of_not_hasSchemaObject {d : Value} (h : ∀ schema, ¬HasSchemaObject d schema) :
    ∃ fault, read d = .error fault ∧ fault ≠ .tooDeep := by
  cases d with
  | obj document =>
      simp only [read]
      split
      next data hdata =>
        split
        next schema hschema =>
          exact absurd ⟨document, data, rfl, hdata, hschema⟩ (h schema)
        next => exact ⟨_, rfl, by simp⟩
        next => exact ⟨_, rfl, by simp⟩
      next => exact ⟨_, rfl, by simp⟩
  | _ => exact ⟨.notAnObject, rfl, by simp⟩

theorem read_eq_ok_iff {d : Value} {s : Schema} :
    read d = .ok s ↔ ∃ schema, HasSchemaObject d schema ∧ readSchema (.obj schema) = .ok s := by
  constructor
  · intro hread
    by_cases h : ∃ schema, HasSchemaObject d schema
    · obtain ⟨schema, hschema⟩ := h
      exact ⟨schema, hschema, read_of_hasSchemaObject hschema ▸ hread⟩
    · obtain ⟨fault, hfault, -⟩ := read_of_not_hasSchemaObject (not_exists.mp h)
      rw [hread] at hfault
      cases hfault
  · rintro ⟨schema, hschema, hread⟩
    rw [read_of_hasSchemaObject hschema, hread]

/-- Every reference of a field in a schema that is read is at most `maxDepth` steps long. -/
theorem length_inner_of_read {d : Value} {s : Schema} (h : read d = .ok s)
    {t : TypeDef} (ht : t ∈ s.types) {f : Field} (hf : f ∈ t.fields ∨ f ∈ t.inputFields) :
    f.type.inner.length ≤ maxDepth := by
  obtain ⟨schema, -, hschema⟩ := read_eq_ok_iff.mp h
  obtain ⟨-, -, htypes⟩ := readSchema_eq_ok_iff.mp hschema
  obtain ⟨raw, hraw⟩ := mem_readEach htypes ht
  obtain ⟨members, -, -, -, -, hfields, hinputFields, -⟩ := readType_eq_ok_iff.mp hraw
  have hfield : ∃ raw, readField raw = .ok f := by
    rcases hf with hf | hf
    · exact mem_readEach hfields hf
    · exact mem_readEach hinputFields hf
  obtain ⟨raw, hraw⟩ := hfield
  obtain ⟨fieldMembers, -, -, href⟩ := readField_eq_ok_iff.mp hraw
  exact length_inner_of_readRef href

end Document
end FlowDecl
