import FlowDecl.Proofs.Flow.References
import FlowDecl.Proofs.Schema.DocumentWriting
import FlowDecl.Proofs.Sdl.Reading
import FlowDecl.Schema.Load

/-!
# What introspection tells

An introspection document tells of a type system: of every type its name, kind and description, its
fields with the references of their types, its values and its possible types.  A reference is
followed at most nine steps inwards, and the innermost object of it need not say that it wraps
nothing.  A list that a type does not have may be null, and objects may have further members.

This is what is relied on of a toolkit; the standard one has it.  A document that tells of a type
system is read as its schema.
-/

namespace FlowDecl

open Json (Value)
open Sdl (Toolkit TypeDecl TypeSystem)

namespace Sdl
namespace TypeSystem

/-! ## Introspected types -/

theorem name_toType (s : TypeSystem) (t : TypeDecl) : (s.toType t).name = .str t.name := by
  rw [toType]
  cases t.shape <;> rfl

theorem kind_toType (s : TypeSystem) (t : TypeDecl) : (s.toType t).kind = t.shape.kind := by
  rw [toType]
  cases t.shape <;> rfl

theorem description_toType (s : TypeSystem) (t : TypeDecl) :
    (s.toType t).description = givenText t.description := by
  rw [toType]
  cases t.shape <;> rfl

theorem links_typeRef (s : TypeSystem) (type : TypeExpr) :
    (s.typeRef type).links = (s.links type).take (queriedSteps + 1) := by
  cases type <;> rfl

theorem length_inner_typeRef (s : TypeSystem) (type : TypeExpr) :
    (s.typeRef type).inner.length ≤ maxDepth := by
  have hlength := congrArg List.length (links_typeRef s type)
  rw [TypeRef.links_length, List.length_take, queriedSteps] at hlength
  rw [maxDepth]
  omega

theorem length_inner_of_mem_fields {s : TypeSystem} {t : TypeDecl} {f : Field}
    (hf : f ∈ (s.toType t).fields ++ (s.toType t).inputFields) :
    f.type.inner.length ≤ maxDepth := by
  have htype : ∃ type, f.type = s.typeRef type := by
    rw [toType] at hf
    split at hf <;>
      simp only [List.append_nil, List.nil_append, List.mem_map, List.not_mem_nil] at hf
    · obtain ⟨d, -, rfl⟩ := hf
      exact ⟨d.type, rfl⟩
    · obtain ⟨d, -, rfl⟩ := hf
      exact ⟨d.type, rfl⟩
    · obtain ⟨d, -, rfl⟩ := hf
      exact ⟨d.type, rfl⟩
  obtain ⟨type, htype⟩ := htype
  rw [htype]
  exact length_inner_typeRef s type

theorem exists_link_of_mem_possibleTypes {s : TypeSystem} {t : TypeDecl} {ref : TypeRef}
    (href : ref ∈ (s.toType t).possibleTypes) : ∃ name, ref = ⟨s.link name, []⟩ := by
  rw [toType] at href
  split at href <;> simp only [List.mem_map, List.not_mem_nil] at href
  · obtain ⟨name, -, rfl⟩ := href
    exact ⟨name, rfl⟩
  · obtain ⟨name, -, rfl⟩ := href
    exact ⟨name, rfl⟩

end TypeSystem
end Sdl

namespace Document

/-! ## Parts of a document -/

/-- The links of a reference, each inside of the object of the one before it. -/
def TellsLinks : List Link → Value → Prop
  | [], v => v = .null
  | l :: rest, v => ∃ members, v = .obj members ∧
      Value.lookup? "kind" members = some (.str l.kind.tag) ∧
      Value.lookup? "name" members = some l.name ∧ TellsLinks rest (member "ofType" members)

/-- A list of what is told of some items, or null where there are none. -/
def TellsItems {α : Type} (TellsItem : α → Value → Prop) (items : List α) (v : Value) : Prop :=
  (∃ values, v = .arr values ∧ List.Forall₂ TellsItem items values) ∨ (items = [] ∧ v = .null)

def TellsRef (ref : TypeRef) (v : Value) : Prop :=
  TellsLinks ref.links v

def TellsField (f : Field) (v : Value) : Prop :=
  ∃ members, v = .obj members ∧ Value.lookup? "name" members = some f.name ∧
    TellsRef f.type (member "type" members)

def TellsName (name : Value) (v : Value) : Prop :=
  ∃ members, v = .obj members ∧ Value.lookup? "name" members = some name

/-- A root type with its name, or null where there is none. -/
def TellsRoot (root : Option String) (v : Value) : Prop :=
  match root with
  | some name => TellsName (.str name) v
  | none => v = .null

/-- A text, or null where there is none; an empty text may be null as well. -/
def TellsText (text : Option String) (v : Value) : Prop :=
  v = (text.map .str).getD .null ∨ (text = some "" ∧ v = .null)

/-- The members of an object of a type. -/
structure TellsType (s : TypeSystem) (t : TypeDecl) (members : List (String × Value)) : Prop where
  name : Value.lookup? "name" members = some (.str t.name)
  kind : Value.lookup? "kind" members = some (.str t.shape.kind.tag)
  description : TellsText t.description (member "description" members)
  fields : TellsItems TellsField (s.toType t).fields (member "fields" members)
  inputFields : TellsItems TellsField (s.toType t).inputFields (member "inputFields" members)
  enumValues : TellsItems TellsName (s.toType t).enumValues (member "enumValues" members)
  possibleTypes : TellsItems TellsRef (s.toType t).possibleTypes (member "possibleTypes" members)

/-- The members of the object of a schema. -/
structure TellsSchema (s : TypeSystem) (members : List (String × Value)) : Prop where
  query : TellsRoot s.query (member "queryType" members)
  mutation : TellsRoot s.mutation (member "mutationType" members)
  types : TellsItems (fun t v => ∃ members, v = .obj members ∧ TellsType s t members) s.types
    (member "types" members)

end Document

/-- A toolkit whose introspection documents tell of the type systems. -/
def Sdl.Toolkit.IsTelling (toolkit : Toolkit) : Prop :=
  ∀ s document, toolkit.introspect s = .ok document →
    ∃ members, document = .obj [("__schema", .obj members)] ∧ Document.TellsSchema s members

namespace Document

/-! ## The standard toolkit -/

theorem tellsLinks_writeLinks (l : Link) (inner : List Link) :
    TellsLinks (l :: inner) (writeLinks l inner) := by
  induction inner generalizing l with
  | nil => exact ⟨_, rfl, rfl, rfl, rfl⟩
  | cons next inner ih => exact ⟨_, rfl, rfl, rfl, ih next⟩

theorem tellsField_writeField (f : Field) : TellsField f (writeField f) :=
  ⟨_, rfl, rfl, tellsLinks_writeLinks _ _⟩

theorem tellsItems_map {α : Type} {TellsItem : α → Value → Prop} {write : α → Value}
    (hwrite : ∀ a, TellsItem a (write a)) (items : List α) :
    TellsItems TellsItem items (.arr (items.map write)) := by
  refine Or.inl ⟨_, rfl, ?_⟩
  rw [List.forall₂_map_right_iff]
  exact List.forall₂_same.mpr fun a _ => hwrite a

theorem tellsRoot_writeRoot (root : Option String) :
    TellsRoot root (writeRoot ((root.map .str).getD .null)) := by
  cases root with
  | none => rfl
  | some name => exact ⟨_, rfl, rfl⟩

theorem tellsText_givenText (text : Option String) : TellsText text (Sdl.givenText text) := by
  cases text with
  | none => exact Or.inl rfl
  | some text =>
      rw [Sdl.givenText]
      split_ifs with hempty
      · exact Or.inr ⟨congrArg some hempty, rfl⟩
      · exact Or.inl rfl

theorem exists_tellsType_writeType (s : TypeSystem) (t : TypeDecl) :
    ∃ members, writeType (s.toType t) = .obj members ∧ TellsType s t members := by
  refine ⟨_, rfl, ?_, ?_, ?_, ?_, ?_, ?_, ?_⟩
  · exact congrArg some (s.name_toType t)
  · exact congrArg (fun kind : TypeKind => some (Value.str kind.tag)) (s.kind_toType t)
  · exact s.description_toType t ▸ tellsText_givenText t.description
  · exact tellsItems_map tellsField_writeField _
  · exact tellsItems_map tellsField_writeField _
  · exact tellsItems_map (fun v => ⟨_, rfl, rfl⟩) _
  · exact tellsItems_map (fun ref => tellsLinks_writeLinks _ _) _

theorem isTelling_standardToolkit : Sdl.standardToolkit.IsTelling := by
  intro s document h
  obtain ⟨-, -, rfl⟩ := Sdl.introspect_eq_ok_iff.mp h
  refine ⟨_, rfl, tellsRoot_writeRoot _, tellsRoot_writeRoot _, ?_⟩
  -- The types are written as the schema has them.
  change TellsItems _ s.types (.arr ((s.types.map s.toType).map writeType))
  rw [List.map_map]
  exact tellsItems_map (exists_tellsType_writeType s) s.types

/-! ## Reading -/

variable {s : TypeSystem} {v : Value}

theorem isTruthy_of_tellsLinks {l : Link} {inner : List Link} (h : TellsLinks (l :: inner) v) :
    v.isTruthy = true := by
  obtain ⟨members, rfl, hkind, -⟩ := h
  exact isTruthy_of_lookup? hkind

theorem readLinks_of_tellsLinks {l : Link} {inner : List Link} {budget : Nat}
    (hlength : inner.length < budget) (h : TellsLinks (l :: inner) v) :
    readLinks budget v = .ok (l :: inner) := by
  induction inner generalizing l budget v with
  | nil =>
      obtain ⟨budget, rfl⟩ := Nat.exists_eq_add_one_of_ne_zero (Nat.ne_of_gt hlength)
      obtain ⟨members, rfl, hkind, hname, hinner⟩ := h
      rw [TellsLinks] at hinner
      rw [readLinks_obj budget (isTruthy_of_lookup? hkind), member_of_lookup? hkind,
        member_of_lookup? hname, ofValue_tag, hinner]
      rfl
  | cons next inner ih =>
      obtain ⟨budget, rfl⟩ := Nat.exists_eq_add_one_of_ne_zero (Nat.ne_zero_of_lt hlength)
      obtain ⟨members, rfl, hkind, hname, hinner⟩ := h
      have hread := ih (Nat.lt_of_succ_lt_succ hlength) hinner
      rw [readLinks_obj budget (isTruthy_of_lookup? hkind), member_of_lookup? hkind,
        member_of_lookup? hname, ofValue_tag, if_pos (isTruthy_of_tellsLinks hinner), hread]
      rfl

theorem readRef_of_tellsRef {ref : TypeRef} (hlength : ref.inner.length ≤ maxDepth)
    (h : TellsRef ref v) :
    readRef v = .ok ref :=
  readRef_eq_ok_iff.mpr (readLinks_of_tellsLinks (Nat.lt_succ_of_le hlength) h)

theorem readField_of_tellsField {f : Field} (hlength : f.type.inner.length ≤ maxDepth)
    (h : TellsField f v) :
    readField v = .ok f := by
  obtain ⟨members, rfl, hname, htype⟩ := h
  exact readField_eq_ok_iff.mpr ⟨members, rfl, hname, readRef_of_tellsRef hlength htype⟩

theorem readEnumValue_of_tellsName {name : Value} (h : TellsName name v) :
    readEnumValue v = .ok name := by
  obtain ⟨members, rfl, hname⟩ := h
  exact required_eq_ok_iff.mpr ⟨members, rfl, hname⟩

theorem readRoot_of_tellsRoot {root : Option String} (h : TellsRoot root v) :
    readRoot v = .ok ((root.map .str).getD .null) := by
  cases root with
  | none =>
      obtain rfl : v = .null := h
      rfl
  | some name =>
      obtain ⟨members, rfl, hname⟩ := h
      rw [readRoot, if_pos (isTruthy_of_lookup? hname), optional_obj, member_of_lookup? hname]
      rfl

/-- An empty description is read as none. -/
theorem readDescription_of_tellsText {text : Option String} (h : TellsText text v) :
    readDescription v = Sdl.givenText text := by
  rcases h with rfl | ⟨rfl, rfl⟩
  · cases text with
    | none => rfl
    | some text =>
        by_cases hempty : text = "" <;>
          simp [readDescription, Sdl.givenText, Value.isTruthy, hempty]
  · rfl

theorem readEach_map_of_tellsItems {α β : Type} {TellsItem : α → Value → Prop}
    {f : Value → Except Fault β} {items : List α} (g : α → β)
    (hread : ∀ a ∈ items, ∀ w, TellsItem a w → f w = .ok (g a)) (h : TellsItems TellsItem items v) :
    readEach f v = .ok (items.map g) := by
  rcases h with ⟨values, rfl, hitems⟩ | ⟨rfl, rfl⟩
  · change values.mapM f = .ok (items.map g)
    rw [Outcome.mapM_eq_ok_iff]
    induction hitems with
    | nil => exact .nil
    | cons hhead _ ih =>
        obtain ⟨hfirst, hrest⟩ := List.forall_mem_cons.mp hread
        exact .cons (hfirst _ hhead) (ih hrest)
  · rfl

theorem readEach_of_tellsItems {α : Type} {TellsItem : α → Value → Prop}
    {f : Value → Except Fault α} {items : List α}
    (hread : ∀ a ∈ items, ∀ w, TellsItem a w → f w = .ok a) (h : TellsItems TellsItem items v) :
    readEach f v = .ok items := by
  simpa using readEach_map_of_tellsItems id hread h

theorem readType_of_tellsType {t : TypeDecl} {members : List (String × Value)}
    (h : TellsType s t members) :
    readType (.obj members) = .ok (s.toType t) := by
  refine readType_eq_ok_iff.mpr ⟨members, rfl, ?_, ?_, ?_, ?_, ?_, ?_, ?_⟩
  · rw [h.name, s.name_toType]
  · rw [member_of_lookup? h.kind, ofValue_tag, s.kind_toType]
  · rw [readDescription_of_tellsText h.description, s.description_toType]
  · exact readEach_of_tellsItems (fun f hf _ => readField_of_tellsField
      (TypeSystem.length_inner_of_mem_fields (List.mem_append_left _ hf))) h.fields
  · exact readEach_of_tellsItems (fun f hf _ => readField_of_tellsField
      (TypeSystem.length_inner_of_mem_fields (List.mem_append_right _ hf))) h.inputFields
  · exact readEach_of_tellsItems (fun _ _ _ => readEnumValue_of_tellsName) h.enumValues
  · refine readEach_of_tellsItems (fun ref href _ => readRef_of_tellsRef ?_) h.possibleTypes
    obtain ⟨name, rfl⟩ := TypeSystem.exists_link_of_mem_possibleTypes href
    exact Nat.zero_le _

/-- A document that tells of a type system is read as its schema. -/
theorem read_of_tellsSchema {members : List (String × Value)} (h : TellsSchema s members) :
    read (.obj [("__schema", .obj members)]) = .ok s.toSchema := by
  refine read_eq_ok_iff.mpr ⟨members, ⟨_, _, rfl, rfl, rfl⟩, readSchema_eq_ok_iff.mpr ⟨?_, ?_, ?_⟩⟩
  · exact readRoot_of_tellsRoot h.query
  · exact readRoot_of_tellsRoot h.mutation
  · refine readEach_map_of_tellsItems s.toType ?_ h.types
    rintro t - _ ⟨members, rfl, htells⟩
    exact readType_of_tellsType htells

end Document

/-- A text that builds and is introspected gives the schema of its type system. -/
theorem Load.readDefinitions_of_isTelling {toolkit : Toolkit} (htelling : toolkit.IsTelling)
    {text : String} {s : TypeSystem} (hbuild : toolkit.build text = .ok s) {document : Value}
    (hintrospect : toolkit.introspect s = .ok document) :
    Load.readDefinitions toolkit text = .ok s.toSchema := by
  obtain ⟨members, rfl, htells⟩ := htelling s document hintrospect
  rw [readDefinitions, hbuild]
  simp only [hintrospect, Document.read_of_tellsSchema htells]
  rfl

end FlowDecl
