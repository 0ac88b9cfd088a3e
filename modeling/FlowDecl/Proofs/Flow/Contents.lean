import FlowDecl.Proofs.Flow.Decoding
import FlowDecl.Proofs.Flow.IgnoredTypes
import FlowDecl.Proofs.Flow.ReferenceTexts

/-!
# Contents of a schema

What the text of a schema should tell, said without declarations: the entries of the response
envelope and, in the order of the schema, one entry for each type that is neither reserved nor
ignored nor a scalar.  An entry holds the description, the identifier and the literals, the
possible types or the lines of the type.

The contents are made of the schema and the options alone.  Where the schema is legible, the names
and descriptions of declarations are those of the contents.
-/

namespace FlowDecl

open Json (Value)

/-! ## Legible schemas -/

/-- A name of GraphQL. -/
def IsGraphQLName (name : Value) : Prop :=
  ∃ text, name = .str text ∧ Sdl.isName text = true

/-- A description that is missing or does not end the comment that it is put into. -/
def StaysInComment (description : Value) : Prop :=
  description = .null ∨ ∃ text, description = .str text ∧ ¬['*', '/'] <:+: text.toList

/-- Options whose suffix consists of characters of names. -/
def Options.IsLegible (o : Options) : Prop :=
  ∀ c ∈ o.suffix.toList, Sdl.isNamePart c = true

instance (o : Options) : Decidable o.IsLegible :=
  decidable_of_iff (o.suffix.toList.all Sdl.isNamePart = true) List.all_eq_true

/-- Types that have names of GraphQL, fields that lead to such names, values if they are enums, and
a description that stays in its comment. -/
structure TypeDef.IsLegible (t : TypeDef) : Prop where
  name : IsGraphQLName t.name
  kind : t.kind.isWrapper = false
  description : StaysInComment t.description
  fields : ∀ f ∈ t.ownFields, IsGraphQLName f.name ∧
    ∃ target, f.type.LeadsTo target ∧ IsGraphQLName target.name
  possibleTypes : ∀ ref ∈ t.possibleTypes, IsGraphQLName ref.outer.name
  enumValues : t.kind = .enum →
    t.enumValues ≠ [] ∧ ∀ value ∈ t.enumValues, IsGraphQLName value

/-- Schemas of legible types, in which a root is missing or empty or has a name of GraphQL. -/
structure Schema.IsLegible (s : Schema) : Prop where
  roots : ∀ root ∈ [s.queryType, s.mutationType],
    root = .null ∨ root = .str "" ∨ IsGraphQLName root
  types : ∀ t ∈ s.types, t.IsLegible

namespace Flow

/-! ## Names -/

/-- The characters of a name, and none for what is no text. -/
def nameText : Value → String
  | .str text => text
  | _ => ""

/-- The identifier for a type of a kind and a name. -/
def identifier (o : Options) (kind : TypeKind) (name : Value) : String :=
  if kind = .enum then nameText name ++ "Enum" ++ o.suffix else nameText name ++ o.suffix

/-- The description that is told; an empty one counts as none. -/
def toldDescription : Value → Option String
  | .str text => if text = "" then none else some text
  | _ => none

/-- Whether a name is one of the ignored ones. -/
def isHidden (o : Options) (name : Value) : Bool :=
  o.ignored.contains (nameText name)

/-- Whether a name begins with two underscores. -/
def isInternal (name : Value) : Bool :=
  (nameText name).toList.take 2 = ['_', '_']

/-! ## Lines -/

/-- The text of a type with its arrays. -/
def Shape.text (shape : Shape) : String :=
  copies shape.arrays "Array<" ++ " | ".intercalate shape.words ++ copies shape.arrays ">"

def Line.text : Line → String
  | .property name optional shape =>
    name ++ (if optional then "?" else "") ++ ": " ++ shape.text ++ ";"
  | .indexer key shape => "[" ++ key ++ ": string]: " ++ shape.text ++ ";"

/-- The word for a link: the type of a scalar, and an identifier otherwise. -/
def wordOf (o : Options) (l : Link) : String :=
  if l.kind = .scalar then scalarText l.name else identifier o l.kind l.name

/-- The line of a field: an array for each list of the reference around the word of its end. -/
def lineOf (o : Options) (f : Field) : Line :=
  .property (nameText f.name) (f.type.outer.kind ≠ .nonNull)
    ⟨f.type.links.countP fun l => l.kind = .list, [wordOf o f.type.innermost]⟩

/-- The lines of the fields that are not based on ignored types, in the order of their texts. -/
def linesOf (o : Options) (fields : List Field) : List Line :=
  ((fields.filter fun f => !isHidden o f.type.innermost.name).map (lineOf o)).mergeSort
    fun a b => decide (a.text ≤ b.text)

/-! ## Entries -/

/-- The identifiers of the possible types that are not ignored, in the order of the schema. -/
def listedNames (o : Options) (t : TypeDef) : List String :=
  (t.possibleTypes.filter fun ref => !isHidden o ref.outer.name).map fun ref =>
    nameText ref.outer.name ++ o.suffix

/-- The lines of a type. -/
def structureOf (o : Options) (t : TypeDef) : Content :=
  .lines (if t.kind = .inputObject then linesOf o t.inputFields
    else .property "__typename" false ⟨0, ["string"]⟩ :: linesOf o t.fields)

/-- The right side for a type. -/
def contentOf (o : Options) (t : TypeDef) : Content :=
  match t.kind with
  | .enum => .literals (t.enumValues.map fun value => nameText value ++ o.suffix)
  | .interface | .union =>
    if (listedNames o t).isEmpty then structureOf o t else .names (listedNames o t)
  | _ => structureOf o t

def entryOf (o : Options) (t : TypeDef) : Entry :=
  { description := toldDescription t.description, exported := o.exported
    name := identifier o t.kind t.name, content := contentOf o t }

/-- Whether there is an entry for a type. -/
def hasEntry (o : Options) (t : TypeDef) : Bool :=
  !isInternal t.name && !isHidden o t.name && decide (t.kind ≠ .scalar)

/-- The identifiers of the root types that have a name. -/
def rootIdentifiers (o : Options) (s : Schema) : List String :=
  ([s.queryType, s.mutationType].filter fun root => nameText root ≠ "").map fun root =>
    nameText root ++ o.suffix

/-- The entries of the response envelope.  The line `data` has the roots. -/
def envelopeEntries (o : Options) (s : Schema) : List Entry :=
  [{ exported := o.exported
     name := "GraphQLResponseRoot" ++ o.suffix
     content := .lines
      [.property "data" true ⟨0, rootIdentifiers o s⟩,
        .property "errors" true ⟨1, ["GraphQLResponseError" ++ o.suffix]⟩] },
    { exported := o.exported
      name := "GraphQLResponseError" ++ o.suffix
      content := .lines
        [.property "message" false ⟨0, ["string"]⟩,
          .property "locations" true ⟨1, ["GraphQLResponseErrorLocation" ++ o.suffix]⟩,
          .indexer "propName" ⟨0, ["any"]⟩] },
    { exported := o.exported
      name := "GraphQLResponseErrorLocation" ++ o.suffix
      content := .lines
        [.property "line" false ⟨0, ["number"]⟩, .property "column" false ⟨0, ["number"]⟩] }]

/-- What the text of a schema should tell. -/
def contents (o : Options) (s : Schema) : List Entry :=
  envelopeEntries o s ++ (s.types.filter (hasEntry o)).map (entryOf o)

/-! ## Names of declarations -/

variable {o : Options}

theorem display_eq_nameText {name : Value} (h : IsGraphQLName name) :
    name.display = nameText name := by
  obtain ⟨text, rfl, -⟩ := h
  rfl

theorem typeName_eq {name : Value} (h : IsGraphQLName name) :
    typeName name o = nameText name ++ o.suffix := by
  rw [typeName, display_eq_nameText h]

theorem generatedName_eq_identifier {name : Value} (h : IsGraphQLName name) (kind : TypeKind) :
    generatedName o kind name = identifier o kind name := by
  rw [generatedName, identifier, enumName, typeName, display_eq_nameText h]

theorem descriptionOf_eq_toldDescription {description : Value} (h : StaysInComment description) :
    descriptionOf description = toldDescription description := by
  rcases h with rfl | ⟨text, rfl, -⟩
  · rfl
  · by_cases hempty : text = "" <;>
      simp [descriptionOf, toldDescription, Value.isTruthy, Value.display, hempty]

theorem ignores_eq_isHidden {name : Value} (h : IsGraphQLName name) :
    o.ignores name = isHidden o name := by
  obtain ⟨text, rfl, -⟩ := h
  rfl

theorem isReserved_eq_isInternal {name : Value} (h : IsGraphQLName name) :
    isReserved name = isInternal name := by
  obtain ⟨text, rfl, -⟩ := h
  have hprefix : "__".toList.isPrefixOf text.toList = true ↔ text.toList.take 2 = ['_', '_'] := by
    rw [List.isPrefixOf_iff_prefix, List.prefix_iff_eq_take]
    exact eq_comm
  rw [isReserved, isInternal, TypeDef.reservedName, Text.beginsWith, Bool.eq_iff_iff, hprefix,
    decide_eq_true_iff, nameText]

theorem rootNames_eq_rootIdentifiers {s : Schema}
    (h : ∀ root ∈ [s.queryType, s.mutationType], root = .null ∨ root = .str "" ∨
      IsGraphQLName root) :
    rootNames o s = rootIdentifiers o s := by
  have hroot : ∀ root ∈ [s.queryType, s.mutationType],
      (if root.isTruthy then some (typeName root o) else none) =
        if nameText root ≠ "" then some (nameText root ++ o.suffix) else none := by
    intro root hmem
    rcases h root hmem with rfl | rfl | ⟨text, rfl, -⟩
    · rfl
    · rfl
    · by_cases hempty : text = "" <;>
        simp [Value.isTruthy, nameText, typeName, Value.display, hempty]
  rw [rootNames, rootIdentifiers, List.filterMap_congr hroot, ← List.filterMap_eq_map',
    List.filterMap_filter]
  simp

/-- A possible type is listed unless it is ignored. -/
theorem possibleNames_eq_listedNames {t : TypeDef} (ht : t.IsLegible) :
    ((t.possibleTypes.filter (listsPossible o)).map fun ref => typeName ref.outer.name o) =
      listedNames o t := by
  have hlists : ∀ ref ∈ t.possibleTypes, listsPossible o ref = !isHidden o ref.outer.name := by
    intro ref href
    have hname := ht.possibleTypes ref href
    rw [listsPossible, ignores_eq_isHidden hname]
    obtain ⟨text, htext, -⟩ := hname
    rw [htext]
    rfl
  rw [listedNames, List.filter_congr hlists]
  refine List.map_congr_left fun ref href => ?_
  exact typeName_eq (ht.possibleTypes ref (List.mem_of_mem_filter href))

/-- A field is kept unless the name at the end of its reference is ignored. -/
theorem keepsField_eq {f : Field} {target : Link} (hleads : f.type.LeadsTo target)
    (hname : IsGraphQLName target.name) :
    keepsField o f = !isHidden o f.type.innermost.name := by
  rw [keepsField, hleads.root?_eq, hleads.innermost_eq, Option.all_some, ignores_eq_isHidden hname]

/-! ## Lines of members -/

theorem TypeExpr.shape_inArrays (e : TypeExpr) (n : Nat) :
    (e.inArrays n).shape = ⟨e.shape.arrays + n, e.shape.words⟩ := by
  induction n with
  | zero => rfl
  | succ n ih =>
      rw [TypeExpr.inArrays, TypeExpr.shape, ih]
      rfl

theorem TypeExpr.text_shape (e : TypeExpr) :
    e.shape.text = e.text := by
  induction e with
  | primitive p => simp [shape, Shape.text, TypeExpr.text, copies]
  | declared name => simp [shape, Shape.text, TypeExpr.text, copies]
  | union names => simp [shape, Shape.text, TypeExpr.text, copies]
  | array item ih =>
      calc (TypeExpr.array item).shape.text
          = "Array<" ++ item.shape.text ++ ">" := by
            simp only [shape, Shape.text, copies_succ item.shape.arrays "Array<",
              copies_succ' item.shape.arrays ">", String.append_assoc]
        _ = (TypeExpr.array item).text := by rw [ih, TypeExpr.text]

/-- The line of a member has the text of the member. -/
theorem Member.text_line (m : Member) :
    m.line.text = m.text := by
  cases m with
  | property name optional type =>
      rw [Member.line, Line.text, Member.text, TypeExpr.text_shape]
      cases optional <;> simp [String.append_assoc]
  | indexer key type => rw [Member.line, Line.text, Member.text, TypeExpr.text_shape]

/-- All lists of a reference that leads to a link are wrappers of the link. -/
theorem listDepth_of_leadsTo {ref : TypeRef} {target : Link} (h : ref.LeadsTo target) :
    listDepth ref.links = ref.links.countP fun l => l.kind = .list := by
  obtain ⟨before, hlinks, -, hwrap⟩ := h.chain
  have htarget : target.kind ≠ .list := by
    intro hkind
    have hplain := h.plain
    rw [Link.isWrapper, hkind] at hplain
    cases hplain
  rw [listDepth, hlinks, wrappers_append_plain hwrap h.plain, List.countP_append]
  simp [htarget]

/-- A field that leads to a name of GraphQL gives a member with its line. -/
theorem line_of_fieldMember {f : Field} {target : Link} {m : Member} (hf : IsGraphQLName f.name)
    (hleads : f.type.LeadsTo target) (hname : IsGraphQLName target.name)
    (h : fieldMember o f = .ok (some m)) :
    m.line = lineOf o f := by
  obtain ⟨-, -, -, e, he, rfl⟩ := fieldMember_eq_some_iff.mp h
  have hword : ∃ base, namedExpression o target = .ok base ∧ base.shape = ⟨0, [wordOf o target]⟩ := by
    obtain ⟨text, htext, -⟩ := id hname
    refine ⟨_, namedExpression_of_text o htext, ?_⟩
    rw [wordOf, generatedName_eq_identifier hname]
    split
    · rw [TypeExpr.shape, text_scalarPrimitive, htext]
    · rfl
  obtain ⟨base, hbase, hshape⟩ := hword
  rw [refExpression_of_leadsTo o hleads, hbase] at he
  rw [← Except.ok.inj he, memberOf, Member.line, lineOf, TypeExpr.shape_inArrays, hshape,
    hleads.innermost_eq, listDepth_of_leadsTo hleads, display_eq_nameText hf, Nat.zero_add,
    TypeRef.isNonNull, decide_not]

end Flow
end FlowDecl
