import FlowDecl.Proofs.Flow.DepthGuard

/-!
# Ignoring is erasing

Generation looks at the ignored names in three places, in between of rendering and sorting.  The
same result comes from a schema out of which the ignored types were taken beforehand: the types of
these names, the fields that end in them and the possible types of these names.  An interface or a
union whose last possible type is taken out is declared as a structure either way.

Some names can be ignored and others erased, so a schema can be erased in steps.  The roots stay, as
generation never asks whether they are ignored.
-/

namespace FlowDecl

open Json (Value)

/-- Whether a value is one of some names. -/
def Json.Value.isAmong (names : List String) : Value → Bool
  | .str text => names.contains text
  | _ => false

/-- The same settings with other ignored names. -/
def Options.ignoring (o : Options) (names : List String) : Options :=
  { o with ignored := names }

/-- Whether the reference of a field ends in one of some names. -/
def Field.endsIn (names : List String) (f : Field) : Bool :=
  f.type.innermost.name.isAmong names

/-- A type without the fields that end in some names and the possible types of these names. -/
def TypeDef.erase (names : List String) (t : TypeDef) : TypeDef :=
  { t with
    fields := t.fields.filter fun f => !f.endsIn names
    inputFields := t.inputFields.filter fun f => !f.endsIn names
    possibleTypes := t.possibleTypes.filter fun ref => !ref.outer.name.isAmong names }

/-- A schema without the types of some names and what leads to them.  The roots stay. -/
def Schema.erase (names : List String) (s : Schema) : Schema :=
  { s with
    types := (s.types.filter fun t => !t.name.isAmong names).map (TypeDef.erase names) }

/-- A type whose name is a text, with plain names in its references and references of at most
`maxDepth` steps. -/
structure TypeDef.IsPlain (t : TypeDef) : Prop where
  text : ∃ name, t.name = .str name
  names : t.HasPlainNames
  length : ∀ f ∈ t.ownFields, f.type.inner.length ≤ maxDepth

theorem Json.Value.isAmong_append (ignored erased : List String) (v : Value) :
    v.isAmong (ignored ++ erased) = (v.isAmong ignored || v.isAmong erased) := by
  cases v with
  | str text => simp [isAmong]
  | _ => rfl

theorem Options.isIgnored_of_plain (o : Options) {name : Value} (h : IsPlainName name) :
    o.isIgnored name = .ok (name.isAmong o.ignored) := by
  rcases h with rfl | ⟨text, rfl⟩
  · rfl
  · rfl

theorem TypeDef.ownFields_erase (names : List String) (t : TypeDef) :
    (t.erase names).ownFields = t.ownFields.filter fun f => !f.endsIn names := by
  have hinput : (t.erase names).isInput = t.isInput := rfl
  rw [TypeDef.ownFields, TypeDef.ownFields, hinput]
  split
  · rfl
  · rfl

namespace Flow

variable {o : Options} {ignored erased : List String} {t : TypeDef}

/-! ## Fields -/

/-- The expression of a reference does not depend on the ignored names. -/
theorem refExpression_ignoring (o : Options) (names : List String) (ref : TypeRef) :
    refExpression (o.ignoring names) ref = refExpression o ref := by
  have hbase : baseExpression (o.ignoring names) ref.links = baseExpression o ref.links := by
    rw [baseExpression, baseExpression]
    cases ref.links.dropWhile Link.isWrapper <;> rfl
  rw [refExpression, refExpression, linksExpression_eq, linksExpression_eq, hbase]

/-- A field that ends in a plain name gives its line unless the name is ignored. -/
theorem fieldMember_of_plain (o : Options) {f : Field}
    (hlength : f.type.inner.length ≤ maxDepth) (hname : IsPlainName f.type.innermost.name) :
    fieldMember o f =
      if f.endsIn o.ignored then .ok none
      else (some ∘ memberOf f) <$> refExpression o f.type := by
  have hroot : f.type.root? = some f.type.innermost := TypeRef.root?_eq_innermost hlength
  rw [fieldMember_of_root o hroot, Options.isIgnored_of_plain o hname]
  rfl

theorem fieldMember_ignoring {f : Field}
    (hlength : f.type.inner.length ≤ maxDepth) (hname : IsPlainName f.type.innermost.name) :
    fieldMember (o.ignoring (ignored ++ erased)) f =
      if !f.endsIn erased then fieldMember (o.ignoring ignored) f else .ok none := by
  rw [fieldMember_of_plain _ hlength hname, fieldMember_of_plain _ hlength hname,
    refExpression_ignoring, refExpression_ignoring]
  change (if f.type.innermost.name.isAmong (ignored ++ erased) then _ else _) =
    if !f.type.innermost.name.isAmong erased then
      if f.type.innermost.name.isAmong ignored then _ else _
    else _
  -- An erased field has no line whatever is ignored; any other is looked up in the rest.
  rw [Value.isAmong_append]
  cases f.type.innermost.name.isAmong erased with
  | true => simp
  | false => simp

/-- The members of the fields of a type are those of the fields that are not erased. -/
theorem fieldMembers_ignoring (ht : t.IsPlain) :
    fieldMembers (o.ignoring (ignored ++ erased)) t.ownFields =
      fieldMembers (o.ignoring ignored) (t.erase erased).ownFields := by
  have hmember : ∀ f ∈ t.ownFields, fieldMember (o.ignoring (ignored ++ erased)) f =
      if !f.endsIn erased then fieldMember (o.ignoring ignored) (id f) else .ok none := by
    intro f hf
    have hroot : f.type.innermost ∈ f.type.links := List.getLastD_mem_cons
    exact fieldMember_ignoring (ht.length f hf) (ht.names.fields f hf _ hroot)
  rw [fieldMembers_eq_map, fieldMembers_eq_map, Outcome.filterMap_mapM_eq hmember, List.map_id,
    TypeDef.ownFields_erase]

theorem structuralBody_ignoring (ht : t.IsPlain) :
    structuralBody (o.ignoring (ignored ++ erased)) t =
      structuralBody (o.ignoring ignored) (t.erase erased) := by
  rw [structuralBody_eq_map, structuralBody_eq_map, fieldMembers_ignoring ht]
  rfl

/-! ## Possible types -/

theorem possibleName_of_plain (o : Options) {ref : TypeRef} (hname : IsPlainName ref.outer.name) :
    possibleName o ref =
      .ok (if ref.outer.name.isNull || ref.outer.name.isAmong o.ignored then none
        else some (typeName ref.outer.name o)) := by
  rcases hname with hnull | ⟨text, htext⟩
  · rw [possibleName_of_null o hnull, hnull]
    rfl
  · rw [possibleName_of_text o htext, htext]
    rfl

/-- The names of the possible types of a type are those of the ones that are not erased. -/
theorem possibleNames_ignoring (ht : t.IsPlain) :
    possibleNames (o.ignoring (ignored ++ erased)) t =
      possibleNames (o.ignoring ignored) (t.erase erased) := by
  have hname : ∀ ref ∈ t.possibleTypes, possibleName (o.ignoring (ignored ++ erased)) ref =
      if !ref.outer.name.isAmong erased then possibleName (o.ignoring ignored) (id ref)
      else .ok none := by
    intro ref href
    have hplain := ht.names.possibleTypes ref href
    rw [id, possibleName_of_plain _ hplain, possibleName_of_plain _ hplain]
    change Except.ok (if ref.outer.name.isNull || ref.outer.name.isAmong (ignored ++ erased)
        then none else some (typeName ref.outer.name o)) =
      if !ref.outer.name.isAmong erased then
        .ok (if ref.outer.name.isNull || ref.outer.name.isAmong ignored
          then none else some (typeName ref.outer.name o))
      else .ok none
    rw [Value.isAmong_append]
    cases ref.outer.name.isAmong erased with
    | true => simp
    | false => simp
  rw [possibleNames_eq_map, possibleNames_eq_map, Outcome.filterMap_mapM_eq hname, List.map_id]
  rfl

/-! ## Types -/

theorem typeBody_ignoring (ht : t.IsPlain) :
    typeBody (o.ignoring (ignored ++ erased)) t =
      typeBody (o.ignoring ignored) (t.erase erased) := by
  have hkind : (t.erase erased).kind = t.kind := rfl
  rw [typeBody, typeBody, hkind, structuralBody_ignoring ht, possibleNames_ignoring ht]
  rfl

theorem typeDeclaration_ignoring (ht : t.IsPlain) :
    typeDeclaration (o.ignoring (ignored ++ erased)) t =
      typeDeclaration (o.ignoring ignored) (t.erase erased) := by
  rw [typeDeclaration_eq, typeDeclaration_eq, typeBody_ignoring ht]
  rfl

/-- A type that is erased gives nothing, and any other type gives the same as what is left of it. -/
theorem eligibleDeclaration_ignoring (ht : t.IsPlain) :
    eligibleDeclaration (o.ignoring (ignored ++ erased)) t =
      if !t.name.isAmong erased then eligibleDeclaration (o.ignoring ignored) (t.erase erased)
      else .ok none := by
  obtain ⟨name, hname⟩ := ht.text
  have herased : (t.erase erased).name = .str name := hname
  rw [eligibleDeclaration, eligibleDeclaration, isEligible_of_text _ hname,
    isEligible_of_text _ herased, typeDeclaration_ignoring ht, hname]
  change (if !TypeDef.reservedName name && !(ignored ++ erased).contains name then _ else _) =
    if !erased.contains name then
      if !TypeDef.reservedName name && !ignored.contains name then _ else _
    else _
  rw [List.contains_append]
  cases erased.contains name with
  | true => simp; rfl
  | false => simp

/-! ## Schemas -/

/-- Where names are plain and references are short enough, generation fails for depth only. -/
theorem declarations_fault_of_plain {s : Schema} (hs : ∀ t ∈ s.types, t.IsPlain)
    {fault : Fault} (hfault : declarations o s = .error fault) :
    fault = .tooDeep := by
  rw [declarations_eq_error_iff] at hfault
  obtain ⟨before, t, after, hsplit, -, ht⟩ := Outcome.mapM_eq_error_iff.mp hfault
  have hplain := hs t (by simp [hsplit])
  refine eligibleDeclaration_fault hplain.length hplain.names ?_ ht
  obtain ⟨name, hname⟩ := hplain.text
  simp [hname]

/-- To ignore some names and others besides is to erase the others and to ignore the first.  In
particular, to ignore names is to erase them.  Either way generation fails for depth only. -/
theorem declarations_erase {s : Schema} (hs : ∀ t ∈ s.types, t.IsPlain) (o : Options)
    (ignored erased : List String) :
    declarations (o.ignoring (ignored ++ erased)) s =
        declarations (o.ignoring ignored) (s.erase erased) ∧
      declarations (o.ignoring erased) s = declarations (o.ignoring []) (s.erase erased) ∧
        ∀ fault, declarations (o.ignoring erased) s = .error fault → fault = .tooDeep := by
  have herase : ∀ ignored, declarations (o.ignoring (ignored ++ erased)) s =
      declarations (o.ignoring ignored) (s.erase erased) := by
    intro ignored
    have htype : ∀ t ∈ s.types, eligibleDeclaration (o.ignoring (ignored ++ erased)) t =
        if !t.name.isAmong erased then eligibleDeclaration (o.ignoring ignored) (t.erase erased)
        else .ok none :=
      fun t ht => eligibleDeclaration_ignoring (hs t ht)
    rw [declarations_eq_map, declarations_eq_map, Outcome.filterMap_mapM_eq htype]
    rfl
  exact ⟨herase ignored, herase [], fun fault => declarations_fault_of_plain hs⟩

/-- A query for messages that are mails only, with a field for a secret. -/
def messageSchema : Schema where
  queryType := .str "Query"
  types := [
    { name := .str "Query", kind := .object, fields := [
        ⟨.str "inbox", ⟨{ kind := .list }, [⟨.union, .str "Message"⟩]⟩⟩,
        ⟨.str "secret", ⟨{ kind := .nonNull }, [⟨.object, .str "Secret"⟩]⟩⟩] },
    { name := .str "Message", kind := .union, possibleTypes := [⟨⟨.object, .str "Mail"⟩, []⟩] },
    { name := .str "Mail", kind := .object },
    { name := .str "Secret", kind := .object }]

theorem messageSchema_isPlain : ∀ t ∈ messageSchema.types, t.IsPlain := by
  intro t ht
  simp only [messageSchema, List.mem_cons, List.not_mem_nil, or_false] at ht
  rcases ht with rfl | rfl | rfl | rfl
  all_goals
    refine ⟨⟨_, rfl⟩, ⟨isPlainName_str _, ?_, ?_⟩, ?_⟩
    · simp [TypeDef.ownFields, TypeDef.isInput, TypeRef.links, IsPlainName]
    · simp [IsPlainName]
    · simp [TypeDef.ownFields, TypeDef.isInput, maxDepth]

/-- Mails are ignored and secrets are erased: the union of messages becomes a structure, and the
query loses its secret. -/
theorem declarations_messageSchema :
    (∀ t ∈ messageSchema.types, t.IsPlain) ∧
      declarations (Options.ignoring {} (["Mail"] ++ ["Secret"])) messageSchema =
          declarations (Options.ignoring {} ["Mail"]) (messageSchema.erase ["Secret"]) ∧
        declarations (Options.ignoring {} ["Secret"]) messageSchema =
            declarations (Options.ignoring {} []) (messageSchema.erase ["Secret"]) ∧
          ∀ fault, declarations (Options.ignoring {} ["Secret"]) messageSchema = .error fault →
            fault = .tooDeep :=
  ⟨messageSchema_isPlain, declarations_erase messageSchema_isPlain {} ["Mail"] ["Secret"]⟩

end Flow
end FlowDecl
