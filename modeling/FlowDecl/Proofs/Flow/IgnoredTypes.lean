import FlowDecl.Proofs.Flow.ClosedSchema
import FlowDecl.Proofs.Schema.DocumentReading

/-!
# Ignored types

A type that is ignored is left out of the declarations of types in three ways.  It has no
declaration, a field whose innermost type it is has no line, and an alias does not list it.  What is
not ignored is not left out: the declarations, the lines and the listed names correspond one by one
to the types, the fields and the possible types that are kept.

The response envelope is made without a look at the ignored names.  The member `data` lists the
names of both root types, and so an ignored type is still referred to exactly if it is a root.
-/

namespace FlowDecl

open Json (Value)

/-- Whether a name is one of the ignored names. -/
def Options.ignores (o : Options) : Value → Bool
  | .str text => o.ignored.contains text
  | _ => false

theorem Options.eq_ignores_of_isIgnored {o : Options} {name : Value} {ignored : Bool}
    (h : o.isIgnored name = .ok ignored) :
    ignored = o.ignores name := by
  cases name with
  | null => exact (Except.ok.inj h).symm
  | str text => exact (Except.ok.inj h).symm
  | _ =>
      obtain ⟨-, -, rfl⟩ := Outcome.map_eq_ok_iff.mp h
      rfl

/-- Schemas in which the names of types are texts, every field leads to a link whose name is a text,
and the names of possible types and of roots are texts or missing. -/
structure Schema.HasNamedReferences (s : Schema) : Prop where
  text : ∀ t ∈ s.types, ∃ name, t.name = .str name
  fields : ∀ t ∈ s.types, ∀ f ∈ t.ownFields,
    ∃ target, f.type.LeadsTo target ∧ ∃ name, target.name = .str name
  possibleTypes : ∀ t ∈ s.types, ∀ ref ∈ t.possibleTypes, IsPlainName ref.outer.name
  queryType : IsPlainName s.queryType
  mutationType : IsPlainName s.mutationType

namespace Flow

/-! ## What is kept -/

/-- A field is kept unless its innermost type is ignored. -/
def keepsField (o : Options) (f : Field) : Bool :=
  f.type.root?.all fun root => !o.ignores root.name

/-- A possible type is listed if it has a name that is not ignored. -/
def listsPossible (o : Options) (ref : TypeRef) : Bool :=
  !ref.outer.name.isNull && !o.ignores ref.outer.name

/-- The line of a field has the name and the expression of the field. -/
def IsLineOf (o : Options) (f : Field) (m : Member) : Prop :=
  ∃ e, refExpression o f.type = .ok e ∧ memberOf f e = m

/-- A right side for a type that leaves out what is ignored and nothing else: the literals of an
enum, the possible types that are listed, or the lines of the fields that are kept, in some
order. -/
inductive OmitsIgnored (o : Options) (t : TypeDef) : Body → Prop where
  | literals (hkind : t.kind = .enum) :
      OmitsIgnored o t (.literals (t.enumValues.map fun v => v.display ++ o.suffix))
  | alias :
      OmitsIgnored o t (.alias
        ((t.possibleTypes.filter (listsPossible o)).map fun ref => typeName ref.outer.name o))
  | members {lines members : List Member}
      (hlines : List.Forall₂ (IsLineOf o) (t.ownFields.filter (keepsField o)) lines)
      (horder : members.Perm (if t.isInput then lines else typenameMember :: lines)) :
      OmitsIgnored o t (.members members)

/-- A declaration is that of a type which is not ignored, and leaves out what is ignored. -/
structure DeclaresWithoutIgnored (o : Options) (t : TypeDef) (d : Declaration) : Prop where
  type : o.ignores t.name = false
  name : d.name = declaredName o t
  body : OmitsIgnored o t d.body

/-- A field that has an outcome has a line exactly if it is kept. -/
theorem isSome_of_fieldMember {o : Options} {f : Field} {result : Option Member}
    (h : fieldMember o f = .ok result) :
    result.isSome = keepsField o f := by
  rw [keepsField]
  cases hroot : f.type.root? with
  | none =>
      rw [fieldMember_of_long o hroot] at h
      cases h
  | some root =>
      rw [fieldMember_of_root o hroot, Outcome.bind_eq_ok_iff] at h
      obtain ⟨ignored, hignored, h⟩ := h
      have hignores := Options.eq_ignores_of_isIgnored (Outcome.mapError_eq_ok_iff.mp hignored)
      rw [Option.all_some, ← hignores]
      cases ignored with
      | true =>
          cases h
          rfl
      | false =>
          obtain ⟨e, -, rfl⟩ := Outcome.map_eq_ok_iff.mp h
          rfl

/-- The members of some fields are the lines of the fields that are kept, in some order. -/
theorem exists_lines_of_fieldMembers {o : Options} {fields : List Field} {members : List Member}
    (h : fieldMembers o fields = .ok members) :
    ∃ lines, List.Forall₂ (IsLineOf o) (fields.filter (keepsField o)) lines ∧
      members.Perm lines := by
  obtain ⟨results, hresults, rfl⟩ := fieldMembers_eq_ok_iff.mp h
  have hlines := Outcome.forall₂_filter_of_mapM
    (fun f _ result hresult => isSome_of_fieldMember hresult) hresults
  refine ⟨results.filterMap id, hlines.imp ?_, List.mergeSort_perm _ _⟩
  intro f m hmember
  obtain ⟨-, -, -, e, he, hm⟩ := fieldMember_eq_some_iff.mp hmember
  exact ⟨e, he, hm⟩

/-- A possible type that has an outcome gives a name exactly if it is listed. -/
theorem isSome_of_possibleName {o : Options} {ref : TypeRef} {result : Option String}
    (h : possibleName o ref = .ok result) :
    result.isSome = listsPossible o ref := by
  rw [listsPossible]
  by_cases hnull : ref.outer.name = .null
  · rw [possibleName_of_null o hnull] at h
    cases h
    rw [hnull]
    rfl
  · rw [possibleName_of_ne_null o hnull] at h
    obtain ⟨ignored, hignored, rfl⟩ := Outcome.map_eq_ok_iff.mp h
    have hignores := Options.eq_ignores_of_isIgnored (Outcome.mapError_eq_ok_iff.mp hignored)
    have hname : ref.outer.name.isNull = false := by
      rw [Bool.eq_false_iff]
      exact fun h => hnull (isNull_iff.mp h)
    rw [hname, ← hignores]
    cases ignored <;> rfl

/-- The possible names of a type are the names of the possible types that are listed, in order. -/
theorem eq_of_possibleNames {o : Options} {t : TypeDef} {names : List String}
    (h : possibleNames o t = .ok names) :
    names =
      (t.possibleTypes.filter (listsPossible o)).map fun ref => typeName ref.outer.name o := by
  obtain ⟨results, hresults, rfl⟩ := possibleNames_eq_ok_iff.mp h
  have hnames := Outcome.forall₂_filter_of_mapM
    (fun ref _ result hresult => isSome_of_possibleName hresult) hresults
  symm
  rw [← List.forall₂_eq_eq_eq, List.forall₂_map_left_iff]
  exact hnames.imp fun ref name hname => (possibleName_eq_some_iff.mp hname).2.2

/-- A right side leaves out what is ignored and nothing else. -/
theorem omitsIgnored_of_typeBody {o : Options} {t : TypeDef} {body : Body}
    (h : typeBody o t = .ok body) :
    OmitsIgnored o t body := by
  rcases typeBody_cases h with ⟨hkind, rfl⟩ | ⟨names, hnames, rfl⟩ | hfields
  · exact .literals hkind
  · rw [eq_of_possibleNames hnames]
    exact .alias
  · obtain ⟨members, hmembers, rfl⟩ := structuralBody_eq_ok_iff.mp hfields
    obtain ⟨lines, hlines, horder⟩ := exists_lines_of_fieldMembers hmembers
    refine .members hlines ?_
    split
    · exact horder
    · exact horder.cons typenameMember

/-! ## Schemas -/

theorem ignores_of_declares {o : Options} {t : TypeDef} (h : declares o t = true) :
    o.ignores t.name = false := by
  obtain ⟨heligible, -⟩ := declares_iff.mp h
  obtain ⟨name, hname, -, hkept⟩ := isEligible_eq_true_iff.mp heligible
  rw [hname, Options.ignores]
  simpa using hkept

/-- A type that has an outcome gives a declaration exactly if it is declared. -/
theorem isSome_of_eligibleDeclaration {o : Options} {t : TypeDef} {result : Option Declaration}
    (h : eligibleDeclaration o t = .ok result) :
    result.isSome = declares o t := by
  rw [eligibleDeclaration_eq] at h
  split at h
  next hdeclares =>
    obtain ⟨body, -, rfl⟩ := Outcome.map_eq_ok_iff.mp h
    exact hdeclares.symm
  next hdeclares =>
    obtain ⟨eligible, -, rfl⟩ := Outcome.map_eq_ok_iff.mp h
    exact (Bool.eq_false_iff.mpr hdeclares).symm

/-- The declarations of some types leave out what is ignored, one for each type that is declared. -/
theorem declaresWithoutIgnored_of_mapM {o : Options} {types : List TypeDef}
    {results : List (Option Declaration)}
    (h : types.mapM (eligibleDeclaration o) = .ok results) :
    List.Forall₂ (DeclaresWithoutIgnored o) (types.filter (declares o))
      (results.filterMap id) := by
  have hdeclared := Outcome.forall₂_filter_of_mapM
    (fun t _ result hresult => isSome_of_eligibleDeclaration hresult) h
  refine hdeclared.imp ?_
  intro t d hd
  obtain ⟨hdeclares, body, hbody, rfl⟩ := eligibleDeclaration_eq_some_iff.mp hd
  exact ⟨ignores_of_declares hdeclares, rfl, omitsIgnored_of_typeBody hbody⟩

/-- Every type has an outcome where references lead to names. -/
theorem succeeds_eligibleDeclaration_of_named {s : Schema} (hs : s.HasNamedReferences)
    (o : Options) {t : TypeDef} (ht : t ∈ s.types) :
    Outcome.Succeeds (eligibleDeclaration o t) := by
  obtain ⟨name, hname⟩ := hs.text t ht
  apply succeeds_eligibleDeclaration
  · exact ⟨_, isEligible_of_text o hname⟩
  · intro
    apply succeeds_typeBody
    · apply succeeds_possibleNames
      intro ref href
      rcases hs.possibleTypes t ht ref href with hnull | ⟨text, htext⟩
      · exact ⟨none, possibleName_of_null o hnull⟩
      · exact ⟨_, possibleName_of_text o htext⟩
    · apply succeeds_fieldMembers_iff.mpr
      intro f hf
      obtain ⟨target, hleads, text, htext⟩ := hs.fields t ht f hf
      exact succeeds_fieldMember_of_leadsTo o hleads htext

theorem typeName_eq_iff_of_isPlainName {o : Options} {root : Value} (h : IsPlainName root)
    {name : String} :
    (root.isTruthy = true ∧ typeName root o = typeName (.str name) o) ↔
      name ≠ "" ∧ root = .str name := by
  rcases h with rfl | ⟨text, rfl⟩
  · simp [Value.isTruthy]
  · simp only [typeName, Value.display, String.append_left_inj, Value.isTruthy, bne_iff_ne,
      Value.str.injEq]
    constructor
    · rintro ⟨hne, rfl⟩
      exact ⟨hne, rfl⟩
    · rintro ⟨hne, rfl⟩
      exact ⟨hne, rfl⟩

/-- The member `data` lists a name exactly if it is that of a root and not empty. -/
theorem typeName_mem_rootNames_iff {o : Options} {s : Schema}
    (hquery : IsPlainName s.queryType) (hmutation : IsPlainName s.mutationType) {name : String} :
    typeName (.str name) o ∈ rootNames o s ↔
      name ≠ "" ∧ (s.queryType = .str name ∨ s.mutationType = .str name) := by
  have hmem : typeName (.str name) o ∈ rootNames o s ↔
      ∃ root ∈ [s.queryType, s.mutationType],
        root.isTruthy = true ∧ typeName root o = typeName (.str name) o := by
    rw [rootNames, List.mem_filterMap]
    simp only [Option.ite_none_right_eq_some, Option.some.injEq]
  rw [hmem, and_or_left, ← typeName_eq_iff_of_isPlainName (o := o) hquery,
    ← typeName_eq_iff_of_isPlainName (o := o) hmutation]
  simp

/-- Generation has a result where references lead to names, and the declarations of types leave out
what is ignored. -/
theorem exists_declarations_of_named {s : Schema} (hs : s.HasNamedReferences) (o : Options) :
    ∃ types, declarations o s = .ok (envelope o s ++ types) ∧
      List.Forall₂ (DeclaresWithoutIgnored o) (s.types.filter (declares o)) types := by
  obtain ⟨results, hresults⟩ := Outcome.succeeds_mapM_iff.mpr
    fun t ht => succeeds_eligibleDeclaration_of_named hs o ht
  have hdeclarations := declarations_eq_ok_iff.mpr ⟨results, hresults, rfl⟩
  exact ⟨results.filterMap id, hdeclarations, declaresWithoutIgnored_of_mapM hresults⟩

/-- Where references lead to names, the declarations of types leave out what is ignored, and the
member `data` lists the roots, whether they are ignored or not. -/
theorem ignored_only_in_data {s : Schema} (hs : s.HasNamedReferences) (o : Options) :
    ∃ types, declarations o s = .ok (envelope o s ++ types) ∧
      List.Forall₂ (DeclaresWithoutIgnored o) (s.types.filter (declares o)) types ∧
        ∀ name, typeName (.str name) o ∈ rootNames o s ↔
          name ≠ "" ∧ (s.queryType = .str name ∨ s.mutationType = .str name) := by
  obtain ⟨types, hdeclarations, htypes⟩ := exists_declarations_of_named hs o
  refine ⟨types, hdeclarations, htypes, ?_⟩
  intro name
  exact typeName_mem_rootNames_iff hs.queryType hs.mutationType

/-! ## An ignored root -/

/-- A query root with a field for a secret. -/
def secretSchema : Schema where
  queryType := .str "Query"
  types := [
    { name := .str "Query", kind := .object, fields := [
        ⟨.str "secret", ⟨⟨.object, .str "Secret"⟩, []⟩⟩] },
    { name := .str "Secret", kind := .object }]

theorem secretSchema_hasNamedReferences : secretSchema.HasNamedReferences := by
  have hsecret : TypeRef.LeadsTo ⟨⟨.object, .str "Secret"⟩, []⟩ ⟨.object, .str "Secret"⟩ :=
    TypeRef.leadsTo_outer rfl (by simp)
  refine ⟨?_, ?_, ?_, Or.inr ⟨_, rfl⟩, Or.inl rfl⟩
  · simp [secretSchema]
  · intro t ht f hf
    simp only [secretSchema, List.mem_cons, List.not_mem_nil, or_false] at ht
    rcases ht with rfl | rfl
    · obtain rfl := List.mem_singleton.mp hf
      exact ⟨_, hsecret, _, rfl⟩
    · cases hf
  · simp [secretSchema]

/-- The secret is left out, and the query root, which is not ignored, loses its field. -/
theorem secretSchema_without_secret :
    secretSchema.HasNamedReferences ∧
      ∃ types, declarations { ignored := ["Secret"] } secretSchema =
          .ok (envelope { ignored := ["Secret"] } secretSchema ++ types) ∧
        List.Forall₂ (DeclaresWithoutIgnored { ignored := ["Secret"] })
          (secretSchema.types.filter (declares { ignored := ["Secret"] })) types ∧
          ∀ name, typeName (.str name) { ignored := ["Secret"] } ∈
              rootNames { ignored := ["Secret"] } secretSchema ↔
            name ≠ "" ∧
              (secretSchema.queryType = .str name ∨ secretSchema.mutationType = .str name) :=
  ⟨secretSchema_hasNamedReferences,
    ignored_only_in_data secretSchema_hasNamedReferences { ignored := ["Secret"] }⟩

/-- A root that is ignored is still listed by the member `data`. -/
theorem exists_ignored_root :
    ¬∀ (o : Options) (s : Schema), s.HasNamedReferences → ∀ ds, declarations o s = .ok ds →
      ∀ name ∈ o.ignored, ∀ d ∈ ds, ∀ members names, d.body = .members members →
        .property "data" true (.union names) ∈ members → typeName (.str name) o ∉ names := by
  intro h
  obtain ⟨types, hdeclarations, -⟩ :=
    exists_declarations_of_named secretSchema_hasNamedReferences { ignored := ["Query"] }
  have hroot := h _ _ secretSchema_hasNamedReferences _ hdeclarations "Query"
    (List.mem_singleton_self _) _ List.mem_cons_self _ _ rfl List.mem_cons_self
  apply hroot
  rw [typeName_mem_rootNames_iff (Or.inr ⟨_, rfl⟩) (Or.inl rfl)]
  exact ⟨by decide, Or.inl rfl⟩

end Flow
end FlowDecl
