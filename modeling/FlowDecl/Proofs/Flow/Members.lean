import FlowDecl.Proofs.Flow.Generation

/-!
# Members and what they mention

A field becomes a member if its innermost type is not ignored, and a possible type becomes a name of
a union if it is not ignored.  Sorting neither adds nor drops a member, so every name that the
declaration of a type mentions comes from one of its fields or one of its possible types.
-/

namespace FlowDecl
namespace Flow

open Json (Value)

/-! ## Fields -/

/-- The member of a field whose type has an expression. -/
def memberOf (f : Field) (e : TypeExpr) : Member :=
  .property f.name.display (!f.type.isNonNull) e

theorem fieldMember_of_long (o : Options) {f : Field} (h : f.type.root? = none) :
    fieldMember o f = .error .tooDeep := by
  rw [fieldMember, rootLink, h]
  rfl

theorem fieldMember_of_root (o : Options) {f : Field} {root : Link}
    (h : f.type.root? = some root) :
    fieldMember o f = (do
      if ← ofName (o.isIgnored root.name) then return none
      else (some ∘ memberOf f) <$> refExpression o f.type) := by
  rw [fieldMember, rootLink, h]
  change (do
    let ignored ← ofName (o.isIgnored root.name)
    if ignored then return none
    let type ← refExpression o f.type
    return some (memberOf f type)) = _
  cases o.isIgnored root.name with
  | error fault => rfl
  | ok ignored =>
      cases ignored with
      | true => rfl
      | false => cases refExpression o f.type <;> rfl

/-- A field whose innermost type has a text for a name gives a member unless the type is ignored. -/
theorem fieldMember_of_text (o : Options) {f : Field} {root : Link} {text : String}
    (h : f.type.root? = some root) (htext : root.name = .str text) :
    fieldMember o f =
      if o.ignored.contains text then .ok none
      else (some ∘ memberOf f) <$> refExpression o f.type := by
  rw [fieldMember_of_root o h, htext]
  rfl

/-- A field gives a member exactly if its innermost type is not ignored. -/
theorem fieldMember_eq_some_iff {o : Options} {f : Field} {m : Member} :
    fieldMember o f = .ok (some m) ↔
      ∃ root, f.type.root? = some root ∧ o.isIgnored root.name = .ok false ∧
        ∃ e, refExpression o f.type = .ok e ∧ memberOf f e = m := by
  cases hroot : f.type.root? with
  | none =>
      rw [fieldMember_of_long o hroot]
      simp
  | some root =>
      rw [fieldMember_of_root o hroot]
      cases hignored : o.isIgnored root.name with
      | error fault => simp [ofName, Except.mapError, bind, Except.bind, hignored]
      | ok ignored =>
          cases ignored with
          | true =>
              simp [ofName, Except.mapError, bind, Except.bind, pure, Except.pure, hignored]
          | false =>
              simp [ofName, Except.mapError, bind, Except.bind, Outcome.map_eq_ok_iff, hignored]

theorem fieldMembers_eq_map (o : Options) (fields : List Field) :
    fieldMembers o fields =
      sortMembers <$> (List.filterMap id <$> fields.mapM (fieldMember o)) := by
  rw [fieldMembers]
  cases fields.mapM (fieldMember o) <;> rfl

theorem fieldMembers_eq_ok_iff {o : Options} {fields : List Field} {members : List Member} :
    fieldMembers o fields = .ok members ↔
      ∃ results, fields.mapM (fieldMember o) = .ok results ∧
        sortMembers (results.filterMap id) = members := by
  rw [fieldMembers, Outcome.bind_eq_ok_iff]
  simp only [pure, Except.pure, Except.ok.injEq]

theorem fieldMembers_eq_error_iff {o : Options} {fields : List Field} {fault : Fault} :
    fieldMembers o fields = .error fault ↔ fields.mapM (fieldMember o) = .error fault := by
  rw [fieldMembers, Outcome.bind_eq_error_iff]
  simp [pure, Except.pure]

/-- The members of some fields are those that the fields give one by one. -/
theorem mem_fieldMembers_iff {o : Options} {fields : List Field} {members : List Member}
    (h : fieldMembers o fields = .ok members) {m : Member} :
    m ∈ members ↔ ∃ f ∈ fields, fieldMember o f = .ok (some m) := by
  obtain ⟨results, hresults, rfl⟩ := fieldMembers_eq_ok_iff.mp h
  rw [sortMembers, List.mem_mergeSort, List.mem_filterMap]
  simp only [id_eq, exists_eq_right, Outcome.mem_mapM_iff hresults]

theorem succeeds_fieldMembers_iff {o : Options} {fields : List Field} :
    Outcome.Succeeds (fieldMembers o fields) ↔
      ∀ f ∈ fields, Outcome.Succeeds (fieldMember o f) := by
  rw [← Outcome.succeeds_mapM_iff, fieldMembers, Outcome.succeeds_bind_iff]
  constructor
  · rintro ⟨results, hresults, -⟩
    exact ⟨results, hresults⟩
  · rintro ⟨results, hresults⟩
    exact ⟨results, hresults, Outcome.succeeds_ok _⟩

theorem structuralBody_eq_map (o : Options) (t : TypeDef) :
    structuralBody o t =
      (fun members => Body.members (if t.isInput then members else typenameMember :: members)) <$>
        fieldMembers o t.ownFields := by
  rw [structuralBody, TypeDef.ownFields]
  cases t.isInput <;> rfl

theorem structuralBody_eq_ok_iff {o : Options} {t : TypeDef} {body : Body} :
    structuralBody o t = .ok body ↔
      ∃ members, fieldMembers o t.ownFields = .ok members ∧
        Body.members (if t.isInput then members else typenameMember :: members) = body := by
  rw [structuralBody, TypeDef.ownFields]
  split
  next => simp only [Outcome.map_eq_ok_iff]
  next => simp only [Outcome.map_eq_ok_iff]

theorem structuralBody_eq_error_iff {o : Options} {t : TypeDef} {fault : Fault} :
    structuralBody o t = .error fault ↔ fieldMembers o t.ownFields = .error fault := by
  rw [structuralBody, TypeDef.ownFields]
  split
  next => simp only [Outcome.map_eq_error_iff]
  next => simp only [Outcome.map_eq_error_iff]

/-! ## Possible types -/

/-- The name that a possible type adds to a union: none if it has no name or is ignored. -/
def possibleName (o : Options) (ref : TypeRef) : Except Fault (Option String) := do
  if ref.outer.name.isNull then return none
  else if ← ofName (o.isIgnored ref.outer.name) then return none
  else return some (typeName ref.outer.name o)

theorem possibleNames_eq_map (o : Options) (t : TypeDef) :
    possibleNames o t = List.filterMap id <$> t.possibleTypes.mapM (possibleName o) := by
  change (do return (← t.possibleTypes.mapM (possibleName o)).filterMap id) = _
  cases t.possibleTypes.mapM (possibleName o) <;> rfl

theorem possibleNames_eq_ok_iff {o : Options} {t : TypeDef} {names : List String} :
    possibleNames o t = .ok names ↔
      ∃ results, t.possibleTypes.mapM (possibleName o) = .ok results ∧
        results.filterMap id = names := by
  rw [possibleNames, Outcome.bind_eq_ok_iff]
  simp only [pure, Except.pure, Except.ok.injEq]
  rfl

theorem isNull_iff {v : Value} :
    v.isNull = true ↔ v = .null := by
  cases v <;> simp [Value.isNull]

theorem possibleName_of_null (o : Options) {ref : TypeRef} (hnull : ref.outer.name = .null) :
    possibleName o ref = .ok none := by
  rw [possibleName, hnull]
  rfl

/-- A possible type that has a name adds it unless it is ignored. -/
theorem possibleName_of_ne_null (o : Options) {ref : TypeRef} (hname : ref.outer.name ≠ .null) :
    possibleName o ref =
      (fun ignored => if ignored then none else some (typeName ref.outer.name o)) <$>
        ofName (o.isIgnored ref.outer.name) := by
  have hnull : ¬ref.outer.name.isNull = true := fun h => hname (isNull_iff.mp h)
  rw [possibleName, if_neg hnull]
  cases o.isIgnored ref.outer.name with
  | error fault => rfl
  | ok ignored => cases ignored <;> rfl

theorem possibleName_eq_some_iff {o : Options} {ref : TypeRef} {name : String} :
    possibleName o ref = .ok (some name) ↔
      ref.outer.name ≠ .null ∧ o.isIgnored ref.outer.name = .ok false ∧
        typeName ref.outer.name o = name := by
  by_cases hnull : ref.outer.name = .null
  · simp [possibleName_of_null o hnull, hnull]
  · rw [possibleName_of_ne_null o hnull, Outcome.map_eq_ok_iff]
    simp only [ofName, Outcome.mapError_eq_ok_iff]
    simp [hnull]

theorem possibleName_eq_none_iff {o : Options} {ref : TypeRef} :
    possibleName o ref = .ok none ↔
      ref.outer.name = .null ∨ o.isIgnored ref.outer.name = .ok true := by
  by_cases hnull : ref.outer.name = .null
  · simp [possibleName_of_null o hnull, hnull]
  · rw [possibleName_of_ne_null o hnull, Outcome.map_eq_ok_iff]
    simp only [ofName, Outcome.mapError_eq_ok_iff]
    simp [hnull]

theorem possibleName_ne_tooDeep (o : Options) (ref : TypeRef) :
    possibleName o ref ≠ .error .tooDeep := by
  intro h
  by_cases hnull : ref.outer.name = .null
  · rw [possibleName_of_null o hnull] at h
    cases h
  · rw [possibleName_of_ne_null o hnull, Outcome.map_eq_error_iff] at h
    exact ofName_ne_tooDeep _ h

/-- A possible type whose name is a text adds its name unless it is ignored. -/
theorem possibleName_of_text (o : Options) {ref : TypeRef} {text : String}
    (htext : ref.outer.name = .str text) :
    possibleName o ref =
      .ok (if o.ignored.contains text then none else some (typeName ref.outer.name o)) := by
  rw [possibleName, htext]
  change (if o.ignored.contains text = true then Except.ok none
    else Except.ok (some (typeName (.str text) o))) = _
  rw [← apply_ite]

/-- The names of a union are those that its possible types give one by one. -/
theorem mem_possibleNames_iff {o : Options} {t : TypeDef} {names : List String}
    (h : possibleNames o t = .ok names) {name : String} :
    name ∈ names ↔ ∃ ref ∈ t.possibleTypes, possibleName o ref = .ok (some name) := by
  obtain ⟨results, hresults, rfl⟩ := possibleNames_eq_ok_iff.mp h
  rw [List.mem_filterMap]
  simp only [id_eq, exists_eq_right, Outcome.mem_mapM_iff hresults]

theorem succeeds_possibleNames {o : Options} {t : TypeDef}
    (h : ∀ ref ∈ t.possibleTypes, Outcome.Succeeds (possibleName o ref)) :
    Outcome.Succeeds (possibleNames o t) := by
  obtain ⟨results, hresults⟩ := Outcome.succeeds_mapM_iff.mpr h
  exact ⟨_, possibleNames_eq_ok_iff.mpr ⟨results, hresults, rfl⟩⟩

theorem possibleNames_ne_tooDeep (o : Options) (t : TypeDef) :
    possibleNames o t ≠ .error .tooDeep := by
  intro h
  rcases Outcome.bind_eq_error_iff.mp h with hnames | ⟨names, -, hpure⟩
  · obtain ⟨-, ref, -, -, -, href⟩ := Outcome.mapM_eq_error_iff.mp hnames
    exact possibleName_ne_tooDeep o ref href
  · cases hpure

/-- A union has no names exactly if its possible types have none or are ignored. -/
theorem possibleNames_eq_nil_iff {o : Options} {t : TypeDef} :
    possibleNames o t = .ok [] ↔
      ∀ ref ∈ t.possibleTypes,
        ref.outer.name = .null ∨ o.isIgnored ref.outer.name = .ok true := by
  simp only [← possibleName_eq_none_iff]
  constructor
  · intro h ref href
    obtain ⟨results, hresults, hnil⟩ := possibleNames_eq_ok_iff.mp h
    obtain ⟨result, hresult⟩ := Outcome.succeeds_mapM_iff.mp ⟨results, hresults⟩ ref href
    cases result with
    | none => exact hresult
    | some name =>
        have hname : name ∈ ([] : List String) := (mem_possibleNames_iff h).mpr ⟨ref, href, hresult⟩
        cases hname
  · intro h
    obtain ⟨names, hnames⟩ : Outcome.Succeeds (possibleNames o t) :=
      succeeds_possibleNames fun ref href => ⟨none, h ref href⟩
    have hnil : names = [] := by
      rw [List.eq_nil_iff_forall_not_mem]
      intro name hname
      obtain ⟨ref, href, hsome⟩ := (mem_possibleNames_iff hnames).mp hname
      rw [h ref href] at hsome
      cases hsome
    rw [hnames, hnil]

/-! ## Mentioned names -/

/-- The names of declarations that a member mentions. -/
def Member.mentions : Member → List String
  | .property _ _ type => type.mentions
  | .indexer _ type => type.mentions

/-- The names of declarations that a right side mentions. -/
def Body.mentions : Body → List String
  | .literals _ => []
  | .alias names => names
  | .members ms => ms.flatMap Member.mentions

/-- Possible names make an alias, unless there are none. -/
theorem choice_eq_ok_iff {names : Except Fault (List String)} {fields : Except Fault Body}
    {body : Body} :
    (do
      let names ← names
      if names.isEmpty then fields else return .alias names) = .ok body ↔
      (names = .ok [] ∧ fields = .ok body) ∨
        ∃ list, names = .ok list ∧ list ≠ [] ∧ .alias list = body := by
  cases names with
  | error fault => simp [bind, Except.bind]
  | ok list =>
      cases list with
      | nil => simp [bind, Except.bind]
      | cons name list => simp [bind, Except.bind, pure, Except.pure]

theorem choice_eq_error_iff {names : Except Fault (List String)} {fields : Except Fault Body}
    {fault : Fault} :
    (do
      let names ← names
      if names.isEmpty then fields else return .alias names) = .error fault ↔
      names = .error fault ∨ (names = .ok [] ∧ fields = .error fault) := by
  cases names with
  | error fault => simp [bind, Except.bind]
  | ok list =>
      cases list with
      | nil => simp [bind, Except.bind]
      | cons name list => simp [bind, Except.bind, pure, Except.pure]

/-- A right side is the literals of an enum, the names of a union or a structure. -/
theorem typeBody_cases {o : Options} {t : TypeDef} {body : Body} (h : typeBody o t = .ok body) :
    (t.kind = .enum ∧ body = .literals (t.enumValues.map fun v => v.display ++ o.suffix)) ∨
      (∃ names, possibleNames o t = .ok names ∧ body = .alias names) ∨
        structuralBody o t = .ok body := by
  rw [typeBody] at h
  split at h
  next hkind => exact Or.inl ⟨hkind, (Except.ok.inj h).symm⟩
  · rcases choice_eq_ok_iff.mp h with ⟨-, hfields⟩ | ⟨names, hnames, -, hbody⟩
    · exact Or.inr (Or.inr hfields)
    · exact Or.inr (Or.inl ⟨names, hnames, hbody.symm⟩)
  · rcases choice_eq_ok_iff.mp h with ⟨-, hfields⟩ | ⟨names, hnames, -, hbody⟩
    · exact Or.inr (Or.inr hfields)
    · exact Or.inr (Or.inl ⟨names, hnames, hbody.symm⟩)
  · exact Or.inr (Or.inr h)

/-- Every name that a right side mentions is the name of a possible type that is not ignored, or is
mentioned by the expression of a field whose innermost type is not ignored. -/
theorem mentions_typeBody {o : Options} {t : TypeDef} {body : Body}
    (h : typeBody o t = .ok body) {name : String} (hname : name ∈ body.mentions) :
    (∃ ref ∈ t.possibleTypes, ref.outer.name ≠ .null ∧
        o.isIgnored ref.outer.name = .ok false ∧ typeName ref.outer.name o = name) ∨
      ∃ f ∈ t.ownFields, ∃ root, f.type.root? = some root ∧
        o.isIgnored root.name = .ok false ∧
          ∃ e, refExpression o f.type = .ok e ∧ name ∈ e.mentions := by
  rcases typeBody_cases h with ⟨-, rfl⟩ | ⟨names, hnames, rfl⟩ | hfields
  · cases hname
  · left
    obtain ⟨ref, href, hpossible⟩ := (mem_possibleNames_iff hnames).mp hname
    exact ⟨ref, href, possibleName_eq_some_iff.mp hpossible⟩
  · right
    obtain ⟨members, hmembers, rfl⟩ := structuralBody_eq_ok_iff.mp hfields
    have hmember : ∃ m ∈ members, name ∈ m.mentions := by
      split at hname
      next => exact List.mem_flatMap.mp hname
      next =>
        obtain ⟨m, hm, hmention⟩ := List.mem_flatMap.mp hname
        rcases List.mem_cons.mp hm with rfl | hm
        · cases hmention
        · exact ⟨m, hm, hmention⟩
    obtain ⟨m, hm, hmention⟩ := hmember
    obtain ⟨f, hf, hfield⟩ := (mem_fieldMembers_iff hmembers).mp hm
    obtain ⟨root, hroot, hignored, e, he, rfl⟩ := fieldMember_eq_some_iff.mp hfield
    exact ⟨f, hf, root, hroot, hignored, e, he, hmention⟩

theorem succeeds_choice {names : Except Fault (List String)} {fields : Except Fault Body}
    (hnames : Outcome.Succeeds names) (hfields : Outcome.Succeeds fields) :
    Outcome.Succeeds (do
      let names ← names
      if names.isEmpty then fields else return .alias names) := by
  obtain ⟨list, rfl⟩ := hnames
  cases list with
  | nil => exact hfields
  | cons name list => exact Outcome.succeeds_ok _

/-- A right side exists where the names of possible types and the members of fields do. -/
theorem succeeds_typeBody {o : Options} {t : TypeDef}
    (hpossible : Outcome.Succeeds (possibleNames o t))
    (hfields : Outcome.Succeeds (fieldMembers o t.ownFields)) :
    Outcome.Succeeds (typeBody o t) := by
  obtain ⟨members, hmembers⟩ := hfields
  have hstructure : Outcome.Succeeds (structuralBody o t) :=
    ⟨_, structuralBody_eq_ok_iff.mpr ⟨members, hmembers, rfl⟩⟩
  rw [typeBody]
  split
  · exact Outcome.succeeds_ok _
  · exact succeeds_choice hpossible hstructure
  · exact succeeds_choice hpossible hstructure
  · exact hstructure

end Flow
end FlowDecl
