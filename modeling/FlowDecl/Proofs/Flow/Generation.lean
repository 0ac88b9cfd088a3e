import FlowDecl.Proofs.Flow.References

/-!
# What generation gives for each type

The declaration of a type is a name and a right side, and the two do not depend on each other: the
name follows from the kind alone, and only the right side can fail.  The declarations of a schema
are those of the types that are eligible and of a kind that is declared, in order.

The names that a right side mentions come from the possible types that are not ignored or from the
fields whose innermost type is not ignored, and from nothing else.
-/

namespace FlowDecl

open Json (Value)

/-- The fields that a type is declared with: the input fields of an input object, the fields of any
other type. -/
def TypeDef.ownFields (t : TypeDef) : List Field :=
  if t.isInput then t.inputFields else t.fields

namespace Flow

/-! ## Names and right sides -/

def isDeclaredKind : TypeKind → Bool
  | .scalar => false
  | .list => false
  | .nonNull => false
  | _ => true

def declaredName (o : Options) (t : TypeDef) : String :=
  generatedName o t.kind t.name

/-- The right side of the declaration of a type. -/
def typeBody (o : Options) (t : TypeDef) : Except Fault Body :=
  match t.kind with
  | .enum => .ok (.literals (t.enumValues.map fun v => v.display ++ o.suffix))
  | .interface | .union => do
    let names ← possibleNames o t
    if names.isEmpty then structuralBody o t else return .alias names
  | _ => structuralBody o t

/-- A declaration made of the right side that the possible names choose is the chosen right side,
made into a declaration. -/
theorem declareChoice_eq (names : Except Fault (List String)) (fields : Except Fault Body)
    (f : Body → Declaration) :
    (do
      let names ← names
      if names.isEmpty then return some (f (← fields)) else return some (f (.alias names))) =
    (some ∘ f) <$> (do
      let names ← names
      if names.isEmpty then fields else return .alias names) := by
  cases names with
  | error fault => rfl
  | ok names =>
      cases names with
      | nil => cases fields <;> rfl
      | cons name names => rfl

/-- A type of a kind that is declared gets its name and its right side, and only the right side can
fail. -/
theorem typeDeclaration_eq (o : Options) (t : TypeDef) :
    typeDeclaration o t =
      if isDeclaredKind t.kind then
        (some ∘ declare o t (declaredName o t)) <$> typeBody o t
      else .ok none := by
  rw [typeDeclaration, typeBody, declaredName, generatedName]
  cases hkind : t.kind with
  | scalar => rfl
  | list => rfl
  | nonNull => rfl
  | enum => rfl
  | object => cases structuralBody o t <;> rfl
  | inputObject => cases structuralBody o t <;> rfl
  | unrecognized => cases structuralBody o t <;> rfl
  | interface => exact declareChoice_eq _ _ _
  | union => exact declareChoice_eq _ _ _

/-! ## Types that are declared -/

/-- A name that is a text decides whether the type is eligible. -/
theorem isEligible_of_text (o : Options) {t : TypeDef} {name : String}
    (hname : t.name = .str name) :
    isEligible o t = .ok (!TypeDef.reservedName name && !o.ignored.contains name) := by
  rw [isEligible, TypeDef.isIntrospection, hname]
  cases hreserved : TypeDef.reservedName name with
  | true => simp [ofName, asText, Except.mapError, Functor.map, Except.map, bind, Except.bind,
      pure, Except.pure, hreserved]
  | false => simp [ofName, asText, Except.mapError, Functor.map, Except.map, bind, Except.bind,
      pure, Except.pure, hreserved, Options.isIgnored]

/-- A name that is no text has no beginning, and the type that bears it stops generation. -/
theorem isEligible_of_not_text (o : Options) {t : TypeDef}
    (hname : ∀ name, t.name ≠ .str name) :
    ∃ fault, isEligible o t = .error (.name fault) := by
  rw [isEligible, TypeDef.isIntrospection]
  cases h : t.name with
  | str name => exact absurd h (hname name)
  | _ => exact ⟨_, rfl⟩

theorem isEligible_eq_true_iff {o : Options} {t : TypeDef} :
    isEligible o t = .ok true ↔
      ∃ name, t.name = .str name ∧ TypeDef.reservedName name = false ∧ name ∉ o.ignored := by
  by_cases htext : ∃ name, t.name = .str name
  · obtain ⟨name, hname⟩ := htext
    rw [isEligible_of_text o hname]
    simp [hname]
  · have hname : ∀ name, t.name ≠ .str name := fun name h => htext ⟨name, h⟩
    obtain ⟨fault, hfault⟩ := isEligible_of_not_text o hname
    rw [hfault]
    constructor
    · intro h
      cases h
    · rintro ⟨name, h, -⟩
      exact absurd h (hname name)

theorem isEligible_ne_tooDeep (o : Options) (t : TypeDef) :
    isEligible o t ≠ .error .tooDeep := by
  by_cases htext : ∃ name, t.name = .str name
  · obtain ⟨name, hname⟩ := htext
    rw [isEligible_of_text o hname]
    simp
  · obtain ⟨fault, hfault⟩ := isEligible_of_not_text o (fun name h => htext ⟨name, h⟩)
    rw [hfault]
    simp

/-- Whether a type is declared: it is eligible, and its kind is declared. -/
def declares (o : Options) (t : TypeDef) : Bool :=
  match isEligible o t with
  | .ok eligible => eligible && isDeclaredKind t.kind
  | .error _ => false

theorem declares_iff {o : Options} {t : TypeDef} :
    declares o t = true ↔ isEligible o t = .ok true ∧ isDeclaredKind t.kind = true := by
  rw [declares]
  cases isEligible o t with
  | error fault => simp
  | ok eligible => cases eligible <;> simp

/-- A type that is declared gets its name and its right side; any other type gets nothing. -/
theorem eligibleDeclaration_eq (o : Options) (t : TypeDef) :
    eligibleDeclaration o t =
      if declares o t then (some ∘ declare o t (declaredName o t)) <$> typeBody o t
      else (fun _ => none) <$> isEligible o t := by
  rw [eligibleDeclaration, declares]
  cases isEligible o t with
  | error fault => rfl
  | ok eligible =>
      cases eligible with
      | false => rfl
      | true => exact typeDeclaration_eq o t

theorem eligibleDeclaration_eq_some_iff {o : Options} {t : TypeDef} {d : Declaration} :
    eligibleDeclaration o t = .ok (some d) ↔
      declares o t = true ∧
        ∃ body, typeBody o t = .ok body ∧ declare o t (declaredName o t) body = d := by
  rw [eligibleDeclaration_eq]
  split
  next hdeclares => simp [Outcome.map_eq_ok_iff, hdeclares]
  next hdeclares => simp [Outcome.map_eq_ok_iff, hdeclares]

theorem eligibleDeclaration_eq_tooDeep_iff {o : Options} {t : TypeDef} :
    eligibleDeclaration o t = .error .tooDeep ↔
      declares o t = true ∧ typeBody o t = .error .tooDeep := by
  rw [eligibleDeclaration_eq]
  split
  next hdeclares => simp [Outcome.map_eq_error_iff, hdeclares]
  next hdeclares =>
    simp [Outcome.map_eq_error_iff, hdeclares, isEligible_ne_tooDeep]

theorem succeeds_eligibleDeclaration {o : Options} {t : TypeDef}
    (heligible : Outcome.Succeeds (isEligible o t))
    (hbody : declares o t = true → Outcome.Succeeds (typeBody o t)) :
    Outcome.Succeeds (eligibleDeclaration o t) := by
  rw [eligibleDeclaration_eq]
  split
  next hdeclares =>
    obtain ⟨body, h⟩ := hbody hdeclares
    exact ⟨_, Outcome.map_eq_ok_iff.mpr ⟨body, h, rfl⟩⟩
  next =>
    obtain ⟨eligible, h⟩ := heligible
    exact ⟨_, Outcome.map_eq_ok_iff.mpr ⟨eligible, h, rfl⟩⟩

/-! ## The declarations of a schema -/

theorem declarations_eq_map (o : Options) (s : Schema) :
    declarations o s =
      (envelope o s ++ ·) <$> (List.filterMap id <$> s.types.mapM (eligibleDeclaration o)) := by
  rw [declarations]
  cases s.types.mapM (eligibleDeclaration o) <;> rfl

theorem declarations_eq_ok_iff {o : Options} {s : Schema} {ds : List Declaration} :
    declarations o s = .ok ds ↔
      ∃ types, s.types.mapM (eligibleDeclaration o) = .ok types ∧
        envelope o s ++ types.filterMap id = ds := by
  rw [declarations, Outcome.bind_eq_ok_iff]
  simp only [pure, Except.pure, Except.ok.injEq]

theorem declarations_eq_error_iff {o : Options} {s : Schema} {fault : Fault} :
    declarations o s = .error fault ↔
      s.types.mapM (eligibleDeclaration o) = .error fault := by
  rw [declarations, Outcome.bind_eq_error_iff]
  simp [pure, Except.pure]

/-- The declarations of some types are those of the types among them that are declared. -/
theorem mem_typeDeclarations_iff {o : Options} {types : List TypeDef}
    {results : List (Option Declaration)}
    (h : types.mapM (eligibleDeclaration o) = .ok results) {d : Declaration} :
    d ∈ results.filterMap id ↔
      ∃ t ∈ types, declares o t = true ∧
        ∃ body, typeBody o t = .ok body ∧ declare o t (declaredName o t) body = d := by
  rw [List.mem_filterMap]
  simp only [id_eq, exists_eq_right, Outcome.mem_mapM_iff h, eligibleDeclaration_eq_some_iff]

/-- The declarations of some types bear the names of the types that are declared, in the order of
the types. -/
theorem names_typeDeclarations {o : Options} {types : List TypeDef}
    {results : List (Option Declaration)}
    (h : types.mapM (eligibleDeclaration o) = .ok results) :
    (results.filterMap id).map (·.name) = (types.filter (declares o)).map (declaredName o) := by
  induction Outcome.mapM_eq_ok_iff.mp h with
  | nil => rfl
  | @cons t result types results hhead htail ih =>
      have hrest := ih (Outcome.mapM_eq_ok_iff.mpr htail)
      rw [eligibleDeclaration_eq] at hhead
      by_cases hdeclares : declares o t = true
      · rw [if_pos hdeclares] at hhead
        obtain ⟨body, -, rfl⟩ := Outcome.map_eq_ok_iff.mp hhead
        rw [List.filter_cons_of_pos hdeclares, List.map_cons, ← hrest]
        rfl
      · rw [if_neg hdeclares] at hhead
        obtain ⟨-, -, rfl⟩ := Outcome.map_eq_ok_iff.mp hhead
        rw [List.filter_cons_of_neg hdeclares, ← hrest]
        rfl

end Flow
end FlowDecl
