import FlowDecl.Module.Build
import FlowDecl.Proofs.Flow.DepthGuard
import FlowDecl.Proofs.Flow.IgnoredTypes
import FlowDecl.Schema.Load

/-!
# Names that generation cannot use

A document is read without a look at what its names are, and generation asks them for more than a
text or a number gives.  The name of a type must have a beginning.  The name that a field ends in
and that of a possible type are looked up among the ignored names, and that of a scalar among the
scalars of Flow; a list and an object cannot be looked up.

A fault of this sort is not reported.  Generation ends in one exactly if it comes to such a name
before it comes to a reference that is too deep; all other faults of a document are reported.
-/

namespace FlowDecl

open Json (Value)
open Outcome (MeetsBefore)

theorem Options.isIgnored_eq (o : Options) (name : Value) :
    o.isIgnored name = (fun _ => o.ignores name) <$> asKey name := by
  cases name <;> rfl

theorem Options.isIgnored_eq_ok_iff {o : Options} {name : Value} {ignored : Bool} :
    o.isIgnored name = .ok ignored ↔ name.hashable = true ∧ o.ignores name = ignored := by
  rw [Options.isIgnored_eq, asKey]
  cases name.hashable with
  | true => simp [Functor.map, Except.map]
  | false => simp [Functor.map, Except.map]

namespace Flow

/-- A computation that ends in a fault of a name. -/
def MissesName {α : Type} (x : Except Fault α) : Prop :=
  ∃ fault, x = .error (.name fault)

variable {α β : Type} {o : Options}

theorem missesName_iff {x : Except Fault α} :
    MissesName x ↔ ∃ fault, x = .error fault ∧ fault ≠ .tooDeep := by
  constructor
  · rintro ⟨fault, rfl⟩
    exact ⟨_, rfl, by simp⟩
  · rintro ⟨fault, rfl, hfault⟩
    cases fault with
    | tooDeep => exact absurd rfl hfault
    | name fault => exact ⟨fault, rfl⟩

theorem missesName_map_iff {x : Except Fault α} {f : α → β} :
    MissesName (f <$> x) ↔ MissesName x := by
  simp only [MissesName, Outcome.map_eq_error_iff]

/-- Items miss a name exactly if one of them does and none before it is too deep. -/
theorem missesName_mapM_iff {f : α → Except Fault β} {items : List α} :
    MissesName (items.mapM f) ↔
      MeetsBefore (fun a => MissesName (f a)) (fun a => f a = .error .tooDeep) items := by
  rw [missesName_iff, Outcome.exists_mapM_eq_error_iff]
  exact Outcome.meetsBefore_congr (fun a _ => missesName_iff.symm) (fun a _ => by simp)

/-- Items are too deep exactly if one of them is and none before it misses a name. -/
theorem mapM_eq_tooDeep_iff {f : α → Except Fault β} {items : List α} :
    items.mapM f = .error .tooDeep ↔
      MeetsBefore (fun a => f a = .error .tooDeep) (fun a => MissesName (f a)) items := by
  have hdeep {γ : Type} (x : Except Fault γ) :
      x = .error .tooDeep ↔ ∃ fault, x = .error fault ∧ fault = .tooDeep := by
    simp
  rw [hdeep, Outcome.exists_mapM_eq_error_iff]
  exact Outcome.meetsBefore_congr (fun a _ => (hdeep _).symm) (fun a _ => missesName_iff.symm)

/-! ## Fields -/

/-- A scalar whose name cannot be looked up. -/
def IsMisnamedScalar (l : Link) : Prop :=
  l.kind = .scalar ∧ l.name.hashable = false

/-- A field that ends in a name which cannot be looked up, or that is not ignored and whose first
link after the wrappers is a scalar of such a name. -/
def IsMisnamed (o : Options) (f : Field) : Prop :=
  f.type.innermost.name.hashable = false ∨
    o.ignores f.type.innermost.name = false ∧
      ∃ l ∈ (f.type.links.dropWhile Link.isWrapper).head?, IsMisnamedScalar l

/-- A field that is not ignored and whose reference is cut off. -/
def IsOverlong (o : Options) (f : Field) : Prop :=
  f.type.IsCutOff ∧ f.type.innermost.name.hashable = true ∧
    o.ignores f.type.innermost.name = false

theorem missesName_namedExpression_iff {l : Link} :
    MissesName (namedExpression o l) ↔ IsMisnamedScalar l := by
  rw [namedExpression, IsMisnamedScalar]
  by_cases hnull : l.name = .null
  · simp [MissesName, hnull, Value.isNull, Value.hashable]
  · rw [if_neg fun h => hnull (isNull_iff.mp h)]
    cases l.kind with
    | scalar =>
        cases hname : l.name with
        | null => exact absurd hname hnull
        | _ => simp [MissesName, ofName, scalarExpression, asKey, Value.hashable, Functor.map,
            Except.map, Except.mapError]
    | _ => simp [MissesName]

theorem missesName_baseExpression_iff {links : List Link} :
    MissesName (baseExpression o links) ↔
      ∃ l ∈ (links.dropWhile Link.isWrapper).head?, IsMisnamedScalar l := by
  rw [baseExpression]
  cases links.dropWhile Link.isWrapper with
  | nil => simp [MissesName]
  | cons l rest => simp [missesName_namedExpression_iff]

/-- The expression of a reference of at most `maxDepth` steps misses a name exactly if the first
link after the wrappers is a scalar of such a name. -/
theorem missesName_refExpression_iff {ref : TypeRef} (hlength : ref.inner.length ≤ maxDepth) :
    MissesName (refExpression o ref) ↔
      ∃ l ∈ (ref.links.dropWhile Link.isWrapper).head?, IsMisnamedScalar l := by
  rw [← missesName_baseExpression_iff, refExpression, linksExpression_eq, Nat.zero_add]
  split
  next hdeep =>
    -- A reference that is too deep consists of wrappers, and nothing comes after them.
    have hcut := (lt_length_wrappers_iff hlength).mp hdeep
    have hnone : ref.links.dropWhile Link.isWrapper = [] :=
      List.dropWhile_eq_nil_iff.mpr hcut.wrappers
    simp [MissesName, baseExpression, hnone]
  next => exact missesName_map_iff

section Field

variable {f : Field} (hlength : f.type.inner.length ≤ maxDepth)

include hlength

theorem missesName_fieldMember_iff :
    MissesName (fieldMember o f) ↔ IsMisnamed o f := by
  have hroot : f.type.root? = some f.type.innermost := TypeRef.root?_eq_innermost hlength
  rw [fieldMember_of_root o hroot, Options.isIgnored_eq, asKey, IsMisnamed]
  cases hkey : f.type.innermost.name.hashable with
  | false => simp [MissesName, ofName, Functor.map, Except.map, Except.mapError, bind, Except.bind]
  | true =>
      cases hignored : o.ignores f.type.innermost.name with
      | true =>
          simp [MissesName, ofName, Functor.map, Except.map, Except.mapError, bind, Except.bind,
            pure, Except.pure]
      | false =>
          change MissesName ((some ∘ memberOf f) <$> refExpression o f.type) ↔ _
          rw [missesName_map_iff, missesName_refExpression_iff hlength]
          simp

theorem fieldMember_eq_tooDeep_iff_isOverlong :
    fieldMember o f = .error .tooDeep ↔ IsOverlong o f := by
  have hroot : f.type.root? = some f.type.innermost := TypeRef.root?_eq_innermost hlength
  rw [fieldMember_eq_tooDeep_iff hlength, hroot, IsOverlong]
  simp [Options.isIgnored_eq_ok_iff]

end Field

section Fields

variable {fields : List Field} (hlength : ∀ f ∈ fields, f.type.inner.length ≤ maxDepth)

include hlength

theorem missesName_fieldMembers_iff :
    MissesName (fieldMembers o fields) ↔ MeetsBefore (IsMisnamed o) (IsOverlong o) fields := by
  rw [fieldMembers_eq_map, missesName_map_iff, missesName_map_iff, missesName_mapM_iff]
  exact Outcome.meetsBefore_congr (fun f hf => missesName_fieldMember_iff (hlength f hf))
    (fun f hf => fieldMember_eq_tooDeep_iff_isOverlong (hlength f hf))

theorem fieldMembers_eq_tooDeep_iff :
    fieldMembers o fields = .error .tooDeep ↔
      MeetsBefore (IsOverlong o) (IsMisnamed o) fields := by
  rw [fieldMembers_eq_error_iff, mapM_eq_tooDeep_iff]
  exact Outcome.meetsBefore_congr
    (fun f hf => fieldMember_eq_tooDeep_iff_isOverlong (hlength f hf))
    (fun f hf => missesName_fieldMember_iff (hlength f hf))

end Fields

/-! ## Possible types -/

theorem missesName_possibleName_iff {ref : TypeRef} :
    MissesName (possibleName o ref) ↔ ref.outer.name.hashable = false := by
  by_cases hnull : ref.outer.name = .null
  · simp [possibleName_of_null o hnull, MissesName, hnull, Value.hashable]
  · rw [possibleName_of_ne_null o hnull, missesName_map_iff, Options.isIgnored_eq, asKey]
    cases ref.outer.name.hashable with
    | true => simp [MissesName, ofName, Functor.map, Except.map, Except.mapError]
    | false => simp [MissesName, ofName, Functor.map, Except.map, Except.mapError]

/-- Possible types miss a name exactly if one of them has a name that cannot be looked up. -/
theorem missesName_possibleNames_iff {t : TypeDef} :
    MissesName (possibleNames o t) ↔
      ∃ ref ∈ t.possibleTypes, ref.outer.name.hashable = false := by
  rw [possibleNames_eq_map, missesName_map_iff, missesName_mapM_iff]
  simp only [missesName_possibleName_iff]
  constructor
  · rintro ⟨before, ref, after, hsplit, -, href⟩
    exact ⟨ref, by simp [hsplit], href⟩
  · rintro ⟨ref, hmem, href⟩
    obtain ⟨before, after, hsplit⟩ := List.append_of_mem hmem
    exact ⟨before, ref, after, hsplit, fun ref' _ => possibleName_ne_tooDeep o ref', href⟩

/-! ## Types -/

/-- A type that stops generation by a name: its own name is no text, or it is declared and one of
its possible types has a name that cannot be looked up, or it is declared as a structure and comes
to a field with such a name before it comes to one that is cut off. -/
inductive StopsAtName (o : Options) (t : TypeDef) : Prop where
  | own (hname : ∀ text, t.name ≠ .str text)
  | possibleType (hdeclares : declares o t = true) (hkind : t.kind = .interface ∨ t.kind = .union)
      (hname : ∃ ref ∈ t.possibleTypes, ref.outer.name.hashable = false)
  | field (hdeclares : declares o t = true) (hstructural : IsStructural o t)
      (hname : MeetsBefore (IsMisnamed o) (IsOverlong o) t.ownFields)

/-- A type that stops generation by depth: it is declared as a structure and comes to a field that
is cut off before it comes to one whose name cannot be looked up. -/
structure StopsAtDepth (o : Options) (t : TypeDef) : Prop where
  declares : declares o t = true
  structural : IsStructural o t
  field : MeetsBefore (IsOverlong o) (IsMisnamed o) t.ownFields

theorem missesName_choice_iff {names : Except Fault (List String)} {fields : Except Fault Body} :
    MissesName (do
      let names ← names
      if names.isEmpty then fields else return .alias names) ↔
      MissesName names ∨ (names = .ok [] ∧ MissesName fields) := by
  simp only [MissesName, choice_eq_error_iff, exists_or, exists_and_left]

theorem missesName_typeBody_iff {t : TypeDef} :
    MissesName (typeBody o t) ↔
      (t.kind = .interface ∨ t.kind = .union) ∧ MissesName (possibleNames o t) ∨
        IsStructural o t ∧ MissesName (fieldMembers o t.ownFields) := by
  have hstructure : MissesName (structuralBody o t) ↔ MissesName (fieldMembers o t.ownFields) := by
    rw [structuralBody_eq_map, missesName_map_iff]
  rw [IsStructural, ← possibleNames_eq_nil_iff, ← hstructure, typeBody]
  cases hkind : t.kind with
  | enum => simp [MissesName]
  | interface =>
      rw [missesName_choice_iff]
      simp
  | union =>
      rw [missesName_choice_iff]
      simp
  | _ => simp

section Definition

variable {t : TypeDef} (hlength : ∀ f ∈ t.ownFields, f.type.inner.length ≤ maxDepth)

include hlength

theorem missesName_eligibleDeclaration_iff :
    MissesName (eligibleDeclaration o t) ↔ StopsAtName o t := by
  rw [eligibleDeclaration_eq]
  split
  next hdeclares =>
    rw [missesName_map_iff, missesName_typeBody_iff, missesName_possibleNames_iff,
      missesName_fieldMembers_iff hlength]
    constructor
    · rintro (⟨hkind, hname⟩ | ⟨hstructural, hname⟩)
      · exact .possibleType hdeclares hkind hname
      · exact .field hdeclares hstructural hname
    · rintro (hname | ⟨-, hkind, hname⟩ | ⟨-, hstructural, hname⟩)
      · obtain ⟨text, htext, -⟩ := isEligible_eq_true_iff.mp (declares_iff.mp hdeclares).1
        exact absurd htext (hname text)
      · exact Or.inl ⟨hkind, hname⟩
      · exact Or.inr ⟨hstructural, hname⟩
  next hdeclares =>
    rw [missesName_map_iff]
    constructor
    · intro hmisses
      refine .own fun text htext => ?_
      rw [isEligible_of_text o htext] at hmisses
      obtain ⟨fault, hfault⟩ := hmisses
      cases hfault
    · rintro (hname | ⟨h, -, -⟩ | ⟨h, -, -⟩)
      · exact isEligible_of_not_text o hname
      · exact absurd h hdeclares
      · exact absurd h hdeclares

theorem eligibleDeclaration_eq_tooDeep_iff_stopsAtDepth :
    eligibleDeclaration o t = .error .tooDeep ↔ StopsAtDepth o t := by
  rw [eligibleDeclaration_eq_tooDeep_iff, typeBody_eq_tooDeep_iff,
    fieldMembers_eq_tooDeep_iff hlength]
  exact ⟨fun ⟨h, hstructural, hfield⟩ => ⟨h, hstructural, hfield⟩,
    fun h => ⟨h.declares, h.structural, h.field⟩⟩

end Definition

/-! ## Documents -/

/-- Why a document has no declarations. -/
inductive DocumentFault where
  | document (fault : Document.Fault)
  | flow (fault : Fault)

/-- Whether a fault is reported to the user. -/
def DocumentFault.isReported : DocumentFault → Bool
  | .document fault => (Load.Fault.document fault).isReported
  | .flow fault => (Module.Fault.flow fault).isReported

/-- The declarations of the schema that a document holds. -/
def documentDeclarations (o : Options) (d : Value) : Except DocumentFault (List Declaration) := do
  let s ← (Document.read d).mapError .document
  (declarations o s).mapError .flow

/-- In a schema that is read, generation misses a name exactly if a type stops it by a name and none
before it stops it by depth. -/
theorem missesName_declarations_iff {d : Value} {s : Schema} (hread : Document.read d = .ok s) :
    MissesName (declarations o s) ↔
      MeetsBefore (StopsAtName o) (StopsAtDepth o) s.types := by
  rw [declarations_eq_map, missesName_map_iff, missesName_map_iff, missesName_mapM_iff]
  exact Outcome.meetsBefore_congr
    (fun t ht => missesName_eligibleDeclaration_iff (length_ownFields_of_read hread ht))
    (fun t ht =>
      eligibleDeclaration_eq_tooDeep_iff_stopsAtDepth (length_ownFields_of_read hread ht))

/-- A document has declarations, or it has none for a reason that is reported, unless generation
comes to a name that it cannot use before it comes to a reference that is too deep. -/
theorem documentDeclarations_isReported_iff (o : Options) (d : Value) :
    (Outcome.Succeeds (documentDeclarations o d) ∨
        ∃ fault, documentDeclarations o d = .error fault ∧ fault.isReported = true) ↔
      ∀ s, Document.read d = .ok s → ¬MeetsBefore (StopsAtName o) (StopsAtDepth o) s.types := by
  cases hread : Document.read d with
  | error fault =>
      refine iff_of_true (Or.inr ⟨.document fault, ?_, rfl⟩) (by simp)
      rw [documentDeclarations, hread]
      rfl
  | ok s =>
      have hdeclarations : documentDeclarations o d = (declarations o s).mapError .flow := by
        rw [documentDeclarations, hread]
        rfl
      have hnames : (∀ s', Except.ok s = Except.ok (ε := Document.Fault) s' →
          ¬MeetsBefore (StopsAtName o) (StopsAtDepth o) s'.types) ↔
          ¬MissesName (declarations o s) := by
        rw [missesName_declarations_iff hread]
        simp
      rw [hdeclarations, hnames]
      cases declarations o s with
      | ok ds => simp [Except.mapError, Outcome.succeeds_ok, MissesName]
      | error fault =>
          cases fault with
          | tooDeep =>
              simp [Except.mapError, Outcome.not_succeeds_error, MissesName,
                DocumentFault.isReported, Module.Fault.isReported]
          | name fault =>
              simp [Except.mapError, Outcome.not_succeeds_error, MissesName,
                DocumentFault.isReported, Module.Fault.isReported]

/-- A type with a number for a name. -/
def numberedDocument : Value :=
  .obj [("__schema", .obj [("types", .arr [.obj [("kind", .str "OBJECT"), ("name", .int 5)]])])]

/-- A document is read although a type in it has a number for a name, and generation fails for it
with a fault that is not reported. -/
theorem exists_unusable_name :
    ¬∀ (o : Options) (d : Value),
      Outcome.Succeeds (documentDeclarations o d) ∨
        ∃ fault, documentDeclarations o d = .error fault ∧ fault.isReported = true := by
  intro h
  have hfault : documentDeclarations {} numberedDocument =
      .error (.flow (.name (.noMethod "int" "startswith"))) := rfl
  rcases h {} numberedDocument with ⟨ds, hds⟩ | ⟨fault, hreported, hfault'⟩
  · rw [hfault] at hds
    cases hds
  · rw [hfault] at hreported
    cases hreported
    cases hfault'

end Flow
end FlowDecl
