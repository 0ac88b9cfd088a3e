import FlowDecl.Proofs.Flow.DepthGuard
import FlowDecl.Proofs.Flow.IgnoredTypes

/-!
# The order of fields

The members of a structure stand in the order of their texts, so it does not count in which order
the fields of a type are given.  Two members may have the same text although they come from
different fields; then the sorted members can differ, but not their texts, and all of them are kept.

A field that fails does so for depth only, so which of several fields fails first does not count
either.
-/

namespace FlowDecl

open Json (Value)

/-- A field with texts for names in its reference, or links without names. -/
def Field.HasPlainLinks (f : Field) : Prop :=
  ∀ l ∈ f.type.links, IsPlainName l.name

/-- The same type with its fields in another order. -/
inductive TypeDef.Reorders (t : TypeDef) : TypeDef → Prop where
  | intro {fields inputFields : List Field} (hfields : t.fields.Perm fields)
      (hinputFields : t.inputFields.Perm inputFields) :
      TypeDef.Reorders t { t with fields, inputFields }

/-- The same schema with the fields of its types in another order. -/
inductive Schema.Reorders (s : Schema) : Schema → Prop where
  | intro {types : List TypeDef} (htypes : List.Forall₂ TypeDef.Reorders s.types types) :
      Schema.Reorders s { s with types }

theorem TypeDef.Reorders.ownFields {t t' : TypeDef} (h : t.Reorders t') :
    t.ownFields.Perm t'.ownFields := by
  cases h with
  | @intro fields inputFields hfields hinputFields =>
      change (if t.isInput then t.inputFields else t.fields).Perm
        (if t.isInput then inputFields else fields)
      split
      · exact hinputFields
      · exact hfields

theorem TypeDef.ownFields_subset (t : TypeDef) :
    t.ownFields ⊆ t.fields ++ t.inputFields := by
  rw [TypeDef.ownFields]
  split
  · exact List.subset_append_right _ _
  · exact List.subset_append_left _ _

namespace Flow

/-! ## Sorted texts -/

theorem sorted_sortMembers (members : List Member) :
    ((sortMembers members).map Member.text).Pairwise (· ≤ ·) := by
  have hsorted : (sortMembers members).Pairwise
      fun a b => decide (a.text ≤ b.text) = true := by
    apply List.pairwise_mergeSort
    · intro a b c hab hbc
      exact decide_eq_true (String.le_trans (of_decide_eq_true hab) (of_decide_eq_true hbc))
    · intro a b
      rw [Bool.or_eq_true, decide_eq_true_eq, decide_eq_true_eq]
      exact String.le_total a.text b.text
  rw [List.pairwise_map]
  exact hsorted.imp of_decide_eq_true

/-- There is one way to sort texts. -/
theorem texts_sortMembers_eq {members members' : List Member} (h : members.Perm members') :
    (sortMembers members).map Member.text = (sortMembers members').map Member.text := by
  have hperm : (sortMembers members).Perm (sortMembers members') :=
    (List.mergeSort_perm _ _).trans (h.trans (List.mergeSort_perm _ _).symm)
  apply (hperm.map Member.text).eq_of_pairwise
  · intro a b _ _ hab hba
    exact String.le_antisymm hab hba
  · exact sorted_sortMembers members
  · exact sorted_sortMembers members'

/-! ## Fields -/

/-- The texts of the members that some fields give. -/
def fieldTexts (o : Options) (fields : List Field) : Except Fault (List String) :=
  List.map Member.text <$> fieldMembers o fields

/-- Where names are plain, a field of any depth fails for depth only. -/
theorem eq_tooDeep_of_fieldMember {o : Options} {f : Field} (h : f.HasPlainLinks) {fault : Fault}
    (hfault : fieldMember o f = .error fault) : fault = .tooDeep := by
  by_cases hlength : f.type.inner.length ≤ maxDepth
  · exact fieldMember_fault hlength h hfault
  · rw [fieldMember_of_long o (TypeRef.root?_eq_none hlength)] at hfault
    exact (Except.error.inj hfault).symm

theorem eq_tooDeep_of_fieldTexts {o : Options} {fields : List Field}
    (h : ∀ f ∈ fields, f.HasPlainLinks) {fault : Fault}
    (hfault : fieldTexts o fields = .error fault) : fault = .tooDeep := by
  rw [fieldTexts, Outcome.map_eq_error_iff, fieldMembers_eq_error_iff] at hfault
  obtain ⟨before, f, after, rfl, -, hf⟩ := Outcome.mapM_eq_error_iff.mp hfault
  exact eq_tooDeep_of_fieldMember (h f (by simp)) hf

/-- Fields in another order have the same texts, and they are too deep in every order or in none. -/
theorem fieldTexts_eq_of_perm {o : Options} {fields fields' : List Field}
    (h : ∀ f ∈ fields, f.HasPlainLinks) (hperm : fields.Perm fields') :
    fieldTexts o fields' = fieldTexts o fields := by
  have hfault : ∀ f ∈ fields, ∀ fault, fieldMember o f = .error fault → fault = .tooDeep :=
    fun f hf fault => eq_tooDeep_of_fieldMember (h f hf)
  rw [fieldTexts, fieldTexts, fieldMembers_eq_map, fieldMembers_eq_map]
  rcases Outcome.mapM_of_perm hfault hperm with
    ⟨herror, herror'⟩ | ⟨results, results', hok, hok', hresults⟩
  · rw [herror, herror']
  · rw [hok, hok']
    exact congrArg Except.ok (texts_sortMembers_eq (hresults.filterMap id)).symm

/-- The texts of fields are sorted, and they are those of the fields that are kept. -/
theorem pairwise_and_perm_of_fieldTexts {o : Options} {fields : List Field} {texts : List String}
    (h : fieldTexts o fields = .ok texts) :
    texts.Pairwise (· ≤ ·) ∧
      ∃ lines, List.Forall₂ (IsLineOf o) (fields.filter (keepsField o)) lines ∧
        texts.Perm (lines.map Member.text) := by
  obtain ⟨members, hmembers, rfl⟩ := Outcome.map_eq_ok_iff.mp h
  obtain ⟨lines, hlines, hperm⟩ := exists_lines_of_fieldMembers hmembers
  obtain ⟨results, -, rfl⟩ := fieldMembers_eq_ok_iff.mp hmembers
  exact ⟨sorted_sortMembers _, lines, hlines, hperm.map Member.text⟩

/-! ## Types -/

theorem structureText_congr {members members' : List Member}
    (h : members.map Member.text = members'.map Member.text) :
    structureText members = structureText members' := by
  have hlines (list : List Member) :
      (list.map fun m => "  " ++ m.text) = (list.map Member.text).map ("  " ++ ·) := by
    rw [List.map_map]
    rfl
  have hempty : members.isEmpty = members'.isEmpty := by
    rw [← List.isEmpty_map (f := Member.text), h, List.isEmpty_map]
  rw [structureText, structureText, hempty, hlines, hlines, h]

/-- What stands before the right side of a declaration. -/
def headText (o : Options) (t : TypeDef) : String :=
  commentText (descriptionOf t.description) ++ (if o.exported then "export " else "") ++ "type " ++
    declaredName o t ++ " = "

section Types

variable {o : Options} {t t' : TypeDef} (hplain : ∀ f ∈ t.ownFields, f.HasPlainLinks)
  (hsame : t.Reorders t')

include hplain hsame

theorem structuralBody_text_eq :
    Body.text <$> structuralBody o t' = Body.text <$> structuralBody o t := by
  have htexts := fieldTexts_eq_of_perm (o := o) hplain hsame.ownFields
  have hinput : t'.isInput = t.isInput := by
    cases hsame
    rfl
  rw [fieldTexts, fieldTexts] at htexts
  rw [structuralBody_eq_map, structuralBody_eq_map, Functor.map_map, Functor.map_map, hinput]
  cases hmembers : fieldMembers o t.ownFields with
  | error fault =>
      rw [hmembers] at htexts
      rw [Outcome.map_eq_error_iff.mp htexts]
  | ok members =>
      rw [hmembers] at htexts
      obtain ⟨members', hmembers', hlines⟩ := Outcome.map_eq_ok_iff.mp htexts
      rw [hmembers']
      refine congrArg Except.ok (structureText_congr ?_)
      cases t.isInput with
      | true => exact hlines
      | false => exact congrArg (List.cons typenameMember.text) hlines

theorem typeBody_text_eq :
    Body.text <$> typeBody o t' = Body.text <$> typeBody o t := by
  have hfields := structuralBody_text_eq (o := o) hplain hsame
  have hkind : t'.kind = t.kind := by
    cases hsame
    rfl
  have hvalues : t'.enumValues = t.enumValues := by
    cases hsame
    rfl
  have hnames : possibleNames o t' = possibleNames o t := by
    cases hsame
    rfl
  have hchoice : Body.text <$> (do
      let names ← possibleNames o t
      if names.isEmpty then structuralBody o t' else return .alias names) =
    Body.text <$> (do
      let names ← possibleNames o t
      if names.isEmpty then structuralBody o t else return .alias names) := by
    cases possibleNames o t with
    | error fault => rfl
    | ok names =>
        cases names with
        | nil => exact hfields
        | cons name names => rfl
  rw [typeBody, typeBody, hkind, hvalues, hnames]
  cases t.kind with
  | enum => rfl
  | interface => exact hchoice
  | union => exact hchoice
  | _ => exact hfields

/-- The declaration of a type has the same text for every order of its fields. -/
theorem eligibleDeclaration_text_eq :
    Option.map Declaration.text <$> eligibleDeclaration o t' =
      Option.map Declaration.text <$> eligibleDeclaration o t := by
  have hbody := typeBody_text_eq (o := o) hplain hsame
  have hdeclares : declares o t' = declares o t := by
    cases hsame
    rfl
  have heligible : isEligible o t' = isEligible o t := by
    cases hsame
    rfl
  -- The text of a declaration ends with the text of its right side.
  have htext (u : TypeDef) : Option.map Declaration.text <$>
      ((some ∘ declare o u (declaredName o u)) <$> typeBody o u) =
        (fun text => some (headText o u ++ text)) <$> (Body.text <$> typeBody o u) := by
    rw [Functor.map_map, Functor.map_map]
    rfl
  have hhead : headText o t' = headText o t := by
    cases hsame
    rfl
  rw [eligibleDeclaration_eq, eligibleDeclaration_eq, hdeclares, heligible]
  split
  · rw [htext, htext, hbody, hhead]
  · rfl

end Types

/-! ## Schemas -/

theorem source_eq_map (o : Options) (s : Schema) :
    source o s =
      (fun texts => joinTexts ((envelope o s).map Declaration.text ++ texts.filterMap id)) <$>
        s.types.mapM fun t => Option.map Declaration.text <$> eligibleDeclaration o t := by
  have htexts (results : List (Option Declaration)) :
      (results.filterMap id).map Declaration.text =
        (results.map (Option.map Declaration.text)).filterMap id := by
    rw [List.map_filterMap, List.filterMap_map]
    rfl
  rw [source, declarationTexts, declarations_eq_map, Outcome.mapM_map_result]
  simp only [Functor.map_map, List.map_append, htexts]

/-- A schema has the same text for every order of the fields of its types. -/
theorem source_eq_of_reorders {o : Options} {s s' : Schema}
    (hplain : ∀ t ∈ s.types, ∀ f ∈ t.ownFields, f.HasPlainLinks) (hsame : s.Reorders s') :
    source o s' = source o s := by
  cases hsame with
  | @intro types htypes =>
      have htexts :
          (s.types.mapM fun t => Option.map Declaration.text <$> eligibleDeclaration o t) =
          types.mapM fun t => Option.map Declaration.text <$> eligibleDeclaration o t := by
        apply Outcome.mapM_eq_of_forall₂
        refine ((List.forall₂_and_left _ _).mpr ⟨hplain, htypes⟩).imp ?_
        rintro t t' ⟨ht, hreorders⟩
        exact (eligibleDeclaration_text_eq ht hreorders).symm
      rw [source_eq_map, source_eq_map, htexts]
      rfl

/-- Fields in another order have the same texts: those of the fields that are kept, sorted, or none
if a field is too deep.  So a schema has the same text for every order of the fields of its
types. -/
theorem texts_of_reordered_fields (o : Options) :
    (∀ fields fields' : List Field, (∀ f ∈ fields, f.HasPlainLinks) → fields.Perm fields' →
      fieldTexts o fields' = fieldTexts o fields ∧
        (fieldTexts o fields = .error .tooDeep ∨
          ∃ texts lines, fieldTexts o fields = .ok texts ∧ texts.Pairwise (· ≤ ·) ∧
            List.Forall₂ (IsLineOf o) (fields.filter (keepsField o)) lines ∧
              texts.Perm (lines.map Member.text))) ∧
      ∀ s s' : Schema, (∀ t ∈ s.types, ∀ f ∈ t.fields ++ t.inputFields, f.HasPlainLinks) →
        s.Reorders s' → source o s' = source o s := by
  constructor
  · intro fields fields' hplain hperm
    refine ⟨fieldTexts_eq_of_perm hplain hperm, ?_⟩
    cases htexts : fieldTexts o fields with
    | error fault => exact Or.inl (congrArg Except.error (eq_tooDeep_of_fieldTexts hplain htexts))
    | ok texts =>
        obtain ⟨hsorted, lines, hlines, hkept⟩ := pairwise_and_perm_of_fieldTexts htexts
        exact Or.inr ⟨texts, lines, rfl, hsorted, hlines, hkept⟩
  · intro s s' hplain hsame
    apply source_eq_of_reorders _ hsame
    intro t ht f hf
    exact hplain t ht f (t.ownFields_subset hf)

/-! ## Two fields with one text -/

/-- Two fields with the same text, a field that is longer than they are, and one for a secret. -/
def keyFields : List Field :=
  [⟨.str "secret", ⟨⟨.object, .str "Secret"⟩, []⟩⟩,
    ⟨.str "keys", ⟨{ kind := .list }, [⟨.scalar, .str "ID"⟩]⟩⟩,
    ⟨.str "key", ⟨{ kind := .nonNull }, [⟨.scalar, .str "ID"⟩]⟩⟩,
    ⟨.str "key", ⟨{ kind := .nonNull }, [⟨.scalar, .str "String"⟩]⟩⟩]

/-- A schema whose only type has some fields. -/
def fieldsSchema (fields : List Field) : Schema where
  types := [{ name := .str "Lock", kind := .object, fields }]

theorem keyFields_hasPlainLinks : ∀ f ∈ keyFields, f.HasPlainLinks := by
  simp [keyFields, Field.HasPlainLinks, TypeRef.links, IsPlainName]

/-- The secret is ignored, and the fields are turned round. -/
theorem texts_of_reversed_keyFields :
    (∀ f ∈ keyFields, f.HasPlainLinks) ∧
      fieldTexts { ignored := ["Secret"] } keyFields.reverse =
          fieldTexts { ignored := ["Secret"] } keyFields ∧
        (fieldTexts { ignored := ["Secret"] } keyFields = .error .tooDeep ∨
          ∃ texts lines, fieldTexts { ignored := ["Secret"] } keyFields = .ok texts ∧
            texts.Pairwise (· ≤ ·) ∧
              List.Forall₂ (IsLineOf { ignored := ["Secret"] })
                (keyFields.filter (keepsField { ignored := ["Secret"] })) lines ∧
                texts.Perm (lines.map Member.text)) ∧
          source { ignored := ["Secret"] } (fieldsSchema keyFields.reverse) =
            source { ignored := ["Secret"] } (fieldsSchema keyFields) := by
  have hperm : keyFields.Perm keyFields.reverse := keyFields.reverse_perm.symm
  have hsame : (fieldsSchema keyFields).Reorders (fieldsSchema keyFields.reverse) :=
    .intro (.cons (.intro hperm .nil) .nil)
  obtain ⟨hfields, hschemas⟩ := texts_of_reordered_fields { ignored := ["Secret"] }
  obtain ⟨hsameTexts, htexts⟩ := hfields _ _ keyFields_hasPlainLinks hperm
  refine ⟨keyFields_hasPlainLinks, hsameTexts, htexts, hschemas _ _ ?_ hsame⟩
  simpa [fieldsSchema] using keyFields_hasPlainLinks

end Flow
end FlowDecl
