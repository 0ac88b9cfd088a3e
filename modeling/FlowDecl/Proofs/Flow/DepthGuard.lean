import FlowDecl.Proofs.Flow.Members
import FlowDecl.Proofs.Schema.DocumentReading
import Mathlib.Data.List.TakeWhile

/-!
# The depth guard

Three limits guard the length of references: the reader counts links, the search for the innermost
link counts steps, and the expression of a reference counts wrappers and asks for the limit once
more after the last of them.  The first two agree: whatever is read has an innermost link.  The
third is stricter by one on references that consist of wrappers only.  Such a reference of
`maxDepth` steps is read, but it has no expression, and generation fails where it meets one.
-/

namespace FlowDecl

open Json (Value)

/-- A reference of `maxDepth` steps that are all over wrappers, the innermost of which wraps
nothing. -/
structure TypeRef.IsCutOff (ref : TypeRef) : Prop where
  length : ref.inner.length = maxDepth
  wrappers : ∀ l ∈ ref.links, l.isWrapper = true

theorem TypeRef.root?_of_length {ref : TypeRef} (h : ref.inner.length ≤ maxDepth) :
    ∃ root ∈ ref.links, ref.root? = some root :=
  ⟨ref.innermost, List.getLastD_mem_cons, TypeRef.root?_eq_innermost h⟩

/-- The names that the declaration of a type depends on are texts or missing. -/
structure TypeDef.HasPlainNames (t : TypeDef) : Prop where
  name : IsPlainName t.name
  fields : ∀ f ∈ t.ownFields, ∀ l ∈ f.type.links, IsPlainName l.name
  possibleTypes : ∀ ref ∈ t.possibleTypes, IsPlainName ref.outer.name

namespace Flow

/-! ## Expressions -/

/-- Among references of at most `maxDepth` steps, those of too many wrappers are the ones that are
cut off. -/
theorem lt_length_wrappers_iff {ref : TypeRef} (h : ref.inner.length ≤ maxDepth) :
    maxDepth < (wrappers ref.links).length ↔ ref.IsCutOff := by
  have hprefix : wrappers ref.links <+: ref.links := List.takeWhile_prefix _
  have hlength := hprefix.length_le
  rw [TypeRef.links_length] at hlength
  constructor
  · intro hdeep
    have hinner : ref.inner.length = maxDepth := by omega
    have hall : wrappers ref.links = ref.links := by
      apply hprefix.eq_of_length
      rw [TypeRef.links_length]
      omega
    exact ⟨hinner, List.takeWhile_eq_self_iff.mp hall⟩
  · intro hcut
    have hall : wrappers ref.links = ref.links := List.takeWhile_eq_self_iff.mpr hcut.wrappers
    rw [hall, TypeRef.links_length, hcut.length]
    exact Nat.lt_succ_self _

theorem succeeds_namedExpression (o : Options) {l : Link} (h : IsPlainName l.name) :
    Outcome.Succeeds (namedExpression o l) := by
  rcases h with hnull | ⟨text, htext⟩
  · rw [namedExpression, hnull]
    exact Outcome.succeeds_ok _
  · rw [namedExpression_of_text o htext]
    exact Outcome.succeeds_ok _

theorem succeeds_baseExpression (o : Options) {links : List Link}
    (h : ∀ l ∈ links, IsPlainName l.name) :
    Outcome.Succeeds (baseExpression o links) := by
  rw [baseExpression]
  split
  next => exact Outcome.succeeds_ok _
  next l rest hrest =>
    apply succeeds_namedExpression
    apply h
    exact (List.dropWhile_suffix Link.isWrapper).subset (hrest ▸ List.mem_cons_self)

/-- Where names are plain, the expression of a reference fails for depth only. -/
theorem refExpression_fault {o : Options} {ref : TypeRef}
    (h : ∀ l ∈ ref.links, IsPlainName l.name)
    {fault : Fault} (hfault : refExpression o ref = .error fault) :
    fault = .tooDeep := by
  rw [refExpression, linksExpression_eq] at hfault
  split at hfault
  · exact (Except.error.inj hfault).symm
  · obtain ⟨e, he⟩ := succeeds_baseExpression o h
    rw [he] at hfault
    cases hfault

theorem succeeds_isIgnored (o : Options) {name : Value} (h : IsPlainName name) :
    Outcome.Succeeds (o.isIgnored name) := by
  rcases h with rfl | ⟨text, rfl⟩
  · exact Outcome.succeeds_ok _
  · exact Outcome.succeeds_ok _

/-! ## Fields -/

/-- A field of at most `maxDepth` steps is too deep exactly if its reference is cut off and its
innermost link is not ignored. -/
theorem fieldMember_eq_tooDeep_iff {o : Options} {f : Field}
    (hlength : f.type.inner.length ≤ maxDepth) :
    fieldMember o f = .error .tooDeep ↔
      f.type.IsCutOff ∧
        ∃ root, f.type.root? = some root ∧ o.isIgnored root.name = .ok false := by
  obtain ⟨root, -, hroot⟩ := TypeRef.root?_of_length hlength
  rw [fieldMember_of_root o hroot, ← lt_length_wrappers_iff hlength, hroot,
    ← refExpression_eq_tooDeep_iff o f.type, Outcome.bind_eq_error_iff]
  constructor
  · rintro (hname | ⟨ignored, hignored, hexpression⟩)
    · exact absurd hname (ofName_ne_tooDeep _)
    · cases ignored with
      | true => cases hexpression
      | false =>
          exact ⟨Outcome.map_eq_error_iff.mp hexpression, root, rfl,
            Outcome.mapError_eq_ok_iff.mp hignored⟩
  · rintro ⟨hexpression, root', hroot', hignored⟩
    cases hroot'
    exact Or.inr ⟨false, Outcome.mapError_eq_ok_iff.mpr hignored,
      Outcome.map_eq_error_iff.mpr hexpression⟩

/-- Where names are plain, a field fails for depth only. -/
theorem fieldMember_fault {o : Options} {f : Field}
    (hlength : f.type.inner.length ≤ maxDepth)
    (hnames : ∀ l ∈ f.type.links, IsPlainName l.name)
    {fault : Fault} (hfault : fieldMember o f = .error fault) :
    fault = .tooDeep := by
  obtain ⟨root, hmem, hroot⟩ := TypeRef.root?_of_length hlength
  obtain ⟨ignored, hignored⟩ := succeeds_isIgnored o (hnames root hmem)
  rw [fieldMember_of_root o hroot, hignored] at hfault
  cases ignored with
  | true => cases hfault
  | false => exact refExpression_fault hnames (Outcome.map_eq_error_iff.mp hfault)

/-! ## Types -/

/-- A type is declared as a structure if it is no enum and, where it is an interface or a union, has
no possible type but nameless and ignored ones. -/
def IsStructural (o : Options) (t : TypeDef) : Prop :=
  t.kind ≠ .enum ∧ (t.kind = .interface ∨ t.kind = .union →
    ∀ ref ∈ t.possibleTypes,
      ref.outer.name = .null ∨ o.isIgnored ref.outer.name = .ok true)

/-- A type that is declared as a structure has a field that is cut off and not ignored. -/
structure IsTooDeep (o : Options) (t : TypeDef) : Prop where
  declares : declares o t = true
  structural : IsStructural o t
  field : ∃ f ∈ t.ownFields, f.type.IsCutOff ∧
    ∃ root, f.type.root? = some root ∧ o.isIgnored root.name = .ok false

/-- A right side is too deep exactly if it is a structure and its fields are. -/
theorem typeBody_eq_tooDeep_iff {o : Options} {t : TypeDef} :
    typeBody o t = .error .tooDeep ↔
      IsStructural o t ∧ fieldMembers o t.ownFields = .error .tooDeep := by
  rw [← structuralBody_eq_error_iff, IsStructural, ← possibleNames_eq_nil_iff, typeBody]
  cases hkind : t.kind with
  | enum => simp
  | interface =>
      rw [choice_eq_error_iff]
      simp [possibleNames_ne_tooDeep]
  | union =>
      rw [choice_eq_error_iff]
      simp [possibleNames_ne_tooDeep]
  | _ => simp

theorem typeBody_fault_cases {o : Options} {t : TypeDef} {fault : Fault}
    (h : typeBody o t = .error fault) :
    possibleNames o t = .error fault ∨ fieldMembers o t.ownFields = .error fault := by
  rw [← structuralBody_eq_error_iff]
  rw [typeBody] at h
  split at h
  · cases h
  · exact (choice_eq_error_iff.mp h).imp_right And.right
  · exact (choice_eq_error_iff.mp h).imp_right And.right
  · exact Or.inr h

section Plain

variable {o : Options} {t : TypeDef}

theorem succeeds_possibleNames_of_plain (hnames : t.HasPlainNames) :
    Outcome.Succeeds (possibleNames o t) := by
  apply succeeds_possibleNames
  intro ref href
  rcases hnames.possibleTypes ref href with hnull | ⟨text, htext⟩
  · exact ⟨none, possibleName_eq_none_iff.mpr (Or.inl hnull)⟩
  · exact ⟨_, possibleName_of_text o htext⟩

variable (hlength : ∀ f ∈ t.ownFields, f.type.inner.length ≤ maxDepth)

include hlength

/-- Where names are plain, a right side fails for depth only. -/
theorem typeBody_fault (hnames : t.HasPlainNames)
    {fault : Fault} (hfault : typeBody o t = .error fault) :
    fault = .tooDeep := by
  rcases typeBody_fault_cases hfault with hpossible | hfields
  · obtain ⟨names, hok⟩ := succeeds_possibleNames_of_plain (o := o) hnames
    rw [hok] at hpossible
    cases hpossible
  · rw [fieldMembers_eq_error_iff] at hfields
    obtain ⟨before, f, after, hsplit, -, hf⟩ := Outcome.mapM_eq_error_iff.mp hfields
    have hmem : f ∈ t.ownFields := by simp [hsplit]
    exact fieldMember_fault (hlength f hmem) (hnames.fields f hmem) hf

/-- Where names are plain, a type that has a name fails for depth only. -/
theorem eligibleDeclaration_fault (hnames : t.HasPlainNames) (hnamed : t.name ≠ .null)
    {fault : Fault} (hfault : eligibleDeclaration o t = .error fault) :
    fault = .tooDeep := by
  rw [eligibleDeclaration_eq] at hfault
  split at hfault
  · exact typeBody_fault hlength hnames (Outcome.map_eq_error_iff.mp hfault)
  · rcases hnames.name with hnull | ⟨text, htext⟩
    · exact absurd hnull hnamed
    · rw [isEligible_of_text o htext] at hfault
      cases hfault

theorem eligibleDeclaration_eq_tooDeep_iff_isTooDeep (hnames : t.HasPlainNames) :
    eligibleDeclaration o t = .error .tooDeep ↔ IsTooDeep o t := by
  rw [eligibleDeclaration_eq_tooDeep_iff, typeBody_eq_tooDeep_iff, fieldMembers_eq_error_iff]
  constructor
  · rintro ⟨hdeclares, hstructural, hfields⟩
    obtain ⟨before, f, after, hsplit, -, hf⟩ := Outcome.mapM_eq_error_iff.mp hfields
    have hmem : f ∈ t.ownFields := by simp [hsplit]
    exact ⟨hdeclares, hstructural, f, hmem, (fieldMember_eq_tooDeep_iff (hlength f hmem)).mp hf⟩
  · intro h
    obtain ⟨f, hmem, hf⟩ := h.field
    refine ⟨h.declares, h.structural, ?_⟩
    obtain ⟨before, after, hsplit⟩ := List.append_of_mem hmem
    rw [hsplit]
    apply Outcome.mapM_eq_error_of_before
    · intro g hg fault hfault
      have hgmem : g ∈ t.ownFields := by simp [hsplit, hg]
      exact fieldMember_fault (hlength g hgmem) (hnames.fields g hgmem) hfault
    · exact (fieldMember_eq_tooDeep_iff (hlength f hmem)).mpr hf

end Plain

/-! ## Schemas -/

theorem length_ownFields_of_read {d : Value} {s : Schema} (hread : Document.read d = .ok s)
    {t : TypeDef} (ht : t ∈ s.types) :
    ∀ f ∈ t.ownFields, f.type.inner.length ≤ maxDepth := by
  intro f hf
  apply Document.length_inner_of_read hread ht
  rw [TypeDef.ownFields] at hf
  split at hf
  · exact Or.inr hf
  · exact Or.inl hf

/-- In a document whose names are texts or missing, every field that is read has an innermost link.
Generation fails for depth exactly if it comes to a type with a field that is cut off and not
ignored, before it comes to a type without a name. -/
theorem declarations_eq_tooDeep_iff {o : Options} {d : Value} {s : Schema}
    (hread : Document.read d = .ok s) (hnames : ∀ t ∈ s.types, t.HasPlainNames) :
    (∀ t ∈ s.types, ∀ f ∈ t.ownFields, ∃ root, rootLink f.type = .ok root) ∧
      (declarations o s = .error .tooDeep ↔
        ∃ before t after, s.types = before ++ t :: after ∧
          (∀ u ∈ before, u.name ≠ .null) ∧ IsTooDeep o t) := by
  have hlength : ∀ t ∈ s.types, ∀ f ∈ t.ownFields, f.type.inner.length ≤ maxDepth :=
    fun t ht => length_ownFields_of_read hread ht
  have hdeep : ∀ t ∈ s.types, (eligibleDeclaration o t = .error .tooDeep ↔ IsTooDeep o t) :=
    fun t ht => eligibleDeclaration_eq_tooDeep_iff_isTooDeep (hlength t ht) (hnames t ht)
  constructor
  · intro t ht f hf
    obtain ⟨root, -, hroot⟩ := TypeRef.root?_of_length (hlength t ht f hf)
    exact ⟨root, by rw [rootLink, hroot]⟩
  rw [declarations_eq_error_iff]
  constructor
  · intro h
    obtain ⟨before, t, after, hsplit, hbefore, ht⟩ := Outcome.mapM_eq_error_iff.mp h
    have htmem : t ∈ s.types := by simp [hsplit]
    refine ⟨before, t, after, hsplit, ?_, (hdeep t htmem).mp ht⟩
    intro u hu hnull
    obtain ⟨fault, hfault⟩ := isEligible_of_not_text o (t := u) (by simp [hnull])
    obtain ⟨result, hresult⟩ := hbefore u hu
    rw [eligibleDeclaration, hfault] at hresult
    cases hresult
  · rintro ⟨before, t, after, hsplit, hbefore, ht⟩
    have htmem : t ∈ s.types := by simp [hsplit]
    rw [hsplit]
    -- A type before `t` can fail as well, but it has a name and so it fails for depth.
    apply Outcome.mapM_eq_error_of_before
    · intro u hu fault hfault
      have humem : u ∈ s.types := by simp [hsplit, hu]
      exact eligibleDeclaration_fault (hlength u humem) (hnames u humem) (hbefore u hu) hfault
    · exact (hdeep t htmem).mpr ht

/-! ## Nested lists -/

/-- Lists inside of a list, the innermost of which is a list of nothing. -/
def nestedLists : Nat → Value
  | 0 => .obj [("kind", .str "LIST")]
  | n + 1 => .obj [("kind", .str "LIST"), ("ofType", nestedLists n)]

/-- An object with one field of nested lists. -/
def nestedType (n : Nat) : TypeDef where
  name := .str "Deep"
  kind := .object
  fields := [{
    name := .str "x"
    type := ⟨{ kind := .list }, List.replicate n { kind := .list }⟩ }]

/-- A document of one object with one field of nested lists. -/
def nestedDocument (n : Nat) : Value :=
  .obj [("__schema", .obj [("types", .arr [.obj [
    ("kind", .str "OBJECT"),
    ("name", .str "Deep"),
    ("fields", .arr [.obj [("name", .str "x"), ("type", nestedLists n)]])]])])]

theorem readLinks_nestedLists {n budget : Nat} (h : n < budget) :
    Document.readLinks budget (nestedLists n) = .ok (List.replicate (n + 1) { kind := .list }) := by
  induction n generalizing budget with
  | zero =>
      obtain ⟨budget, rfl⟩ := Nat.exists_eq_add_one_of_ne_zero (Nat.ne_of_gt h)
      rfl
  | succ n ih =>
      obtain ⟨budget, rfl⟩ := Nat.exists_eq_add_one_of_ne_zero (Nat.ne_zero_of_lt h)
      have htruthy : (nestedLists n).isTruthy = true := by
        cases n <;> rfl
      have hinner := ih (Nat.lt_of_succ_lt_succ h)
      rw [nestedLists, Document.readLinks_obj budget rfl]
      change (_ :: ·) <$> (if (nestedLists n).isTruthy then _ else _) = _
      rw [if_pos htruthy]
      change (_ :: ·) <$> Document.readLinks budget (nestedLists n) = _
      rw [hinner]
      rfl

theorem read_nestedDocument {n : Nat} (h : n ≤ maxDepth) :
    Document.read (nestedDocument n) = .ok { types := [nestedType n] } := by
  have href : Document.readRef (nestedLists n) =
      .ok ⟨{ kind := .list }, List.replicate n { kind := .list }⟩ :=
    Document.readRef_eq_ok_iff.mpr (readLinks_nestedLists (Nat.lt_succ_of_le h))
  have hfield : Document.readField (.obj [("name", .str "x"), ("type", nestedLists n)]) =
      .ok ⟨.str "x", ⟨{ kind := .list }, List.replicate n { kind := .list }⟩⟩ :=
    Document.readField_eq_ok_iff.mpr ⟨_, rfl, rfl, href⟩
  have htype : Document.readType (.obj [("kind", .str "OBJECT"), ("name", .str "Deep"),
      ("fields", .arr [.obj [("name", .str "x"), ("type", nestedLists n)]])]) =
      .ok (nestedType n) := by
    refine Document.readType_eq_ok_iff.mpr ⟨_, rfl, rfl, rfl, rfl, ?_, rfl, rfl, rfl⟩
    exact Outcome.mapM_eq_ok_iff.mpr (.cons hfield .nil)
  refine Document.read_eq_ok_iff.mpr ⟨_, ⟨_, _, rfl, rfl, rfl⟩, ?_⟩
  refine Document.readSchema_eq_ok_iff.mpr ⟨rfl, rfl, ?_⟩
  exact Outcome.mapM_eq_ok_iff.mpr (.cons htype .nil)

theorem hasPlainNames_nestedType (n : Nat) :
    ∀ t ∈ [nestedType n], t.HasPlainNames := by
  intro t ht
  obtain rfl := List.mem_singleton.mp ht
  refine ⟨Or.inr ⟨"Deep", rfl⟩, ?_, by simp [nestedType]⟩
  intro f hf l hl
  obtain rfl := List.mem_singleton.mp hf
  rcases List.mem_cons.mp hl with rfl | hl
  · exact Or.inl rfl
  · rw [List.eq_of_mem_replicate hl]
    exact Or.inl rfl

theorem isTooDeep_nestedType :
    IsTooDeep {} (nestedType maxDepth) := by
  refine ⟨by decide, ⟨by decide, fun _ => by simp [nestedType]⟩, _, List.mem_singleton_self _,
    ⟨by decide, by decide⟩, { kind := .list }, rfl, rfl⟩

/-- Thirty-three lists are read, and generation fails for their depth. -/
theorem declarations_nestedDocument :
    ∃ s, Document.read (nestedDocument maxDepth) = .ok s ∧
      (∀ t ∈ s.types, t.HasPlainNames) ∧ declarations {} s = .error .tooDeep := by
  have hread := read_nestedDocument (Nat.le_refl maxDepth)
  have hnames := hasPlainNames_nestedType maxDepth
  refine ⟨_, hread, hnames, ?_⟩
  exact (declarations_eq_tooDeep_iff hread hnames).2.mpr
    ⟨[], _, [], rfl, by simp, isTooDeep_nestedType⟩

/-- A schema that is read can have references that are too deep. -/
theorem exists_tooDeep_of_read :
    ¬∀ (o : Options) (d : Value) (s : Schema), Document.read d = .ok s →
      (∀ t ∈ s.types, t.HasPlainNames) → declarations o s ≠ .error .tooDeep := by
  intro h
  have hread := read_nestedDocument (Nat.le_refl maxDepth)
  have hnames := hasPlainNames_nestedType maxDepth
  have hmem : nestedType maxDepth ∈ [nestedType maxDepth] := List.mem_singleton_self _
  have hdeep : eligibleDeclaration {} (nestedType maxDepth) = .error .tooDeep :=
    (eligibleDeclaration_eq_tooDeep_iff_isTooDeep (length_ownFields_of_read hread hmem)
      (hnames _ hmem)).mpr isTooDeep_nestedType
  apply h {} _ _ hread hnames
  rw [declarations_eq_error_iff, Outcome.mapM_eq_error_iff]
  exact ⟨[], _, [], rfl, by simp, hdeep⟩

end Flow
end FlowDecl
