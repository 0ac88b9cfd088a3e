import FlowDecl.Proofs.Flow.Members

/-!
# Closed schemas

A schema is closed if every reference in it leads to one of its types.  Generation has a result for
every closed schema and all options, and in the declarations of its types no name is left dangling:
each name that a declaration mentions is the name of a declaration of a type.

A mentioned name and a declared name are made in different places, from the kind of a reference and
from the kind of a type.  They agree because the reference gives the kind of the type it leads to,
and because a field or a possible type is left out whenever its type is.
-/

namespace FlowDecl

open Json (Value)

/-- Whether a name is reserved for introspection. -/
def isReserved : Value → Bool
  | .str name => TypeDef.reservedName name
  | _ => false

/-- A type refers to what its fields lead to and to its possible types. -/
def TypeDef.RefersTo (t : TypeDef) (target : Link) : Prop :=
  (∃ f ∈ t.ownFields, f.type.LeadsTo target) ∨ ∃ ref ∈ t.possibleTypes, ref.outer = target

/-- Schemas in which every field leads to a type of the kind that its reference gives, every
possible type is an object, and only reserved types refer to reserved ones. -/
structure Schema.IsClosed (s : Schema) : Prop where
  text : ∀ t ∈ s.types, ∃ name, t.name = .str name
  fields : ∀ t ∈ s.types, ∀ f ∈ t.ownFields,
    ∃ target, f.type.LeadsTo target ∧
      ∃ u ∈ s.types, u.name = target.name ∧ u.kind = target.kind
  possibleTypes : ∀ t ∈ s.types, ∀ ref ∈ t.possibleTypes,
    ref.inner = [] ∧ ref.outer.isWrapper = false ∧
      ∃ u ∈ s.types, u.name = ref.outer.name ∧ u.kind = .object
  reserved : ∀ t ∈ s.types, ∀ target, t.RefersTo target →
    isReserved target.name = true → isReserved t.name = true

/-- Where no type is reserved, no type refers to a reserved one. -/
theorem Schema.isClosed_of_unreserved {s : Schema}
    (hunreserved : ∀ t ∈ s.types, ∃ name, t.name = .str name ∧ TypeDef.reservedName name = false)
    (hfields : ∀ t ∈ s.types, ∀ f ∈ t.ownFields,
      ∃ target, f.type.LeadsTo target ∧
        ∃ u ∈ s.types, u.name = target.name ∧ u.kind = target.kind)
    (hpossible : ∀ t ∈ s.types, ∀ ref ∈ t.possibleTypes,
      ref.inner = [] ∧ ref.outer.isWrapper = false ∧
        ∃ u ∈ s.types, u.name = ref.outer.name ∧ u.kind = .object) :
    s.IsClosed := by
  refine ⟨?_, hfields, hpossible, ?_⟩
  · intro t ht
    obtain ⟨name, hname, -⟩ := hunreserved t ht
    exact ⟨name, hname⟩
  · intro t ht target hrefers hreserved
    have htype : ∃ u ∈ s.types, u.name = target.name := by
      rcases hrefers with ⟨f, hf, hleads⟩ | ⟨ref, href, rfl⟩
      · obtain ⟨target', hleads', u, hu, huname, -⟩ := hfields t ht f hf
        rw [hleads'.unique hleads] at huname
        exact ⟨u, hu, huname⟩
      · obtain ⟨-, -, u, hu, huname, -⟩ := hpossible t ht ref href
        exact ⟨u, hu, huname⟩
    obtain ⟨u, hu, huname⟩ := htype
    obtain ⟨name, hname, hfree⟩ := hunreserved u hu
    rw [← huname, hname, isReserved, hfree] at hreserved
    cases hreserved

namespace Flow

/-! ## Generation has a result -/

theorem succeeds_fieldMember_of_leadsTo (o : Options) {f : Field} {target : Link} {text : String}
    (h : f.type.LeadsTo target) (htext : target.name = .str text) :
    Outcome.Succeeds (fieldMember o f) := by
  rw [fieldMember_of_text o h.root?_eq htext, refExpression_of_leadsTo o h,
    namedExpression_of_text o htext]
  split
  · exact Outcome.succeeds_ok _
  · exact Outcome.succeeds_ok _

/-- Every type of a closed schema has an outcome. -/
theorem succeeds_eligibleDeclaration_of_closed {s : Schema} (hclosed : s.IsClosed) (o : Options)
    {t : TypeDef} (ht : t ∈ s.types) :
    Outcome.Succeeds (eligibleDeclaration o t) := by
  obtain ⟨name, hname⟩ := hclosed.text t ht
  apply succeeds_eligibleDeclaration
  · exact ⟨_, isEligible_of_text o hname⟩
  · intro
    apply succeeds_typeBody
    · apply succeeds_possibleNames
      intro ref href
      obtain ⟨-, -, u, hu, huname, -⟩ := hclosed.possibleTypes t ht ref href
      obtain ⟨text, htext⟩ := hclosed.text u hu
      exact ⟨_, possibleName_of_text o (huname ▸ htext)⟩
    · apply succeeds_fieldMembers_iff.mpr
      intro f hf
      obtain ⟨target, hleads, u, hu, huname, -⟩ := hclosed.fields t ht f hf
      obtain ⟨text, htext⟩ := hclosed.text u hu
      exact succeeds_fieldMember_of_leadsTo o hleads (huname ▸ htext)

/-! ## Mentioned names are declared -/

/-- A name that the expression of a link mentions is the generated name for the kind and the name of
the link, and types of this kind are declared. -/
theorem mentions_namedExpression {o : Options} {l : Link} {text : String}
    (hplain : l.isWrapper = false) (htext : l.name = .str text) {e : TypeExpr}
    (he : namedExpression o l = .ok e) {name : String} (hname : name ∈ e.mentions) :
    isDeclaredKind l.kind = true ∧ generatedName o l.kind l.name = name := by
  rw [namedExpression_of_text o htext] at he
  cases Except.ok.inj he
  split at hname
  next => cases hname
  next hscalar =>
    refine ⟨?_, (List.mem_singleton.mp hname).symm⟩
    rw [Link.isWrapper] at hplain
    cases hkind : l.kind <;> simp_all [isDeclaredKind, TypeKind.isWrapper]

/-- A type that is no more reserved than a declared one, and that is not ignored, is declared if its
kind is. -/
theorem declares_of_refersTo {s : Schema} (hclosed : s.IsClosed) {o : Options}
    {t u : TypeDef} (ht : t ∈ s.types) (hu : u ∈ s.types) (hdeclares : declares o t = true)
    {target : Link} (hrefers : t.RefersTo target) (huname : u.name = target.name)
    (hignored : o.isIgnored target.name = .ok false) (hkind : isDeclaredKind u.kind = true) :
    declares o u = true := by
  obtain ⟨text, htext⟩ := hclosed.text u hu
  obtain ⟨heligible, -⟩ := declares_iff.mp hdeclares
  obtain ⟨tname, htname, hunreserved, -⟩ := isEligible_eq_true_iff.mp heligible
  have hfree : TypeDef.reservedName text = false := by
    by_contra hreserved
    have htarget : isReserved target.name = true := by
      rw [← huname, htext]
      simpa [isReserved] using hreserved
    have htype := hclosed.reserved t ht target hrefers htarget
    rw [htname, isReserved, hunreserved] at htype
    cases htype
  have hkept : text ∉ o.ignored := by
    rw [← huname, htext] at hignored
    simpa [Options.isIgnored] using hignored
  exact declares_iff.mpr ⟨isEligible_eq_true_iff.mpr ⟨text, htext, hfree, hkept⟩, hkind⟩

/-- A name that the right side of a declared type mentions is the name of a type that is
declared. -/
theorem exists_declares_of_mentions {s : Schema} (hclosed : s.IsClosed) {o : Options}
    {t : TypeDef} (ht : t ∈ s.types) (hdeclares : declares o t = true)
    {body : Body} (hbody : typeBody o t = .ok body) {name : String} (hname : name ∈ body.mentions) :
    ∃ u ∈ s.types, declares o u = true ∧ declaredName o u = name := by
  rcases mentions_typeBody hbody hname with
    ⟨ref, href, -, hignored, rfl⟩ | ⟨f, hf, root, hroot, hignored, e, he, hmention⟩
  · obtain ⟨-, -, u, hu, huname, hukind⟩ := hclosed.possibleTypes t ht ref href
    have hrefers : t.RefersTo ref.outer := Or.inr ⟨ref, href, rfl⟩
    have hkind : isDeclaredKind u.kind = true := by
      rw [hukind]
      rfl
    refine ⟨u, hu, ?_, ?_⟩
    · exact declares_of_refersTo hclosed ht hu hdeclares hrefers huname hignored hkind
    · rw [declaredName, hukind, huname]
      rfl
  · obtain ⟨target, hleads, u, hu, huname, hukind⟩ := hclosed.fields t ht f hf
    have hrefers : t.RefersTo target := Or.inl ⟨f, hf, hleads⟩
    obtain rfl : target = root := Option.some.inj (hleads.root?_eq.symm.trans hroot)
    obtain ⟨text, htext⟩ := hclosed.text u hu
    rw [refExpression_of_leadsTo o hleads] at he
    obtain ⟨base, hbase, rfl⟩ := Outcome.map_eq_ok_iff.mp he
    rw [TypeExpr.mentions_inArrays] at hmention
    obtain ⟨hkind, hgenerated⟩ :=
      mentions_namedExpression hleads.plain (huname ▸ htext) hbase hmention
    refine ⟨u, hu, ?_, ?_⟩
    · exact declares_of_refersTo hclosed ht hu hdeclares hrefers huname hignored (hukind ▸ hkind)
    · rw [declaredName, hukind, huname, hgenerated]

/-- Generation has a result for every closed schema, and every name that the declaration of a type
mentions is the name of a declaration of a type. -/
theorem mentions_declared_of_closed {s : Schema} (hclosed : s.IsClosed) (o : Options) :
    ∃ types, declarations o s = .ok (envelope o s ++ types) ∧
      ∀ d ∈ types, ∀ name ∈ d.body.mentions, ∃ d' ∈ types, d'.name = name := by
  obtain ⟨results, hresults⟩ := Outcome.succeeds_mapM_iff.mpr
    fun t ht => succeeds_eligibleDeclaration_of_closed hclosed o ht
  refine ⟨results.filterMap id, declarations_eq_ok_iff.mpr ⟨results, hresults, rfl⟩, ?_⟩
  intro d hd name hname
  obtain ⟨t, ht, hdeclares, body, hbody, rfl⟩ := (mem_typeDeclarations_iff hresults).mp hd
  obtain ⟨u, hu, hu', rfl⟩ := exists_declares_of_mentions hclosed ht hdeclares hbody hname
  have hmem : declaredName o u ∈ (results.filterMap id).map (·.name) := by
    rw [names_typeDeclarations hresults]
    exact List.mem_map.mpr ⟨u, List.mem_filter.mpr ⟨hu, hu'⟩, rfl⟩
  exact List.mem_map.mp hmem

/-! ## A closed schema -/

/-- A user has a name, a role and friends, and a search finds users. -/
def userSchema : Schema where
  types := [
    { name := .str "String", kind := .scalar },
    { name := .str "Role", kind := .enum, enumValues := [.str "ADMIN", .str "MEMBER"] },
    { name := .str "User", kind := .object, fields := [
        ⟨.str "name", ⟨⟨.nonNull, .null⟩, [⟨.scalar, .str "String"⟩]⟩⟩,
        ⟨.str "role", ⟨⟨.enum, .str "Role"⟩, []⟩⟩,
        ⟨.str "friends", ⟨⟨.list, .null⟩, [⟨.object, .str "User"⟩]⟩⟩] },
    { name := .str "Search", kind := .union, possibleTypes := [⟨⟨.object, .str "User"⟩, []⟩] }]

theorem userSchema_isClosed : userSchema.IsClosed := by
  apply Schema.isClosed_of_unreserved
  · intro t ht
    simp only [userSchema, List.mem_cons, List.not_mem_nil, or_false] at ht
    rcases ht with rfl | rfl | rfl | rfl
    all_goals exact ⟨_, rfl, by decide⟩
  · have hplain (kind : TypeKind) (text : String) (h : kind.isWrapper = false) :
        TypeRef.LeadsTo ⟨⟨kind, .str text⟩, []⟩ ⟨kind, .str text⟩ :=
      TypeRef.leadsTo_outer h (by simp)
    have hname := (hplain .scalar "String" rfl).wrap
      (w := ⟨.nonNull, .null⟩) rfl (by decide)
    have hfriends := (hplain .object "User" rfl).wrap
      (w := ⟨.list, .null⟩) rfl (by decide)
    intro t ht
    simp only [userSchema, List.mem_cons, List.not_mem_nil, or_false] at ht
    rcases ht with rfl | rfl | rfl | rfl
    · simp [TypeDef.ownFields, TypeDef.isInput]
    · simp [TypeDef.ownFields, TypeDef.isInput]
    · refine List.forall_mem_cons.mpr ⟨⟨_, hname, ?_⟩,
        List.forall_mem_cons.mpr ⟨⟨_, hplain .enum "Role" rfl, ?_⟩,
          List.forall_mem_singleton.mpr ⟨_, hfriends, ?_⟩⟩⟩
      all_goals simp [userSchema]
    · simp [TypeDef.ownFields, TypeDef.isInput]
  · simp [userSchema, Link.isWrapper, TypeKind.isWrapper]

theorem userSchema_mentions_declared :
    userSchema.IsClosed ∧
      ∃ types, declarations { ignored := ["Role"], suffix := "X" } userSchema =
          .ok (envelope { ignored := ["Role"], suffix := "X" } userSchema ++ types) ∧
        ∀ d ∈ types, ∀ name ∈ d.body.mentions, ∃ d' ∈ types, d'.name = name :=
  ⟨userSchema_isClosed,
    mentions_declared_of_closed userSchema_isClosed { ignored := ["Role"], suffix := "X" }⟩

end Flow
end FlowDecl
