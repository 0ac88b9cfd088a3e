import FlowDecl.Proofs.Flow.References
import FlowDecl.Proofs.Schema.Filtering

/-!
# References of filtered schemas

A filter keeps the root types and the types whose names pass its conditions.  From the types that
are kept it takes out the possible types that are not, and it leaves their fields as they are.  So
no possible type is left dangling, while a field is left dangling exactly if the type that it leads
to is dropped.

A possible type is taken out by the name of its outermost link.  One inside of a wrapper has no name
there and is treated like a field.
-/

namespace FlowDecl

open Json (Value)

/-- All references of a type. -/
def TypeDef.references (t : TypeDef) : List TypeRef :=
  (t.fields ++ t.inputFields).map (·.type) ++ t.possibleTypes

/-- A schema has a type of the name and the kind that a link gives. -/
def Schema.HasType (s : Schema) (target : Link) : Prop :=
  ∃ u ∈ s.types, u.name = target.name ∧ u.kind = target.kind

/-- Schemas in which every reference leads over wrappers without names to a type of the schema. -/
structure Schema.IsResolved (s : Schema) : Prop where
  text : ∀ t ∈ s.types, ∃ name, t.name = .str name
  queryType : IsPlainName s.queryType
  mutationType : IsPlainName s.mutationType
  nameless : ∀ t ∈ s.types, ∀ ref ∈ t.references, ∀ w ∈ ref.links,
    w.isWrapper = true → w.name = .null
  leads : ∀ t ∈ s.types, ∀ ref ∈ t.references, ∃ target, ref.LeadsTo target ∧ s.HasType target

namespace NameFilter

/-! ## What is kept -/

/-- A type without the possible types that a filter does not keep. -/
def withoutDropped (f : NameFilter) (s : Schema) (t : TypeDef) : TypeDef :=
  { t with possibleTypes := t.possibleTypes.filter fun ref => f.keepsNamed s ref.outer.name }

/-- The types that a filter keeps, without the possible types that it does not keep. -/
def filtered (f : NameFilter) (s : Schema) : Schema :=
  { s with types := (s.types.filter fun t => f.keepsNamed s t.name).map (f.withoutDropped s) }

/-- The outermost link of a possible type has no name, or a type bears the name. -/
theorem outer_of_isResolved {s : Schema} (hs : s.IsResolved) {t : TypeDef} (ht : t ∈ s.types)
    {ref : TypeRef} (href : ref ∈ t.references) :
    ref.outer.name = .null ∨ ∃ u ∈ s.types, u.name = ref.outer.name := by
  obtain ⟨target, hleads, u, hu, huname, -⟩ := hs.leads t ht ref href
  obtain ⟨wrappers, hlinks, -, hwrappers⟩ := hleads.chain
  cases wrappers with
  | nil =>
      right
      have houter : ref.outer = target := (List.cons.inj hlinks).1
      exact ⟨u, hu, by rw [houter, huname]⟩
  | cons w wrappers =>
      left
      have houter : ref.outer = w := (List.cons.inj hlinks).1
      apply hs.nameless t ht ref href ref.outer List.mem_cons_self
      rw [houter]
      exact hwrappers w List.mem_cons_self

theorem hasKeys_of_isResolved {s : Schema} (hs : s.IsResolved) :
    s.HasKeys := by
  refine ⟨hs.text, hashable_of_isPlainName hs.queryType, hashable_of_isPlainName hs.mutationType,
    ?_⟩
  intro t ht ref href
  rcases outer_of_isResolved hs ht (List.mem_append_right _ href) with hnull | ⟨u, hu, hname⟩
  · rw [hnull]
    rfl
  · rw [← hname]
    exact hashable_of_isPlainName (Or.inr (hs.text u hu))

/-- A possible type loses the dropped types exactly if it loses those that are not kept. -/
theorem without_drops_eq {s : Schema} (hs : s.IsResolved) (f : NameFilter) {t : TypeDef}
    (ht : t ∈ s.types) :
    t.without (s.drops (f.keepsNamed s)) = f.withoutDropped s t := by
  have hmembers : ∀ ref ∈ t.possibleTypes,
      (!s.drops (f.keepsNamed s) ref.outer.name) = f.keepsNamed s ref.outer.name := by
    intro ref href
    rw [Bool.not_eq_eq_eq_not, Bool.eq_iff_iff, Schema.drops_iff (hasKeys_of_isResolved hs),
      Bool.not_eq_true']
    apply and_iff_right_of_imp
    intro hkeeps
    rcases outer_of_isResolved hs ht (List.mem_append_right _ href) with hnull | hnamed
    · rw [hnull] at hkeeps
      cases hkeeps
    · exact hnamed
  rw [TypeDef.without, withoutDropped, List.filter_congr hmembers]

/-- Applied to a schema whose references lead to its types, a filter has a result: the types that it
keeps. -/
theorem apply_eq_filtered {s : Schema} (hs : s.IsResolved) (f : NameFilter) :
    f.apply s = .ok (f.filtered s) := by
  have htypes : (s.restrict (f.keepsNamed s)).types = (f.filtered s).types :=
    List.map_congr_left fun t ht => without_drops_eq hs f (List.mem_of_mem_filter ht)
  rw [apply_eq_restrict (hasKeys_of_isResolved hs)]
  exact congrArg (fun types => Except.ok { s with types }) htypes

/-- A filter keeps a type exactly if it keeps its name. -/
theorem hasType_filtered_iff {f : NameFilter} {s : Schema} {target : Link} :
    (f.filtered s).HasType target ↔ s.HasType target ∧ f.keepsNamed s target.name = true := by
  constructor
  · rintro ⟨u, hu, hname, hkind⟩
    obtain ⟨v, hv, rfl⟩ := List.mem_map.mp hu
    obtain ⟨hv, hkept⟩ := List.mem_filter.mp hv
    exact ⟨⟨v, hv, hname, hkind⟩, hname ▸ hkept⟩
  · rintro ⟨⟨v, hv, hname, hkind⟩, hkept⟩
    refine ⟨f.withoutDropped s v, List.mem_map_of_mem ?_, hname, hkind⟩
    exact List.mem_filter.mpr ⟨hv, by rwa [hname]⟩

theorem mem_references_of_withoutDropped {f : NameFilter} {s : Schema} {t : TypeDef}
    {ref : TypeRef} (href : ref ∈ (f.withoutDropped s t).references) :
    ref ∈ t.references := by
  rcases List.mem_append.mp href with hfield | hpossible
  · exact List.mem_append_left _ hfield
  · exact List.mem_append_right _ (List.mem_of_mem_filter hpossible)

/-- A possible type that is not wrapped is left dangling by no filter.  Any other reference is left
dangling exactly if the filter drops the type that it leads to. -/
theorem apply_hasType_iff_keepsNamed {s : Schema} (hs : s.IsResolved) (f : NameFilter) :
    f.apply s = .ok (f.filtered s) ∧
      ∀ t ∈ (f.filtered s).types,
        (∀ ref ∈ t.possibleTypes, ref.inner = [] → (f.filtered s).HasType ref.outer) ∧
          ∀ ref ∈ t.references, ∀ target, ref.LeadsTo target →
            ((f.filtered s).HasType target ↔ f.keepsNamed s target.name = true) := by
  refine ⟨apply_eq_filtered hs f, ?_⟩
  intro t' ht'
  obtain ⟨t, ht, rfl⟩ := List.mem_map.mp ht'
  have ht := List.mem_of_mem_filter ht
  constructor
  · intro ref href hinner
    obtain ⟨href, hkept⟩ := List.mem_filter.mp href
    obtain ⟨target, hleads, htype⟩ := hs.leads t ht ref (List.mem_append_right _ href)
    obtain ⟨wrappers, hlinks, -⟩ := hleads.chain
    have houter := TypeRef.getLastD_inner_eq_of_links hlinks
    rw [hinner, List.getLastD_nil] at houter
    exact hasType_filtered_iff.mpr ⟨houter ▸ htype, hkept⟩
  · intro ref href target hleads
    obtain ⟨target', hleads', htype⟩ :=
      hs.leads t ht ref (mem_references_of_withoutDropped href)
    rw [hleads.unique hleads', hasType_filtered_iff]
    exact and_iff_right htype

/-! ## A dropped type -/

/-- An actor is a user or a bot, and a user owns a bot. -/
def actorSchema : Schema where
  types := [
    { name := .str "User", kind := .object, fields := [
        ⟨.str "bot", ⟨⟨.object, .str "_Bot"⟩, []⟩⟩] },
    { name := .str "_Bot", kind := .object },
    { name := .str "Actor", kind := .union, possibleTypes := [
        ⟨⟨.object, .str "User"⟩, []⟩, ⟨⟨.object, .str "_Bot"⟩, []⟩] }]

/-- Names that begin with an underscore are dropped. -/
def withoutUnderscore : NameFilter where
  notBeginning := some "_"

theorem actorSchema_isResolved : actorSchema.IsResolved := by
  have hplain (text : String) :
      TypeRef.LeadsTo ⟨⟨.object, .str text⟩, []⟩ ⟨.object, .str text⟩ :=
    TypeRef.leadsTo_outer rfl (by simp)
  have hreferences : ∀ t ∈ actorSchema.types, ∀ ref ∈ t.references,
      ref = ⟨⟨.object, .str "User"⟩, []⟩ ∨ ref = ⟨⟨.object, .str "_Bot"⟩, []⟩ := by
    simp [actorSchema, TypeDef.references]
  refine ⟨by simp [actorSchema], Or.inl rfl, Or.inl rfl, ?_, ?_⟩
  · intro t ht ref href w hw hwrapper
    rcases hreferences t ht ref href with rfl | rfl
    · rw [List.mem_singleton.mp hw] at hwrapper
      cases hwrapper
    · rw [List.mem_singleton.mp hw] at hwrapper
      cases hwrapper
  · intro t ht ref href
    rcases hreferences t ht ref href with rfl | rfl
    · exact ⟨_, hplain "User", by simp [Schema.HasType, actorSchema]⟩
    · exact ⟨_, hplain "_Bot", by simp [Schema.HasType, actorSchema]⟩

/-- The bot is dropped, and the references to users are not dangling. -/
theorem actorSchema_hasType_iff_keepsNamed :
    actorSchema.IsResolved ∧
      withoutUnderscore.apply actorSchema = .ok (withoutUnderscore.filtered actorSchema) ∧
        ∀ t ∈ (withoutUnderscore.filtered actorSchema).types,
          (∀ ref ∈ t.possibleTypes, ref.inner = [] →
              (withoutUnderscore.filtered actorSchema).HasType ref.outer) ∧
            ∀ ref ∈ t.references, ∀ target, ref.LeadsTo target →
              ((withoutUnderscore.filtered actorSchema).HasType target ↔
                withoutUnderscore.keepsNamed actorSchema target.name = true) :=
  ⟨actorSchema_isResolved, apply_hasType_iff_keepsNamed actorSchema_isResolved withoutUnderscore⟩

/-- A field of a type that is kept can lead to a type that is dropped. -/
theorem exists_dangling_field :
    ¬∀ (f : NameFilter) (s s' : Schema), s.IsResolved → f.apply s = .ok s' →
      ∀ t ∈ s'.types, ∀ ref ∈ t.references, ∀ target, ref.LeadsTo target →
        target.kind ≠ .scalar → ∃ u ∈ s'.types, u.name = target.name := by
  intro h
  have hbot : TypeRef.LeadsTo ⟨⟨.object, .str "_Bot"⟩, []⟩ ⟨.object, .str "_Bot"⟩ :=
    TypeRef.leadsTo_outer rfl (by simp)
  have happly := apply_eq_filtered actorSchema_isResolved withoutUnderscore
  obtain ⟨u, hu, huname⟩ := h _ _ _ actorSchema_isResolved happly _ List.mem_cons_self _
    List.mem_cons_self _ hbot (by simp)
  obtain ⟨t, ht, rfl⟩ := List.mem_map.mp hu
  have hkept := (List.mem_filter.mp ht).2
  have hname : t.name = .str "_Bot" := huname
  rw [hname] at hkept
  revert hkept
  decide

end NameFilter
end FlowDecl
