import FlowDecl.Module.Pipeline
import FlowDecl.Proofs.Schema.DocumentReading

/-!
# Filters one after the other

Each filter looks at the schema that the filters before it have left, so what it drops is computed
anew at every step.  Still, some filters together keep what each of them keeps: a schema that is
restricted to some names and then to others is the schema restricted to the names in both.  A
possible type that goes with a type which is dropped early is gone when the later filters look at
it, and one that goes late bears the name of a type which was still there.

Hence the order of the filters does not count, and neither does a filter that is applied again.
-/

namespace FlowDecl

open Json (Value)

/-- Schemas in which the names of types are texts, and the names of roots and of possible types can
stand in a set of names. -/
structure Schema.HasKeys (s : Schema) : Prop where
  text : ∀ t ∈ s.types, ∃ name, t.name = .str name
  queryType : s.queryType.hashable = true
  mutationType : s.mutationType.hashable = true
  possibleTypes : ∀ t ∈ s.types, ∀ ref ∈ t.possibleTypes, ref.outer.name.hashable = true

/-- Whether a name is that of a type which is not kept. -/
def Schema.drops (keeps : Value → Bool) (s : Schema) (name : Value) : Bool :=
  s.types.any fun t => t.name.same name && !keeps t.name

/-- A type without the possible types whose names are dropped. -/
def TypeDef.without (drops : Value → Bool) (t : TypeDef) : TypeDef :=
  { t with possibleTypes := t.possibleTypes.filter fun ref => !drops ref.outer.name }

/-- The types that are kept, each without the possible types that bear the name of a type which is
not kept. -/
def Schema.restrict (keeps : Value → Bool) (s : Schema) : Schema :=
  { s with
    types := (s.types.filter fun t => keeps t.name).map (TypeDef.without (s.drops keeps)) }

/-! ## Names in sets -/

theorem same_iff_of_isPlainName {name v : Value} (h : IsPlainName name) :
    Value.same name v = true ↔ v = name := by
  rcases h with rfl | ⟨text, rfl⟩
  · cases v <;> simp [Value.same, Value.sameScalar, Value.numeric?]
  · cases v with
    | str other =>
        simp only [Value.same, Value.sameScalar, beq_iff_eq, Value.str.injEq]
        exact eq_comm
    | _ => simp [Value.same, Value.sameScalar, Value.numeric?]

theorem isIn_iff_of_isPlainName {name : Value} (h : IsPlainName name) {set : List Value} :
    name.isIn set = true ↔ name ∈ set := by
  have hnumber (v : Value) : Value.bothNaN name v = false := by
    rcases h with rfl | ⟨text, rfl⟩
    · rfl
    · rfl
  simp [Value.isIn, List.any_eq_true, hnumber, same_iff_of_isPlainName h]

/-- A value is found among texts if it is one of them. -/
theorem isIn_iff_of_texts {v : Value} {set : List Value}
    (hset : ∀ name ∈ set, ∃ text, name = .str text) :
    v.isIn set = true ↔ v ∈ set := by
  have htext (text : String) :
      (Value.bothNaN v (.str text) || v.same (.str text)) = true ↔ v = .str text := by
    cases v with
    | str other => simp [Value.bothNaN, Value.same, Value.sameScalar]
    | _ => simp [Value.bothNaN, Value.same, Value.sameScalar, Value.numeric?]
  rw [Value.isIn, List.any_eq_true]
  constructor
  · rintro ⟨name, hname, hsame⟩
    obtain ⟨text, rfl⟩ := hset name hname
    rwa [(htext text).mp hsame]
  · intro hv
    obtain ⟨text, htext'⟩ := hset v hv
    exact ⟨v, hv, htext' ▸ (htext text).mpr htext'⟩

theorem asKey_of_hashable {name : Value} (h : name.hashable = true) :
    asKey name = .ok name :=
  if_pos h

/-- A name is dropped exactly if a type bears it and it is not kept. -/
theorem Schema.drops_iff {s : Schema} (hs : s.HasKeys) {keeps : Value → Bool} {name : Value} :
    s.drops keeps name = true ↔ (∃ t ∈ s.types, t.name = name) ∧ keeps name = false := by
  rw [Schema.drops, List.any_eq_true]
  constructor
  · rintro ⟨t, ht, h⟩
    rw [Bool.and_eq_true, same_iff_of_isPlainName (Or.inr (hs.text t ht)),
      Bool.not_eq_true'] at h
    exact ⟨⟨t, ht, h.1.symm⟩, h.1 ▸ h.2⟩
  · rintro ⟨⟨t, ht, rfl⟩, hkeeps⟩
    refine ⟨t, ht, ?_⟩
    rw [Bool.and_eq_true, same_iff_of_isPlainName (Or.inr (hs.text t ht)), Bool.not_eq_true']
    exact ⟨rfl, hkeeps⟩

/-! ## Restricted schemas -/

theorem TypeDef.without_without (drops drops' : Value → Bool) (t : TypeDef) :
    (t.without drops).without drops' = t.without fun name => drops name || drops' name := by
  simp [TypeDef.without, List.filter_filter, Bool.and_comm]

namespace Schema

variable {s : Schema}

theorem restrict_true (s : Schema) :
    s.restrict (fun _ => true) = s := by
  have hdrops : s.drops (fun _ => true) = fun _ => false := by
    funext name
    simp [drops]
  have hwithout : TypeDef.without (fun _ => false) = id := by
    funext t
    simp [TypeDef.without]
  simp [restrict, hdrops, hwithout]

/-- A name that is dropped in two steps is dropped in one of them. -/
theorem drops_and (keeps keeps' : Value → Bool) (s : Schema) (name : Value) :
    s.drops (fun n => keeps n && keeps' n) name =
      (s.drops keeps name || (s.restrict keeps).drops keeps' name) := by
  -- The second step looks at the types only that the first one has kept.
  have hsecond : (s.restrict keeps).drops keeps' name =
      s.types.any fun t => keeps t.name && (t.name.same name && !keeps' t.name) := by
    rw [drops, restrict, List.any_map, List.any_filter]
    rfl
  rw [hsecond, drops, drops, Bool.eq_iff_iff, Bool.or_eq_true, List.any_eq_true,
    List.any_eq_true, List.any_eq_true, ← exists_or]
  refine exists_congr fun t => ?_
  cases keeps t.name <;> simp

/-- A schema that is restricted twice is restricted to what is kept both times. -/
theorem restrict_restrict (keeps keeps' : Value → Bool) (s : Schema) :
    (s.restrict keeps).restrict keeps' = s.restrict fun n => keeps n && keeps' n := by
  have hkept : ((s.restrict keeps).types.filter fun t => keeps' t.name) =
      (s.types.filter fun t => keeps t.name && keeps' t.name).map
        (TypeDef.without (s.drops keeps)) := by
    rw [restrict, List.filter_map, List.filter_filter]
    simp only [Function.comp_def, Bool.and_comm]
    rfl
  have hdrops : s.drops (fun n => keeps n && keeps' n) =
      fun name => s.drops keeps name || (s.restrict keeps).drops keeps' name :=
    funext (drops_and keeps keeps' s)
  have htypes : ((s.restrict keeps).restrict keeps').types =
      (s.restrict fun n => keeps n && keeps' n).types := by
    change ((s.restrict keeps).types.filter fun t => keeps' t.name).map _ =
      (s.types.filter fun t => keeps t.name && keeps' t.name).map _
    rw [hkept, List.map_map, hdrops]
    exact List.map_congr_left fun t _ => TypeDef.without_without _ _ t
  exact congrArg (fun types => { s with types }) htypes

theorem HasKeys.restrict (hs : s.HasKeys) (keeps : Value → Bool) :
    (s.restrict keeps).HasKeys := by
  refine ⟨?_, hs.queryType, hs.mutationType, ?_⟩
  · intro t' ht'
    obtain ⟨t, ht, rfl⟩ := List.mem_map.mp ht'
    exact hs.text t (List.mem_of_mem_filter ht)
  · intro t' ht' ref href
    obtain ⟨t, ht, rfl⟩ := List.mem_map.mp ht'
    exact hs.possibleTypes t (List.mem_of_mem_filter ht) ref (List.mem_of_mem_filter href)

end Schema

namespace NameFilter

/-! ## One filter -/

/-- Whether a filter keeps what has a name.  It keeps what has none. -/
def keepsNamed (f : NameFilter) (s : Schema) : Value → Bool
  | .str name => (Value.str name).isIn [s.queryType, s.mutationType] || f.matchesName name
  | _ => true

/-- Where no question is asked, every name matches. -/
theorem passes_str (f : NameFilter) (name : String) :
    f.passes (.str name) = .ok (f.matchesName name) := by
  rw [passes]
  split
  next hnone =>
    have hmatches : f.matchesName name = true := by
      simp only [firstQuestion, ite_eq_iff, reduceCtorEq, and_false, false_or, and_true,
        Bool.not_eq_true, Option.isSome_eq_false_iff, Option.isNone_iff_eq_none] at hnone
      obtain ⟨hnotBeginning, hnotEnding, hbeginning, hending⟩ := hnone
      rw [matchesName, hnotBeginning, hnotEnding, hbeginning, hending]
      rfl
    rw [hmatches]
  next => rfl

theorem rootSet_eq {s : Schema} (hs : s.HasKeys) :
    rootSet s = .ok ([s.queryType, s.mutationType].filter fun root => !root.isNull) := by
  rw [rootSet, asKey_of_hashable hs.queryType, asKey_of_hashable hs.mutationType]
  rfl

/-- A filter keeps a type if it is a root or its name passes. -/
theorem keeps_eq {s : Schema} (hs : s.HasKeys) (f : NameFilter) {t : TypeDef}
    (ht : t ∈ s.types) :
    f.keeps ([s.queryType, s.mutationType].filter fun root => !root.isNull) t =
      .ok (f.keepsNamed s t.name) := by
  obtain ⟨name, hname⟩ := hs.text t ht
  have hroots : (Value.str name).isIn
      ([s.queryType, s.mutationType].filter fun root => !root.isNull) =
        (Value.str name).isIn [s.queryType, s.mutationType] := by
    rw [Bool.eq_iff_iff, isIn_iff_of_isPlainName (isPlainName_str name),
      isIn_iff_of_isPlainName (isPlainName_str name), List.mem_filter]
    exact and_iff_left rfl
  rw [keeps, hname, asKey_of_hashable rfl, keepsNamed, ← hroots]
  change (if _ = true then Except.ok true else f.passes (.str name)) = _
  rw [passes_str]
  split
  next hroot => rw [hroot, Bool.true_or]
  next hroot => rw [Bool.eq_false_iff.mpr hroot, Bool.false_or]

/-- The dropped names are those of the types that are not kept. -/
theorem mem_dropped_iff {s : Schema} (hs : s.HasKeys) {f : NameFilter} {name : Value} :
    name ∈ ((s.types.map (·.name)).filter fun name =>
        !name.isIn ((s.types.filter fun t => f.keepsNamed s t.name).map (·.name))) ↔
      s.drops (f.keepsNamed s) name = true := by
  rw [Schema.drops_iff hs, List.mem_filter, List.mem_map]
  apply and_congr_right
  rintro ⟨u, hu, rfl⟩
  have hplain : IsPlainName u.name := Or.inr (hs.text u hu)
  rw [Bool.not_eq_true', ← Bool.not_eq_true, ← Bool.not_eq_true, isIn_iff_of_isPlainName hplain,
    not_iff_not, List.mem_map]
  constructor
  · rintro ⟨v, hv, hname⟩
    rw [← hname]
    exact (List.mem_filter.mp hv).2
  · intro hkept
    exact ⟨u, List.mem_filter.mpr ⟨hu, hkept⟩, rfl⟩

/-- The possible types that are taken out bear dropped names. -/
theorem prune_eq {drops : Value → Bool} {dropped : List Value} {t : TypeDef}
    (hkeys : ∀ ref ∈ t.possibleTypes, ref.outer.name.hashable = true)
    (htexts : ∀ name ∈ dropped, ∃ text, name = .str text)
    (hdropped : ∀ name, name ∈ dropped ↔ drops name = true) :
    prune dropped t = .ok (t.without drops) := by
  have hmembers : ∀ ref ∈ t.possibleTypes,
      (do
        let name ← asKey ref.outer.name
        return !name.isIn dropped) = Except.ok (!drops ref.outer.name) := by
    intro ref href
    have hdrops : ref.outer.name.isIn dropped = drops ref.outer.name := by
      rw [Bool.eq_iff_iff, isIn_iff_of_texts htexts, hdropped]
    rw [asKey_of_hashable (hkeys ref href), ← hdrops]
    rfl
  rw [prune, Outcome.filterM_eq_ok_filter hmembers]
  rfl

/-- A filter restricts a schema to the names that it keeps. -/
theorem apply_eq_restrict {s : Schema} (hs : s.HasKeys) (f : NameFilter) :
    f.apply s = .ok (s.restrict (f.keepsNamed s)) := by
  rw [apply, rootSet_eq hs]
  refine Outcome.bind_eq_ok_iff.mpr ⟨_, rfl, ?_⟩
  rw [Outcome.filterM_eq_ok_filter fun t ht => keeps_eq hs f ht]
  refine Outcome.bind_eq_ok_iff.mpr ⟨_, rfl, ?_⟩
  have htexts : ∀ name ∈ ((s.types.map (·.name)).filter fun name =>
      !name.isIn ((s.types.filter fun t => f.keepsNamed s t.name).map (·.name))),
      ∃ text, name = .str text := by
    intro name hname
    obtain ⟨t, ht, rfl⟩ := List.mem_map.mp (List.mem_of_mem_filter hname)
    exact hs.text t ht
  have hpruned : ∀ t ∈ s.types.filter (fun t => f.keepsNamed s t.name),
      prune ((s.types.map (·.name)).filter fun name =>
        !name.isIn ((s.types.filter fun t => f.keepsNamed s t.name).map (·.name))) t =
          .ok (t.without (s.drops (f.keepsNamed s))) := by
    intro t ht
    exact prune_eq (hs.possibleTypes t (List.mem_of_mem_filter ht)) htexts
      fun name => mem_dropped_iff hs
  exact Outcome.bind_eq_ok_iff.mpr ⟨_, Outcome.mapM_eq_ok_map hpruned, rfl⟩

end NameFilter

namespace Pipeline

/-! ## Several filters -/

/-- Whether some filters keep what has a name: it is a root, or it passes all of them. -/
def keepsNamed (filters : List NameFilter) (s : Schema) : Value → Bool
  | .str name =>
    (Value.str name).isIn [s.queryType, s.mutationType] || filters.all fun f => f.matchesName name
  | _ => true

theorem keepsNamed_cons (f : NameFilter) (filters : List NameFilter) (s : Schema) :
    keepsNamed (f :: filters) s = fun name => f.keepsNamed s name && keepsNamed filters s name := by
  funext name
  cases name with
  | str text =>
      rw [keepsNamed, keepsNamed, NameFilter.keepsNamed, List.all_cons, Bool.or_and_distrib_left]
  | _ => rfl

theorem keepsNamed_nil (s : Schema) :
    keepsNamed [] s = fun _ => true := by
  funext name
  cases name with
  | str text => exact Bool.or_true _
  | _ => rfl

/-- It only counts which filters there are. -/
theorem keepsNamed_congr {filters filters' : List NameFilter}
    (h : ∀ f, f ∈ filters' ↔ f ∈ filters) (s : Schema) :
    keepsNamed filters' s = keepsNamed filters s := by
  funext name
  cases name with
  | str text =>
      have hall : (filters'.all fun f => f.matchesName text) =
          filters.all fun f => f.matchesName text := by
        rw [Bool.eq_iff_iff, List.all_eq_true, List.all_eq_true]
        exact forall_congr' fun f => by rw [h f]
      rw [keepsNamed, keepsNamed, hall]
  | _ => rfl

/-- Filters that are applied one after the other restrict a schema to the names that all of them
keep. -/
theorem foldlM_apply_eq_restrict {s : Schema} (hs : s.HasKeys) (filters : List NameFilter) :
    filters.foldlM (fun s f => f.apply s) s = .ok (s.restrict (keepsNamed filters s)) := by
  -- The schemas in between have the roots of the first one, so they keep the same names.
  induction filters generalizing s with
  | nil =>
      rw [keepsNamed_nil, Schema.restrict_true]
      rfl
  | cons f filters ih =>
      have hstep := NameFilter.apply_eq_restrict hs f
      have hrest := ih (hs.restrict (f.keepsNamed s))
      rw [List.foldlM_cons, hstep]
      change filters.foldlM (fun s f => f.apply s) (s.restrict (f.keepsNamed s)) = _
      rw [hrest, Schema.restrict_restrict, keepsNamed_cons]
      rfl

/-- The filters of a pipeline restrict a schema to its root types and the types whose names pass all
of them.  Neither the order of the filters nor their repetition counts, and a filter that is applied
again changes nothing. -/
theorem filterSchema_eq_restrict {s : Schema} (hs : s.HasKeys) (p : Pipeline) :
    p.filterSchema s = .ok (s.restrict (keepsNamed p.filters s)) ∧
      (∀ q : Pipeline, (∀ f, f ∈ q.filters ↔ f ∈ p.filters) →
        q.filterSchema s = p.filterSchema s) ∧
        ∀ f ∈ p.filters, f.apply (s.restrict (keepsNamed p.filters s)) =
          .ok (s.restrict (keepsNamed p.filters s)) := by
  have hresult (filters : List NameFilter) (hsame : ∀ f, f ∈ filters ↔ f ∈ p.filters) :
      filters.foldlM (fun s f => f.apply s) s = .ok (s.restrict (keepsNamed p.filters s)) := by
    rw [foldlM_apply_eq_restrict hs, keepsNamed_congr hsame]
  have hfirst := hresult p.filters fun f => Iff.rfl
  refine ⟨hfirst, ?_, ?_⟩
  · intro q hsame
    rw [filterSchema, filterSchema, hfirst, hresult q.filters hsame]
  · intro f hf
    have hagain : ∀ g, g ∈ p.filters ++ [f] ↔ g ∈ p.filters := by
      intro g
      rw [List.mem_append, List.mem_singleton]
      exact ⟨fun h => h.elim id fun hg => hg ▸ hf, Or.inl⟩
    have htwice := hresult (p.filters ++ [f]) hagain
    rw [List.foldlM_append, hfirst] at htwice
    change [f].foldlM (fun s f => f.apply s) (s.restrict (keepsNamed p.filters s)) = _ at htwice
    rw [List.foldlM_cons] at htwice
    obtain ⟨s', hs', hpure⟩ := Outcome.bind_eq_ok_iff.mp htwice
    rw [hs', ← Except.ok.inj hpure]

/-! ## Two filters -/

/-- A pet is a dog, a cat or something that is not declared.  There are two types for cats. -/
def petSchema : Schema where
  queryType := .str "_Query"
  types := [
    { name := .str "_Query", kind := .object },
    { name := .str "Dog", kind := .object },
    { name := .str "_Cat", kind := .object },
    { name := .str "_Cat", kind := .interface },
    { name := .str "DogInput", kind := .inputObject },
    { name := .str "Pet", kind := .union, possibleTypes := [
        ⟨⟨.object, .str "Dog"⟩, []⟩, ⟨⟨.object, .str "_Cat"⟩, []⟩,
        ⟨⟨.object, .str "_Ghost"⟩, []⟩] }]

/-- Names that begin with an underscore are dropped, and so are names of inputs. -/
def petPipeline : Pipeline where
  filters := [{ notBeginning := some "_" }, { notEnding := some "Input" }]

theorem petSchema_hasKeys : petSchema.HasKeys := by
  refine ⟨?_, rfl, rfl, ?_⟩
  · simp [petSchema]
  · simp [petSchema, Value.hashable]

/-- The root, the dog and the pet are kept, and only what is declared is taken out of the pet. -/
theorem filterSchema_petSchema :
    petSchema.HasKeys ∧
      petPipeline.filterSchema petSchema = .ok {
        queryType := .str "_Query"
        types := [
          { name := .str "_Query", kind := .object },
          { name := .str "Dog", kind := .object },
          { name := .str "Pet", kind := .union, possibleTypes := [
              ⟨⟨.object, .str "Dog"⟩, []⟩, ⟨⟨.object, .str "_Ghost"⟩, []⟩] }] } :=
  ⟨petSchema_hasKeys, (filterSchema_eq_restrict petSchema_hasKeys petPipeline).1⟩

end Pipeline
end FlowDecl
