import FlowDecl.Proofs.Schema.DocumentGrammar
import FlowDecl.Schema.Writing
import Mathlib.Data.List.Nodup

/-!
# How documents are written

A schema is written as a document by putting every part of it under the name that the reader takes
it from.  The reader gets the same schema back, and it depends on nothing but the members that are
written: an object of the document may have further members under other names, and its members may
stand in any order.  There is one exception.  A document without a member `data` must not be given
one, because the schema would be looked for in it.
-/

namespace FlowDecl

open Json (Value)

/-! ## Further members -/

namespace Json

/-- A value becomes another one if objects inside of it get further members, under names that they
do not have, and if members of an object change places. -/
inductive Value.EnrichesTo : Value → Value → Prop where
  | same (v : Value) : EnrichesTo v v
  | items {xs ys : List Value} (hitems : List.Forall₂ EnrichesTo xs ys) :
      EnrichesTo (.arr xs) (.arr ys)
  | members {old new further members : List (String × Value)}
      (hnames : old.map Prod.fst = new.map Prod.fst)
      (hvalues : List.Forall₂ EnrichesTo (old.map Prod.snd) (new.map Prod.snd))
      (hfurther : ∀ m ∈ further, m.1 ∉ old.map Prod.fst)
      (horder : members.Perm (new ++ further)) :
      EnrichesTo (.obj old) (.obj members)

/-- A value that is no list and no object has nothing that can change. -/
theorem Value.EnrichesTo.eq_of_hashable {v w : Value} (h : v.EnrichesTo w)
    (hv : v.hashable = true) :
    w = v := by
  cases h with
  | same => rfl
  | items => cases hv
  | members => cases hv

theorem Value.EnrichesTo.exists_items {xs : List Value} {w : Value}
    (h : (Value.arr xs).EnrichesTo w) :
    ∃ ys, w = .arr ys ∧ List.Forall₂ Value.EnrichesTo xs ys := by
  cases h with
  | same => exact ⟨xs, rfl, List.forall₂_same.mpr fun x _ => .same x⟩
  | items hitems => exact ⟨_, rfl, hitems⟩

theorem Value.mem_of_lookup? {name : String} {v : Value} {members : List (String × Value)}
    (h : Value.lookup? name members = some v) :
    (name, v) ∈ members := by
  induction members with
  | nil => cases h
  | cons m members ih =>
      obtain ⟨key, value⟩ := m
      rw [Value.lookup?] at h
      split at h
      next hkey =>
        cases h
        rw [hkey]
        exact List.mem_cons_self
      next => exact List.mem_cons_of_mem _ (ih h)

/-- A member is found under its name if no other value stands under it. -/
theorem Value.lookup?_eq_some_of_unique {name : String} {v : Value}
    {members : List (String × Value)} (hmem : (name, v) ∈ members)
    (hunique : ∀ w, (name, w) ∈ members → w = v) :
    Value.lookup? name members = some v := by
  induction members with
  | nil => cases hmem
  | cons m members ih =>
      obtain ⟨key, value⟩ := m
      rw [Value.lookup?]
      split
      next hkey =>
        subst hkey
        rw [hunique value List.mem_cons_self]
      next hkey =>
        apply ih
        · rcases List.mem_cons.mp hmem with heq | hrest
          · exact absurd (congrArg Prod.fst heq).symm hkey
          · exact hrest
        · exact fun w hw => hunique w (List.mem_cons_of_mem _ hw)

/-- Where the names of members are kept in place, a member corresponds to one under its name. -/
theorem Value.exists_mem_of_forall₂ {R : Value → Value → Prop} {old new : List (String × Value)}
    (hnames : old.map Prod.fst = new.map Prod.fst)
    (hvalues : List.Forall₂ R (old.map Prod.snd) (new.map Prod.snd))
    {name : String} {v : Value} (hmem : (name, v) ∈ old) :
    ∃ w, (name, w) ∈ new ∧ R v w := by
  induction old generalizing new with
  | nil => cases hmem
  | cons m old ih =>
      cases new with
      | nil => cases hnames
      | cons n new =>
          rw [List.map_cons, List.map_cons, List.cons.injEq] at hnames
          rw [List.map_cons, List.map_cons, List.forall₂_cons] at hvalues
          rcases List.mem_cons.mp hmem with rfl | hrest
          · exact ⟨n.2, List.mem_cons.mpr (Or.inl (Prod.ext hnames.1 rfl)), hvalues.1⟩
          · obtain ⟨w, hw, hR⟩ := ih hnames.2 hvalues.2 hrest
            exact ⟨w, List.mem_cons_of_mem _ hw, hR⟩

/-- An object of distinct names keeps its members, wherever they stand and whatever is added. -/
theorem Value.EnrichesTo.exists_members {old : List (String × Value)} {w : Value}
    (h : (Value.obj old).EnrichesTo w) (hdistinct : (old.map Prod.fst).Nodup) :
    ∃ members, w = .obj members ∧ ∀ name v, Value.lookup? name old = some v →
      ∃ v', Value.lookup? name members = some v' ∧ v.EnrichesTo v' := by
  cases h with
  | same => exact ⟨old, rfl, fun name v hlookup => ⟨v, hlookup, .same v⟩⟩
  | @members _ new further members hnames hvalues hfurther horder =>
      refine ⟨members, rfl, fun name v hlookup => ?_⟩
      have hold := Value.mem_of_lookup? hlookup
      obtain ⟨v', hnew, henriches⟩ := Value.exists_mem_of_forall₂ hnames hvalues hold
      refine ⟨v', Value.lookup?_eq_some_of_unique ?_ ?_, henriches⟩
      · exact horder.mem_iff.mpr (List.mem_append_left _ hnew)
      · intro w hw
        rw [hnames] at hdistinct
        rcases List.mem_append.mp (horder.mem_iff.mp hw) with hother | hother
        · have hsame := List.inj_on_of_nodup_map hdistinct hother hnew rfl
          exact congrArg Prod.snd hsame
        · have hname : name ∈ old.map Prod.fst := List.mem_map.mpr ⟨_, hold, rfl⟩
          exact absurd hname (hfurther _ hother)

end Json

/-! ## Canonical documents -/

/-- A reference of at most `maxDepth` steps whose names are texts or missing. -/
structure TypeRef.IsWritable (ref : TypeRef) : Prop where
  length : ref.inner.length ≤ maxDepth
  names : ∀ l ∈ ref.links, IsPlainName l.name

/-- A field whose name is a text. -/
structure Field.IsWritable (f : Field) : Prop where
  name : ∃ text, f.name = .str text
  type : f.type.IsWritable

/-- A type whose name and enum values are texts and whose description is missing or a text that is
not empty. -/
structure TypeDef.IsWritable (t : TypeDef) : Prop where
  name : ∃ text, t.name = .str text
  description : t.description = .null ∨ ∃ text, text ≠ "" ∧ t.description = .str text
  fields : ∀ f ∈ t.fields, f.IsWritable
  inputFields : ∀ f ∈ t.inputFields, f.IsWritable
  enumValues : ∀ v ∈ t.enumValues, ∃ text, v = .str text
  possibleTypes : ∀ ref ∈ t.possibleTypes, ref.IsWritable

/-- A schema of such types whose root names are texts or missing. -/
structure Schema.IsWritable (s : Schema) : Prop where
  queryType : IsPlainName s.queryType
  mutationType : IsPlainName s.mutationType
  types : ∀ t ∈ s.types, t.IsWritable

namespace Document

/-! ## Reading back -/

variable {w : Value}

theorem ofValue_tag (kind : TypeKind) :
    TypeKind.ofValue (.str kind.tag) = kind := by
  cases kind <;> rfl

/-- An object of a link keeps its kind, its name and what it wraps. -/
theorem exists_link_of_enrichesTo {l : Link} {inner : Value} (hplain : IsPlainName l.name)
    (h : (writeLink l inner).EnrichesTo w) :
    ∃ members, w = .obj members ∧ TypeKind.ofValue (member "kind" members) = l.kind ∧
      member "name" members = l.name ∧
        ∃ next, Value.lookup? "ofType" members = some next ∧ inner.EnrichesTo next := by
  obtain ⟨members, rfl, hmembers⟩ := h.exists_members (by simp)
  obtain ⟨kind, hkind, hkind'⟩ := hmembers "kind" _ rfl
  obtain ⟨name, hname, hname'⟩ := hmembers "name" _ rfl
  obtain ⟨next, hnext, hnext'⟩ := hmembers "ofType" _ rfl
  refine ⟨members, rfl, ?_, ?_, next, hnext, hnext'⟩
  · rw [member_of_lookup? hkind, hkind'.eq_of_hashable rfl, ofValue_tag]
  · rw [member_of_lookup? hname, hname'.eq_of_hashable (hashable_of_isPlainName hplain)]

theorem isTruthy_of_enrichesTo_writeLinks {l : Link} {inner : List Link}
    (h : (writeLinks l inner).EnrichesTo w) :
    w.isTruthy = true := by
  have hlink : ∃ wrapped, (writeLink l wrapped).EnrichesTo w := by
    cases inner with
    | nil => exact ⟨_, h⟩
    | cons next inner => exact ⟨_, h⟩
  obtain ⟨wrapped, hlink⟩ := hlink
  obtain ⟨members, rfl, hmembers⟩ := hlink.exists_members (by simp)
  obtain ⟨next, hnext, -⟩ := hmembers "ofType" _ rfl
  exact isTruthy_of_lookup? hnext

/-- Items that are read back one by one are read back from a list. -/
theorem readEach_of_enrichesTo {α : Type} {f : Value → Except Fault α} {write : α → Value}
    {items : List α}
    (hread : ∀ a ∈ items, ∀ w, (write a).EnrichesTo w → f w = .ok a)
    (h : (Value.arr (items.map write)).EnrichesTo w) :
    readEach f w = .ok items := by
  obtain ⟨ys, rfl, hitems⟩ := h.exists_items
  rw [List.forall₂_map_left_iff] at hitems
  change ys.mapM f = .ok items
  rw [Outcome.mapM_eq_ok_iff]
  clear h
  induction hitems with
  | nil => exact .nil
  | cons hhead _ ih =>
      obtain ⟨hfirst, hrest⟩ := List.forall_mem_cons.mp hread
      exact .cons (hfirst _ hhead) (ih hrest)

/-- A chain is read back if there are fewer links inside of the first one than may be read. -/
theorem readLinks_of_enrichesTo {l : Link} {inner : List Link} {budget : Nat}
    (hlength : inner.length < budget)
    (hnames : ∀ m ∈ l :: inner, IsPlainName m.name)
    (h : (writeLinks l inner).EnrichesTo w) :
    readLinks budget w = .ok (l :: inner) := by
  -- What an object wraps is the object of the rest of the chain, with one link less to be read.
  induction inner generalizing l budget w with
  | nil =>
      obtain ⟨budget, rfl⟩ := Nat.exists_eq_add_one_of_ne_zero (Nat.ne_of_gt hlength)
      obtain ⟨members, rfl, hkind, hname, next, hnext, hinner⟩ :=
        exists_link_of_enrichesTo (hnames l List.mem_cons_self) h
      obtain rfl := hinner.eq_of_hashable rfl
      rw [readLinks_obj budget (isTruthy_of_lookup? hnext), hkind, hname,
        member_of_lookup? hnext]
      rfl
  | cons next inner ih =>
      obtain ⟨budget, rfl⟩ := Nat.exists_eq_add_one_of_ne_zero (Nat.ne_zero_of_lt hlength)
      obtain ⟨members, rfl, hkind, hname, next', hnext, hinner⟩ :=
        exists_link_of_enrichesTo (hnames l List.mem_cons_self) h
      obtain ⟨-, hrest⟩ := List.forall_mem_cons.mp hnames
      have hread := ih (Nat.lt_of_succ_lt_succ hlength) hrest hinner
      rw [readLinks_obj budget (isTruthy_of_lookup? hnext), hkind, hname,
        member_of_lookup? hnext, if_pos (isTruthy_of_enrichesTo_writeLinks hinner), hread]
      rfl

theorem readRef_of_enrichesTo {ref : TypeRef} (href : ref.IsWritable)
    (h : (writeRef ref).EnrichesTo w) :
    readRef w = .ok ref :=
  readRef_eq_ok_iff.mpr
    (readLinks_of_enrichesTo (Nat.lt_succ_of_le href.length) href.names h)

theorem readField_of_enrichesTo {f : Field} (hf : f.IsWritable)
    (h : (writeField f).EnrichesTo w) :
    readField w = .ok f := by
  obtain ⟨text, htext⟩ := hf.name
  obtain ⟨members, rfl, hmembers⟩ := h.exists_members (by simp)
  obtain ⟨name, hname, hname'⟩ := hmembers "name" _ rfl
  obtain ⟨type, htype, htype'⟩ := hmembers "type" _ rfl
  obtain rfl : name = f.name := hname'.eq_of_hashable (by rw [htext]; rfl)
  refine readField_eq_ok_iff.mpr ⟨members, rfl, hname, ?_⟩
  rw [member_of_lookup? htype]
  exact readRef_of_enrichesTo hf.type htype'

theorem readEnumValue_of_enrichesTo {v : Value} (hv : ∃ text, v = .str text)
    (h : (writeNamed v).EnrichesTo w) :
    readEnumValue w = .ok v := by
  obtain ⟨text, rfl⟩ := hv
  obtain ⟨members, rfl, hmembers⟩ := h.exists_members (by simp)
  obtain ⟨name, hname, hname'⟩ := hmembers "name" _ rfl
  obtain rfl := hname'.eq_of_hashable rfl
  exact required_eq_ok_iff.mpr ⟨members, rfl, hname⟩

theorem readRoot_of_enrichesTo {name : Value} (hname : IsPlainName name)
    (h : (writeRoot name).EnrichesTo w) :
    readRoot w = .ok name := by
  rcases hname with rfl | ⟨text, rfl⟩
  · obtain rfl : w = .null := h.eq_of_hashable rfl
    rfl
  · change (writeNamed (.str text)).EnrichesTo w at h
    obtain ⟨members, rfl, hmembers⟩ := h.exists_members (by simp)
    obtain ⟨name, hname, hname'⟩ := hmembers "name" _ rfl
    obtain rfl := hname'.eq_of_hashable rfl
    rw [readRoot, if_pos (isTruthy_of_lookup? hname), optional_obj, member_of_lookup? hname]

/-- A description that is missing or not empty is read as it is. -/
theorem readDescription_of_writable {t : TypeDef} (ht : t.IsWritable) :
    readDescription t.description = t.description := by
  rcases ht.description with hnull | ⟨text, htext, hdescription⟩
  · rw [hnull]
    rfl
  · rw [hdescription, readDescription, if_pos]
    simpa [Value.isTruthy] using htext

theorem readType_of_enrichesTo {t : TypeDef} (ht : t.IsWritable)
    (h : (writeType t).EnrichesTo w) :
    readType w = .ok t := by
  obtain ⟨members, rfl, hmembers⟩ := h.exists_members (by simp)
  obtain ⟨name, hname, hname'⟩ := hmembers "name" _ rfl
  obtain ⟨kind, hkind, hkind'⟩ := hmembers "kind" _ rfl
  obtain ⟨description, hdescription, hdescription'⟩ := hmembers "description" _ rfl
  obtain ⟨fields, hfields, hfields'⟩ := hmembers "fields" _ rfl
  obtain ⟨inputFields, hinputFields, hinputFields'⟩ := hmembers "inputFields" _ rfl
  obtain ⟨enumValues, henumValues, henumValues'⟩ := hmembers "enumValues" _ rfl
  obtain ⟨possibleTypes, hpossibleTypes, hpossibleTypes'⟩ := hmembers "possibleTypes" _ rfl
  have hnameFlat : t.name.hashable = true := by
    obtain ⟨text, htext⟩ := ht.name
    rw [htext]
    rfl
  have hdescriptionFlat : t.description.hashable = true := by
    rcases ht.description with hnull | ⟨text, -, htext⟩
    · rw [hnull]
      rfl
    · rw [htext]
      rfl
  obtain rfl := hname'.eq_of_hashable hnameFlat
  obtain rfl := hkind'.eq_of_hashable rfl
  obtain rfl := hdescription'.eq_of_hashable hdescriptionFlat
  refine readType_eq_ok_iff.mpr ⟨members, rfl, hname, ?_, ?_, ?_, ?_, ?_, ?_⟩
  · rw [member_of_lookup? hkind, ofValue_tag]
  · rw [member_of_lookup? hdescription, readDescription_of_writable ht]
  · rw [member_of_lookup? hfields]
    exact readEach_of_enrichesTo (fun f hf _ => readField_of_enrichesTo (ht.fields f hf)) hfields'
  · rw [member_of_lookup? hinputFields]
    exact readEach_of_enrichesTo
      (fun f hf _ => readField_of_enrichesTo (ht.inputFields f hf)) hinputFields'
  · rw [member_of_lookup? henumValues]
    exact readEach_of_enrichesTo
      (fun v hv _ => readEnumValue_of_enrichesTo (ht.enumValues v hv)) henumValues'
  · rw [member_of_lookup? hpossibleTypes]
    exact readEach_of_enrichesTo
      (fun ref href _ => readRef_of_enrichesTo (ht.possibleTypes ref href)) hpossibleTypes'

/-- A document that holds what the document of a schema holds has the schema in it. -/
theorem exists_schemaObject_of_enrichesTo {s : Schema} (hs : s.IsWritable)
    (h : (write s).EnrichesTo w) :
    ∃ data schema, w = .obj data ∧ Value.lookup? "__schema" data = some (.obj schema) ∧
      readSchema (.obj schema) = .ok s := by
  obtain ⟨data, rfl, hdata⟩ := h.exists_members (by simp)
  obtain ⟨schema, hschema, hschema'⟩ := hdata "__schema" _ rfl
  obtain ⟨members, rfl, hmembers⟩ := hschema'.exists_members (by simp)
  obtain ⟨query, hquery, hquery'⟩ := hmembers "queryType" _ rfl
  obtain ⟨mutation, hmutation, hmutation'⟩ := hmembers "mutationType" _ rfl
  obtain ⟨types, htypes, htypes'⟩ := hmembers "types" _ rfl
  refine ⟨data, members, rfl, hschema, readSchema_eq_ok_iff.mpr ⟨?_, ?_, ?_⟩⟩
  · rw [member_of_lookup? hquery]
    exact readRoot_of_enrichesTo hs.queryType hquery'
  · rw [member_of_lookup? hmutation]
    exact readRoot_of_enrichesTo hs.mutationType hmutation'
  · rw [member_of_lookup? htypes]
    exact readEach_of_enrichesTo (fun t ht _ => readType_of_enrichesTo (hs.types t ht)) htypes'

/-- A schema is read back from a document that got further members, if none of them is called
`data`. -/
theorem read_of_enrichesTo_write {s : Schema} (hs : s.IsWritable)
    (h : (write s).EnrichesTo w)
    (hdata : ∀ document, w = .obj document → Value.lookup? "data" document = none) :
    read w = .ok s := by
  obtain ⟨document, schema, rfl, hschema, hread⟩ := exists_schemaObject_of_enrichesTo hs h
  refine read_eq_ok_iff.mpr ⟨schema, ⟨document, document, rfl, ?_, hschema⟩, hread⟩
  rw [hdata document rfl]
  rfl

theorem read_of_enrichesTo_writeData {s : Schema} (hs : s.IsWritable)
    (h : (Value.obj [("data", write s)]).EnrichesTo w) :
    read w = .ok s := by
  obtain ⟨document, rfl, hdocument⟩ := h.exists_members (by simp)
  obtain ⟨data, hdata, hdata'⟩ := hdocument "data" _ rfl
  obtain ⟨members, schema, rfl, hschema, hread⟩ := exists_schemaObject_of_enrichesTo hs hdata'
  refine read_eq_ok_iff.mpr ⟨schema, ⟨document, members, rfl, ?_, hschema⟩, hread⟩
  rw [hdata]
  rfl

/-- A schema is read back from its document, alone or in a member `data`, and also after objects of
the document got further members and members changed places. -/
theorem read_write_enriched {s : Schema} (hs : s.IsWritable) :
    read (write s) = .ok s ∧ read (.obj [("data", write s)]) = .ok s ∧
      (∀ document, (write s).EnrichesTo (.obj document) →
        Value.lookup? "data" document = none → read (.obj document) = .ok s) ∧
      ∀ w, (Value.obj [("data", write s)]).EnrichesTo w → read w = .ok s := by
  refine ⟨?_, ?_, ?_, ?_⟩
  · apply read_of_enrichesTo_write hs (.same _)
    intro document hdocument
    cases hdocument
    rfl
  · exact read_of_enrichesTo_writeData hs (.same _)
  · intro document h hdata
    apply read_of_enrichesTo_write hs h
    intro document' hdocument
    cases hdocument
    exact hdata
  · exact fun w h => read_of_enrichesTo_writeData hs h

/-! ## A written schema -/

/-- A query for a required list of albums, genres of albums, and a search that finds albums. -/
def albumSchema : Schema where
  queryType := .str "Query"
  types := [
    { name := .str "Query", kind := .object, description := .str "Asks for albums.", fields := [
        ⟨.str "albums", ⟨⟨.nonNull, .null⟩, [⟨.list, .null⟩, ⟨.object, .str "Album"⟩]⟩⟩] },
    { name := .str "Genre", kind := .enum, enumValues := [.str "JAZZ", .str "FOLK"] },
    { name := .str "Found", kind := .union, possibleTypes := [⟨⟨.object, .str "Album"⟩, []⟩] }]

theorem albumSchema_isWritable : albumSchema.IsWritable := by
  have hobject : TypeRef.IsWritable ⟨⟨.object, .str "Album"⟩, []⟩ :=
    ⟨by decide, by simp [TypeRef.links, IsPlainName]⟩
  have hlist : TypeRef.IsWritable
      ⟨⟨.nonNull, .null⟩, [⟨.list, .null⟩, ⟨.object, .str "Album"⟩]⟩ :=
    ⟨by decide, by simp [TypeRef.links, IsPlainName]⟩
  refine ⟨Or.inr ⟨_, rfl⟩, Or.inl rfl, ?_⟩
  intro t ht
  simp only [albumSchema, List.mem_cons, List.not_mem_nil, or_false] at ht
  rcases ht with rfl | rfl | rfl
  · refine ⟨⟨_, rfl⟩, Or.inr ⟨_, by decide, rfl⟩, ?_, by simp, by simp, by simp⟩
    exact List.forall_mem_singleton.mpr ⟨⟨_, rfl⟩, hlist⟩
  · exact ⟨⟨_, rfl⟩, Or.inl rfl, by simp, by simp, by simp, by simp⟩
  · refine ⟨⟨_, rfl⟩, Or.inl rfl, by simp, by simp, by simp, ?_⟩
    exact List.forall_mem_singleton.mpr hobject

/-- An answer with extensions in front of its data is read as if there were none. -/
theorem read_answer_albumSchema :
    albumSchema.IsWritable ∧
      read (.obj [("extensions", .arr [.null]), ("data", write albumSchema)]) = .ok albumSchema := by
  refine ⟨albumSchema_isWritable, (read_write_enriched albumSchema_isWritable).2.2.2 _ ?_⟩
  have hfurther : ∀ m ∈ [("extensions", Value.arr [.null])],
      m.1 ∉ [("data", write albumSchema)].map Prod.fst := by
    simp
  exact .members rfl (.cons (.same _) .nil) hfurther (List.Perm.swap _ _ _)

end Document
end FlowDecl
