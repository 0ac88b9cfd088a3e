import FlowDecl.Proofs.Flow.Contents

/-!
# The text of a schema is unambiguous

For a schema with names of GraphQL, references that lead to names, enums that have values and
descriptions that do not end their comments, the declarations have the contents of the schema, and
reading the text gives exactly these.  Nothing but the text is needed for it, so schemas with
different contents have different texts.
-/

namespace FlowDecl

open Json (Value)

namespace Flow

/-! ## Lines of fields -/

theorem map_eq_of_forall₂ {α β γ : Type} {R : α → β → Prop} {f : α → γ} {g : β → γ}
    {as : List α} {bs : List β} (h : List.Forall₂ R as bs)
    (hR : ∀ a ∈ as, ∀ b, R a b → g b = f a) :
    bs.map g = as.map f := by
  induction h with
  | nil => rfl
  | cons hab _ ih =>
      obtain ⟨hfirst, hrest⟩ := List.forall_mem_cons.mp hR
      rw [List.map_cons, List.map_cons, hfirst _ hab, ih hrest]

/-- The members of some fields have the lines of the fields that are kept. -/
theorem lines_of_fieldMembers {o : Options} {fields : List Field} {members : List Member}
    (hfields : ∀ f ∈ fields, IsGraphQLName f.name ∧
      ∃ target, f.type.LeadsTo target ∧ IsGraphQLName target.name)
    (h : fieldMembers o fields = .ok members) :
    members.map Member.line = linesOf o fields := by
  obtain ⟨results, hresults, rfl⟩ := fieldMembers_eq_ok_iff.mp h
  have hkept := Outcome.forall₂_filter_of_mapM
    (fun f _ result hresult => isSome_of_fieldMember hresult) hresults
  have hfilter : fields.filter (keepsField o) =
      fields.filter fun f => !isHidden o f.type.innermost.name := by
    refine List.filter_congr fun f hf => ?_
    obtain ⟨-, target, hleads, htarget⟩ := hfields f hf
    exact keepsField_eq hleads htarget
  have hlines : (results.filterMap id).map Member.line =
      (fields.filter (keepsField o)).map (lineOf o) := by
    refine map_eq_of_forall₂ hkept ?_
    intro f hf m hm
    obtain ⟨hname, target, hleads, htarget⟩ := hfields f (List.mem_of_mem_filter hf)
    exact line_of_fieldMember hname hleads htarget hm
  rw [sortMembers, linesOf, ← hfilter, ← hlines]
  refine List.map_mergeSort ?_
  intro a _ b _
  rw [Member.text_line, Member.text_line]

/-! ## Entries of types -/

section Types

variable {o : Options} {t : TypeDef}

theorem structureOf_eq (o : Options) (t : TypeDef) :
    structureOf o t = .lines (if t.isInput then linesOf o t.ownFields
      else .property "__typename" false ⟨0, ["string"]⟩ :: linesOf o t.ownFields) := by
  rw [structureOf, TypeDef.ownFields, TypeDef.isInput]
  by_cases hinput : t.kind = .inputObject <;> simp [hinput]

theorem content_of_structuralBody (ht : t.IsLegible) {body : Body}
    (h : structuralBody o t = .ok body) :
    body.content = structureOf o t := by
  obtain ⟨members, hmembers, rfl⟩ := structuralBody_eq_ok_iff.mp h
  have hlines := lines_of_fieldMembers ht.fields hmembers
  rw [structureOf_eq, ← hlines]
  split
  · rfl
  · rfl

theorem content_of_choice (ht : t.IsLegible) {body : Body}
    (h : (do
      let names ← possibleNames o t
      if names.isEmpty then structuralBody o t else return .alias names) = .ok body) :
    body.content =
      if (listedNames o t).isEmpty then structureOf o t else .names (listedNames o t) := by
  have hlisted : ∀ names, possibleNames o t = .ok names → listedNames o t = names :=
    fun names hnames => by rw [eq_of_possibleNames hnames, possibleNames_eq_listedNames ht]
  rcases choice_eq_ok_iff.mp h with ⟨hnames, hfields⟩ | ⟨names, hnames, hne, rfl⟩
  · rw [content_of_structuralBody ht hfields, hlisted _ hnames, List.isEmpty_nil, if_pos rfl]
  · rw [hlisted _ hnames, if_neg (by simpa using hne)]
    rfl

/-- The right side of the declaration of a legible type. -/
theorem content_of_typeBody (ht : t.IsLegible) {body : Body} (h : typeBody o t = .ok body) :
    body.content = contentOf o t := by
  rw [typeBody] at h
  rw [contentOf]
  cases hkind : t.kind with
  | enum =>
      rw [hkind] at h
      rw [← Except.ok.inj h]
      refine congrArg Content.literals (List.map_congr_left fun value hvalue => ?_)
      rw [display_eq_nameText ((ht.enumValues hkind).2 value hvalue)]
  | interface =>
      rw [hkind] at h
      exact content_of_choice ht h
  | union =>
      rw [hkind] at h
      exact content_of_choice ht h
  | _ =>
      rw [hkind] at h
      exact content_of_structuralBody ht h

/-- A legible type is declared exactly if there is an entry for it. -/
theorem declares_eq_hasEntry (ht : t.IsLegible) :
    declares o t = hasEntry o t := by
  have hreserved := isReserved_eq_isInternal ht.name
  obtain ⟨name, hname, -⟩ := ht.name
  have hkind : isDeclaredKind t.kind = decide (t.kind ≠ .scalar) := by
    have hwrapper := ht.kind
    cases hkind : t.kind with
    | list => simp [hkind, TypeKind.isWrapper] at hwrapper
    | nonNull => simp [hkind, TypeKind.isWrapper] at hwrapper
    | _ => rfl
  rw [hasEntry, ← hreserved, declares, isEligible_of_text o hname, hname, hkind]
  rfl

end Types

theorem namedReferences_of_isLegible {s : Schema} (hs : s.IsLegible) :
    s.HasNamedReferences := by
  have hroot : ∀ root ∈ [s.queryType, s.mutationType], IsPlainName root := by
    intro root hroot
    rcases hs.roots root hroot with rfl | rfl | ⟨text, rfl, -⟩
    · exact Or.inl rfl
    · exact isPlainName_str ""
    · exact isPlainName_str text
  refine ⟨?_, ?_, ?_, hroot _ (by simp), hroot _ (by simp)⟩
  · intro t ht
    obtain ⟨name, hname, -⟩ := (hs.types t ht).name
    exact ⟨name, hname⟩
  · intro t ht f hf
    obtain ⟨-, target, hleads, name, hname, -⟩ := (hs.types t ht).fields f hf
    exact ⟨target, hleads, name, hname⟩
  · intro t ht ref href
    obtain ⟨name, hname, -⟩ := (hs.types t ht).possibleTypes ref href
    rw [hname]
    exact isPlainName_str name

theorem entries_envelope {s : Schema} (hs : s.IsLegible) (o : Options) :
    (envelope o s).map Declaration.entry = envelopeEntries o s := by
  rw [envelopeEntries, ← rootNames_eq_rootIdentifiers hs.roots]
  rfl

/-- A legible schema has declarations, and their entries are its contents. -/
theorem exists_declarations_of_isLegible {s : Schema} (hs : s.IsLegible) (o : Options) :
    ∃ ds, declarations o s = .ok ds ∧ ds.map Declaration.entry = contents o s := by
  obtain ⟨results, hresults⟩ := Outcome.succeeds_mapM_iff.mpr
    fun t ht => succeeds_eligibleDeclaration_of_named (namedReferences_of_isLegible hs) o ht
  have hdeclared := Outcome.forall₂_filter_of_mapM
    (fun t _ result hresult => isSome_of_eligibleDeclaration hresult) hresults
  have hfilter : s.types.filter (declares o) = s.types.filter (hasEntry o) :=
    List.filter_congr fun t ht => declares_eq_hasEntry (hs.types t ht)
  have hentries : (results.filterMap id).map Declaration.entry =
      (s.types.filter (declares o)).map (entryOf o) := by
    refine map_eq_of_forall₂ hdeclared ?_
    intro t ht d hd
    obtain ⟨-, body, hbody, rfl⟩ := eligibleDeclaration_eq_some_iff.mp hd
    have hcontent := content_of_typeBody (hs.types t (List.mem_of_mem_filter ht)) hbody
    have hlegible := hs.types t (List.mem_of_mem_filter ht)
    rw [Declaration.entry, entryOf, ← hcontent, ← descriptionOf_eq_toldDescription
      hlegible.description, ← generatedName_eq_identifier hlegible.name]
    rfl
  refine ⟨_, declarations_eq_ok_iff.mpr ⟨results, hresults, rfl⟩, ?_⟩
  rw [List.map_append, hentries, hfilter, entries_envelope hs, contents]

/-! ## Legible contents -/

theorem isWord_of_isName {text : String} (h : Sdl.isName text = true) :
    IsWord text := by
  rw [Sdl.isName] at h
  cases hchars : text.toList with
  | nil => simp [hchars] at h
  | cons c rest =>
      rw [hchars] at h
      obtain ⟨hstart, hrest⟩ := Bool.and_eq_true_iff.mp h
      refine ⟨?_, ?_⟩
      · rintro rfl
        cases hchars
      · rw [hchars, List.forall_mem_cons]
        refine ⟨?_, List.all_eq_true.mp hrest⟩
        rw [Sdl.isNameStart, Bool.or_eq_true] at hstart
        rw [Sdl.isNamePart, Bool.or_eq_true, Char.isAlphanum, Bool.or_eq_true]
        exact hstart.imp_left Or.inl

theorem IsWord.append {word suffix : String} (h : IsWord word)
    (hsuffix : ∀ c ∈ suffix.toList, Sdl.isNamePart c = true) :
    IsWord (word ++ suffix) := by
  refine ⟨?_, ?_⟩
  · rw [Ne, String.append_eq_empty_iff]
    exact fun hempty => h.nonempty hempty.1
  · rw [String.toList_append, List.forall_mem_append]
    exact ⟨h.plain, hsuffix⟩

theorem isWord_nameText {name : Value} (h : IsGraphQLName name) :
    IsWord (nameText name) := by
  obtain ⟨text, rfl, hname⟩ := h
  exact isWord_of_isName hname

theorem isWord_display {name : Value} (h : IsGraphQLName name) :
    IsWord name.display := by
  rw [display_eq_nameText h]
  exact isWord_nameText h

theorem isWord_scalarText (name : Value) : IsWord (scalarText name) := by
  have hany : IsWord "any" := by decide
  cases name with
  | str text =>
      rw [scalarText]
      split_ifs <;> decide
  | _ => exact hany

section Generated

variable {o : Options} (ho : o.IsLegible)

include ho

theorem isWord_identifier {name : Value} (h : IsGraphQLName name) (kind : TypeKind) :
    IsWord (identifier o kind name) := by
  rw [identifier]
  split
  · exact ((isWord_nameText h).append (List.all_eq_true.mp (by decide))).append ho
  · exact (isWord_nameText h).append ho

theorem isWord_wordOf {l : Link} (h : IsGraphQLName l.name) :
    IsWord (wordOf o l) := by
  rw [wordOf]
  split
  · exact isWord_scalarText l.name
  · exact isWord_identifier ho h l.kind

theorem isWord_of_mem_rootIdentifiers {s : Schema} (hs : s.IsLegible) :
    ∀ name ∈ rootIdentifiers o s, IsWord name := by
  intro name hname
  obtain ⟨root, hroot, rfl⟩ := List.mem_map.mp hname
  obtain ⟨hmem, hfull⟩ := List.mem_filter.mp hroot
  rcases hs.roots root hmem with rfl | rfl | hroot
  · simp [nameText] at hfull
  · simp [nameText] at hfull
  · exact (isWord_nameText hroot).append ho

theorem legible_property {stem : String} (hstem : IsWord stem) {name : String}
    (hname : IsWord name) (optional : Bool) (arrays : Nat) :
    (Line.property name optional ⟨arrays, [stem ++ o.suffix]⟩).Legible :=
  ⟨hname, List.forall_mem_singleton.mpr (hstem.append ho)⟩

/-- The entries of the response envelope are legible. -/
theorem legible_envelopeEntries {s : Schema} (hs : s.IsLegible) :
    ∀ e ∈ envelopeEntries o s, e.Legible := by
  have hname : ∀ stem, IsWord stem → IsWord (stem ++ o.suffix) := fun _ h => h.append ho
  refine List.forall_mem_cons.mpr
    ⟨?root, List.forall_mem_cons.mpr ⟨?error, List.forall_mem_singleton.mpr ?location⟩⟩
  case root =>
    have hdata : (Line.property "data" true ⟨0, rootIdentifiers o s⟩).Legible :=
      ⟨by decide, isWord_of_mem_rootIdentifiers ho hs⟩
    refine ⟨nofun, hname _ (by decide), List.forall_mem_cons.mpr ⟨hdata, ?_⟩⟩
    exact List.forall_mem_singleton.mpr (legible_property ho (by decide) (by decide) true 1)
  case error =>
    have hmessage : (Line.property "message" false ⟨0, ["string"]⟩).Legible :=
      ⟨by decide, by decide⟩
    have hindexer : (Line.indexer "propName" ⟨0, ["any"]⟩).Legible := ⟨by decide, by decide⟩
    refine ⟨nofun, hname _ (by decide), List.forall_mem_cons.mpr ⟨hmessage, ?_⟩⟩
    exact List.forall_mem_cons.mpr ⟨legible_property ho (by decide) (by decide) true 1,
      List.forall_mem_singleton.mpr hindexer⟩
  case location =>
    have hlines : ∀ name, IsWord name → (Line.property name false ⟨0, ["number"]⟩).Legible :=
      fun name h => ⟨h, by decide⟩
    refine ⟨nofun, hname _ (by decide), List.forall_mem_cons.mpr ⟨hlines _ (by decide), ?_⟩⟩
    exact List.forall_mem_singleton.mpr (hlines _ (by decide))

theorem legible_lineOf {f : Field} {target : Link} (hname : IsGraphQLName f.name)
    (hleads : f.type.LeadsTo target) (htarget : IsGraphQLName target.name) :
    (lineOf o f).Legible := by
  refine ⟨isWord_nameText hname, List.forall_mem_singleton.mpr ?_⟩
  rw [hleads.innermost_eq]
  exact isWord_wordOf ho htarget

variable {t : TypeDef}

theorem legible_structureOf (ht : t.IsLegible) :
    (structureOf o t).Legible := by
  have hlines : ∀ l ∈ linesOf o t.ownFields, l.Legible := by
    intro l hl
    rw [linesOf, List.mem_mergeSort] at hl
    obtain ⟨f, hf, rfl⟩ := List.mem_map.mp hl
    obtain ⟨hname, target, hleads, htarget⟩ := ht.fields f (List.mem_of_mem_filter hf)
    exact legible_lineOf ho hname hleads htarget
  have htypename : (Line.property "__typename" false ⟨0, ["string"]⟩).Legible :=
    ⟨by decide, by decide⟩
  rw [structureOf_eq]
  split
  · exact hlines
  · exact List.forall_mem_cons.mpr ⟨htypename, hlines⟩

theorem legible_choice (ht : t.IsLegible) :
    (if (listedNames o t).isEmpty then structureOf o t
      else .names (listedNames o t)).Legible := by
  split
  · exact legible_structureOf ho ht
  · intro name hname
    obtain ⟨ref, href, rfl⟩ := List.mem_map.mp hname
    exact (isWord_nameText (ht.possibleTypes ref (List.mem_of_mem_filter href))).append ho

theorem legible_contentOf (ht : t.IsLegible) :
    (contentOf o t).Legible := by
  rw [contentOf]
  split
  next hkind =>
    obtain ⟨hne, hvalues⟩ := ht.enumValues hkind
    refine ⟨by simpa using hne, ?_⟩
    rw [List.forall_mem_map]
    intro value hvalue
    exact (isWord_nameText (hvalues value hvalue)).append ho
  · exact legible_choice ho ht
  · exact legible_choice ho ht
  · exact legible_structureOf ho ht

/-- The entry for a legible type is legible. -/
theorem legible_entryOf (ht : t.IsLegible) :
    (entryOf o t).Legible := by
  refine ⟨?_, isWord_identifier ho ht.name t.kind, legible_contentOf ho ht⟩
  intro text htext
  rw [entryOf] at htext
  rcases ht.description with hnull | ⟨description, hdescription, hstays⟩
  · rw [hnull] at htext
    cases htext
  · rw [hdescription, toldDescription] at htext
    split at htext
    next => cases htext
    next => rwa [← Option.some.inj htext]

theorem legible_of_mem_contents {s : Schema} (hs : s.IsLegible) :
    ∀ e ∈ contents o s, e.Legible := by
  rw [contents, List.forall_mem_append, List.forall_mem_map]
  refine ⟨legible_envelopeEntries ho hs, ?_⟩
  intro t ht
  exact legible_entryOf ho (hs.types t (List.mem_of_mem_filter ht))

end Generated

/-- The text of a legible schema is read back as the contents of the schema. -/
theorem read?_source {o : Options} {s : Schema} (ho : o.IsLegible) (hs : s.IsLegible) :
    ∃ text, source o s = .ok text ∧ read? text = some (contents o s) := by
  obtain ⟨ds, hds, hentries⟩ := exists_declarations_of_isLegible hs o
  have hlegible : ∀ d ∈ ds, d.entry.Legible := by
    rw [← List.forall_mem_map (P := Entry.Legible), hentries]
    exact legible_of_mem_contents ho hs
  refine ⟨joinTexts (ds.map Declaration.text), ?_, ?_⟩
  · rw [source, declarationTexts, hds]
    rfl
  · rw [read?_joinTexts hlegible, hentries]

/-! ## A schema with a misleading description -/

/-- A schema with a type whose description looks like declarations. -/
def librarySchema : Schema where
  queryType := .str "Query"
  types := [
    { name := .str "Query", kind := .object,
      description := .str "The root.\n\ntype Item = \x7b\x7d\n\ntype Genre = \"NONE\";",
      fields := [
        ⟨.str "items", ⟨⟨.nonNull, .null⟩, [⟨.list, .null⟩, ⟨.union, .str "Item"⟩]⟩⟩,
        ⟨.str "genre", ⟨⟨.enum, .str "Genre"⟩, []⟩⟩] },
    { name := .str "Item", kind := .union,
      possibleTypes := [⟨⟨.object, .str "Query"⟩, []⟩, ⟨⟨.object, .str "Hidden"⟩, []⟩] },
    { name := .str "Genre", kind := .enum, enumValues := [.str "FICTION", .str "POETRY"] },
    { name := .str "Date", kind := .scalar }]

theorem librarySchema_isLegible : librarySchema.IsLegible := by
  have hname : ∀ text, Sdl.isName text = true → IsGraphQLName (.str text) :=
    fun text h => ⟨text, rfl, h⟩
  have hitem : TypeRef.LeadsTo
      ⟨⟨.nonNull, .null⟩, [⟨.list, .null⟩, ⟨.union, .str "Item"⟩]⟩ ⟨.union, .str "Item"⟩ :=
    ⟨⟨[⟨.nonNull, .null⟩, ⟨.list, .null⟩], rfl, by decide, by decide⟩, rfl, nofun⟩
  have hgenre : TypeRef.LeadsTo ⟨⟨.enum, .str "Genre"⟩, []⟩ ⟨.enum, .str "Genre"⟩ :=
    TypeRef.leadsTo_outer rfl nofun
  refine ⟨?_, List.forall_mem_cons.mpr ⟨?query, List.forall_mem_cons.mpr ⟨?item,
    List.forall_mem_cons.mpr ⟨?genre, List.forall_mem_singleton.mpr ?date⟩⟩⟩⟩
  · exact List.forall_mem_cons.mpr ⟨Or.inr (Or.inr (hname _ (by decide))),
      List.forall_mem_singleton.mpr (Or.inl rfl)⟩
  case query =>
    refine ⟨hname _ (by decide), rfl, Or.inr ⟨_, rfl, by decide +kernel⟩, ?_, nofun, nofun⟩
    exact List.forall_mem_cons.mpr
      ⟨⟨hname _ (by decide), _, hitem, hname _ (by decide)⟩,
        List.forall_mem_singleton.mpr ⟨hname _ (by decide), _, hgenre, hname _ (by decide)⟩⟩
  case item =>
    refine ⟨hname _ (by decide), rfl, Or.inl rfl, nofun, ?_, nofun⟩
    exact List.forall_mem_cons.mpr
      ⟨hname _ (by decide), List.forall_mem_singleton.mpr (hname _ (by decide))⟩
  case genre =>
    refine ⟨hname _ (by decide), rfl, Or.inl rfl, nofun, nofun, fun _ => ⟨by simp, ?_⟩⟩
    exact List.forall_mem_cons.mpr
      ⟨hname _ (by decide), List.forall_mem_singleton.mpr (hname _ (by decide))⟩
  case date => exact ⟨hname _ (by decide), rfl, Or.inl rfl, nofun, nofun, nofun⟩

/-- The description is read as a description. -/
theorem read?_librarySchema :
    librarySchema.IsLegible ∧
      ∃ text, source { ignored := ["Hidden"], suffix := "_v2" } librarySchema = .ok text ∧
        read? text = some (contents { ignored := ["Hidden"], suffix := "_v2" } librarySchema) :=
  ⟨librarySchema_isLegible, read?_source (by decide) librarySchema_isLegible⟩

end Flow
end FlowDecl
