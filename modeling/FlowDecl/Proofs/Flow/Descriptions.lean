import FlowDecl.Proofs.Flow.Comments
import FlowDecl.Proofs.Flow.Members
import FlowDecl.Sdl.Token

/-!
# Descriptions

The description of a type is written into a comment above its declaration, as it is.  Nothing else
depends on it, so the code of the declarations, which is what remains without comments, is the same
for schemas that differ in descriptions only, as long as every description stays in its comment.  A
description that does not stay there becomes part of the code.

Names must not contain a slash for this.  The names of GraphQL do not.
-/

namespace FlowDecl

open Json (Value)

/-- A type without its description. -/
def TypeDef.undescribed (t : TypeDef) : TypeDef :=
  { t with description := .null }

/-- A schema without descriptions. -/
def Schema.undescribed (s : Schema) : Schema :=
  { s with types := s.types.map TypeDef.undescribed }

/-- The names of a field and of the links of its type. -/
def Field.names (f : Field) : List Value :=
  f.name :: f.type.links.map (·.name)

/-- The names that the declaration of a type can be made of. -/
def TypeDef.names (t : TypeDef) : List Value :=
  t.name :: t.enumValues ++ t.ownFields.flatMap Field.names ++ t.possibleTypes.map (·.outer.name)

/-- The names that the declarations of a schema can be made of. -/
def Schema.names (s : Schema) : List Value :=
  s.queryType :: s.mutationType :: s.types.flatMap TypeDef.names

namespace Flow

/-! ## Texts without a slash -/

/-- A text that contains no slash. -/
def Slashless (text : String) : Prop :=
  '/' ∉ text.toList

instance (text : String) : Decidable (Slashless text) :=
  inferInstanceAs (Decidable ('/' ∉ text.toList))

@[simp] theorem slashless_append {a b : String} :
    Slashless (a ++ b) ↔ Slashless a ∧ Slashless b := by
  simp [Slashless, not_or]

/-- Characters of a text that is put together come from the separator or from one of the texts. -/
theorem forall_mem_intercalate {p : Char → Prop} {separator : String} {texts : List String}
    (hseparator : ∀ c ∈ separator.toList, p c) (htexts : ∀ text ∈ texts, ∀ c ∈ text.toList, p c) :
    ∀ c ∈ (separator.intercalate texts).toList, p c := by
  rw [String.toList_intercalate]
  induction texts with
  | nil => simp
  | cons text texts ih =>
      obtain ⟨htext, hrest⟩ := List.forall_mem_cons.mp htexts
      cases texts with
      | nil => rwa [List.map_singleton, List.intercalate_singleton]
      | cons next texts =>
          rw [List.map_cons, List.map_cons, List.intercalate_cons_cons, List.forall_mem_append,
            List.forall_mem_append]
          exact ⟨⟨htext, hseparator⟩, ih hrest⟩

/-- A character of neither the separator nor the texts does not occur in what is put together. -/
theorem notMem_intercalate {mark : Char} {separator : String} {texts : List String}
    (hseparator : mark ∉ separator.toList) (htexts : ∀ text ∈ texts, mark ∉ text.toList) :
    mark ∉ (separator.intercalate texts).toList := by
  intro hmem
  refine forall_mem_intercalate (p := (· ≠ mark)) ?_ ?_ mark hmem rfl
  · rintro c hc rfl
    exact hseparator hc
  · rintro text htext c hc rfl
    exact htexts text htext hc

theorem slashless_intercalate {separator : String} {texts : List String}
    (hseparator : Slashless separator) (htexts : ∀ text ∈ texts, Slashless text) :
    Slashless (separator.intercalate texts) :=
  notMem_intercalate hseparator htexts

theorem slashless_typeExpr {e : TypeExpr} (h : ∀ name ∈ e.mentions, Slashless name) :
    Slashless e.text := by
  induction e with
  | primitive p => cases p <;> decide
  | declared name => exact h name (List.mem_singleton_self _)
  | union names => exact slashless_intercalate (by decide) h
  | array item ih =>
      rw [TypeExpr.text, slashless_append, slashless_append]
      exact ⟨⟨by decide, ih h⟩, by decide⟩

/-- The words of a member: its name and the names that it mentions. -/
def Member.words : Member → List String
  | .property name _ type => name :: type.mentions
  | .indexer key type => key :: type.mentions

/-- The words of a right side. -/
def Body.words : Body → List String
  | .literals values => values
  | .alias names => names
  | .members ms => ms.flatMap Member.words

theorem slashless_member {m : Member} (h : ∀ word ∈ m.words, Slashless word) :
    Slashless m.text := by
  cases m with
  | property name optional type =>
      obtain ⟨hname, htype⟩ := List.forall_mem_cons.mp h
      have hmark : Slashless (if optional then "?: " else ": ") := by
        cases optional <;> decide
      simp only [Member.text, slashless_append]
      exact ⟨⟨⟨hname, hmark⟩, slashless_typeExpr htype⟩, by decide⟩
  | indexer key type =>
      obtain ⟨hkey, htype⟩ := List.forall_mem_cons.mp h
      simp only [Member.text, slashless_append]
      exact ⟨⟨⟨⟨by decide, hkey⟩, by decide⟩, slashless_typeExpr htype⟩, by decide⟩

/-- The text of a right side has a slash only if one of its words has. -/
theorem slashless_body {body : Body} (h : ∀ word ∈ body.words, Slashless word) :
    Slashless body.text := by
  match body with
  | .literals values =>
      rw [Body.text, slashless_append]
      refine ⟨slashless_intercalate (by decide) ?_, by decide⟩
      intro text htext
      obtain ⟨value, hvalue, rfl⟩ := List.mem_map.mp htext
      simp only [slashless_append]
      exact ⟨⟨by decide, h value hvalue⟩, by decide⟩
  | .alias names =>
      rw [Body.text, slashless_append]
      exact ⟨slashless_intercalate (by decide) h, by decide⟩
  | .members ms =>
      rw [Body.text, structureText]
      split
      · decide
      · simp only [slashless_append]
        refine ⟨⟨by decide, slashless_intercalate (by decide) ?_⟩, by decide⟩
        intro text htext
        obtain ⟨m, hm, rfl⟩ := List.mem_map.mp htext
        rw [slashless_append]
        refine ⟨by decide, slashless_member ?_⟩
        intro word hword
        exact h word (List.mem_flatMap.mpr ⟨m, hm, hword⟩)

/-! ## Declarations -/

/-- A declaration without its description. -/
def Declaration.undescribed (d : Declaration) : Declaration :=
  { d with description := none }

/-- A description that is missing or stays in its comment. -/
def DescriptionEnclosed (description : Option String) : Prop :=
  ∀ text, description = some text → Enclosed text.toList

theorem Declaration.text_eq (d : Declaration) :
    d.text = commentText d.description ++ d.undescribed.text := by
  have happend (a b c d e f : String) :
      a ++ b ++ c ++ d ++ e ++ f = a ++ ("" ++ b ++ c ++ d ++ e ++ f) := by
    simp only [String.append_assoc, String.empty_append]
  exact happend (commentText d.description) (if d.exported then "export " else "") "type " d.name
    " = " d.body.text

theorem commentText_some (description : String) :
    commentText (some description) = "/*\n  description: " ++ description ++ "\n*/\n" :=
  rfl

/-- The text of a comment with a description in it, in front of other text. -/
theorem toList_commentText_append (description text : String) :
    (commentText (some description) ++ text).toList =
      '/' :: '*' :: ("\n  description: ".toList ++
        (description.toList ++ terminated text.toList)) := by
  have hopen : "/*\n  description: ".toList = '/' :: '*' :: "\n  description: ".toList := by
    decide
  have hclose : "\n*/\n".toList = ['\n', '*', '/', '\n'] := by decide
  rw [commentText_some, String.toList_append, String.toList_append, String.toList_append, hopen,
    hclose, List.append_assoc, List.append_assoc]
  rfl

/-- A declaration has the code of its text without a description exactly if its description stays in
the comment. -/
theorem code_text_eq_iff {d : Declaration} (h : Slashless d.undescribed.text) :
    code d.text = code d.undescribed.text ↔ DescriptionEnclosed d.description := by
  rw [Declaration.text_eq]
  cases hdescription : d.description with
  | none =>
      have hempty : commentText none ++ d.undescribed.text = d.undescribed.text :=
        String.empty_append
      simp [hempty, DescriptionEnclosed]
  | some description =>
      have hcode : codeFrom false
          (commentText (some description) ++ d.undescribed.text).toList =
            codeFrom true (description.toList ++ terminated d.undescribed.text.toList) := by
        rw [toList_commentText_append]
        exact codeFrom_of_starless (by decide)
      rw [code, code, String.ofList_inj, codeFrom_of_slashless h, hcode, codeFrom_eq_iff_enclosed h]
      simp [DescriptionEnclosed]

/-! ## Declarations of types -/

theorem slashless_generatedName {o : Options} {kind : TypeKind} {name : Value}
    (hsuffix : Slashless o.suffix) (hname : Slashless name.display) :
    Slashless (generatedName o kind name) := by
  rw [generatedName]
  split
  · rw [enumName, slashless_append, slashless_append]
    exact ⟨⟨hname, by decide⟩, hsuffix⟩
  · rw [typeName, slashless_append]
    exact ⟨hname, hsuffix⟩

theorem mentions_scalarExpression {name : Value} {e : TypeExpr}
    (h : scalarExpression name = .ok e) :
    e.mentions = [] := by
  cases name with
  | str text =>
      cases Except.ok.inj h
      rfl
  | _ =>
      obtain ⟨-, -, rfl⟩ := Outcome.map_eq_ok_iff.mp h
      rfl

/-- An expression of a link mentions nothing but the generated name of the link. -/
theorem exists_kind_of_mentions {o : Options} {l : Link} {e : TypeExpr}
    (he : namedExpression o l = .ok e) {name : String} (hname : name ∈ e.mentions) :
    ∃ kind, generatedName o kind l.name = name := by
  rw [namedExpression] at he
  split at he
  · cases Except.ok.inj he
    cases hname
  · split at he
    · rw [mentions_scalarExpression (Outcome.mapError_eq_ok_iff.mp he)] at hname
      cases hname
    · cases Except.ok.inj he
      exact ⟨.enum, (List.mem_singleton.mp hname).symm⟩
    · cases Except.ok.inj he
      exact ⟨.object, (List.mem_singleton.mp hname).symm⟩

/-- An expression of a reference mentions nothing but generated names of its links. -/
theorem exists_link_of_mentions {o : Options} {ref : TypeRef} {e : TypeExpr}
    (he : refExpression o ref = .ok e) {name : String} (hname : name ∈ e.mentions) :
    ∃ l ∈ ref.links, ∃ kind, generatedName o kind l.name = name := by
  rw [refExpression, linksExpression_eq] at he
  split at he
  · cases he
  · obtain ⟨base, hbase, rfl⟩ := Outcome.map_eq_ok_iff.mp he
    rw [TypeExpr.mentions_inArrays] at hname
    rw [baseExpression] at hbase
    split at hbase
    · cases Except.ok.inj hbase
      cases hname
    next l rest hlinks =>
      refine ⟨l, ?_, exists_kind_of_mentions hbase hname⟩
      apply List.dropWhile_subset Link.isWrapper
      rw [hlinks]
      exact List.mem_cons_self

/-- The names of a schema and the suffix for them contain no slash. -/
structure SlashlessNames (o : Options) (s : Schema) : Prop where
  suffix : Slashless o.suffix
  names : ∀ name ∈ s.names, Slashless name.display

theorem slashless_memberOf {o : Options} {f : Field} (hsuffix : Slashless o.suffix)
    (hnames : ∀ name ∈ f.names, Slashless name.display) {e : TypeExpr}
    (he : refExpression o f.type = .ok e) :
    ∀ word ∈ (memberOf f e).words, Slashless word := by
  obtain ⟨hname, hlinks⟩ := List.forall_mem_cons.mp hnames
  refine List.forall_mem_cons.mpr ⟨hname, ?_⟩
  intro word hword
  obtain ⟨l, hl, kind, rfl⟩ := exists_link_of_mentions he hword
  exact slashless_generatedName hsuffix (hlinks _ (List.mem_map_of_mem hl))

/-- The words of a right side come from the names in the type. -/
theorem slashless_words_of_typeBody {o : Options} {t : TypeDef} (hsuffix : Slashless o.suffix)
    (hnames : ∀ name ∈ t.names, Slashless name.display) {body : Body}
    (h : typeBody o t = .ok body) :
    ∀ word ∈ body.words, Slashless word := by
  simp only [TypeDef.names, List.forall_mem_append, List.forall_mem_cons] at hnames
  obtain ⟨⟨⟨-, hvalues⟩, hfields⟩, hpossible⟩ := hnames
  rcases typeBody_cases h with ⟨-, rfl⟩ | ⟨names, hpossibleNames, rfl⟩ | hstructure
  · intro word hword
    obtain ⟨v, hv, rfl⟩ := List.mem_map.mp hword
    exact slashless_append.mpr ⟨hvalues v hv, hsuffix⟩
  · intro word hword
    obtain ⟨ref, href, hname⟩ := (mem_possibleNames_iff hpossibleNames).mp hword
    obtain ⟨-, -, rfl⟩ := possibleName_eq_some_iff.mp hname
    exact slashless_append.mpr ⟨hpossible _ (List.mem_map_of_mem href), hsuffix⟩
  · obtain ⟨members, hmembers, rfl⟩ := structuralBody_eq_ok_iff.mp hstructure
    have hlines : ∀ word ∈ members.flatMap Member.words, Slashless word := by
      intro word hword
      obtain ⟨m, hm, hword⟩ := List.mem_flatMap.mp hword
      obtain ⟨f, hf, hfield⟩ := (mem_fieldMembers_iff hmembers).mp hm
      obtain ⟨-, -, -, e, he, rfl⟩ := fieldMember_eq_some_iff.mp hfield
      refine slashless_memberOf hsuffix ?_ he word hword
      intro name hname
      exact hfields name (List.mem_flatMap.mpr ⟨f, hf, hname⟩)
    split
    · exact hlines
    · refine List.forall_mem_cons.mpr ⟨by decide, ?_⟩
      exact hlines

theorem slashless_declaration {d : Declaration} (hname : Slashless d.name)
    (hwords : ∀ word ∈ d.body.words, Slashless word) :
    Slashless d.undescribed.text := by
  have hkeyword : Slashless (if d.exported then "export " else "") := by
    cases d.exported <;> decide
  have htext : d.undescribed.text =
      "" ++ (if d.exported then "export " else "") ++ "type " ++ d.name ++ " = " ++ d.body.text :=
    rfl
  rw [htext]
  simp only [slashless_append]
  exact ⟨⟨⟨⟨⟨by decide, hkeyword⟩, by decide⟩, hname⟩, by decide⟩, slashless_body hwords⟩

theorem slashless_envelope {o : Options} {s : Schema} (h : SlashlessNames o s)
    {d : Declaration} (hd : d ∈ envelope o s) :
    Slashless d.undescribed.text := by
  have hroots : ∀ name ∈ rootNames o s, Slashless name := by
    intro name hname
    obtain ⟨root, hroot, hgiven⟩ := List.mem_filterMap.mp hname
    have hmem : root ∈ s.names := by
      rw [Schema.names]
      rcases List.mem_cons.mp hroot with rfl | hroot
      · exact List.mem_cons_self
      · rw [List.mem_singleton.mp hroot]
        exact List.mem_cons_of_mem _ List.mem_cons_self
    obtain ⟨-, hname⟩ := Option.ite_none_right_eq_some.mp hgiven
    rw [← Option.some.inj hname]
    exact slashless_append.mpr ⟨h.names root hmem, h.suffix⟩
  have hwords : ∀ d ∈ envelope o s, ∀ word ∈ d.name :: d.body.words, Slashless word := by
    simpa +decide [envelope, Body.words, Member.words, TypeExpr.mentions, h.suffix, or_imp,
      forall_and] using hroots
  obtain ⟨hname, hbody⟩ := List.forall_mem_cons.mp (hwords d hd)
  exact slashless_declaration hname hbody

theorem slashless_of_mem_declarations {o : Options} {s : Schema} (h : SlashlessNames o s)
    {ds : List Declaration} (hds : declarations o s = .ok ds) {d : Declaration} (hd : d ∈ ds) :
    Slashless d.undescribed.text := by
  obtain ⟨results, hresults, rfl⟩ := declarations_eq_ok_iff.mp hds
  rcases List.mem_append.mp hd with hd | hd
  · exact slashless_envelope h hd
  · obtain ⟨t, ht, -, body, hbody, rfl⟩ := (mem_typeDeclarations_iff hresults).mp hd
    have hnames : ∀ name ∈ t.names, Slashless name.display := by
      intro name hname
      refine h.names name ?_
      exact List.mem_cons_of_mem _ (List.mem_cons_of_mem _ (List.mem_flatMap.mpr ⟨t, ht, hname⟩))
    apply slashless_declaration
    · exact slashless_generatedName h.suffix (hnames _ List.mem_cons_self)
    · exact slashless_words_of_typeBody h.suffix hnames hbody

/-! ## The code of declarations -/

/-- The code of the declarations of a schema. -/
def codeTexts (o : Options) (s : Schema) : Except Fault (List String) :=
  List.map code <$> declarationTexts o s

/-- The descriptions of the types that are declared are missing or stay in their comments. -/
def DescriptionsEnclosed (o : Options) (s : Schema) : Prop :=
  ∀ t ∈ s.types, declares o t = true → DescriptionEnclosed (descriptionOf t.description)

theorem codeTexts_eq (o : Options) (s : Schema) :
    codeTexts o s = List.map (fun d => code d.text) <$> declarations o s := by
  rw [codeTexts, declarationTexts, Functor.map_map]
  simp only [List.map_map]
  rfl

theorem names_undescribed (s : Schema) : s.undescribed.names = s.names := by
  rw [Schema.names, Schema.names, Schema.undescribed, List.flatMap_map]
  rfl

theorem slashlessNames_of_undescribed_eq {o : Options} {s s' : Schema}
    (hsame : s'.undescribed = s.undescribed) (h : SlashlessNames o s) :
    SlashlessNames o s' := by
  refine ⟨h.suffix, ?_⟩
  rw [← names_undescribed, hsame, names_undescribed]
  exact h.names

/-- A type without its description is declared by the same name and the same right side. -/
theorem eligibleDeclaration_undescribed (o : Options) (t : TypeDef) :
    eligibleDeclaration o t.undescribed =
      Option.map Declaration.undescribed <$> eligibleDeclaration o t := by
  have hdeclares : declares o t.undescribed = declares o t := rfl
  have hbody : typeBody o t.undescribed = typeBody o t := rfl
  rw [eligibleDeclaration_eq, eligibleDeclaration_eq, hdeclares, hbody]
  split
  · rw [Functor.map_map]
    rfl
  · rw [Functor.map_map]
    rfl

theorem declarations_undescribed (o : Options) (s : Schema) :
    declarations o s.undescribed = List.map Declaration.undescribed <$> declarations o s := by
  have htypes : s.undescribed.types.mapM (eligibleDeclaration o) =
      List.map (Option.map Declaration.undescribed) <$> s.types.mapM (eligibleDeclaration o) := by
    rw [Schema.undescribed, List.mapM_map, ← Outcome.mapM_map_result]
    simp only [Function.comp_def, eligibleDeclaration_undescribed]
  have henvelope : envelope o s.undescribed = (envelope o s).map Declaration.undescribed := rfl
  rw [declarations, declarations, htypes, henvelope]
  cases s.types.mapM (eligibleDeclaration o) with
  | error fault => rfl
  | ok results =>
      change Except.ok _ = Except.ok _
      rw [List.map_append, List.map_filterMap, List.filterMap_map]
      rfl

/-- The descriptions of declarations are those of the types that are declared. -/
theorem descriptionEnclosed_iff {o : Options} {s : Schema} {ds : List Declaration}
    (h : declarations o s = .ok ds) :
    (∀ d ∈ ds, DescriptionEnclosed d.description) ↔ DescriptionsEnclosed o s := by
  obtain ⟨results, hresults, rfl⟩ := declarations_eq_ok_iff.mp h
  have henvelope : ∀ d ∈ envelope o s, DescriptionEnclosed d.description := by
    simp [envelope, DescriptionEnclosed]
  rw [List.forall_mem_append, and_iff_right henvelope]
  constructor
  · intro hall t ht hdeclares
    obtain ⟨result, hresult⟩ := Outcome.succeeds_mapM_iff.mp ⟨results, hresults⟩ t ht
    rw [eligibleDeclaration_eq, if_pos hdeclares] at hresult
    obtain ⟨body, hbody, -⟩ := Outcome.map_eq_ok_iff.mp hresult
    exact hall _ ((mem_typeDeclarations_iff hresults).mpr ⟨t, ht, hdeclares, body, hbody, rfl⟩)
  · intro hall d hd
    obtain ⟨t, ht, hdeclares, body, -, rfl⟩ := (mem_typeDeclarations_iff hresults).mp hd
    exact hall t ht hdeclares

/-- The code of declarations is that of the declarations without descriptions exactly if every
description stays in its comment. -/
theorem codeTexts_eq_undescribed_iff {o : Options} {s : Schema} (hs : SlashlessNames o s)
    {ds : List Declaration} (h : declarations o s = .ok ds) :
    codeTexts o s = codeTexts o s.undescribed ↔ DescriptionsEnclosed o s := by
  have hcode : ∀ d ∈ ds,
      code d.text = code d.undescribed.text ↔ DescriptionEnclosed d.description :=
    fun d hd => code_text_eq_iff (slashless_of_mem_declarations hs h hd)
  calc
    codeTexts o s = codeTexts o s.undescribed ↔
        ∀ d ∈ ds, code d.text = code d.undescribed.text := by
      rw [codeTexts_eq, codeTexts_eq, declarations_undescribed, h]
      change Except.ok _ = Except.ok _ ↔ _
      rw [Except.ok.injEq, List.map_map, List.map_inj_left]
      rfl
    _ ↔ ∀ d ∈ ds, DescriptionEnclosed d.description := forall₂_congr hcode
    _ ↔ DescriptionsEnclosed o s := descriptionEnclosed_iff h

/-- Enclosed descriptions leave no trace in the code. -/
theorem codeTexts_eq_undescribed {o : Options} {s : Schema} (hs : SlashlessNames o s)
    (henclosed : DescriptionsEnclosed o s) :
    codeTexts o s = codeTexts o s.undescribed := by
  cases hds : declarations o s with
  | ok ds => exact (codeTexts_eq_undescribed_iff hs hds).mpr henclosed
  | error fault =>
      rw [codeTexts_eq, codeTexts_eq, declarations_undescribed, hds]
      rfl

/-- Schemas that differ in descriptions only have the same code where every description stays in its
comment.  A description of a declared type that does not stay there changes the code. -/
theorem codeTexts_eq_of_enclosed {o : Options} {s : Schema} (hs : SlashlessNames o s) :
    (∀ s' : Schema, s'.undescribed = s.undescribed → DescriptionsEnclosed o s →
        DescriptionsEnclosed o s' → codeTexts o s' = codeTexts o s) ∧
      ((∃ ds, declarations o s = .ok ds) → codeTexts o s = codeTexts o s.undescribed →
        DescriptionsEnclosed o s) := by
  constructor
  · intro s' hsame henclosed henclosed'
    have hs' := slashlessNames_of_undescribed_eq hsame hs
    rw [codeTexts_eq_undescribed hs' henclosed', hsame, codeTexts_eq_undescribed hs henclosed]
  · rintro ⟨ds, hds⟩ hcode
    exact (codeTexts_eq_undescribed_iff hs hds).mp hcode

/-! ## A described type -/

/-- An object with a description. -/
def describedSchema (description : Value) : Schema where
  types := [{ name := .str "User", kind := .object, description }]

theorem names_describedSchema (description : Value) :
    (describedSchema description).names = [.null, .null, .str "User"] :=
  rfl

theorem slashlessNames_describedSchema (description : Value) :
    SlashlessNames {} (describedSchema description) := by
  refine ⟨by decide, ?_⟩
  rw [names_describedSchema]
  decide

theorem succeeds_declarations_describedSchema (description : Value) :
    ∃ ds, declarations {} (describedSchema description) = .ok ds := by
  have htypes : ∀ t ∈ (describedSchema description).types,
      Outcome.Succeeds (eligibleDeclaration {} t) := by
    intro t ht
    rw [List.mem_singleton.mp ht]
    apply succeeds_eligibleDeclaration
    · exact ⟨_, isEligible_of_text _ rfl⟩
    · intro
      apply succeeds_typeBody
      · exact succeeds_possibleNames (by simp)
      · exact succeeds_fieldMembers_iff.mpr (by simp [TypeDef.ownFields, TypeDef.isInput])
  obtain ⟨results, hresults⟩ := Outcome.succeeds_mapM_iff.mpr htypes
  exact ⟨_, declarations_eq_ok_iff.mpr ⟨results, hresults, rfl⟩⟩

theorem descriptionsEnclosed_describedSchema_iff {description : Value} :
    DescriptionsEnclosed {} (describedSchema description) ↔
      DescriptionEnclosed (descriptionOf description) := by
  have hdeclares : declares {} { name := .str "User", kind := .object, description } = true := rfl
  simp [DescriptionsEnclosed, describedSchema, hdeclares]

/-- A description that ends its comment and begins the next one leaves no trace in the code. -/
theorem codeTexts_describedSchema_eq :
    SlashlessNames {} (describedSchema .null) ∧
      codeTexts {} (describedSchema (.str "A user. */\n/* It has no name.")) =
        codeTexts {} (describedSchema .null) := by
  have hlines : Enclosed "A user. */\n/* It has no name.".toList :=
    @Enclosed.nextLine "A user. ".toList " It has no name.".toList (by decide) (.plain (by decide))
  refine ⟨slashlessNames_describedSchema _, ?_⟩
  apply (codeTexts_eq_of_enclosed (slashlessNames_describedSchema .null)).1
  · rfl
  · rw [descriptionsEnclosed_describedSchema_iff]
    rintro text h
    cases h
  · rw [descriptionsEnclosed_describedSchema_iff]
    rintro text h
    cases Option.some.inj h
    exact hlines

/-- With names of GraphQL, a description can still put code between its own comment and the
declaration. -/
theorem exists_description_in_code :
    ¬∀ (o : Options) (s s' : Schema),
      (∀ c ∈ o.suffix.toList, Sdl.isNamePart c = true) →
        (∀ name ∈ s.names, name = .null ∨ ∃ text, name = .str text ∧ Sdl.isName text = true) →
          s'.undescribed = s.undescribed → codeTexts o s' = codeTexts o s := by
  intro h
  have hsame := h {} (describedSchema .null)
    (describedSchema (.str "*/ type Injected = any; /*")) (by simp) ?_ rfl
  · obtain ⟨ds, hds⟩ :=
      succeeds_declarations_describedSchema (.str "*/ type Injected = any; /*")
    have henclosed :=
      (codeTexts_eq_undescribed_iff (slashlessNames_describedSchema _) hds).mp hsame
    have htext := descriptionsEnclosed_describedSchema_iff.mp henclosed _ rfl
    have hcode := codeFrom_of_enclosed htext []
    revert hcode
    decide
  · rw [names_describedSchema]
    have huser : Sdl.isName "User" = true := by decide
    simp [huser]

end Flow
end FlowDecl
