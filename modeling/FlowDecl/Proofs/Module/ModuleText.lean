import FlowDecl.Module.Build
import FlowDecl.Proofs.Flow.Decoding
import FlowDecl.Proofs.Flow.FieldOrder
import FlowDecl.Proofs.Module.PlainTemplates
import FlowDecl.Proofs.Schema.Filtering

/-!
# The text of a module

The steps around generation are added one after the other, each at one of the two places, and a step
that is added in the wrong place is as good as not added.  With filters and banners only, and with
the standard template, the text of a module consists of the banners, a heading and the declarations
of the filtered schema.  The banner that was added last is at the top.

This holds of every engine that fills in plain templates, and the standard template is one.  Its
name has none of the endings for which texts are escaped, and the line end at its end is kept, so
the texts stand in the module as they are.
-/

namespace FlowDecl

open Json (Value)

namespace Pipeline

/-! ## Adding steps -/

/-- A request to add a step at one of the two places. -/
inductive Call where
  | before (step : Step)
  | after (step : Step)

namespace Call

/-- The pipeline with the step, if it is not refused. -/
def attempt (p : Pipeline) : Call → Except Misplaced Pipeline
  | .before step => p.addBefore step
  | .after step => p.addAfter step

/-- The pipeline afterwards. -/
def next (p : Pipeline) (c : Call) : Pipeline :=
  match c.attempt p with
  | .ok p' => p'
  | .error _ => p

/-- Why a step is refused. -/
def refusal? : Call → Option Misplaced
  | .before (.finisher f) => some (.beforeGeneration (.finisher f))
  | .after (.filter f) => some (.afterGeneration (.filter f))
  | _ => none

def filter? : Call → Option NameFilter
  | .before (.filter f) => some f
  | _ => none

def finisher? : Call → Option Finisher
  | .after (.finisher f) => some f
  | _ => none

def banner? : Call → Option String
  | .after (.finisher (.banner text)) => some text
  | _ => none

theorem attempt_of_refusal {c : Call} {fault : Misplaced} (h : c.refusal? = some fault)
    (p : Pipeline) : c.attempt p = .error fault := by
  rcases c with (f | f) | (f | f)
  · cases h
  · cases h
    rfl
  · cases h
    rfl
  · cases h

theorem succeeds_attempt {c : Call} (h : c.refusal? = none) (p : Pipeline) :
    Outcome.Succeeds (c.attempt p) := by
  rcases c with (f | f) | (f | f)
  · exact Outcome.succeeds_ok _
  · cases h
  · cases h
  · exact Outcome.succeeds_ok _

theorem next_eq (p : Pipeline) (c : Call) :
    c.next p = ⟨p.filters ++ c.filter?.toList, p.finishers ++ c.finisher?.toList⟩ := by
  rcases c with (f | f) | (f | f)
  all_goals simp [next, attempt, addBefore, addAfter, filter?, finisher?]

end Call

/-- The pipeline of several calls. -/
def ofCalls (calls : List Call) : Pipeline :=
  calls.foldl Call.next {}

theorem foldl_next (p : Pipeline) (calls : List Call) :
    calls.foldl Call.next p =
      ⟨p.filters ++ calls.filterMap Call.filter?,
        p.finishers ++ calls.filterMap Call.finisher?⟩ := by
  have hcons {α : Type} (f : Call → Option α) (c : Call) (rest : List Call) :
      (c :: rest).filterMap f = (f c).toList ++ rest.filterMap f := by
    rw [List.filterMap_cons]
    cases f c <;> rfl
  induction calls generalizing p with
  | nil => simp
  | cons c rest ih =>
      rw [List.foldl_cons, ih, Call.next_eq, hcons, hcons, List.append_assoc, List.append_assoc]

theorem ofCalls_eq (calls : List Call) :
    ofCalls calls = ⟨calls.filterMap Call.filter?, calls.filterMap Call.finisher?⟩ :=
  foldl_next {} calls

/-- A refused call is as good as not made. -/
theorem ofCalls_of_refusal {c : Call} {fault : Misplaced} (h : c.refusal? = some fault)
    (before after : List Call) :
    ofCalls (before ++ c :: after) = ofCalls (before ++ after) := by
  have hnext (p : Pipeline) : c.next p = p := by
    rw [Call.next, Call.attempt_of_refusal h]
  rw [ofCalls, ofCalls, List.foldl_append, List.foldl_append, List.foldl_cons, hnext]

theorem finishers_ofCalls {calls : List Call}
    (h : ∀ command, Call.after (.finisher (.formatter command)) ∉ calls) :
    (ofCalls calls).finishers = (calls.filterMap Call.banner?).map Finisher.banner := by
  rw [ofCalls_eq, List.map_filterMap]
  apply List.filterMap_congr
  intro c hc
  rcases c with (f | f) | (f | text | command)
  · rfl
  · rfl
  · rfl
  · rfl
  · exact absurd hc (h command)

/-! ## Banners -/

/-- A text with a line end, which is added if there is none. -/
def asLines (text : String) : String :=
  if text.toList.getLast? = some '\n' then text else text ++ "\n"

theorem endsWith_newline_iff {text : String} :
    Text.endsWith "\n" text = true ↔ text.toList.getLast? = some '\n' := by
  have hnewline : "\n".toList.reverse = ['\n'] := rfl
  rw [Text.endsWith, hnewline, ← List.head?_reverse]
  cases text.toList.reverse with
  | nil =>
      refine iff_of_false ?_ ?_
      · intro h
        cases h
      · intro h
        cases h
  | cons c rest =>
      change ('\n' == c && true) = true ↔ some c = some '\n'
      rw [Bool.and_true, beq_iff_eq, Option.some.injEq]
      exact eq_comm

theorem withBanner_eq (banner text : String) :
    withBanner banner text = asLines banner ++ text := by
  simp only [withBanner, asLines, endsWith_newline_iff]

/-- The banners stand above the text, the last one at the top. -/
theorem foldl_withBanner (banners : List String) (text : String) :
    banners.foldl (fun text banner => withBanner banner text) text =
      String.join (banners.reverse.map asLines) ++ text := by
  induction banners generalizing text with
  | nil => simp [String.join]
  | cons banner rest ih =>
      rw [List.foldl_cons, ih, withBanner_eq, List.reverse_cons, List.map_append,
        String.join_append, String.append_assoc]
      simp [String.join]

theorem finish_banners (run : Formatter.Runner) {p : Pipeline} {banners : List String}
    (h : p.finishers = banners.map Finisher.banner) (text : String) :
    p.finish run text = pure (String.join (banners.reverse.map asLines) ++ text) := by
  rw [finish, h, List.foldlM_map, ← foldl_withBanner]
  exact List.foldlM_pure

end Pipeline

/-! ## Plain schemas -/

/-- A schema in which the names of types are texts, and all other names are texts or missing. -/
structure Schema.HasPlainNames (s : Schema) : Prop where
  text : ∀ t ∈ s.types, ∃ name, t.name = .str name
  queryType : IsPlainName s.queryType
  mutationType : IsPlainName s.mutationType
  types : ∀ t ∈ s.types, t.HasPlainNames

namespace Schema.HasPlainNames

variable {s : Schema}

theorem hashable {name : Value} (h : IsPlainName name) : name.hashable = true := by
  rcases h with rfl | ⟨text, rfl⟩
  · rfl
  · rfl

theorem hasKeys (hs : s.HasPlainNames) : s.HasKeys where
  text := hs.text
  queryType := hashable hs.queryType
  mutationType := hashable hs.mutationType
  possibleTypes t ht ref href := hashable ((hs.types t ht).possibleTypes ref href)

theorem restrict (hs : s.HasPlainNames) (keeps : Value → Bool) :
    (s.restrict keeps).HasPlainNames := by
  refine ⟨(hs.hasKeys.restrict keeps).text, hs.queryType, hs.mutationType, ?_⟩
  intro t' ht'
  obtain ⟨t, ht, rfl⟩ := List.mem_map.mp ht'
  have hplain := hs.types t (List.mem_of_mem_filter ht)
  refine ⟨hplain.name, hplain.fields, ?_⟩
  intro ref href
  exact hplain.possibleTypes ref (List.mem_of_mem_filter href)

end Schema.HasPlainNames

namespace Flow

variable {o : Options}

/-- Where names are plain, a right side fails for depth only, whatever the depth. -/
theorem eq_tooDeep_of_typeBody {t : TypeDef} (hnames : t.HasPlainNames) {fault : Fault}
    (h : typeBody o t = .error fault) : fault = .tooDeep := by
  rcases typeBody_fault_cases h with hpossible | hfields
  · obtain ⟨names, hok⟩ := succeeds_possibleNames_of_plain (o := o) hnames
    rw [hok] at hpossible
    cases hpossible
  · obtain ⟨before, f, after, hsplit, -, hf⟩ :=
      Outcome.mapM_eq_error_iff.mp (fieldMembers_eq_error_iff.mp hfields)
    have hmem : f ∈ t.ownFields := by simp [hsplit]
    exact eq_tooDeep_of_fieldMember (hnames.fields f hmem) hf

theorem eq_tooDeep_of_declarationTexts {s : Schema} (hs : s.HasPlainNames) {fault : Fault}
    (h : declarationTexts o s = .error fault) : fault = .tooDeep := by
  have hdeclarations := declarations_eq_error_iff.mp (Outcome.map_eq_error_iff.mp h)
  obtain ⟨before, t, after, hsplit, -, ht⟩ := Outcome.mapM_eq_error_iff.mp hdeclarations
  have hmem : t ∈ s.types := by simp [hsplit]
  obtain ⟨name, hname⟩ := hs.text t hmem
  rw [eligibleDeclaration_eq] at ht
  split at ht
  · exact eq_tooDeep_of_typeBody (hs.types t hmem) (Outcome.map_eq_error_iff.mp ht)
  · rw [isEligible_of_text o hname] at ht
    cases ht

/-! ## The ends of declarations -/

/-- A text that ends with the end of a declaration. -/
def IsClosed (text : String) : Prop :=
  ∃ c, (c = '}' ∨ c = ';') ∧ text.toList.getLast? = some c

theorem IsClosed.append_left {text : String} (h : IsClosed text) (start : String) :
    IsClosed (start ++ text) := by
  obtain ⟨c, hc, hlast⟩ := h
  refine ⟨c, hc, ?_⟩
  rw [String.toList_append, List.getLast?_append, hlast]
  rfl

theorem isClosed_body (b : Body) : IsClosed b.text := by
  have hsemicolon : IsClosed ";" := ⟨';', Or.inr rfl, rfl⟩
  have hbrace : IsClosed "\x7d" := ⟨'}', Or.inl rfl, rfl⟩
  rcases b with values | names | ms
  · exact hsemicolon.append_left _
  · exact hsemicolon.append_left _
  · rw [Body.text, structureText_eq]
    exact hbrace.append_left _

theorem isClosed_declaration (d : Declaration) : IsClosed d.text :=
  (isClosed_body d.body).append_left _

theorem isClosed_joinTexts {texts : List String} (h : ∀ text ∈ texts, IsClosed text)
    (hne : texts ≠ []) : IsClosed (joinTexts texts) := by
  induction texts with
  | nil => exact absurd rfl hne
  | cons text rest ih =>
      obtain ⟨htext, hrest⟩ := List.forall_mem_cons.mp h
      cases rest with
      | nil => simpa [joinTexts] using htext
      | cons next rest =>
          have hjoin : joinTexts (text :: next :: rest) =
              text ++ "\n\n" ++ joinTexts (next :: rest) := by
            apply String.toList_injective
            rw [joinTexts_cons_cons]
            simp
          rw [hjoin]
          exact (ih hrest (List.cons_ne_nil _ _)).append_left _

theorem isClosed_declarationTexts {s : Schema} {texts : List String}
    (h : declarationTexts o s = .ok texts) : IsClosed (joinTexts texts) := by
  obtain ⟨ds, hds, rfl⟩ := Outcome.map_eq_ok_iff.mp h
  apply isClosed_joinTexts
  · rw [List.forall_mem_map]
    exact fun d _ => isClosed_declaration d
  · obtain ⟨types, -, rfl⟩ := declarations_eq_ok_iff.mp hds
    simp [envelope]

end Flow

namespace Module

/-! ## Texts of modules -/

/-- The heading and the declarations of a module. -/
def headedText (moduleName : String) (texts : List String) : String :=
  "// @flow\n// graphql flow definitions: " ++ moduleName ++ "\n" ++ Flow.joinTexts texts ++ "\n"

/-- The banners, the heading and the declarations of a module. -/
def moduleText (banners : List String) (moduleName : String) (texts : List String) : String :=
  String.join (banners.reverse.map Pipeline.asLines) ++ headedText moduleName texts

def standardParts : List Template.Part :=
  [.literal "// @flow\n// graphql flow definitions: ".toList, .place "module_name",
    .literal "\n".toList, .place "body", .literal "\n".toList]

theorem written_standardParts :
    settings.taken standardTemplate.toList = standardParts.flatMap Template.Part.written := by
  decide +kernel

theorem isPlain_standardParts : ∀ part ∈ standardParts, part.IsPlain := by
  have hname : ∀ name, name ≠ "" ∧ name ∉ Template.reservedWords ∧
      name.toList.all Template.isVariableChar = true → (Template.Part.place name).IsPlain :=
    fun name h => ⟨h.1, h.2.1, List.all_eq_true.mp h.2.2⟩
  have hliteral : ∀ text : String,
      text.toList.all (fun c => decide (c ≠ '{' ∧ c ≠ '}' ∧ c ≠ '\r')) = true →
        (Template.Part.literal text.toList).IsPlain := by
    intro text htext c hc
    exact of_decide_eq_true (List.all_eq_true.mp htext c hc)
  refine List.forall_mem_cons.mpr ⟨hliteral _ (by decide), List.forall_mem_cons.mpr
    ⟨hname _ (by decide), List.forall_mem_cons.mpr ⟨hliteral _ (by decide),
      List.forall_mem_cons.mpr ⟨hname _ (by decide),
        List.forall_mem_singleton.mpr (hliteral _ (by decide))⟩⟩⟩⟩

theorem escapes_templateName : settings.escapes templateName = false := by
  decide

theorem ofList_flatten (start name lineEnd body : String) :
    String.ofList [start.toList, name.toList, lineEnd.toList, body.toList, lineEnd.toList].flatten =
      start ++ name ++ lineEnd ++ body ++ lineEnd := by
  simp [String.ofList_append, String.append_assoc]

/-- What is shown for the parts of the standard template is the heading and the declarations. -/
theorem exists_shown_standardParts (o : Options) (texts : List String) :
    ∃ shown, standardParts.mapM (Template.Part.shown? (templateArguments o texts)) = some shown ∧
      String.ofList shown.flatten = headedText o.moduleName texts := by
  have hname : (templateArguments o texts).lookup "module_name" = some (.text o.moduleName) := rfl
  have hbody : (templateArguments o texts).lookup "body" = some (.text (Flow.joinTexts texts)) := rfl
  refine ⟨_, ?_, ofList_flatten "// @flow\n// graphql flow definitions: " o.moduleName "\n"
    (Flow.joinTexts texts)⟩
  simp only [standardParts, List.mapM_cons, List.mapM_nil, Template.Part.shown?, hname, hbody,
    Option.pure_def, Option.bind_eq_bind, Option.bind_some]

theorem nodup_templateArguments (o : Options) (texts : List String) :
    ((templateArguments o texts).map Prod.fst).Nodup := by
  change ["module_name", "declarations", "body"].Nodup
  decide

theorem fill_standardTemplate {engine : Template.Engine} (hengine : Template.FillsPlaces engine)
    {tree : Files.Tree} {templates : Option String}
    (htemplate : templateOctets? tree templates templateName = none) (o : Options)
    (texts : List String) :
    engine settings (sources tree templates) templateName (templateArguments o texts) =
      .ok (headedText o.moduleName texts) := by
  have hsource : sources tree templates templateName = .ok (some standardTemplate) := by
    rw [sources, htemplate]
    rfl
  obtain ⟨shown, hshown, htext⟩ := exists_shown_standardParts o texts
  rw [← htext]
  exact hengine settings _ _ _ _ _ _ escapes_templateName hsource written_standardParts
    isPlain_standardParts (nodup_templateArguments o texts) hshown

theorem draft_eq {engine : Template.Engine} (hengine : Template.FillsPlaces engine)
    {tree : Files.Tree} {r : Recipe} {filtered : Schema}
    (hfilter : r.pipeline.filterSchema r.schema = .ok filtered)
    (htemplate : templateOctets? tree r.templates templateName = none) :
    r.draft engine tree =
      headedText r.options.moduleName <$>
        (Flow.declarationTexts r.options filtered).mapError .flow := by
  have hdeclarations :
      r.declarations = (Flow.declarationTexts r.options filtered).mapError .flow := by
    rw [Recipe.declarations, hfilter]
    rfl
  rw [Recipe.draft, hdeclarations]
  cases Flow.declarationTexts r.options filtered with
  | error fault => rfl
  | ok texts =>
      change (engine settings (sources tree r.templates) templateName
        (templateArguments r.options texts)).mapError Fault.template = _
      rw [fill_standardTemplate hengine htemplate]
      rfl

section Render

variable {engine : Template.Engine} (run : Formatter.Runner) {tree : Files.Tree} {r : Recipe}

theorem run_render :
    (r.render engine run).run.run tree =
      (match r.draft engine tree with
        | .ok text => ExceptT.adapt Fault.formatter (r.pipeline.finish run text)
        | .error fault => throw fault).run.run tree :=
  rfl

theorem render_of_draft_error {fault : Fault} (h : r.draft engine tree = .error fault) :
    (r.render engine run).run.run tree = (.error fault, tree) := by
  rw [run_render, h]
  rfl

theorem render_of_draft_ok {text : String} (h : r.draft engine tree = .ok text) :
    (r.render engine run).run.run tree =
      (ExceptT.adapt Fault.formatter (r.pipeline.finish run text)).run.run tree := by
  rw [run_render, h]

theorem render_of_banners {banners : List String}
    (hbanners : r.pipeline.finishers = banners.map Finisher.banner) {text : String}
    (h : r.draft engine tree = .ok text) :
    (r.render engine run).run.run tree =
      (.ok (String.join (banners.reverse.map Pipeline.asLines) ++ text), tree) := by
  rw [render_of_draft_ok run h, Pipeline.finish_banners run hbanners]
  rfl

end Render

theorem exists_moduleText_eq (banners : List String) (moduleName : String) {texts : List String}
    (h : Flow.IsClosed (Flow.joinTexts texts)) :
    ∃ start c, (c = '}' ∨ c = ';') ∧
      (moduleText banners moduleName texts).toList = start ++ [c, '\n'] := by
  have hclosed := h.append_left (String.join (banners.reverse.map Pipeline.asLines) ++
    ("// @flow\n// graphql flow definitions: " ++ moduleName ++ "\n"))
  obtain ⟨c, hc, hlast⟩ := hclosed
  obtain ⟨start, hstart⟩ := List.getLast?_eq_some_iff.mp hlast
  refine ⟨start, c, hc, ?_⟩
  have htext : moduleText banners moduleName texts =
      String.join (banners.reverse.map Pipeline.asLines) ++
        ("// @flow\n// graphql flow definitions: " ++ moduleName ++ "\n") ++
          Flow.joinTexts texts ++ "\n" := by
    have happend (a b c d : String) : a ++ (b ++ c ++ d) = a ++ b ++ c ++ d := by
      simp only [String.append_assoc]
    exact happend _ _ _ _
  rw [htext, String.toList_append, hstart]
  simp

/-- A call in the wrong place is refused, and the rest is as if it had not been made.  The text of
the module is there unless generation from the filtered schema fails, which it does for depth only,
and it consists of the banners, the heading and the declarations.  No file is touched. -/
theorem render_of_calls {engine : Template.Engine} (hengine : Template.FillsPlaces engine)
    (run : Formatter.Runner) {tree : Files.Tree} (o : Options) {s : Schema}
    (hs : s.HasPlainNames) {calls : List Pipeline.Call}
    (hcalls : ∀ command, Pipeline.Call.after (.finisher (.formatter command)) ∉ calls)
    {templates : Option String} (htemplate : templateOctets? tree templates templateName = none) :
    (∀ before c after, calls = before ++ c :: after →
      (c.refusal? = none → Outcome.Succeeds (c.attempt (Pipeline.ofCalls before))) ∧
        ∀ fault, c.refusal? = some fault →
          c.attempt (Pipeline.ofCalls before) = .error fault ∧
            Pipeline.ofCalls calls = Pipeline.ofCalls (before ++ after)) ∧
      ∃ filtered,
        (calls.filterMap Pipeline.Call.filter?).foldlM (fun s f => f.apply s) s = .ok filtered ∧
          ((Flow.declarationTexts o filtered = .error .tooDeep ∧
              (Recipe.render engine run ⟨s, o, templates, Pipeline.ofCalls calls⟩).run.run tree =
                (.error (.flow .tooDeep), tree)) ∨
            ∃ texts, Flow.declarationTexts o filtered = .ok texts ∧
              (Recipe.render engine run ⟨s, o, templates, Pipeline.ofCalls calls⟩).run.run tree =
                (.ok (moduleText (calls.filterMap Pipeline.Call.banner?) o.moduleName texts),
                  tree) ∧
              ∃ start c, (c = '}' ∨ c = ';') ∧
                (moduleText (calls.filterMap Pipeline.Call.banner?) o.moduleName texts).toList =
                  start ++ [c, '\n']) := by
  constructor
  · rintro before c after rfl
    refine ⟨fun h => Pipeline.Call.succeeds_attempt h _, ?_⟩
    intro fault h
    exact ⟨Pipeline.Call.attempt_of_refusal h _, Pipeline.ofCalls_of_refusal h before after⟩
  · have hfilters : (Pipeline.ofCalls calls).filters = calls.filterMap Pipeline.Call.filter? :=
      congrArg Pipeline.filters (Pipeline.ofCalls_eq calls)
    obtain ⟨filtered, hfiltered, hplain⟩ : ∃ filtered,
        (calls.filterMap Pipeline.Call.filter?).foldlM (fun s f => f.apply s) s = .ok filtered ∧
          filtered.HasPlainNames :=
      ⟨_, Pipeline.foldlM_apply_eq_restrict hs.hasKeys _, hs.restrict _⟩
    have hpipeline : (Pipeline.ofCalls calls).filterSchema s = .ok filtered := by
      rw [Pipeline.filterSchema, hfilters, hfiltered]
    have hdraft : Recipe.draft engine tree ⟨s, o, templates, Pipeline.ofCalls calls⟩ = _ :=
      draft_eq hengine hpipeline htemplate
    refine ⟨filtered, hfiltered, ?_⟩
    cases htexts : Flow.declarationTexts o filtered with
    | error fault =>
        cases Flow.eq_tooDeep_of_declarationTexts hplain htexts
        rw [htexts] at hdraft
        exact Or.inl ⟨rfl, render_of_draft_error run hdraft⟩
    | ok texts =>
        rw [htexts] at hdraft
        have hrender := render_of_banners run (Pipeline.finishers_ofCalls hcalls) hdraft
        exact Or.inr ⟨texts, rfl, hrender,
          exists_moduleText_eq _ _ (Flow.isClosed_declarationTexts htexts)⟩

/-! ## Two banners -/

/-- A pet is a dog, and there is a role that should not be declared. -/
def dogSchema : Schema where
  types := [
    { name := .str "Pet", kind := .union, possibleTypes := [⟨⟨.object, .str "Dog"⟩, []⟩] },
    { name := .str "_Role", kind := .enum }]

theorem dogSchema_hasPlainNames : dogSchema.HasPlainNames := by
  refine ⟨?_, Or.inl rfl, Or.inl rfl, ?_⟩
  · simp [dogSchema]
  · intro t ht
    refine ⟨?_, ?_, ?_⟩
    all_goals
      revert t
      simp [dogSchema, IsPlainName, TypeDef.ownFields, TypeDef.isInput]

/-- A filter and two banners, and each of the two sorts in the wrong place. -/
def dogCalls : List Pipeline.Call :=
  [.after (.filter { notBeginning := some "_" }),
    .after (.finisher (.banner "// first")),
    .before (.filter { notBeginning := some "_" }),
    .before (.finisher (.banner "// neither")),
    .after (.finisher (.banner "// second\n"))]

theorem notMem_dogCalls (command : Formatter.Command) :
    Pipeline.Call.after (.finisher (.formatter command)) ∉ dogCalls := by
  simp [dogCalls]

/-- What is left of the schema without the role. -/
def petOnlySchema : Schema where
  types := [
    { name := .str "Pet", kind := .union, possibleTypes := [⟨⟨.object, .str "Dog"⟩, []⟩] }]

/-- The calls for the schema, with a module name that looks like a place in a template. -/
def dogRecipe : Recipe where
  schema := dogSchema
  options := { moduleName := "\x7b\x7b body \x7d\x7d" }
  pipeline := Pipeline.ofCalls dogCalls

/-- Two banners are left, and the role is dropped. -/
theorem render_dogRecipe :
    dogSchema.HasPlainNames ∧
      (∀ command, Pipeline.Call.after (.finisher (.formatter command)) ∉ dogCalls) ∧
        Template.FillsPlaces Template.standardEngine ∧ templateOctets? {} none templateName = none ∧
          ∃ texts, Flow.declarationTexts dogRecipe.options petOnlySchema = .ok texts ∧
            (dogRecipe.render Template.standardEngine fun _ _ => pure .timedOut).run.run {} =
              (.ok (moduleText ["// first", "// second\n"] "\x7b\x7b body \x7d\x7d" texts), {}) := by
  have hengine := Template.fillsPlaces_standardEngine
  have htemplate : templateOctets? {} none templateName = none := rfl
  obtain ⟨-, filtered, hfiltered, hrender⟩ := render_of_calls hengine (fun _ _ => pure .timedOut)
    dogRecipe.options dogSchema_hasPlainNames notMem_dogCalls htemplate
  have hkept : (dogCalls.filterMap Pipeline.Call.filter?).foldlM (fun s f => f.apply s) dogSchema =
      .ok petOnlySchema := rfl
  cases hkept.symm.trans hfiltered
  refine ⟨dogSchema_hasPlainNames, notMem_dogCalls, hengine, htemplate, ?_⟩
  rcases hrender with ⟨hdeep, -⟩ | ⟨texts, htexts, htext, -⟩
  · cases hdeep
  · exact ⟨texts, htexts, htext⟩

end Module
end FlowDecl
