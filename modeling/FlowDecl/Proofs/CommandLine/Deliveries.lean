import FlowDecl.Proofs.CommandLine.ShownPages
import FlowDecl.Proofs.Files.ParentDirectories
import FlowDecl.Proofs.Module.KeptFiles

/-!
# What a run delivers

Both commands make a text and write it to their output.  All that can go wrong with the text goes
wrong before the first change to the files: the arguments, the schema, the filters, the
declarations, the template and the formatters come first.  So a run ends in one of four ways: with a
page, with a failure that leaves the files as they are, with the text in its file, or with a file
that could not be written.
-/

namespace FlowDecl
namespace CommandLine

open Json (Value)
open Files (Tree hasNull)

/-! ## Output paths -/

theorem hasNull_of_checkFile {page : Page} {tree : Tree} {wanted : Bool} {hint path : String}
    (h : checkFile page tree wanted hint path = .ok ()) : hasNull path = false := by
  by_contra hnull
  have hstat : tree.stat path = .error .nullCharacter := by
    rw [Tree.stat, Tree.locate, if_pos (Bool.not_eq_false _ ▸ hnull)]
    rfl
  rw [checkFile, lookAt, hstat] at h
  cases h

theorem check_of_forM {κ ε : Type} {check : κ → Except ε Unit} {keys : List κ}
    (h : keys.forM check = .ok ()) {key : κ} (hkey : key ∈ keys) : check key = .ok () := by
  induction keys with
  | nil => cases hkey
  | cons first keys ih =>
      obtain ⟨_, hfirst, hrest⟩ := Outcome.bind_eq_ok_iff.mp h
      rcases List.mem_cons.mp hkey with rfl | hkey
      · exact hfirst
      · exact ih hrest hkey

/-- Every value of a command is checked, also one that is not given. -/
theorem check_of_checkGiven {page : Page} {forms : List (OptionForm OptionKey)} {allowed : Nat}
    {check : Given OptionKey → OptionKey → Except Stop Unit} {g g' : Given OptionKey}
    (h : checkGiven page forms allowed check g = .ok g') (key : OptionKey)
    (hkey : key ∈ forms.map (·.key)) : check g key = .ok () := by
  rw [checkGiven] at h
  split at h
  next => cases h
  next =>
    obtain ⟨_, hchecks, -⟩ := Outcome.bind_eq_ok_iff.mp h
    refine check_of_forM hchecks ?_
    by_cases hgiven : key ∈ (g.options.map (·.1)).eraseDups
    · exact List.mem_append_left _ hgiven
    · refine List.mem_append_right _ (List.mem_filter.mpr ⟨List.mem_cons_of_mem _ hkey, ?_⟩)
      simpa using hgiven

theorem hasNull_output_of_generate {around : Surroundings} {tree : Tree} {arguments : List String}
    {r : GenerateRequest} (h : Generate.readRequest around tree arguments = .ok r) :
    hasNull r.output = false := by
  rw [readRequest_generate] at h
  obtain ⟨g, -, h⟩ := Outcome.bind_eq_ok_iff.mp h
  obtain ⟨g', hcheck, hrequest⟩ := Outcome.bind_eq_ok_iff.mp h
  rw [eq_of_checkGiven hcheck] at hrequest
  obtain ⟨endpoint, -, hend⟩ := Outcome.bind_eq_ok_iff.mp hrequest
  cases hend
  exact hasNull_of_checkFile (check_of_checkGiven hcheck .outputFile (by decide))

theorem hasNull_output_of_introspect {around : Surroundings} {tree : Tree}
    {arguments : List String} {r : IntrospectRequest}
    (h : Introspect.readRequest around tree arguments = .ok r) : hasNull r.output = false := by
  obtain ⟨g, hg, h⟩ := Outcome.bind_eq_ok_iff.mp h
  obtain ⟨url, -, h⟩ := Outcome.bind_eq_ok_iff.mp h
  obtain ⟨output, houtput, h⟩ := Outcome.bind_eq_ok_iff.mp h
  obtain ⟨endpoint, -, hend⟩ := Outcome.bind_eq_ok_iff.mp h
  cases hend
  rw [readCommand_eq] at hg
  obtain ⟨g', -, hcheck⟩ := Outcome.bind_eq_ok_iff.mp hg
  rw [eq_of_checkGiven hcheck] at houtput
  have hchecked := check_of_checkGiven hcheck .output (by decide)
  obtain ⟨path, hpath, hfile⟩ := Outcome.bind_eq_ok_iff.mp hchecked
  cases hpath.symm.trans houtput
  exact hasNull_of_checkFile hfile

/-! ## Writing a module -/

theorem run_adapt {ε ε' α : Type} (f : ε → ε') (action : ExceptT ε (StateM Tree) α) (tree : Tree) :
    (ExceptT.adapt f action).run.run tree =
      ((action.run.run tree).1.mapError f, (action.run.run tree).2) :=
  rfl

/-- The file of a module is written after its text is made. -/
theorem run_write {engine : Template.Engine} {run : Formatter.Runner}
    (hrun : Formatter.KeepsFiles run) (recipe : Module.Recipe) (path : String) (tree : Tree) :
    (recipe.write engine run path).run.run tree =
      match ((recipe.render engine run).run.run tree).1 with
      | .error fault => (.error fault, tree)
      | .ok text =>
        match (Files.makeParentOf path >>=
            fun _ => Files.save path (Text.Utf8.encode text)).run.run tree with
        | (.ok _, tree') => (.ok text, tree')
        | (.error fault, tree') => (.error (.file fault), tree') := by
  have htree := Formatter.keeps_render hrun engine recipe tree
  rw [Module.Recipe.write, Outcome.run_bind]
  rcases hrender : (recipe.render engine run).run.run tree with ⟨result, tree'⟩
  rw [hrender] at htree
  simp only at htree
  subst htree
  cases result with
  | error fault => rfl
  | ok text =>
      simp only [Outcome.run_bind, run_adapt]
      rcases (Files.makeParentOf path).run.run tree' with ⟨made, tree''⟩
      cases made with
      | error fault => rfl
      | ok _ =>
          simp only
          rcases (Files.save path (Text.Utf8.encode text)).run.run tree'' with ⟨saved, _⟩
          cases saved <;> rfl

/-- A document is written after the directory of its place is made. -/
theorem run_save_document (path : String) (document : Value) (tree : Tree) :
    (Introspect.save path document).run.run tree =
      (Files.makePlace (tree.resolve path).length (tree.resolve path).dropLast >>=
        fun _ => Files.save (tree.absolute path)
          (Text.Utf8.encode (Introspect.documentText document))).run.run tree :=
  rfl

/-! ## How a run can end -/

/-- The text that a run delivers and the path that it is written to.  It is delivered once all that
comes before it has a result: the arguments, the schema or the document, the steps around
generation, and the text itself. -/
inductive Delivers (around : Surroundings) (tree : Tree) (arguments : List String) :
    String → String → Prop where
  | module {rest : List String} {r : GenerateRequest} {schema : Schema} {pipeline : Pipeline}
      {text : String} (hcommand : readProgram arguments = .ok ("generate" :: rest))
      (hrequest : Generate.readRequest around tree rest = .ok r)
      (hsource : (given r.schema).isSome ≠ (given r.url).isSome)
      (hschema : sourceOf around tree r = .ok schema) (hpipeline : pipelineOf r = .ok pipeline)
      (htext : ((r.recipe schema pipeline).render around.engine around.runner).run.run tree =
        (.ok text, tree)) :
      Delivers around tree arguments r.output text
  | document {rest : List String} {r : IntrospectRequest} {document : Value}
      (hcommand : readProgram arguments = .ok ("introspect" :: rest))
      (hrequest : Introspect.readRequest around tree rest = .ok r)
      (hdocument : documentOf around .introspect r.url r.endpoint = .ok document) :
      Delivers around tree arguments r.output (Introspect.documentText document)

/-- How a run can end: with a page, with a failure that comes before anything is delivered, or with
what came of the delivery. -/
inductive Ends (around : Surroundings) (tree : Tree) (arguments : List String) :
    Ending Unit → Prop where
  | shown {page : String} (hasks : AsksForPage arguments) :
      Ends around tree arguments (.error (.shown page), tree)
  | failed {stop : Stop} (hstatus : stop.status ≠ 0) :
      Ends around tree arguments (.error stop, tree)
  | written {path text : String} {tree' : Tree}
      (hdelivers : Delivers around tree arguments path text)
      (hwritten : Files.IsDelivery (tree.absolute path) (Text.Utf8.encode text) tree
        (.ok (), tree')) :
      Ends around tree arguments (.ok (), tree')
  | unwritten {path text : String} {tree' : Tree} {fault : Files.Fault} {crash : Crash}
      (hdelivers : Delivers around tree arguments path text)
      (hunwritten : Files.IsDelivery (tree.absolute path) (Text.Utf8.encode text) tree
        (.error fault, tree')) (hcrash : ∀ mishap, crash ≠ .console mishap) :
      Ends around tree arguments (.error (.crash crash), tree')

/-- A stop before the delivery is a failure unless a page is asked for. -/
theorem ends_of_shows {α : Type} {around : Surroundings} {tree : Tree} {arguments : List String}
    {stop : Stop} (h : Shows (.error stop : Except Stop α) → AsksForPage arguments) :
    Ends around tree arguments (.error stop, tree) := by
  by_cases hstatus : stop.status = 0
  · obtain ⟨page, rfl⟩ := Stop.status_eq_zero_iff.mp hstatus
    exact .shown (h ⟨page, rfl⟩)
  · exact .failed hstatus

theorem ends_of_not_shows {α : Type} {around : Surroundings} {tree : Tree}
    {arguments : List String} {stop : Stop} {x : Except Stop α} (hstop : x = .error stop)
    (h : ¬Shows x) : Ends around tree arguments (.error stop, tree) :=
  ends_of_shows fun hshows => absurd (hstop ▸ hshows) h

theorem exists_ends_of_throw {around : Surroundings} {tree : Tree} {arguments : List String}
    (stop : Stop) (h : Ends around tree arguments (.error stop, tree)) :
    ∃ ending, Ends around tree arguments ending ∧
      (throw stop : Action Unit).ComesTo around tree ending :=
  ⟨_, h, .throw stop⟩

section Run

variable {around : Surroundings} (hrunner : Formatter.KeepsFiles around.runner) {tree : Tree}
  (hs : tree.IsSound) {arguments rest : List String}

include hs

section Generate

include hrunner

theorem ends_writeEnding {r : GenerateRequest} {schema : Schema} {pipeline : Pipeline}
    (hcommand : readProgram arguments = .ok ("generate" :: rest))
    (hrequest : Generate.readRequest around tree rest = .ok r)
    (hsource : (given r.schema).isSome ≠ (given r.url).isSome)
    (hschema : sourceOf around tree r = .ok schema) (hpipeline : pipelineOf r = .ok pipeline) :
    Ends around tree arguments
      (writeEnding around (r.recipe schema pipeline) (tree.absolute r.output) tree) := by
  rw [writeEnding, run_write hrunner]
  cases hrender :
      (((r.recipe schema pipeline).render around.engine around.runner).run.run tree).1 with
  | error fault => exact .failed (moduleStop_status_ne fault)
  | ok text =>
      have hdelivers : Delivers around tree arguments r.output text :=
        .module hcommand hrequest hsource hschema hpipeline
          (Prod.ext hrender (Formatter.keeps_render hrunner _ _ tree))
      have hdelivery := Files.isDelivery_makeParentOf hs (hasNull_output_of_generate hrequest)
        (Text.Utf8.encode text)
      simp only
      generalize (Files.makeParentOf (tree.absolute r.output) >>= fun _ =>
        Files.save (tree.absolute r.output) (Text.Utf8.encode text)).run.run tree = written
        at hdelivery ⊢
      obtain ⟨result, tree'⟩ := written
      cases result with
      | ok _ => exact .written hdelivers hdelivery
      | error fault => exact .unwritten hdelivers hdelivery (by rintro _ ⟨⟩)

theorem ends_generateEnding (hcommand : readProgram arguments = .ok ("generate" :: rest)) :
    Ends around tree arguments (generateEnding around tree rest) := by
  rw [generateEnding]
  cases hrequest : Generate.readRequest around tree rest with
  | error stop =>
      exact ends_of_shows fun hshows => asksForPage_of_generate hcommand (hrequest ▸ hshows)
  | ok r =>
      rw [Ending.after_ok]
      by_cases hsource : (given r.schema).isSome = (given r.url).isSome
      · rw [if_pos hsource]
        exact .failed (Nat.succ_ne_zero 1)
      · rw [if_neg hsource, endingOf]
        cases hschema : sourceOf around tree r with
        | error stop => exact ends_of_not_shows hschema (not_shows_sourceOf around tree r)
        | ok schema =>
            cases hpipeline : pipelineOf r with
            | error stop => exact ends_of_not_shows hpipeline (not_shows_pipelineOf r)
            | ok pipeline =>
                simp only [Ending.after_ok]
                exact ends_writeEnding hrunner hs hcommand hrequest hsource hschema hpipeline

end Generate

theorem ends_introspectEnding (hcommand : readProgram arguments = .ok ("introspect" :: rest)) :
    Ends around tree arguments (introspectEnding around tree rest) := by
  rw [introspectEnding]
  cases hrequest : Introspect.readRequest around tree rest with
  | error stop =>
      exact ends_of_shows fun hshows => asksForPage_of_introspect hcommand (hrequest ▸ hshows)
  | ok r =>
      rw [Ending.after_ok]
      cases hdocument : documentOf around .introspect r.url r.endpoint with
      | error stop => exact ends_of_not_shows hdocument (not_shows_documentOf around _ _ _)
      | ok document =>
          have hdelivers := Delivers.document hcommand hrequest hdocument
          have hdelivery := Files.isDelivery_makePlace hs (hasNull_output_of_introspect hrequest)
            (Text.Utf8.encode (Introspect.documentText document))
          rw [← run_save_document] at hdelivery
          simp only [Ending.after_ok, saveEnding]
          generalize (Introspect.save r.output document).run.run tree = written at hdelivery ⊢
          obtain ⟨result, tree'⟩ := written
          cases result with
          | ok _ => exact .written hdelivers hdelivery
          | error fault => exact .unwritten hdelivers hdelivery (by rintro _ ⟨⟩)

include hrunner

theorem exists_ends_runCommand {name : String}
    (hcommand : readProgram arguments = .ok (name :: rest)) :
    ∃ ending, Ends around tree arguments ending ∧
      (runCommand around name rest).ComesTo around tree ending := by
  by_cases hgenerate : name = "generate"
  · subst hgenerate
    exact ⟨_, ends_generateEnding hrunner hs hcommand, comesTo_generate rest⟩
  by_cases hintrospect : name = "introspect"
  · subst hintrospect
    exact ⟨_, ends_introspectEnding hs hcommand, comesTo_introspect rest⟩
  have hnone : commands.lookup name = none := by
    rw [commands, List.lookup_cons, beq_eq_false_iff_ne.mpr hgenerate, List.lookup_cons,
      beq_eq_false_iff_ne.mpr hintrospect, List.lookup_nil]
  rw [runCommand, hnone]
  dsimp only
  split
  · cases hread : readProgram (name :: rest) with
    | error stop =>
        exact exists_ends_of_throw _ (ends_of_shows fun hshows =>
          asksForPage_of_readProgram (Or.inr hcommand) (hread ▸ hshows))
    | ok _ => exact exists_ends_of_throw _ (.failed (Nat.succ_ne_zero 1))
  · exact exists_ends_of_throw _ (.failed (Nat.succ_ne_zero 1))

/-- Every run comes to one of the endings. -/
theorem exists_ends_runProgram (arguments : List String) :
    ∃ ending, Ends around tree arguments ending ∧
      (runProgram around arguments).ComesTo around tree ending := by
  rw [runProgram]
  split
  · exact exists_ends_of_throw (.noArguments .program) (.failed (Nat.succ_ne_zero 1))
  · cases hread : readProgram arguments with
    | error stop =>
        exact exists_ends_of_throw _ (ends_of_shows fun hshows =>
          asksForPage_of_readProgram (Or.inl rfl) (hread ▸ hshows))
    | ok left =>
        cases left with
        | nil => exact exists_ends_of_throw _ (.failed (Nat.succ_ne_zero 1))
        | cons name rest => exact exists_ends_runCommand hrunner hs hread

end Run

end CommandLine
end FlowDecl
