import FlowDecl.Proofs.CommandLine.LeftFiles
import FlowDecl.Proofs.Formatter.Results

/-!
# Runs with a formatter

A formatter is the first of the finishers, so what it is given is the text of the module before it
is finished.  A fault of the formatter ends the run.  It ends in a message about wrong usage if the
fault is reported, and in a crash if it is not.
-/

namespace FlowDecl
namespace CommandLine

open Files (Tree)
open Formatter (Command Runner outcomeOf)

/-! ## How a run ended -/

/-- The run ended for wrong usage, and the message is the last thing that was told. -/
def Outcome.IsUsageError (o : Outcome) (message : String) : Prop :=
  o.status = 2 ∧ o.crash = none ∧
    ∃ told, o.session.output = told ++ (Page.generate.hint ++ "Error: " ++ message ++ "\n")

theorem isUsageError_of_isOf {o : Outcome} {tree : Tree} {message : String}
    (h : o.IsOf (.error (.usage .generate message), tree)) : o.IsUsageError message :=
  ⟨h.status, h.crash, h.told⟩

theorem crash_of_isOf {o : Outcome} {tree : Tree} {crash : Crash}
    (h : o.IsOf (.error (.crash crash), tree)) : o.crash = some crash :=
  h.crash

/-! ## Modules -/

/-- A fault of the first formatter is the fault of the module. -/
theorem write_of_format_error {engine : Template.Engine} {run : Runner} {recipe : Module.Recipe}
    {path text : String} {tree tree' : Tree} {command : Command} {finishers : List Finisher}
    {fault : Formatter.Fault}
    (hfinishers : recipe.pipeline.finishers = .formatter command :: finishers)
    (hdraft : recipe.draft engine tree = .ok text)
    (hformat : (Formatter.format run command text).run.run tree = (.error fault, tree')) :
    (recipe.write engine run path).run.run tree = (.error (.formatter fault), tree') := by
  have hfinish : (recipe.pipeline.finish run text).run.run tree = (.error fault, tree') := by
    rw [Pipeline.finish, hfinishers, List.foldlM_cons, FlowDecl.Outcome.run_bind, Finisher.apply,
      hformat]
  have hrender : (recipe.render engine run).run.run tree = (.error (.formatter fault), tree') := by
    rw [Module.render_of_draft_ok run hdraft, run_adapt, hfinish]
    rfl
  rw [Module.Recipe.write, FlowDecl.Outcome.run_bind, hrender]

/-! ## Runs -/

/-- The run comes to a formatter, and what it gives to it is the text. -/
inductive HandsOver (around : Surroundings) (tree : Tree) (arguments : List String) :
    Command → String → Prop where
  | intro {rest : List String} {r : GenerateRequest} {schema : Schema} {pipeline : Pipeline}
      {command : Command} {finishers : List Finisher} {text : String}
      (hcommand : readProgram arguments = .ok ("generate" :: rest))
      (hrequest : Generate.readRequest around tree rest = .ok r)
      (hsource : (given r.schema).isSome ≠ (given r.url).isSome)
      (hschema : sourceOf around tree r = .ok schema) (hpipeline : pipelineOf r = .ok pipeline)
      (hfinishers : pipeline.finishers = .formatter command :: finishers)
      (htext : (r.recipe schema pipeline).draft around.engine tree = .ok text) :
      HandsOver around tree arguments command text

section HandsOver

variable {around : Surroundings} {tree : Tree} {arguments : List String} {command : Command}
  {text : String} (h : HandsOver around tree arguments command text) {fault : Formatter.Fault}
  (hfault : ((Formatter.format around.runner command text).run.run tree).1 = .error fault)

include h hfault

/-- A run that comes to a fault of the formatter ends there. -/
theorem exists_comesTo_of_handsOver :
    ∃ tree', (runProgram around arguments).ComesTo around tree
      (.error (moduleStop (.formatter fault)), tree') := by
  rcases hformat : (Formatter.format around.runner command text).run.run tree with ⟨result, tree'⟩
  rw [hformat] at hfault
  obtain rfl : result = .error fault := hfault
  refine ⟨tree', ?_⟩
  cases h with
  | @intro rest r schema pipeline _ _ _ hcommand hrequest hsource hschema hpipeline hfinishers
      htext =>
      have hne : arguments ≠ [] := by
        rintro rfl
        cases hcommand
      have hprogram : runProgram around arguments = Generate.run around rest := by
        rw [runProgram, List.isEmpty_eq_false_iff.mpr hne, hcommand]
        rfl
      have hending : generateEnding around tree rest =
          (.error (moduleStop (.formatter fault)), tree') := by
        rw [generateEnding, hrequest, Ending.after_ok, if_neg hsource, endingOf, hschema,
          Ending.after_ok, hpipeline, Ending.after_ok]
        simp only [writeEnding, write_of_format_error hfinishers htext hformat]
      rw [hprogram, ← hending]
      exact comesTo_generate rest

theorem exists_isOf_of_handsOver (hprinted : ¬(run around tree arguments).FailedToPrint) :
    ∃ tree', (run around tree arguments).IsOf (.error (moduleStop (.formatter fault)), tree') := by
  obtain ⟨tree', hcomes⟩ := exists_comesTo_of_handsOver h hfault
  exact ⟨tree', (outcome_of_comesTo hcomes).resolve_right fun hcut => hprinted hcut.failed⟩

theorem not_failedToPrint_of_handsOver (htexts : around.TakesTexts) :
    ¬(run around tree arguments).FailedToPrint := by
  obtain ⟨tree', hcomes⟩ := exists_comesTo_of_handsOver h hfault
  have hcrash : (run around tree arguments).crash = (moduleStop (.formatter fault)).crash? :=
    (isOf_of_comesTo htexts hcomes).crash
  rintro ⟨mishap, hmishap⟩
  rw [hcrash, moduleStop] at hmishap
  split at hmishap <;> cases hmishap

theorem isUsageError_of_handsOver (hprinted : ¬(run around tree arguments).FailedToPrint)
    (hreported : fault.isReported = true) :
    (run around tree arguments).IsUsageError fault.message := by
  obtain ⟨tree', hof⟩ := exists_isOf_of_handsOver h hfault hprinted
  rw [moduleStop, Module.Fault.isReported, if_pos hreported] at hof
  exact isUsageError_of_isOf hof

theorem crash_of_handsOver (hprinted : ¬(run around tree arguments).FailedToPrint)
    (hunreported : ¬fault.isReported = true) :
    (run around tree arguments).crash = some (.module (.formatter fault)) := by
  obtain ⟨tree', hof⟩ := exists_isOf_of_handsOver h hfault hprinted
  rw [moduleStop, Module.Fault.isReported, if_neg hunreported] at hof
  exact crash_of_isOf hof

theorem isUsageError_iff_of_handsOver (hprinted : ¬(run around tree arguments).FailedToPrint) :
    (run around tree arguments).IsUsageError fault.message ↔ fault.isReported = true := by
  constructor
  · intro husage
    by_contra hunreported
    have hcrash := crash_of_handsOver h hfault hprinted hunreported
    rw [husage.2.1] at hcrash
    cases hcrash
  · intro hreported
    exact isUsageError_of_handsOver h hfault hprinted hreported

theorem crash_iff_of_handsOver (hprinted : ¬(run around tree arguments).FailedToPrint) :
    (run around tree arguments).crash = some (.module (.formatter fault)) ↔
      fault.isReported = false := by
  rw [← Bool.not_eq_true]
  constructor
  · intro hcrash hreported
    have husage := isUsageError_of_handsOver h hfault hprinted hreported
    rw [husage.2.1] at hcrash
    cases hcrash
  · intro hunreported
    exact crash_of_handsOver h hfault hprinted hunreported

end HandsOver

/-- A formatter gives the text that it wrote if it could be tried, ended well and wrote nothing that
is no text, and only then.  A fault is reported, and ends the run for wrong usage, if the command
could be tried and wrote nothing that is no text.  Any other fault ends the run in a crash.  A run
in which a text cannot be printed does not come so far. -/
theorem formatter_isReported_iff (run : Runner) (command : Command) (text : String) (tree : Tree) :
    (∀ formatted, ((Formatter.format run command text).run.run tree).1 = .ok formatted ↔
        command.CanBeTried ∧ (outcomeOf run command text tree).Gives formatted) ∧
      ∀ fault, ((Formatter.format run command text).run.run tree).1 = .error fault →
        (fault.isReported = true ↔
            command.CanBeTried ∧ ¬(outcomeOf run command text tree).IsGarbled) ∧
          (fault.isReported = true →
            ∃ rest, fault.message = "Formatter " ++ command.program ++ rest) ∧
          ∀ around arguments, around.runner = run →
            HandsOver around tree arguments command text →
              ¬(CommandLine.run around tree arguments).FailedToPrint →
              ((CommandLine.run around tree arguments).IsUsageError fault.message ↔
                  fault.isReported = true) ∧
                ((CommandLine.run around tree arguments).crash =
                  some (.module (.formatter fault)) ↔ fault.isReported = false) := by
  refine ⟨fun formatted => Formatter.format_eq_ok_iff, ?_⟩
  intro fault hfault
  refine ⟨Formatter.isReported_iff_of_format hfault, Formatter.exists_message_of_format hfault, ?_⟩
  rintro around arguments rfl h hprinted
  exact ⟨isUsageError_iff_of_handsOver h hfault hprinted, crash_iff_of_handsOver h hfault hprinted⟩

/-! ## A formatter that cuts a character -/

/-- The endpoint of the document, with formatters that write the first octet of a character. -/
def cuttingEndpoint : Surroundings :=
  { typelessEndpoint with runner := fun _ _ => pure (.ended 0 [0xc3] []) }

theorem takesTexts_cuttingEndpoint : cuttingEndpoint.TakesTexts :=
  fun _ _ => rfl

def cuttingArguments : List String :=
  ["--url", "http://localhost", "--formatter", "head -c 1"]

def cuttingGiven : Given OptionKey where
  options := [(.url, "http://localhost"), (.formatter, "head -c 1")]

def cuttingRequest : GenerateRequest where
  url := some "http://localhost"
  output := Generate.standardOutput
  options := {}
  formatter := some "head -c 1"
  endpoint := {}

def cuttingCommand : Command where
  program := "head"
  arguments := ["-c", "1"]

theorem readRequest_cuttingArguments :
    Generate.readRequest cuttingEndpoint emptyTree cuttingArguments = .ok cuttingRequest := by
  have hread : Arguments.read generateForms true cuttingArguments = .ok cuttingGiven := rfl
  have hmade : requestOf cuttingEndpoint cuttingGiven =
      .ok { cuttingRequest with options := { ignored := splitNames [] } } := rfl
  have hnames : splitNames [] = [] := by decide +kernel
  have hok : (Generate.readRequest cuttingEndpoint emptyTree cuttingArguments).isOk = true := by
    decide +kernel
  rw [hnames] at hmade
  cases hrequest : Generate.readRequest cuttingEndpoint emptyTree cuttingArguments with
  | error stop =>
      rw [hrequest] at hok
      cases hok
  | ok r =>
      rw [readRequest_generate] at hrequest
      obtain ⟨g, hg, hrest⟩ := FlowDecl.Outcome.bind_eq_ok_iff.mp hrequest
      obtain ⟨g', hcheck, hr⟩ := FlowDecl.Outcome.bind_eq_ok_iff.mp hrest
      cases FlowDecl.Outcome.mapError_eq_ok_iff.mp hg
      rw [eq_of_checkGiven hcheck] at hr
      exact hr.symm.trans hmade

/-- The run comes to the formatter. -/
theorem exists_handsOver_cuttingArguments :
    ∃ text, HandsOver cuttingEndpoint emptyTree ("generate" :: cuttingArguments) cuttingCommand
      text := by
  obtain ⟨credentials, hcredentials, hsend⟩ : ∃ credentials,
      Endpoint.Credentials.ofTexts cuttingRequest.endpoint.token cuttingRequest.endpoint.headers =
        .ok credentials ∧
          (clientOf "http://localhost" credentials cuttingRequest.endpoint).canSend = true :=
    ⟨_, rfl, rfl⟩
  have hdocument : documentOf cuttingEndpoint .generate "http://localhost"
      cuttingRequest.endpoint = .ok typelessDocument :=
    documentOf_eq_ok_iff.mpr ⟨credentials, hcredentials, fetch_typelessEndpoint _ hsend⟩
  have hread : schemaOf typelessDocument = .ok {} := rfl
  have hurl : given cuttingRequest.url = some "http://localhost" := by decide
  have hschema : sourceOf cuttingEndpoint emptyTree cuttingRequest = .ok {} := by
    rw [sourceOf, hurl]
    simp only [hdocument]
    exact hread
  have hpipeline : pipelineOf cuttingRequest =
      .ok { finishers := [.formatter cuttingCommand] } := rfl
  obtain ⟨texts, htexts⟩ : ∃ texts, Flow.declarationTexts {} {} = .ok texts := ⟨_, rfl⟩
  have htemplate : Module.templateOctets? emptyTree cuttingRequest.templates
      Module.templateName = none := rfl
  have hdraft : (cuttingRequest.recipe {} { finishers := [.formatter cuttingCommand] }).draft
      Template.standardEngine emptyTree =
        Module.headedText "GQL" <$> (Flow.declarationTexts {} {}).mapError .flow :=
    Module.draft_eq Template.fillsPlaces_standardEngine rfl htemplate
  rw [htexts] at hdraft
  exact ⟨_, .intro rfl readRequest_cuttingArguments (by decide) hschema hpipeline rfl hdraft⟩

theorem isGarbled_cuttingCommand (text : String) :
    (outcomeOf cuttingEndpoint.runner cuttingCommand text emptyTree).IsGarbled := by
  have hencoded : ¬Load.IsEncoded [0xc3] := by
    rw [← Load.escapes_decodeFrom_iff]
    exact ⟨_, rfl⟩
  exact ⟨0, [0xc3], [], rfl, fun h => hencoded h.1⟩

theorem exists_fault_cuttingCommand (text : String) :
    ∃ fault, ((Formatter.format cuttingEndpoint.runner cuttingCommand text).run.run emptyTree).1 =
      .error fault := by
  have htried : cuttingCommand.CanBeTried := by
    rw [← not_not (a := cuttingCommand.CanBeTried), ← Formatter.any_hasNull_iff]
    decide
  obtain ⟨refusal, hrefusal⟩ : ∃ refusal,
      Formatter.readWritten [0xc3] = .error (.notUtf8 refusal) := ⟨_, rfl⟩
  have houtcome : outcomeOf cuttingEndpoint.runner cuttingCommand text emptyTree =
      .ended 0 [0xc3] [] := rfl
  refine ⟨.notUtf8 refusal, ?_⟩
  rw [Formatter.run_format_of_canBeTried _ _ _ _ htried, houtcome, Formatter.readOutcome, hrefusal]
  rfl

/-- The cut character ends the run in a crash. -/
theorem crash_cuttingArguments :
    ∃ text fault,
      HandsOver cuttingEndpoint emptyTree ("generate" :: cuttingArguments) cuttingCommand text ∧
        ((Formatter.format cuttingEndpoint.runner cuttingCommand text).run.run emptyTree).1 =
          .error fault ∧
        (CommandLine.run cuttingEndpoint emptyTree ("generate" :: cuttingArguments)).crash =
          some (.module (.formatter fault)) := by
  obtain ⟨text, hgiven⟩ := exists_handsOver_cuttingArguments
  obtain ⟨fault, hfault⟩ := exists_fault_cuttingCommand text
  obtain ⟨hreported, -, hends⟩ :=
    (formatter_isReported_iff cuttingEndpoint.runner cuttingCommand text emptyTree).2 fault hfault
  have hunreported : fault.isReported = false := by
    rw [← Bool.not_eq_true, hreported]
    exact fun h => h.2 (isGarbled_cuttingCommand text)
  have hprinted := not_failedToPrint_of_handsOver hgiven hfault takesTexts_cuttingEndpoint
  exact ⟨text, fault, hgiven, hfault, (hends _ _ rfl hgiven hprinted).2.mpr hunreported⟩

/-- A formatter can fail with a fault that is not reported, and the run with it in a crash. -/
theorem exists_unreported_formatter :
    (¬∀ (run : Runner) (command : Command) (text : String) (tree : Tree),
      (∃ formatted, ((Formatter.format run command text).run.run tree).1 = .ok formatted) ∨
        ∃ fault, ((Formatter.format run command text).run.run tree).1 = .error fault ∧
          fault.isReported = true) ∧
      ¬∀ (around : Surroundings) (tree : Tree) (arguments : List String) (command : Command)
        (text : String), around.TakesTexts → HandsOver around tree arguments command text →
          (CommandLine.run around tree arguments).crash = none := by
  obtain ⟨text, hgiven⟩ := exists_handsOver_cuttingArguments
  obtain ⟨fault, hfault⟩ := exists_fault_cuttingCommand text
  have hunreported : ¬fault.isReported = true := by
    rw [Formatter.isReported_iff_of_format hfault]
    exact fun h => h.2 (isGarbled_cuttingCommand text)
  constructor
  · intro h
    rcases h cuttingEndpoint.runner cuttingCommand text emptyTree with
      ⟨formatted, hformatted⟩ | ⟨fault', hfault', hreported⟩
    · cases hfault.symm.trans hformatted
    · cases hfault.symm.trans hfault'
      exact hunreported hreported
  · intro h
    have hprinted := not_failedToPrint_of_handsOver hgiven hfault takesTexts_cuttingEndpoint
    have hcrash := crash_of_handsOver hgiven hfault hprinted hunreported
    rw [h _ _ _ _ _ takesTexts_cuttingEndpoint hgiven] at hcrash
    cases hcrash

end CommandLine
end FlowDecl
