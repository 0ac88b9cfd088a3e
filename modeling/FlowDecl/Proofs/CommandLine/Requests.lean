import FlowDecl.CommandLine.Run
import FlowDecl.Proofs.CommandLine.ReadArguments

/-!
# Requests for a schema

A command that generates declarations reads a schema from a file or from an endpoint, and its
arguments tell from which.  Two commands that differ in nothing else make the same request but for
the source: a file that is there passes every check that an endpoint passes.
-/

namespace FlowDecl
namespace CommandLine

/-! ## Reading the arguments -/

theorem runProgram_generate (around : Surroundings) (arguments : List String) :
    runProgram around ("generate" :: arguments) = Generate.run around arguments :=
  rfl

theorem runProgram_introspect (around : Surroundings) (arguments : List String) :
    runProgram around ("introspect" :: arguments) = Introspect.run around arguments :=
  rfl

/-- What a command makes of arguments that were read. -/
def checkGiven (page : Page) (forms : List (OptionForm OptionKey)) (allowed : Nat)
    (check : Given OptionKey → OptionKey → Except Stop Unit) (g : Given OptionKey) :
    Except Stop (Given OptionKey) :=
  if g.has .help then .error (.shown page.text)
  else do
    (g.checkOrder (.schema :: forms.map (·.key))).forM (check g)
    if (g.positional.drop allowed).isEmpty then return g
    else throw (.usage page (extraMessage (g.positional.drop allowed)))

theorem readCommand_eq (page : Page) (forms : List (OptionForm OptionKey)) (allowed : Nat)
    (check : Given OptionKey → OptionKey → Except Stop Unit) (arguments : List String) :
    readCommand page forms allowed check arguments =
      (Arguments.read forms true arguments).mapError (argumentStop page) >>=
        checkGiven page forms allowed check := by
  rw [readCommand]
  refine congrArg _ (funext fun g => ?_)
  rw [checkGiven]
  cases g.has .help <;> rfl

theorem eq_of_checkGiven {page : Page} {forms : List (OptionForm OptionKey)} {allowed : Nat}
    {check : Given OptionKey → OptionKey → Except Stop Unit} {g g' : Given OptionKey}
    (h : checkGiven page forms allowed check g = .ok g') : g' = g := by
  rw [checkGiven] at h
  split at h
  next => cases h
  next =>
    obtain ⟨_, -, hend⟩ := Outcome.bind_eq_ok_iff.mp h
    split at hend
    next =>
      cases hend
      rfl
    next => cases hend

theorem read_of_readCommand {page : Page} {forms : List (OptionForm OptionKey)} {allowed : Nat}
    {check : Given OptionKey → OptionKey → Except Stop Unit} {arguments : List String}
    {g : Given OptionKey} (h : readCommand page forms allowed check arguments = .ok g) :
    Arguments.read forms true arguments = .ok g := by
  rw [readCommand_eq] at h
  obtain ⟨g', hread, hcheck⟩ := Outcome.bind_eq_ok_iff.mp h
  rw [eq_of_checkGiven hcheck]
  exact Outcome.mapError_eq_ok_iff.mp hread

/-- The request for saving a document. -/
theorem readRequest_introspect {around : Surroundings} {tree : Files.Tree} {url path : String}
    {r : IntrospectRequest}
    (h : Introspect.readRequest around tree ["--url", url, "-o", path] = .ok r) :
    r.url = url ∧ r.output = path := by
  obtain ⟨g, hg, h⟩ := Outcome.bind_eq_ok_iff.mp h
  obtain ⟨u, hu, h⟩ := Outcome.bind_eq_ok_iff.mp h
  obtain ⟨o, ho, h⟩ := Outcome.bind_eq_ok_iff.mp h
  obtain ⟨e, he, h⟩ := Outcome.bind_eq_ok_iff.mp h
  have hread := read_of_readCommand hg
  cases hread
  cases hu
  cases ho
  cases h
  exact ⟨rfl, rfl⟩

/-- Arguments that are options of the command and do not tell where the schema comes from. -/
def OnlyOptions (arguments : List String) : Prop :=
  ∀ g, Arguments.read generateForms true arguments = .ok g →
    g.positional = [] ∧ .url ∉ g.options.map (·.1)

/-- A path that is read as a path. -/
def IsPositional (path : String) : Prop :=
  path.toList.head? ≠ some '-'

instance (path : String) : Decidable (IsPositional path) :=
  inferInstanceAs (Decidable (_ ≠ _))

theorem read_path {path : String} (h : IsPositional path) (arguments : List String) :
    Arguments.read generateForms true (path :: arguments) =
      Given.append { positional := [path] } <$> Arguments.read generateForms true arguments := by
  refine Arguments.read_cons_of_positional ?_ ?_ arguments
  · rintro rfl
    exact h rfl
  · intro rest
    rw [Arguments.takeOption?]
    split
    next heq => exact absurd (by rw [heq]; rfl) h
    next heq => exact absurd (by rw [heq]; rfl) h
    next => rfl

theorem read_url (url : String) (arguments : List String) :
    Arguments.read generateForms true ("--url" :: url :: arguments) =
      Given.append { options := [(.url, url)] } <$>
        Arguments.read generateForms true arguments :=
  Arguments.read_cons_of_option (by decide) (fun _ => rfl) arguments

/-- The request that reads a file instead of an endpoint. -/
def GenerateRequest.fromFile (r : GenerateRequest) (path : String) : GenerateRequest :=
  { r with schema := some path, url := none }

/-- The request that checked arguments make. -/
def requestOf (around : Surroundings) (g : Given OptionKey) : Except Stop GenerateRequest := do
  let endpoint ← readEndpoint .generate around g
  return {
    schema := g.positional.head?
    url := g.value? .url
    output := Generate.outputOf g
    options :=
      { ignored := splitNames (g.values .ignoredTypes)
        exported := g.has .exported
        suffix := (g.value? .suffix).getD ""
        moduleName := (g.value? .moduleName).getD "GQL" }
    excluded := g.value? .excluded
    banner := g.value? .banner
    formatter := g.value? .formatter
    templates := g.value? .templates
    endpoint
    verbose := g.has .verbose }

theorem readRequest_generate (around : Surroundings) (tree : Files.Tree)
    (arguments : List String) :
    Generate.readRequest around tree arguments =
      (Arguments.read generateForms true arguments).mapError (argumentStop .generate) >>=
        fun g => checkGiven .generate generateForms 1 (Generate.check tree) g >>=
          requestOf around := by
  rw [Generate.readRequest, readCommand_eq, bind_assoc]
  rfl

section Sources

variable {options : List (OptionKey × String)} {path url : String}

/-- What is given with a path to a file. -/
def withPath (options : List (OptionKey × String)) (path : String) : Given OptionKey where
  options := options
  positional := [path]

/-- What is given with an endpoint. -/
def withUrl (options : List (OptionKey × String)) (url : String) : Given OptionKey where
  options := (.url, url) :: options

theorem values_withUrl (path : String) {key : OptionKey} (h : key ≠ .url) :
    (withUrl options url).values key = (withPath options path).values key := by
  rw [Given.values, Given.values, withUrl, List.filter_cons_of_neg (by simpa using h.symm)]
  rfl

theorem has_withUrl (path : String) {key : OptionKey} (h : key ≠ .url) :
    (withUrl options url).has key = (withPath options path).has key := by
  rw [Given.has, Given.has, withUrl, List.any_cons, decide_eq_false h.symm, Bool.false_or]
  rfl

theorem value?_withUrl (path : String) {key : OptionKey} (h : key ≠ .url) :
    (withUrl options url).value? key = (withPath options path).value? key := by
  rw [Given.value?, Given.value?, values_withUrl path h]

theorem values_withPath_url (path : String) (h : .url ∉ options.map (·.1)) :
    (withPath options path).values .url = [] := by
  rw [Given.values, List.map_eq_nil_iff, List.filter_eq_nil_iff]
  intro o ho
  have hne : o.1 ≠ .url := by
    intro heq
    exact h (heq ▸ List.mem_map_of_mem ho)
  simp [hne]

theorem values_withUrl_url (h : .url ∉ options.map (·.1)) :
    (withUrl options url).values .url = [url] := by
  have hpath := values_withPath_url url h
  rw [Given.values, withPath] at hpath
  rw [Given.values, withUrl, List.filter_cons_of_pos (by simp), List.map_cons]
  exact congrArg _ hpath

/-- A file that is there passes every check that an endpoint passes. -/
theorem check_withUrl {tree : Files.Tree}
    (hfile : checkFile .generate tree true schemaHint path = .ok ()) (key : OptionKey) :
    Generate.check tree (withUrl options url) key =
      Generate.check tree (withPath options path) key := by
  cases key with
  | schema => exact hfile.symm
  | outputFile =>
      rw [Generate.check, Generate.check, Generate.outputOf, Generate.outputOf,
        value?_withUrl path (by decide)]
  | templates => rw [Generate.check, Generate.check, value?_withUrl path (by decide)]
  | timeout => rw [Generate.check, Generate.check, value?_withUrl path (by decide)]
  | _ => rfl

theorem checkGiven_withPath {tree : Files.Tree}
    (hfile : checkFile .generate tree true schemaHint path = .ok ()) (url : String) :
    checkGiven .generate generateForms 1 (Generate.check tree) (withPath options path) =
      (fun _ => withPath options path) <$>
        checkGiven .generate generateForms 1 (Generate.check tree) (withUrl options url) := by
  have hchecks : ∀ keys, ((withUrl options url).checkOrder keys).forM
      (Generate.check tree (withUrl options url)) =
        ((withPath options path).checkOrder keys).forM
          (Generate.check tree (withPath options path)) := by
    intro keys
    have hurl : Generate.check tree (withUrl options url) .url = .ok () := rfl
    calc ((withUrl options url).checkOrder keys).forM (Generate.check tree (withUrl options url))
      _ = ((withPath options path).checkOrder keys).forM
          (Generate.check tree (withUrl options url)) := forM_checkOrder_cons hurl url [] [path]
      _ = ((withPath options path).checkOrder keys).forM
          (Generate.check tree (withPath options path)) :=
        forM_congr fun key _ => check_withUrl hfile key
  rw [checkGiven, checkGiven, has_withUrl path (by decide), hchecks]
  split
  next => rfl
  next =>
    cases ((withPath options path).checkOrder (.schema :: generateForms.map (·.key))).forM
      (Generate.check tree (withPath options path)) with
    | error stop => rfl
    | ok _ => rfl

theorem readEndpoint_withUrl (around : Surroundings) (path : String) :
    readEndpoint .generate around (withUrl options url) =
      readEndpoint .generate around (withPath options path) := by
  rw [readEndpoint, readEndpoint, value?_withUrl path (by decide), value?_withUrl path (by decide),
    values_withUrl path (by decide)]

theorem requestOf_withPath (around : Surroundings) (h : .url ∉ options.map (·.1)) :
    requestOf around (withPath options path) =
      (fun r => r.fromFile path) <$> requestOf around (withUrl options url) := by
  rw [requestOf, requestOf, readEndpoint_withUrl around path]
  cases readEndpoint .generate around (withPath options path) with
  | error stop => rfl
  | ok endpoint =>
      have hurl : (withPath options path).value? .url = none := by
        rw [Given.value?, values_withPath_url path h]
        rfl
      simp only [bind, Except.bind, pure, Except.pure, Functor.map, Except.map,
        GenerateRequest.fromFile, Generate.outputOf, hurl]
      simp (disch := decide) only [value?_withUrl path, values_withUrl path, has_withUrl path]
      rfl

/-- The request of an endpoint names the endpoint and no file. -/
theorem requestOf_withUrl {around : Surroundings} {r : GenerateRequest}
    (h : .url ∉ options.map (·.1)) (hrequest : requestOf around (withUrl options url) = .ok r) :
    r.schema = none ∧ r.url = some url := by
  obtain ⟨endpoint, -, hend⟩ := Outcome.bind_eq_ok_iff.mp hrequest
  cases hend
  exact ⟨rfl, by rw [Given.value?, values_withUrl_url h]; rfl⟩

end Sources

/-- A path to a file makes the same request as an endpoint, but for where the schema is read. -/
theorem readRequest_path {around : Surroundings} {tree : Files.Tree} {path : String}
    {arguments : List String} (hpath : IsPositional path) (hoptions : OnlyOptions arguments)
    (hfile : checkFile .generate tree true schemaHint path = .ok ()) (url : String) :
    Generate.readRequest around tree (path :: arguments) =
      (fun r => r.fromFile path) <$>
        Generate.readRequest around tree ("--url" :: url :: arguments) := by
  rw [readRequest_generate, readRequest_generate, read_path hpath, read_url]
  cases hread : Arguments.read generateForms true arguments with
  | error fault => rfl
  | ok g =>
      obtain ⟨options, positional⟩ := g
      obtain ⟨hpositional, hurl⟩ := hoptions _ hread
      simp only at hpositional hurl
      subst hpositional
      change (checkGiven .generate generateForms 1 (Generate.check tree) (withPath options path) >>=
        requestOf around) = (fun r => r.fromFile path) <$>
          (checkGiven .generate generateForms 1 (Generate.check tree) (withUrl options url) >>=
            requestOf around)
      rw [checkGiven_withPath hfile url]
      cases hcheck : checkGiven .generate generateForms 1 (Generate.check tree)
          (withUrl options url) with
      | error stop => rfl
      | ok g =>
          rw [eq_of_checkGiven hcheck]
          exact requestOf_withPath around hurl

/-- A request of the endpoint names the endpoint and no file. -/
theorem sources_of_readRequest {around : Surroundings} {tree : Files.Tree} {url : String}
    {arguments : List String} {r : GenerateRequest} (hoptions : OnlyOptions arguments)
    (h : Generate.readRequest around tree ("--url" :: url :: arguments) = .ok r) :
    r.schema = none ∧ r.url = some url := by
  rw [readRequest_generate, read_url] at h
  obtain ⟨g, hg, h⟩ := Outcome.bind_eq_ok_iff.mp h
  obtain ⟨g', hcheck, hrequest⟩ := Outcome.bind_eq_ok_iff.mp h
  obtain ⟨⟨options, positional⟩, hread, rfl⟩ :=
    Outcome.map_eq_ok_iff.mp (Outcome.mapError_eq_ok_iff.mp hg)
  obtain ⟨hpositional, hurl⟩ := hoptions _ hread
  simp only at hpositional hurl
  subst hpositional
  rw [eq_of_checkGiven hcheck] at hrequest
  exact requestOf_withUrl hurl hrequest

theorem checkFile_of_stat {page : Page} {tree : Files.Tree} {path hint : String}
    {octets : List UInt8} (h : tree.stat path = .ok (.file octets)) :
    checkFile page tree true hint path = .ok () := by
  rw [checkFile, lookAt, h]
  rfl

end CommandLine
end FlowDecl
