import FlowDecl.CommandLine.Run
import FlowDecl.Proofs.CommandLine.Sessions
import FlowDecl.Proofs.Endpoint.FetchFaults

/-!
# Endings of the commands

What a command comes to is told without what it prints: the schema, the document and the steps of a
request are results of their own, and the ending of the command is put together from them.  A
command that generates declarations does the same with a schema from a file and with one from an
endpoint.
-/

namespace FlowDecl

open Json (Value)

namespace CommandLine

open Files (Tree)

variable {around : Surroundings} {tree : Tree}

/-! ## Asking an endpoint -/

/-- The client of a request with some credentials. -/
def clientOf (url : String) (credentials : Endpoint.Credentials) (r : EndpointRequest) :
    Endpoint.Client where
  url
  credentials
  timeout := r.timeout

/-- The credentials of a request, or the stop for headers that cannot be read. -/
def credentialsOf (page : Page) (r : EndpointRequest) : Except Stop Endpoint.Credentials :=
  (Endpoint.Credentials.ofTexts r.token r.headers).mapError fun fault =>
    .usage page (invalidValue "--http-header" fault.message)

/-- The stop for an endpoint without a document. -/
def fetchStop (page : Page) (url : String) (fault : Endpoint.Fault) : Stop :=
  if fault.isReported then .usage page ("Cannot introspect " ++ url ++ ": " ++ fault.message)
  else .crash (.fetch fault)

/-- The document that an endpoint gives to a request. -/
def documentOf (around : Surroundings) (page : Page) (url : String) (r : EndpointRequest) :
    Except Stop Value := do
  let credentials ← credentialsOf page r
  let client := clientOf url credentials r
  (client.fetch around.decoder (around.endpoint client)).mapError (fetchStop page url)

theorem documentOf_eq_ok_iff {page : Page} {url : String} {r : EndpointRequest}
    {document : Value} :
    documentOf around page url r = .ok document ↔
      ∃ credentials, Endpoint.Credentials.ofTexts r.token r.headers = .ok credentials ∧
        (clientOf url credentials r).fetch around.decoder
          (around.endpoint (clientOf url credentials r)) = .ok document := by
  rw [documentOf, Outcome.bind_eq_ok_iff]
  simp only [credentialsOf, Outcome.mapError_eq_ok_iff]

theorem comesTo_readCredentials (page : Page) (r : EndpointRequest) :
    (readCredentials page r).ComesTo around tree (credentialsOf page r, tree) := by
  rw [readCredentials, credentialsOf]
  cases Endpoint.Credentials.ofTexts r.token r.headers with
  | ok credentials => exact .pure credentials
  | error fault => exact .throw _

theorem comesTo_fetchDocument (page : Page) (client : Endpoint.Client) :
    (fetchDocument around page client.url client.credentials client.timeout).ComesTo around tree
      ((client.fetch around.decoder (around.endpoint client)).mapError (fetchStop page client.url),
        tree) := by
  rintro s rfl
  rw [Action.effect, Endpoint.run_fetchDocument]
  refine .inl (congrArg (·, s.tree) ?_)
  cases client.fetch around.decoder (around.endpoint client) with
  | ok document => rfl
  | error fault =>
      simp only [Except.mapError, fetchStop]
      cases fault.isReported <;> rfl

theorem comesTo_documentOf (around : Surroundings) (tree : Tree) (page : Page) (url : String)
    (r : EndpointRequest) :
    (readCredentials page r >>= fun credentials =>
      fetchDocument around page url credentials r.timeout).ComesTo around tree
        (documentOf around page url r, tree) :=
  .bind (comesTo_readCredentials page r) fun credentials =>
    comesTo_fetchDocument page (clientOf url credentials r)

/-! ## The schema of a request -/

/-- The schema of a document, or the stop that tells why it has none. -/
def schemaOf (document : Value) : Except Stop Schema :=
  (Document.read document).mapError fun fault => .usage .generate fault.message

/-- The stop for a file without a schema. -/
def loadStop (fault : Load.Fault) : Stop :=
  if fault.isReported then .usage .generate fault.message else .crash (.load fault)

/-- The schema that a request names. -/
def sourceOf (around : Surroundings) (tree : Tree) (r : GenerateRequest) : Except Stop Schema :=
  match given r.url with
  | some url => documentOf around .generate url r.endpoint >>= schemaOf
  | none => (Load.schemaAt around.toolkit tree r.schema).mapError loadStop

theorem comesTo_fetchSchema (r : GenerateRequest) (url : String) :
    (Generate.fetchSchema around r url).ComesTo around tree
      (documentOf around .generate url r.endpoint >>= schemaOf, tree) := by
  rw [Generate.fetchSchema]
  refine .bind_ok (.echo _) ?_
  rw [← bind_assoc]
  refine .bind (comesTo_documentOf around tree .generate url r.endpoint) fun document => ?_
  rw [schemaOf]
  cases Document.read document with
  | ok schema => exact .pure schema
  | error fault => exact .throw _

theorem comesTo_loadSchema (r : GenerateRequest) :
    (Generate.loadSchema around r).ComesTo around tree
      ((Load.schemaAt around.toolkit tree r.schema).mapError loadStop, tree) := by
  rw [Generate.loadSchema]
  refine .bind_ok (.echo _) (.get_bind fun s htree => ?_)
  rw [htree]
  cases Load.schemaAt around.toolkit tree r.schema with
  | ok schema => exact .pure schema
  | error fault =>
      simp only [Except.mapError, loadStop]
      cases fault.isReported <;> exact .throw _

/-! ## The steps around generation -/

/-- The command of a formatter text, or the stop for one that cannot be read. -/
def formatterOf (text : String) : Except Stop Formatter.Command := do
  let words ← (splitCommand text).mapError fun fault =>
    .usage .generate (invalidValue "--formatter" fault.message)
  (Formatter.Command.ofWords words).mapError fun fault => .usage .generate fault.message

/-- The steps that a request names. -/
def pipelineOf (r : GenerateRequest) : Except Stop Pipeline := do
  let filters := (given r.excluded).toList.map fun start => { notBeginning := some start }
  let formatters ← r.formatter.toList.mapM formatterOf
  let banners := (given r.banner).toList
  return { filters, finishers := formatters.map .formatter ++ banners.map .banner }

theorem comesTo_readFormatter (text : String) :
    (Generate.readFormatter text).ComesTo around tree (formatterOf text, tree) := by
  refine .bind ?_ fun words => ?_
  · cases splitCommand text with
    | ok words => exact .pure words
    | error fault => exact .throw _
  · cases Formatter.Command.ofWords words with
    | ok command => exact .pure command
    | error fault => exact .throw _

theorem comesTo_readPipeline (around : Surroundings) (tree : Tree) (r : GenerateRequest) :
    (Generate.readPipeline r).ComesTo around tree (pipelineOf r, tree) :=
  .bind (.mapM comesTo_readFormatter _) fun _ => .pure _

/-! ## Generating -/

def GenerateRequest.recipe (r : GenerateRequest) (schema : Schema) (pipeline : Pipeline) :
    Module.Recipe where
  schema
  options := r.options
  templates := r.templates
  pipeline

def moduleStop (fault : Module.Fault) : Stop :=
  if fault.isReported then .usage .generate fault.message else .crash (.module fault)

/-- What comes of writing the module of a recipe. -/
def writeEnding (around : Surroundings) (recipe : Module.Recipe) (path : String) (tree : Tree) :
    Ending Unit :=
  match (recipe.write around.engine around.runner path).run.run tree with
  | (.ok _, tree') => (.ok (), tree')
  | (.error fault, tree') => (.error (moduleStop fault), tree')

theorem comesTo_writeModule (around : Surroundings) (tree : Tree) (recipe : Module.Recipe)
    (path : String) :
    (Generate.writeModule around recipe path).ComesTo around tree
      (((recipe.write around.engine around.runner path).run.run tree).1.mapError moduleStop,
        ((recipe.write around.engine around.runner path).run.run tree).2) := by
  rintro s rfl
  refine .inl ?_
  have hrun : (recipe.write around.engine around.runner path).run s.tree =
      (recipe.write around.engine around.runner path).run.run s.tree := rfl
  rw [Generate.writeModule, effect_bind]
  change Action.effect _ s = _
  rw [hrun]
  rcases (recipe.write around.engine around.runner path).run.run s.tree with ⟨result, tree⟩
  cases result with
  | ok text => rfl
  | error fault =>
      simp only [Except.mapError, moduleStop]
      cases fault.isReported <;> rfl

/-- What is told before the schema is read. -/
def announce (around : Surroundings) (r : GenerateRequest) (path : String) : Action Unit := do
  if r.verbose then
    echo around ("Schema: " ++ (given r.schema <|> given r.url).getD "")
    echo around ("Output: " ++ path)
    if !r.options.ignored.isEmpty then
      echo around ("Ignored types: " ++ ", ".intercalate r.options.ignored)

theorem comesTo_announce (r : GenerateRequest) (path : String) :
    (announce around r path).ComesTo around tree (.ok (), tree) := by
  rw [announce]
  cases r.verbose with
  | false => exact .pure ()
  | true =>
      refine .bind_ok (.echo _) (.bind_ok (.echo _) ?_)
      cases r.options.ignored.isEmpty with
      | false => exact .echo _
      | true => exact .pure ()

def tellSchema (around : Surroundings) (r : GenerateRequest) (schema : Schema) : Action Unit :=
  if r.verbose then (Generate.schemaLines schema).forM (echo around) else pure ()

theorem comesTo_tellSchema (r : GenerateRequest) (schema : Schema) :
    (tellSchema around r schema).ComesTo around tree (.ok (), tree) := by
  rw [tellSchema]
  cases r.verbose with
  | false => exact .pure ()
  | true => exact .forM_echo _

/-- What is told after a module was written. -/
def tellDone (around : Surroundings) (r : GenerateRequest) (path text : String) : Action Unit := do
  if r.verbose then echo around s!"  Lines: {Text.countLines text}"
  echo around ("Done! Generated declarations in " ++ path)

theorem comesTo_tellDone (r : GenerateRequest) (path text : String) :
    (tellDone around r path text).ComesTo around tree (.ok (), tree) := by
  rw [tellDone]
  cases r.verbose with
  | false => exact .echo _
  | true => exact .bind_ok (.echo _) (.echo _)

def readSchema (around : Surroundings) (r : GenerateRequest) : Action Schema :=
  match given r.url with
  | some url => Generate.fetchSchema around r url
  | none => Generate.loadSchema around r

theorem comesTo_readSchema (around : Surroundings) (tree : Tree) (r : GenerateRequest) :
    (readSchema around r).ComesTo around tree (sourceOf around tree r, tree) := by
  rw [readSchema, sourceOf]
  cases given r.url with
  | some url => exact comesTo_fetchSchema r url
  | none => exact comesTo_loadSchema r

/-- A request for one source is carried out in parts. -/
theorem perform_eq {r : GenerateRequest} (h : (given r.schema).isSome ≠ (given r.url).isSome) :
    Generate.perform around r =
      (do
        let path := (← get).tree.absolute r.output
        announce around r path
        let schema ← readSchema around r
        tellSchema around r schema
        let pipeline ← Generate.readPipeline r
        echo around "Generating declarations..."
        let text ← Generate.writeModule around (r.recipe schema pipeline) path
        tellDone around r path text) := by
  rw [Generate.perform]
  simp only [if_neg h]
  refine congrArg _ (funext fun s => ?_)
  cases hurl : given r.url <;> cases hverbose : r.verbose <;>
    cases hignored : r.options.ignored.isEmpty <;>
      simp [announce, readSchema, tellSchema, tellDone, GenerateRequest.recipe, hurl, hverbose,
        hignored]

/-- What a request for one source comes to: everything is read, and then the module is written. -/
def endingOf (around : Surroundings) (tree : Tree) (r : GenerateRequest) : Ending Unit :=
  Ending.after (sourceOf around tree r) tree fun schema =>
    Ending.after (pipelineOf r) tree fun pipeline =>
      writeEnding around (r.recipe schema pipeline) (tree.absolute r.output) tree

theorem comesTo_writeModule_bind (r : GenerateRequest) (recipe : Module.Recipe) (path : String) :
    (Generate.writeModule around recipe path >>= tellDone around r path).ComesTo around tree
      (writeEnding around recipe path tree) := by
  have hwrite := comesTo_writeModule around tree recipe path
  rw [writeEnding]
  generalize (recipe.write around.engine around.runner path).run.run tree = written at hwrite ⊢
  obtain ⟨result, tree'⟩ := written
  cases result with
  | ok text => exact .bind_told hwrite (comesTo_tellDone r path text)
  | error fault => exact .bind_error hwrite

theorem comesTo_perform {r : GenerateRequest}
    (h : (given r.schema).isSome ≠ (given r.url).isSome) :
    (Generate.perform around r).ComesTo around tree (endingOf around tree r) := by
  rw [perform_eq h, endingOf]
  refine .get_bind fun s htree => ?_
  rw [htree]
  refine .bind_ok (comesTo_announce r _) ?_
  refine .bind_after (comesTo_readSchema around tree r) fun schema => ?_
  refine .bind_ok (comesTo_tellSchema r schema) ?_
  refine .bind_after (comesTo_readPipeline around tree r) fun pipeline => ?_
  exact .bind_ok (.echo _) (comesTo_writeModule_bind r _ _)

theorem given_of_ne {text : String} (h : text ≠ "") : given (some text) = some text := by
  simp [given, Option.filter, h]

/-- What the arguments of the command come to. -/
def generateEnding (around : Surroundings) (tree : Tree) (arguments : List String) : Ending Unit :=
  Ending.after (Generate.readRequest around tree arguments) tree fun r =>
    if (given r.schema).isSome = (given r.url).isSome then
      (.error (.usage .generate "Provide exactly one of SCHEMA or --url."), tree)
    else endingOf around tree r

theorem comesTo_generate (arguments : List String) :
    (Generate.run around arguments).ComesTo around tree (generateEnding around tree arguments) := by
  refine .get_bind fun s htree => ?_
  rw [htree, generateEnding]
  cases Generate.readRequest around tree arguments with
  | error stop => exact .throw stop
  | ok r =>
      change (Generate.perform around r).ComesTo around tree (if _ then _ else _)
      by_cases hsource : (given r.schema).isSome = (given r.url).isSome
      · rw [if_pos hsource, Generate.perform]
        simp only [if_pos hsource]
        exact .throw _
      · rw [if_neg hsource]
        exact comesTo_perform hsource

/-! ## Saving a document -/

/-- What comes of saving the document of a request. -/
def saveEnding (tree : Tree) (path : String) (document : Value) : Ending Unit :=
  match (Introspect.save path document).run.run tree with
  | (.ok _, tree') => (.ok (), tree')
  | (.error fault, tree') => (.error (.crash (.file fault)), tree')

/-- What the arguments of the command come to. -/
def introspectEnding (around : Surroundings) (tree : Tree) (arguments : List String) :
    Ending Unit :=
  Ending.after (Introspect.readRequest around tree arguments) tree fun r =>
    Ending.after (documentOf around .introspect r.url r.endpoint) tree fun document =>
      saveEnding tree r.output document

theorem comesTo_save (around : Surroundings) (tree : Tree) (path : String) (document : Value) :
    (Introspect.doFiles (Introspect.save path document)).ComesTo around tree
      (saveEnding tree path document) := by
  rintro s rfl
  refine .inl ?_
  rw [Introspect.doFiles, effect_bind, saveEnding]
  change Action.effect _ s = _
  rcases (Introspect.save path document).run.run s.tree with ⟨result, tree⟩
  cases result <;> rfl

/-- What is told after a document was saved. -/
def tellSaved (around : Surroundings) (r : IntrospectRequest) : Action Unit := do
  echo around ("Wrote introspection result to " ++ (← get).tree.absolute r.output)

theorem comesTo_save_bind (r : IntrospectRequest) (document : Value) :
    (Introspect.doFiles (Introspect.save r.output document) >>=
      fun _ => tellSaved around r).ComesTo around tree (saveEnding tree r.output document) := by
  have hsave := comesTo_save around tree r.output document
  generalize saveEnding tree r.output document = ending at hsave ⊢
  obtain ⟨result, tree'⟩ := ending
  cases result with
  | ok _ => exact .bind_told hsave (.get_bind fun _ _ => .echo _)
  | error stop => exact .bind_error hsave

theorem comesTo_introspect (arguments : List String) :
    (Introspect.run around arguments).ComesTo around tree
      (introspectEnding around tree arguments) := by
  refine .get_bind fun s htree => ?_
  rw [htree, introspectEnding]
  cases Introspect.readRequest around tree arguments with
  | error stop => exact .throw stop
  | ok r =>
      have hparts : Introspect.perform around r =
          (readCredentials .introspect r.endpoint >>= fun credentials =>
            fetchDocument around .introspect r.url credentials r.endpoint.timeout) >>=
              fun document => Introspect.doFiles (Introspect.save r.output document) >>=
                fun _ => tellSaved around r := by
        rw [bind_assoc]
        rfl
      change (Introspect.perform around r).ComesTo around tree (Ending.after _ tree _)
      rw [hparts]
      exact .bind_after (comesTo_documentOf around tree .introspect r.url r.endpoint)
        fun document => comesTo_save_bind r document

end CommandLine
end FlowDecl
