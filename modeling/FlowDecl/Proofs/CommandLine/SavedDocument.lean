import FlowDecl.Endpoint.Standard
import FlowDecl.Module.Template
import FlowDecl.Proofs.CommandLine.Generating
import FlowDecl.Proofs.CommandLine.Requests
import FlowDecl.Proofs.Files.Writing
import FlowDecl.Proofs.Json.PlainText
import FlowDecl.Proofs.Text.Encoding
import FlowDecl.Sdl.Introspection

/-!
# Saved documents

Saving the document of an endpoint and generating from the file has the same effect as generating
from the endpoint, on the files that saving leaves: the session ends in the same way and leaves the
same files.  The document must have no floating-point numbers, and the path it is saved under must
lead to the file that is written.

The last condition is no matter of course.  A document is saved at the place that a path names by
its text alone, and a path that goes up from a directory that is not there leads nowhere.
-/

namespace FlowDecl

open Json (Value)

namespace CommandLine

/-! ## The file of a document -/

theorem toList_documentText (document : Value) :
    (Introspect.documentText document).toList = Value.write .indented 0 document ++ ['\n'] := by
  rw [Introspect.documentText, Value.indented, String.toList_append, String.toList_ofList]
  rfl

/-- The characters of the file are those of the document's text. -/
theorem decodeFrom_documentText {document : Value} (h : document.IsFloatless) :
    ∃ cs, Text.Utf8.decodeFrom 0 [] (Text.Utf8.encode (Introspect.documentText document)) = .ok cs ∧
      Text.unifyNewlines cs = Value.write .indented 0 document ++ ['\n'] := by
  have hplain : ∀ c ∈ (Introspect.documentText document).toList, Text.IsPlain c := by
    rw [toList_documentText]
    intro c hc
    rcases List.mem_append.mp hc with hc | hc
    · exact Value.writesPlain_of_isFloatless h 0 c hc
    · rw [List.mem_singleton.mp hc]
      decide
  refine ⟨(Introspect.documentText document).toList, ?_, ?_⟩
  · rw [Text.Utf8.encode, Text.Utf8.decodeFrom_flatMap_encodeChar]
    rfl
  · rw [Text.unifyNewlines_plain hplain, toList_documentText]

/-- A path with the ending of a document can lead to a file. -/
theorem wantsDirectory_of_hasEnding {path : String}
    (h : Load.hasEnding Load.documentEndings path = true) :
    Files.Tree.wantsDirectory path = false := by
  simp only [Load.documentEndings, Load.hasEnding, List.any_cons, List.any_nil, Bool.or_false,
    Text.endsWith, Text.lowerCase, String.toList_ofList, ← List.map_reverse] at h
  rw [Files.Tree.wantsDirectory, List.getLast?_eq_head?_reverse]
  cases hchars : path.toList.reverse with
  | nil => rfl
  | cons c cs =>
      rw [hchars] at h
      simp only [List.head?_cons, Option.some.injEq, decide_eq_false_iff_not]
      rintro rfl
      cases h

/-- What was saved is read from every path that leads to the file. -/
theorem schemaAt_of_write {toolkit : Sdl.Toolkit} {tree saved : Files.Tree} {target path : String}
    {document : Value}
    (hwrite : tree.write target (Text.Utf8.encode (Introspect.documentText document)) = .ok saved)
    (hplace : saved.locate path = saved.locate target)
    (hending : Load.hasEnding Load.documentEndings path = true)
    (hfloatless : document.IsFloatless) (hnames : document.HasDistinctNames) :
    Load.schemaAt toolkit saved (some path) = (Document.read document).mapError .document := by
  obtain ⟨-, hread⟩ :=
    Files.Tree.read_of_write hwrite hplace (wantsDirectory_of_hasEnding hending)
  obtain ⟨cs, hdecode, hchars⟩ := decodeFrom_documentText hfloatless
  have hjson : Json.Reader.read (Value.write .indented 0 document ++ ['\n']) = .ok document :=
    Json.Reader.read_write hfloatless hnames .indented (by simp [Json.Reader.isSpace])
  have hpath : path ≠ "" := by
    rintro rfl
    cases hending
  rw [Load.schemaAt]
  simp only [if_neg hpath, if_pos hending]
  simp only [Load.readDocument, Load.readChars, hread, hdecode, hchars, bind, Except.bind, hjson]

/-! ## Saving -/

/-- A document is saved by writing its text to the full path of the output. -/
theorem exists_write_of_save {tree saved : Files.Tree} {path : String} {document : Value}
    (h : (Introspect.save path document).run.run tree = (.ok (), saved)) :
    ∃ t : Files.Tree, t.write (tree.absolute path)
      (Text.Utf8.encode (Introspect.documentText document)) = .ok saved := by
  obtain ⟨_, _, hget, h⟩ := Outcome.run_bind_eq_ok_iff.mp h
  cases hget
  obtain ⟨_, t, -, h⟩ := Outcome.run_bind_eq_ok_iff.mp h
  obtain ⟨_, _, hget, h⟩ := Outcome.run_bind_eq_ok_iff.mp h
  cases hget
  refine ⟨t, ?_⟩
  split at h
  next t' hwrite =>
    cases h
    exact hwrite
  next => cases h

theorem canSend_of_fetch {client : Endpoint.Client} {decode : Endpoint.Decoder}
    {answer : Endpoint.Answer} {document : Value}
    (h : client.fetch decode answer = .ok document) : client.canSend = true := by
  rw [Endpoint.Client.fetch] at h
  split at h
  next => cases h
  next hrefusal => rw [Endpoint.Client.canSend, hrefusal, Option.isNone_none]

theorem run_save_of_saveEnding {tree saved : Files.Tree} {path : String} {document : Value}
    (h : saveEnding tree path document = (.ok (), saved)) :
    (Introspect.save path document).run.run tree = (.ok (), saved) := by
  rw [saveEnding] at h
  generalize (Introspect.save path document).run.run tree = written at h ⊢
  obtain ⟨result, tree'⟩ := written
  cases result with
  | ok _ =>
      cases h
      rfl
  | error fault => cases h

/-- A command that saved the document of an endpoint has written it to the full path of its
output. -/
theorem exists_write_of_introspect {around : Surroundings} {tree saved : Files.Tree}
    {url path : String} {document : Value} (htexts : around.TakesTexts)
    (hendpoint : ∀ client : Endpoint.Client, client.url = url → client.canSend = true →
      client.fetch around.decoder (around.endpoint client) = .ok document)
    (hsaved : (runProgram around ["introspect", "--url", url, "-o", path]).effect { tree } =
      (.ok (), saved)) :
    ∃ t : Files.Tree, t.write (tree.absolute path)
      (Text.Utf8.encode (Introspect.documentText document)) = .ok saved := by
  rw [runProgram_introspect, effect_eq_of_comesTo htexts (comesTo_introspect _),
    introspectEnding] at hsaved
  cases hrequest : Introspect.readRequest around tree ["--url", url, "-o", path] with
  | error stop =>
      rw [hrequest] at hsaved
      cases hsaved
  | ok r =>
      obtain ⟨rfl, rfl⟩ := readRequest_introspect hrequest
      cases hfound : documentOf around .introspect r.url r.endpoint with
      | error stop =>
          rw [hrequest, Ending.after_ok, hfound] at hsaved
          cases hsaved
      | ok found =>
          rw [hrequest, Ending.after_ok, hfound, Ending.after_ok] at hsaved
          obtain ⟨credentials, -, hfetch⟩ := documentOf_eq_ok_iff.mp hfound
          have hsame := hendpoint _ rfl (canSend_of_fetch hfetch)
          cases hfetch.symm.trans hsame
          exact exists_write_of_save (run_save_of_saveEnding hsaved)

/-! ## Saving and generating -/

theorem sourceOf_of_documentOf {around : Surroundings} {tree : Files.Tree} {r : GenerateRequest}
    {url : String} {document : Value} (hsource : r.url = some url) (hurl : url ≠ "")
    (hdocument : documentOf around .generate url r.endpoint = .ok document) :
    sourceOf around tree r = schemaOf document := by
  rw [sourceOf, hsource, given_of_ne hurl]
  simp only [hdocument]
  rfl

theorem sourceOf_fromFile {around : Surroundings} {tree : Files.Tree} {path : String}
    {document : Value} (r : GenerateRequest)
    (hfile : Load.schemaAt around.toolkit tree (some path) =
      (Document.read document).mapError .document) :
    sourceOf around tree (r.fromFile path) = schemaOf document := by
  change (Load.schemaAt around.toolkit tree (some path)).mapError loadStop = _
  rw [hfile, schemaOf]
  cases Document.read document <;> rfl

/-- Generating from a saved document has the same effect as generating from its endpoint: it ends in
the same way, with the same message if it fails, and leaves the same files. -/
theorem effect_generate_saved {around : Surroundings} {tree saved : Files.Tree} {url path : String}
    {arguments : List String} {document : Value} (htexts : around.TakesTexts) (hurl : url ≠ "")
    (hendpoint : ∀ client : Endpoint.Client, client.url = url → client.canSend = true →
      client.fetch around.decoder (around.endpoint client) = .ok document)
    (hfloatless : document.IsFloatless) (hnames : document.HasDistinctNames)
    (hending : Load.hasEnding Load.documentEndings path = true) (hpath : IsPositional path)
    (hoptions : OnlyOptions arguments)
    (hsendable : ∀ r, Generate.readRequest around saved ("--url" :: url :: arguments) = .ok r →
      ∃ credentials, Endpoint.Credentials.ofTexts r.endpoint.token r.endpoint.headers =
        .ok credentials ∧ (clientOf url credentials r.endpoint).canSend = true)
    (hsaved : (runProgram around ["introspect", "--url", url, "-o", path]).effect { tree } =
      (.ok (), saved))
    (hplace : saved.locate path = saved.locate (tree.absolute path)) :
    (runProgram around ("generate" :: path :: arguments)).effect { tree := saved } =
      (runProgram around ("generate" :: "--url" :: url :: arguments)).effect { tree := saved } := by
  obtain ⟨t, hwrite⟩ := exists_write_of_introspect htexts hendpoint hsaved
  have hfile : Load.schemaAt around.toolkit saved (some path) =
      (Document.read document).mapError .document :=
    schemaAt_of_write hwrite hplace hending hfloatless hnames
  have hstat := (Files.Tree.read_of_write hwrite hplace (wantsDirectory_of_hasEnding hending)).1
  have hcheck : checkFile .generate saved true schemaHint path = .ok () := checkFile_of_stat hstat
  have hne : path ≠ "" := by
    rintro rfl
    cases hending
  rw [runProgram_generate, runProgram_generate, effect_eq_of_comesTo htexts (comesTo_generate _),
    effect_eq_of_comesTo htexts (comesTo_generate _), generateEnding, generateEnding,
    readRequest_path hpath hoptions hcheck url]
  cases hrequest : Generate.readRequest around saved ("--url" :: url :: arguments) with
  | error stop => rfl
  | ok r =>
      obtain ⟨hschema, hsource⟩ := sources_of_readRequest hoptions hrequest
      obtain ⟨credentials, hcredentials, hsend⟩ := hsendable r hrequest
      have hfetching : (given r.schema).isSome ≠ (given r.url).isSome := by
        rw [hschema, hsource, given_of_ne hurl]
        simp [given]
      have hloading : (given (r.fromFile path).schema).isSome ≠
          (given (r.fromFile path).url).isSome := by
        change (given (some path)).isSome ≠ (given none).isSome
        rw [given_of_ne hne]
        simp [given]
      have hdocument : documentOf around .generate url r.endpoint = .ok document :=
        documentOf_eq_ok_iff.mpr ⟨credentials, hcredentials, hendpoint _ rfl hsend⟩
      have hfetched : sourceOf around saved r = schemaOf document :=
        sourceOf_of_documentOf hsource hurl hdocument
      have hloaded : sourceOf around saved (r.fromFile path) = schemaOf document :=
        sourceOf_fromFile r hfile
      change (if _ then _ else endingOf around saved (r.fromFile path)) = _
      rw [if_neg hloading, Ending.after_ok, if_neg hfetching, endingOf, endingOf, hloaded, hfetched]
      rfl

/-- The documents that bodies in JSON hold have distinct names. -/
theorem hasDistinctNames_of_decodeJson {body : List UInt8} {document : Value}
    (h : Endpoint.decodeJson body = .value document) : document.HasDistinctNames := by
  rw [Endpoint.decodeJson] at h
  split at h
  next => cases h
  next =>
    split at h
    next hread =>
      cases h
      exact Json.Reader.hasDistinctNames_of_read hread
    next => cases h

/-! ## A schema without types -/

/-- A document whose schema has no types, and a member beside the schema. -/
def typelessDocument : Value :=
  .obj [("__schema", .obj [("types", .arr [])]), ("😀", .int (-12))]

/-- An endpoint that answers every client with the document. -/
def typelessEndpoint : Surroundings where
  endpoint _ := .response 200
    [0x7b, 0x22, 0x5f, 0x5f, 0x73, 0x63, 0x68, 0x65, 0x6d, 0x61, 0x22, 0x3a, 0x7b, 0x22, 0x74, 0x79,
      0x70, 0x65, 0x73, 0x22, 0x3a, 0x5b, 0x5d, 0x7d, 0x2c, 0x22, 0xf0, 0x9f, 0x98, 0x80, 0x22,
      0x3a, 0x2d, 0x31, 0x32, 0x7d]
  decoder := Endpoint.decodeJson
  toolkit := Sdl.standardToolkit
  engine := Template.standardEngine
  runner _ _ := pure default

theorem takesTexts_typelessEndpoint : typelessEndpoint.TakesTexts :=
  fun _ _ => rfl

/-- A directory without files. -/
def emptyTree : Files.Tree where
  current := ["work"]
  entries := [(["work"], .directory)]

/-- The files that saving the document leaves. -/
def savedTree (path : String) : Files.Tree :=
  ((runProgram typelessEndpoint ["introspect", "--url", "http://localhost", "-o", path]).effect
    { tree := emptyTree }).2

theorem holds_typelessDocument (client : Endpoint.Client) :
    (typelessEndpoint.endpoint client).Holds Endpoint.decodeJson typelessDocument :=
  ⟨200, _, rfl, rfl, Endpoint.decodeJson_of_read
    (show _ = some (String.ofList ['{', '"', '_', '_', 's', 'c', 'h', 'e', 'm', 'a', '"', ':', '{',
      '"', 't', 'y', 'p', 'e', 's', '"', ':', '[', ']', '}', ',', '"', '😀', '"', ':', '-', '1',
      '2', '}']) from rfl) rfl⟩

theorem fetch_typelessEndpoint (client : Endpoint.Client) (h : client.canSend = true) :
    client.fetch Endpoint.decodeJson (typelessEndpoint.endpoint client) = .ok typelessDocument := by
  rw [Endpoint.fetch_of_canSend h]
  exact Endpoint.readAnswer_eq_ok_iff.mpr ⟨_, rfl, holds_typelessDocument client, rfl⟩

theorem isFloatless_typelessDocument : typelessDocument.IsFloatless := by
  refine .obj ?_
  simp only [List.forall_mem_cons]
  refine ⟨.obj ?_, .int _, by simp⟩
  simp only [List.forall_mem_cons]
  exact ⟨.arr (by simp), by simp⟩

theorem hasDistinctNames_typelessDocument : typelessDocument.HasDistinctNames := by
  obtain ⟨_, _, -, -, hdecode⟩ := holds_typelessDocument { url := "http://localhost" }
  exact hasDistinctNames_of_decodeJson hdecode

theorem effect_introspect {path : String}
    (h : ((runProgram typelessEndpoint
      ["introspect", "--url", "http://localhost", "-o", path]).effect
        { tree := emptyTree }).1.isOk = true) :
    (runProgram typelessEndpoint ["introspect", "--url", "http://localhost", "-o", path]).effect
      { tree := emptyTree } = (.ok (), savedTree path) := by
  refine Prod.ext ?_ rfl
  revert h
  cases ((runProgram typelessEndpoint
    ["introspect", "--url", "http://localhost", "-o", path]).effect { tree := emptyTree }).1 with
  | ok a => exact fun _ => rfl
  | error stop => exact fun h => nomatch h

theorem onlyOptions_exported : OnlyOptions ["-e"] := by
  intro g h
  cases h
  exact ⟨rfl, by decide⟩

/-- Without a token and headers there is nothing that cannot be sent. -/
theorem canSend_of_readRequest (tree : Files.Tree) (r : GenerateRequest)
    (h : Generate.readRequest typelessEndpoint tree ["--url", "http://localhost", "-e"] = .ok r) :
    ∃ credentials, Endpoint.Credentials.ofTexts r.endpoint.token r.endpoint.headers =
      .ok credentials ∧ (clientOf "http://localhost" credentials r.endpoint).canSend = true := by
  rw [readRequest_generate] at h
  obtain ⟨g, hg, h⟩ := Outcome.bind_eq_ok_iff.mp h
  obtain ⟨g', hcheck, hrequest⟩ := Outcome.bind_eq_ok_iff.mp h
  cases hg
  rw [eq_of_checkGiven hcheck] at hrequest
  obtain ⟨endpoint, hendpoint, hend⟩ := Outcome.bind_eq_ok_iff.mp hrequest
  cases hend
  cases hendpoint
  exact ⟨_, rfl, rfl⟩

/-- The document is saved under a name whose ending is in capital letters, and declarations that are
exported are generated from it. -/
theorem effect_generate_capital :
    (runProgram typelessEndpoint ["generate", "Schema.JSON", "-e"]).effect
        { tree := savedTree "Schema.JSON" } =
      (runProgram typelessEndpoint ["generate", "--url", "http://localhost", "-e"]).effect
        { tree := savedTree "Schema.JSON" } :=
  effect_generate_saved takesTexts_typelessEndpoint (by decide)
    (fun client _ => fetch_typelessEndpoint client) isFloatless_typelessDocument
    hasDistinctNames_typelessDocument (by decide) (by decide) onlyOptions_exported
    (canSend_of_readRequest _) (effect_introspect (by decide +kernel)) (by decide +kernel)

/-- A document that is saved under a path through a missing directory is not found there. -/
theorem exists_unread_saved :
    ¬∀ (around : Surroundings) (tree saved : Files.Tree) (url path : String)
      (arguments : List String) (document : Value), around.TakesTexts → url ≠ "" →
      (∀ client : Endpoint.Client, client.url = url → client.canSend = true →
        client.fetch around.decoder (around.endpoint client) = .ok document) →
      document.IsFloatless → document.HasDistinctNames →
      Load.hasEnding Load.documentEndings path = true → IsPositional path → OnlyOptions arguments →
      (∀ r, Generate.readRequest around saved ("--url" :: url :: arguments) = .ok r →
        ∃ credentials, Endpoint.Credentials.ofTexts r.endpoint.token r.endpoint.headers =
          .ok credentials ∧ (clientOf url credentials r.endpoint).canSend = true) →
      (runProgram around ["introspect", "--url", url, "-o", path]).effect { tree } =
        (.ok (), saved) →
      (runProgram around ("generate" :: path :: arguments)).effect { tree := saved } =
        (runProgram around ("generate" :: "--url" :: url :: arguments)).effect
          { tree := saved } := by
  intro h
  have heffect := h typelessEndpoint emptyTree (savedTree "nodir/../schema.json") "http://localhost"
    "nodir/../schema.json" ["-e"] typelessDocument takesTexts_typelessEndpoint (by decide)
    (fun client _ => fetch_typelessEndpoint client) isFloatless_typelessDocument
    hasDistinctNames_typelessDocument (by decide) (by decide) onlyOptions_exported
    (canSend_of_readRequest _) (effect_introspect (by decide +kernel))
  have hloaded : ((runProgram typelessEndpoint ["generate", "nodir/../schema.json", "-e"]).effect
      { tree := savedTree "nodir/../schema.json" }).1.isOk = false := by
    decide +kernel
  have hfetched : ((runProgram typelessEndpoint
      ["generate", "--url", "http://localhost", "-e"]).effect
        { tree := savedTree "nodir/../schema.json" }).1.isOk = true := by
    decide +kernel
  rw [heffect, hfetched] at hloaded
  cases hloaded

end CommandLine
end FlowDecl
