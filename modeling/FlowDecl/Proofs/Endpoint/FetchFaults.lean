import FlowDecl.CommandLine.Options
import FlowDecl.Endpoint.Standard
import FlowDecl.Proofs.Outcome

/-!
# Faults of fetching

An answer is turned into a document, or into a fault that is reported to the user.  There are two
exceptions.  The request may come to nothing for reasons of its own: it is refused, or decoding the
body breaks off.  And a document may have errors that are not what errors should be: a list of
objects whose messages, where they have one, are texts.  Putting the messages together then fails
by itself, with a fault that nobody reports.

So a request fails with a report exactly if it does not break off and there is no document or the
errors in it are as they should be.  This holds of every way to decode bodies.
-/

namespace FlowDecl
namespace Endpoint

open Json (Value)
open Outcome (Succeeds)

/-- An answer that tells success and whose body is decoded to a value. -/
def Answer.Holds (decode : Decoder) (answer : Answer) (document : Value) : Prop :=
  ∃ status body, answer = .response status body ∧ isSuccess status = true ∧
    decode body = .value document

/-- A request that comes to nothing for reasons of its own: it is refused, or the answer tells
success and decoding its body breaks off. -/
def Answer.BreaksOff (decode : Decoder) (answer : Answer) : Prop :=
  ∃ mishap, answer = .refused mishap ∨
    ∃ status body, answer = .response status body ∧ isSuccess status = true ∧
      decode body = .mishap mishap

/-- What a document has as its errors, null if it has none. -/
def sentErrors (members : List (String × Value)) : Value :=
  (Value.lookup? "errors" members).getD .null

/-- An error: an object whose message is a text or missing. -/
def IsError (v : Value) : Prop :=
  ∃ members, v = .obj members ∧
    ∀ message, Value.lookup? "message" members = some message → ∃ text, message = .str text

def IsErrorList (v : Value) : Prop :=
  ∃ items, v = .arr items ∧ ∀ item ∈ items, IsError item

/-! ## Messages of errors -/

/-- The messages of what is sent as errors. -/
def errorTexts (errors : Value) : Except Fault (List String) := do
  messageTexts 0 (← (← errorItems errors).mapM errorMessage)

theorem succeeds_messageTexts_iff {place : Nat} {messages : List Value} :
    Succeeds (messageTexts place messages) ↔ ∀ v ∈ messages, ∃ text, v = .str text := by
  induction messages generalizing place with
  | nil => exact iff_of_true (Outcome.succeeds_ok _) (by simp)
  | cons v messages ih =>
      cases v with
      | str text =>
          rw [messageTexts, Outcome.succeeds_map_iff, ih, List.forall_mem_cons]
          exact (and_iff_right ⟨text, rfl⟩).symm
      | _ => exact iff_of_false (Outcome.not_succeeds_error _) (by simp)

theorem messageTexts_fault {place : Nat} {messages : List Value} {fault : Fault}
    (h : messageTexts place messages = .error fault) :
    fault.isReported = false := by
  induction messages generalizing place with
  | nil => cases h
  | cons v messages ih =>
      cases v with
      | str text => exact ih (Outcome.map_eq_error_iff.mp h)
      | _ =>
          cases h
          rfl

theorem errorMessage_fault {v : Value} {fault : Fault} (h : errorMessage v = .error fault) :
    fault.isReported = false := by
  cases v with
  | obj members => cases h
  | _ =>
      cases h
      rfl

/-- Messages that cannot be put together leave a fault that is not reported. -/
theorem errorTexts_fault {errors : Value} {fault : Fault} (h : errorTexts errors = .error fault) :
    fault.isReported = false := by
  rcases Outcome.bind_eq_error_iff.mp h with hitems | ⟨items, -, hmessages⟩
  · cases errors with
    | arr items => cases hitems
    | obj members => cases hitems
    | str text => cases hitems
    | _ =>
        cases hitems
        rfl
  · rcases Outcome.bind_eq_error_iff.mp hmessages with hmessage | ⟨messages, -, htexts⟩
    · obtain ⟨-, item, -, -, -, hitem⟩ := Outcome.mapM_eq_error_iff.mp hmessage
      exact errorMessage_fault hitem
    · exact messageTexts_fault htexts

/-- The message of an error is a text, and nothing but an error has such a message. -/
theorem isError_iff {v : Value} :
    IsError v ↔ ∃ text, errorMessage v = .ok (.str text) := by
  cases v with
  | obj members =>
      simp only [IsError, errorMessage, Value.obj.injEq, exists_eq_left', Except.ok.injEq]
      cases Value.lookup? "message" members with
      | none => simp
      | some message => simp
  | _ => simp [IsError, errorMessage]

/-- The messages of a list are texts exactly if it is a list of errors. -/
theorem succeeds_errorTexts_arr_iff {items : List Value} :
    Succeeds (errorTexts (.arr items)) ↔ ∀ item ∈ items, IsError item := by
  rw [errorTexts, Outcome.succeeds_bind_iff]
  simp only [errorItems, Except.ok.injEq, exists_eq_left', Outcome.succeeds_bind_iff,
    succeeds_messageTexts_iff]
  constructor
  · rintro ⟨messages, hmessages, htexts⟩ item hitem
    obtain ⟨message, hmessage⟩ := Outcome.succeeds_mapM_iff.mp ⟨messages, hmessages⟩ item hitem
    have hmem : message ∈ messages := (Outcome.mem_mapM_iff hmessages).mpr ⟨item, hitem, hmessage⟩
    obtain ⟨text, rfl⟩ := htexts message hmem
    exact isError_iff.mpr ⟨text, hmessage⟩
  · intro hitems
    have hall : ∀ item ∈ items, Succeeds (errorMessage item) := by
      intro item hitem
      obtain ⟨text, htext⟩ := isError_iff.mp (hitems item hitem)
      exact ⟨_, htext⟩
    obtain ⟨messages, hmessages⟩ := Outcome.succeeds_mapM_iff.mpr hall
    refine ⟨messages, hmessages, ?_⟩
    intro message hmessage
    obtain ⟨item, hitem, hok⟩ := (Outcome.mem_mapM_iff hmessages).mp hmessage
    obtain ⟨text, htext⟩ := isError_iff.mp (hitems item hitem)
    exact ⟨text, Except.ok.inj (hok.symm.trans htext)⟩

/-- An item that is a text has no message. -/
theorem not_succeeds_errorTexts_of_text {errors : Value} {text : String} {items : List Value}
    (h : errorItems errors = .ok (.str text :: items)) :
    ¬Succeeds (errorTexts errors) := by
  rw [errorTexts, h]
  exact Outcome.not_succeeds_error _

/-- What counts as errors has messages exactly if it is a list of errors. -/
theorem succeeds_errorTexts_iff {errors : Value} (h : errors.isTruthy = true) :
    Succeeds (errorTexts errors) ↔ IsErrorList errors := by
  cases errors with
  | arr items =>
      rw [succeeds_errorTexts_arr_iff]
      simp [IsErrorList]
  | obj members =>
      cases members with
      | nil => cases h
      | cons m members =>
          exact iff_of_false (not_succeeds_errorTexts_of_text rfl) (by simp [IsErrorList])
  | str text =>
      cases hchars : text.toList with
      | nil =>
          rw [String.toList_eq_nil_iff.mp hchars] at h
          cases h
      | cons c rest =>
          have hitems : errorItems (.str text) =
              .ok (.str c.toString :: rest.map fun c => .str c.toString) := by
            rw [errorItems, hchars]
            rfl
          exact iff_of_false (not_succeeds_errorTexts_of_text hitems) (by simp [IsErrorList])
  | _ => exact iff_of_false (Outcome.not_succeeds_error _) (by simp [IsErrorList])

/-- Errors are reported exactly if they are a list of errors. -/
theorem errorsFault_isReported_iff {errors : Value} (h : errors.isTruthy = true) :
    (errorsFault errors).isReported = true ↔ IsErrorList errors := by
  rw [← succeeds_errorTexts_iff h]
  cases htexts : errorTexts errors with
  | ok messages =>
      have hfault : errorsFault errors = .errors messages errors := by
        rw [errorTexts] at htexts
        rw [errorsFault, htexts]
      rw [hfault]
      exact iff_of_true rfl (Outcome.succeeds_ok _)
  | error fault =>
      have hreported := errorTexts_fault htexts
      have hfault : errorsFault errors = fault := by
        rw [errorTexts] at htexts
        rw [errorsFault, htexts]
      rw [hfault, hreported]
      exact iff_of_false Bool.false_ne_true (Outcome.not_succeeds_error _)

/-! ## Answers -/

variable {decode : Decoder}

/-- An object is the document, unless it has errors. -/
theorem readDecoded_obj (members : List (String × Value)) :
    readDecoded (.value (.obj members)) =
      if (sentErrors members).isTruthy then .error (errorsFault (sentErrors members))
      else .ok (.obj members) := by
  rw [readDecoded, sentErrors]
  cases Value.lookup? "errors" members with
  | none => rfl
  | some errors => rfl

/-- The answer that holds an object is the object, unless it has errors. -/
theorem readAnswer_of_holds_obj {answer : Answer} {members : List (String × Value)}
    (h : answer.Holds decode (.obj members)) :
    readAnswer decode answer =
      if (sentErrors members).isTruthy then .error (errorsFault (sentErrors members))
      else .ok (.obj members) := by
  obtain ⟨status, body, rfl, hstatus, hbody⟩ := h
  rw [readAnswer, if_pos hstatus, hbody, readDecoded_obj]

/-- A request that breaks off ends with a fault that is not reported. -/
theorem readAnswer_of_breaksOff {answer : Answer} (h : answer.BreaksOff decode) :
    ∃ fault, readAnswer decode answer = .error fault ∧ fault.isReported = false := by
  obtain ⟨mishap, rfl | ⟨status, body, rfl, hstatus, hbody⟩⟩ := h
  · exact ⟨_, rfl, rfl⟩
  · rw [readAnswer, if_pos hstatus, hbody]
    exact ⟨_, rfl, rfl⟩

/-- An answer that holds no object is a fault that is reported, unless the request breaks off. -/
theorem readAnswer_of_not_holds_obj {answer : Answer}
    (h : ∀ members, ¬answer.Holds decode (.obj members)) (hwhole : ¬answer.BreaksOff decode) :
    ∃ fault, readAnswer decode answer = .error fault ∧ fault.isReported = true := by
  cases answer with
  | failure words => exact ⟨_, rfl, rfl⟩
  | refused mishap => exact absurd ⟨mishap, Or.inl rfl⟩ hwhole
  | response status body =>
      rw [readAnswer]
      split
      next hstatus =>
        cases hbody : decode body with
        | notJson => exact ⟨_, rfl, rfl⟩
        | mishap mishap => exact absurd ⟨mishap, Or.inr ⟨_, _, rfl, hstatus, hbody⟩⟩ hwhole
        | value v =>
            cases v with
            | obj members => exact absurd ⟨_, _, rfl, hstatus, hbody⟩ (h members)
            | _ => exact ⟨_, rfl, rfl⟩
      next => exact ⟨_, rfl, rfl⟩

theorem Answer.Holds.unique {answer : Answer} {a b : Value} (ha : answer.Holds decode a)
    (hb : answer.Holds decode b) : a = b := by
  obtain ⟨status, body, rfl, -, hbody⟩ := ha
  obtain ⟨status', body', hanswer, -, hbody'⟩ := hb
  cases hanswer
  cases hbody.symm.trans hbody'
  rfl

theorem Answer.Holds.not_breaksOff {answer : Answer} {document : Value}
    (h : answer.Holds decode document) : ¬answer.BreaksOff decode := by
  obtain ⟨status, body, rfl, -, hbody⟩ := h
  rintro ⟨mishap, hrefused | ⟨status', body', hanswer, -, hbody'⟩⟩
  · cases hrefused
  · cases hanswer
    cases hbody.symm.trans hbody'

/-- Every answer breaks off, or it holds an object, or it is a fault that is reported. -/
theorem breaksOff_or_holds_or_reported (decode : Decoder) (answer : Answer) :
    answer.BreaksOff decode ∨ (∃ members, answer.Holds decode (.obj members)) ∨
      (∀ members, ¬answer.Holds decode (.obj members)) ∧ ¬answer.BreaksOff decode ∧
        ∃ fault, readAnswer decode answer = .error fault ∧ fault.isReported = true := by
  by_cases hwhole : answer.BreaksOff decode
  · exact Or.inl hwhole
  · by_cases hobj : ∃ members, answer.Holds decode (.obj members)
    · exact Or.inr (Or.inl hobj)
    · have hnone := not_exists.mp hobj
      exact Or.inr (Or.inr ⟨hnone, hwhole, readAnswer_of_not_holds_obj hnone hwhole⟩)

/-- An answer is taken exactly if it holds an object without errors. -/
theorem readAnswer_eq_ok_iff {answer : Answer} {document : Value} :
    readAnswer decode answer = .ok document ↔
      ∃ members, document = .obj members ∧ answer.Holds decode document ∧
        (sentErrors members).isTruthy = false := by
  have hfault {fault : Fault} (hfault : readAnswer decode answer = .error fault)
      (hnone : ∀ members, ¬answer.Holds decode (.obj members)) :
      readAnswer decode answer = .ok document ↔
        ∃ members, document = .obj members ∧ answer.Holds decode document ∧
          (sentErrors members).isTruthy = false := by
    rw [hfault]
    refine iff_of_false (Outcome.error_ne_ok _ _) ?_
    rintro ⟨members, rfl, hholds, -⟩
    exact hnone members hholds
  rcases breaksOff_or_holds_or_reported decode answer with
    hbreaks | ⟨members, hholds⟩ | ⟨hnone, -, fault, hreported, -⟩
  · obtain ⟨fault, hbroken, -⟩ := readAnswer_of_breaksOff hbreaks
    exact hfault hbroken fun members hholds => hholds.not_breaksOff hbreaks
  · rw [readAnswer_of_holds_obj hholds]
    constructor
    · intro hdocument
      split at hdocument
      next => cases hdocument
      next herrors =>
        cases hdocument
        exact ⟨members, rfl, hholds, Bool.eq_false_iff.mpr herrors⟩
    · rintro ⟨members', rfl, hholds', herrors⟩
      cases hholds.unique hholds'
      simp [herrors]
  · exact hfault hreported hnone

/-- A fault is reported exactly if the request does not break off and there is no object or its
errors are a list of errors. -/
theorem isReported_iff_of_readAnswer {answer : Answer} {fault : Fault}
    (h : readAnswer decode answer = .error fault) :
    fault.isReported = true ↔ ¬answer.BreaksOff decode ∧
      ∀ members, answer.Holds decode (.obj members) → IsErrorList (sentErrors members) := by
  rcases breaksOff_or_holds_or_reported decode answer with
    hbreaks | ⟨members, hholds⟩ | ⟨hnone, hwhole, fault', hfault', hreported⟩
  · obtain ⟨fault', hfault', hreported⟩ := readAnswer_of_breaksOff hbreaks
    cases h.symm.trans hfault'
    rw [hreported]
    exact iff_of_false Bool.false_ne_true fun hwhole => hwhole.1 hbreaks
  · rw [readAnswer_of_holds_obj hholds] at h
    split at h
    next herrors =>
      cases h
      rw [errorsFault_isReported_iff herrors]
      constructor
      · intro hlist
        refine ⟨hholds.not_breaksOff, fun members' hholds' => ?_⟩
        cases hholds.unique hholds'
        exact hlist
      · exact fun hall => hall.2 members hholds
    next => cases h
  · cases h.symm.trans hfault'
    exact iff_of_true hreported ⟨hwhole, fun members hholds => absurd hholds (hnone members)⟩

/-! ## Requests -/

theorem fetch_of_canSend {client : Client} (hsend : client.canSend = true) (decode : Decoder)
    (answer : Answer) : client.fetch decode answer = readAnswer decode answer := by
  rw [Client.canSend, Option.isNone_iff_eq_none] at hsend
  rw [Client.fetch, hsend]

open CommandLine in
/-- What a command makes of the answer to its client. -/
theorem run_fetchDocument (around : Surroundings) (page : Page) (client : Client) (s : Session) :
    (fetchDocument around page client.url client.credentials client.timeout).run.run s =
      (match client.fetch around.decoder (around.endpoint client) with
        | .ok document => .ok document
        | .error fault =>
          if fault.isReported then
            .error (.usage page ("Cannot introspect " ++ client.url ++ ": " ++ fault.message))
          else .error (.crash (.fetch fault)),
        { s with clients := s.clients ++ [client] }) := by
  change ((match client.fetch around.decoder (around.endpoint client) with
    | .ok document => return document
    | .error fault =>
      if fault.isReported then
        failUsage page ("Cannot introspect " ++ client.url ++ ": " ++ fault.message)
      else throw (.crash (.fetch fault))) : Action Value).run.run
        { s with clients := s.clients ++ [client] } = _
  cases client.fetch around.decoder (around.endpoint client) with
  | ok document => rfl
  | error fault => cases hreported : fault.isReported <;> simp [hreported] <;> rfl

open CommandLine in
/-- A request is answered with an object without errors, and with nothing else.  It fails with a
fault that is reported, and the command with it for wrong usage, exactly if it does not break off
and the answer holds no object or one whose errors are a list of errors. -/
theorem fetch_isReported_iff {client : Client} (hsend : client.canSend = true) (decode : Decoder)
    (answer : Answer) :
    (∀ document, client.fetch decode answer = .ok document ↔
        ∃ members, document = .obj members ∧ answer.Holds decode document ∧
          (sentErrors members).isTruthy = false) ∧
      ∀ fault, client.fetch decode answer = .error fault →
        (fault.isReported = true ↔ ¬answer.BreaksOff decode ∧
            ∀ members, answer.Holds decode (.obj members) → IsErrorList (sentErrors members)) ∧
          ∀ around page s, around.decoder = decode → around.endpoint client = answer →
            let run := (fetchDocument around page client.url client.credentials client.timeout).run
            ((run.run s).1 = .error (.usage page
                ("Cannot introspect " ++ client.url ++ ": " ++ fault.message)) ↔
              fault.isReported = true) := by
  rw [fetch_of_canSend hsend]
  refine ⟨fun document => readAnswer_eq_ok_iff, ?_⟩
  intro fault hfault
  refine ⟨isReported_iff_of_readAnswer hfault, ?_⟩
  rintro around page s rfl rfl run
  have hrun := congrArg Prod.fst (run_fetchDocument around page client s)
  rw [fetch_of_canSend hsend, hfault] at hrun
  rw [show (run.run s).1 = _ from hrun]
  cases hreported : fault.isReported with
  | true => simp [hreported]
  | false => simp [hreported]

/-! ## Errors that are a number -/

/-- An answer that sends a number as its errors. -/
def numberedErrors : Answer :=
  .response 200 [0x7b, 0x22, 0x65, 0x72, 0x72, 0x6f, 0x72, 0x73, 0x22, 0x3a, 0x31, 0x7d]

theorem decodeJson_of_read {body : List UInt8} {cs : List Char} {v : Value}
    (htext : Text.decodeReceived body = some (String.ofList cs))
    (hread : Json.Reader.read cs = .ok v) : decodeJson body = .value v := by
  simp only [decodeJson, htext, String.toList_ofList, hread]

theorem holds_numberedErrors : numberedErrors.Holds decodeJson (.obj [("errors", .int 1)]) :=
  ⟨200, _, rfl, rfl, decodeJson_of_read
    (show _ = some (String.ofList ['{', '"', 'e', 'r', 'r', 'o', 'r', 's', '"', ':', '1', '}'])
      from rfl) rfl⟩

/-- A client without credentials. -/
def localClient : Client where
  url := "http://localhost/graphql"

theorem canSend_localClient : localClient.canSend = true := by
  decide

/-- The number cannot be walked through. -/
theorem fetch_numberedErrors :
    localClient.fetch decodeJson numberedErrors = .error (.noItems "int") := by
  rw [fetch_of_canSend canSend_localClient, readAnswer_of_holds_obj holds_numberedErrors]
  rfl

/-- The number is no list of errors, and so the fault is not reported. -/
theorem numberedErrors_isReported_iff :
    localClient.canSend = true ∧
      ((Fault.noItems "int").isReported = true ↔ ¬numberedErrors.BreaksOff decodeJson ∧
        ∀ members, numberedErrors.Holds decodeJson (.obj members) →
          IsErrorList (sentErrors members)) :=
  ⟨canSend_localClient, ((fetch_isReported_iff canSend_localClient decodeJson
    numberedErrors).2 _ fetch_numberedErrors).1⟩

/-- A request that does not break off can fail with a fault that is not reported. -/
theorem exists_unreported_errors :
    ¬∀ (client : Client) (answer : Answer), client.canSend = true →
      ¬answer.BreaksOff decodeJson → (∃ document, client.fetch decodeJson answer = .ok document) ∨
        ∃ fault, client.fetch decodeJson answer = .error fault ∧ fault.isReported = true := by
  intro h
  have hfetch := fetch_numberedErrors
  rcases h localClient numberedErrors canSend_localClient holds_numberedErrors.not_breaksOff with
    ⟨document, hdocument⟩ | ⟨fault, hfault, hreported⟩
  · cases hfetch.symm.trans hdocument
  · cases hfetch.symm.trans hfault
    cases hreported

end Endpoint
end FlowDecl
