import FlowDecl.Endpoint.Credentials
import FlowDecl.Json.Display
import FlowDecl.Mishap

/-!
# Fetching an introspection document

A client sends the introspection query to an endpoint and takes the document out of the answer.
An answer is taken if its status tells success and its body is a JSON object without errors.  How a
body is decoded is not settled here.

The faults that are reported to the user are told apart from the mishaps of sending and decoding,
and from those that lie in the shape of what the endpoint sent as its errors: the latter are about
one value and name its sort.
-/

namespace FlowDecl
namespace Endpoint

open Json (Value)

inductive Answer where
  | response (status : Nat) (body : List UInt8)
  | failure (words : String)
  /-- The request is not one that can be answered, as one to an address without a scheme. -/
  | refused (mishap : Mishap)
  deriving Repr, Inhabited

/-- What comes of decoding a body. -/
inductive Decoded where
  | value (v : Value)
  | notJson
  | mishap (mishap : Mishap)

/-- A way to decode bodies. -/
abbrev Decoder := List UInt8 → Decoded

/-- Who asks: the address, the credentials and the time that a request may take. -/
structure Client where
  url : String
  credentials : Credentials := .none
  /-- In seconds. -/
  timeout : Decimal.Binary64 := .ofDecimal false 30 0

/-- The headers of the client's requests. -/
def Client.headers (client : Client) : Headers :=
  Headers.setAll [("Content-Type", "application/json")] client.credentials.toHeaders

/-- Why no document was fetched. -/
inductive Fault where
  /-- A header is not in ASCII, and nothing was sent. -/
  | header (refusal : Text.Ascii.Refusal)
  | unreachable (words : String)
  | badStatus (status : Nat)
  | notJson
  | notObject
  /-- The endpoint sent errors with these messages. -/
  | errors (messages : List String) (errors : Value)
  /-- The endpoint sent a value as its errors that has no items. -/
  | noItems (sort : String)
  /-- The endpoint sent an error that has no members. -/
  | noMembers (sort : String)
  /-- The endpoint sent an error whose message is no text. -/
  | noText (place : Nat) (sort : String)
  | mishap (mishap : Mishap)

namespace Fault

/-- The sentence for a fault. -/
def message : Fault → String
  | .header refusal => refusal.message
  | .unreachable words => "Introspection request failed: " ++ words
  | .badStatus status => s!"Introspection request failed with status {status}"
  | .notJson => "Endpoint did not return JSON"
  | .notObject => "Endpoint response is not a JSON object"
  | .errors messages _ => "GraphQL errors: " ++ "; ".intercalate messages
  | .noItems sort => s!"'{sort}' object is not iterable"
  | .noMembers sort => s!"'{sort}' object has no attribute 'get'"
  | .noText place sort => s!"sequence item {place}: expected str instance, {sort} found"
  | .mishap m => m.words

def isReported : Fault → Bool
  | .header _ | .noItems _ | .noMembers _ | .noText _ _ | .mishap _ => false
  | _ => true

end Fault

/-- The items that a value sent as errors has. -/
def errorItems : Value → Except Fault (List Value)
  | .arr items => .ok items
  | .obj members => .ok (members.map fun m => .str m.1)
  | .str s => .ok (s.toList.map fun c => .str c.toString)
  | v => .error (.noItems v.sort)

/-- The message of an error; an error without one is displayed as a whole. -/
def errorMessage : Value → Except Fault Value
  | .obj members =>
    .ok ((Value.lookup? "message" members).getD (.str (Value.obj members).display))
  | v => .error (.noMembers v.sort)

/-- Messages that are all texts; `place` is the place of the first. -/
def messageTexts (place : Nat) : List Value → Except Fault (List String)
  | [] => .ok []
  | .str s :: rest => (s :: ·) <$> messageTexts (place + 1) rest
  | v :: _ => .error (.noText place v.sort)

def errorsFault (errors : Value) : Fault :=
  match (do messageTexts 0 (← (← errorItems errors).mapM errorMessage)) with
  | .ok messages => .errors messages errors
  | .error fault => fault

def readDecoded : Decoded → Except Fault Value
  | .mishap mishap => .error (.mishap mishap)
  | .notJson => .error .notJson
  | .value (.obj members) =>
    match Value.lookup? "errors" members with
    | some errors => if errors.isTruthy then .error (errorsFault errors) else .ok (.obj members)
    | none => .ok (.obj members)
  | .value _ => .error .notObject

def isSuccess (status : Nat) : Bool :=
  200 ≤ status && status < 300

def readAnswer (decode : Decoder) : Answer → Except Fault Value
  | .failure words => .error (.unreachable words)
  | .refused mishap => .error (.mishap mishap)
  | .response status body =>
    if isSuccess status then readDecoded (decode body) else .error (.badStatus status)

/-- Whether the client's request can be sent. -/
def Client.canSend (client : Client) : Bool :=
  client.headers.refusal?.isNone

/-- Fetches the document from an endpoint that gives an answer. -/
def Client.fetch (client : Client) (decode : Decoder) (answer : Answer) : Except Fault Value :=
  match client.headers.refusal? with
  | some refusal => .error (.header refusal)
  | none => readAnswer decode answer

end Endpoint
end FlowDecl
