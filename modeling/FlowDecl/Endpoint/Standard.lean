import FlowDecl.Endpoint.Fetch
import FlowDecl.Json.Reader
import FlowDecl.Text.Unicode

/-!
# Standard endpoints

Bodies are JSON in one of the encodings that JSON may be in.  A server answers only those who ask
for an absolute address; an address without a scheme or a host is taken for a path, and such a
request is refused after it has been answered.
-/

namespace FlowDecl
namespace Endpoint

def decodeJson : Decoder := fun body =>
  match Text.decodeReceived body with
  | none => .notJson
  | some text =>
    match Json.Reader.read text.toList with
    | .ok v => .value v
    | .error _ => .notJson

/-- Whether a character may stand in the scheme of an address. -/
def isSchemeChar (c : Char) : Bool :=
  c.isAlphanum || c = '+' || c = '-' || c = '.'

/-- Whether an address has a scheme and a host. -/
def isAbsolute (url : String) : Bool :=
  let cs := url.toList
  match cs.dropWhile isSchemeChar with
  | ':' :: '/' :: '/' :: c :: _ => cs.head?.any Char.isAlpha && !(['/', '?', '#'].contains c)
  | _ => false

/-- The path that an address without a host is taken for. -/
def pathOf (url : String) : String :=
  "/" ++ String.ofList ((url.toList.takeWhile (· != '#')).dropWhile (· = '/'))

/-- What a client gets of an answer. -/
def Client.receive (client : Client) : Answer → Answer
  | .response status body =>
    if isAbsolute client.url then .response status body
    else .refused ⟨"ValueError", "unknown url type: " ++ Text.quoted (pathOf client.url)⟩
  | answer => answer

end Endpoint
end FlowDecl
