import FlowDecl.Endpoint.Headers
import FlowDecl.Text.Blank

/-!
# Credentials

What a request carries to be let in, as headers: a bearer token, headers of any names, or several
of these, where the later ones win.  Headers can be read from texts that hold a name and a value
with a colon between them.
-/

namespace FlowDecl
namespace Endpoint

/-- What a request carries to be let in. -/
inductive Credentials where
  | none
  | bearer (token : String)
  | headers (headers : Headers)
  | combined (parts : List Credentials)
  deriving Inhabited

/-- A header text without a name or without a colon. -/
structure HeaderFault where
  text : String
  deriving DecidableEq, Repr

/-- The sentence for a header text that cannot be read. -/
def HeaderFault.message (f : HeaderFault) : String :=
  "Invalid header " ++ Text.quoted f.text ++ ", expected 'Name: value'"

/-- The trimmed texts before and after the first colon, if there is one. -/
def splitHeader? (text : String) : Option (String × String) :=
  let cs := text.toList
  match cs.dropWhile (· != ':') with
  | [] => .none
  | _ :: value =>
    some (String.ofList (Text.trimChars (cs.takeWhile (· != ':'))),
      String.ofList (Text.trimChars value))

def readHeader (text : String) : Except HeaderFault (String × String) :=
  match splitHeader? text with
  | some (name, value) => if name = "" then .error ⟨text⟩ else .ok (name, value)
  | .none => .error ⟨text⟩

def readHeaders (texts : List String) : Except HeaderFault Headers :=
  Headers.ofList <$> texts.mapM readHeader

namespace Credentials

mutual

def toHeaders : Credentials → Headers
  | .none => []
  | .bearer token => [("Authorization", "Bearer " ++ token)]
  | .headers hs => hs
  | .combined parts => combineHeaders [] parts

/-- Sets the headers of credentials one after the other. -/
def combineHeaders (headers : Headers) : List Credentials → Headers
  | [] => headers
  | part :: rest => combineHeaders (headers.setAll (toHeaders part)) rest

end

/-- Credentials from a token and header texts as they are given by a user; an empty token is
none. -/
def ofTexts (token : Option String) (texts : List String) : Except HeaderFault Credentials := do
  let bearers := ((token.filter (· != "")).map Credentials.bearer).toList
  if texts.isEmpty then return .combined bearers
  else return .combined (bearers ++ [.headers (← readHeaders texts)])

end Credentials
end Endpoint
end FlowDecl
