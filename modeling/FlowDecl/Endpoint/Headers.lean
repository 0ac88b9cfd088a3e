import FlowDecl.Text.Ascii

/-!
# Request headers

Headers are kept in the order in which their names are first set.  A name that is set again keeps
its place and takes the new value.  Names are compared as they are written.
-/

namespace FlowDecl
namespace Endpoint

/-- Header names and their values, in order. -/
abbrev Headers := List (String × String)

namespace Headers

def set (headers : Headers) (name value : String) : Headers :=
  match headers with
  | [] => [(name, value)]
  | (key, old) :: rest =>
    if key = name then (key, value) :: rest else (key, old) :: set rest name value

/-- Sets headers one after the other. -/
def setAll (headers later : Headers) : Headers :=
  later.foldl (fun hs h => hs.set h.1 h.2) headers

/-- The headers of a list of names and values. -/
def ofList (pairs : List (String × String)) : Headers :=
  setAll [] pairs

/-- Why headers cannot be sent: the first name or value that is not in ASCII. -/
def refusal? (headers : Headers) : Option Text.Ascii.Refusal :=
  headers.findSome? fun h => Text.Ascii.refusal? h.1 <|> Text.Ascii.refusal? h.2

end Headers
end Endpoint
end FlowDecl
