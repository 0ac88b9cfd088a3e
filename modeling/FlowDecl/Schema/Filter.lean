import FlowDecl.Schema.Basic

/-!
# Name filters

A filter keeps the types whose name passes its conditions on how the name begins and ends; an empty
condition is none.  The root types are always kept, because the response envelope names them.
Possible types that are dropped are taken out of the types that are kept.
-/

namespace FlowDecl

open Json (Value)

/-- Conditions on the beginning and the end of a name. -/
structure NameFilter where
  notBeginning : Option String := none
  notEnding : Option String := none
  beginning : Option String := none
  ending : Option String := none
  deriving DecidableEq, Repr, Inhabited

namespace NameFilter

def given (condition : Option String) : Option String :=
  condition.filter (· != "")

/-- Whether a name passes all conditions. -/
def matchesName (f : NameFilter) (name : String) : Bool :=
  (given f.notBeginning).all (fun s => !Text.beginsWith s name) &&
  (given f.notEnding).all (fun s => !Text.endsWith s name) &&
  (given f.beginning).all (fun s => Text.beginsWith s name) &&
  (given f.ending).all (fun s => Text.endsWith s name)

/-- What the first given condition asks a name for. -/
def firstQuestion (f : NameFilter) : Option String :=
  if (given f.notBeginning).isSome then some "startswith"
  else if (given f.notEnding).isSome then some "endswith"
  else if (given f.beginning).isSome then some "startswith"
  else if (given f.ending).isSome then some "endswith"
  else none

/-- Whether a name of any sort passes; without a condition every name does. -/
def passes (f : NameFilter) (name : Value) : Except NameFault Bool :=
  match f.firstQuestion with
  | none => .ok true
  | some question => f.matchesName <$> asText question name

/-- The names of the root types that are given. -/
def rootSet (s : Schema) : Except NameFault (List Value) := do
  let query ← asKey s.queryType
  let mutation ← asKey s.mutationType
  return [query, mutation].filter fun root => !root.isNull

def keeps (f : NameFilter) (roots : List Value) (t : TypeDef) : Except NameFault Bool := do
  let name ← asKey t.name
  if name.isIn roots then return true
  f.passes name

/-- A type without the possible types that are dropped. -/
def prune (dropped : List Value) (t : TypeDef) : Except NameFault TypeDef := do
  let members ← t.possibleTypes.filterM fun ref => do
    let name ← asKey ref.outer.name
    return !name.isIn dropped
  return { t with possibleTypes := members }

/-- The schema with the types that are kept. -/
def apply (f : NameFilter) (s : Schema) : Except NameFault Schema := do
  let roots ← rootSet s
  let kept ← s.types.filterM (f.keeps roots)
  let keptNames := kept.map (·.name)
  let dropped := (s.types.map (·.name)).filter fun name => !name.isIn keptNames
  let types ← kept.mapM (prune dropped)
  return { s with types }

end NameFilter
end FlowDecl
