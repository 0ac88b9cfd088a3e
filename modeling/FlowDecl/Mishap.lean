/-!
# Mishaps

The program leaves some of its work to parts that it does not have itself: how a body is decoded,
how a type system is built and introspected, how a template is filled in, and how a line is shown.
Such a part may end without a result for reasons of its own.
-/

namespace FlowDecl

/-- How a part that is not the program's own ends without a result. -/
structure Mishap where
  /-- The class of what went wrong. -/
  sort : String
  words : String
  deriving DecidableEq, Repr, Inhabited

end FlowDecl
