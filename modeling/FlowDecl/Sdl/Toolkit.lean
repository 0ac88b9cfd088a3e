import FlowDecl.Json.Value
import FlowDecl.Mishap
import FlowDecl.Sdl.TypeSystem

/-!
# Toolkits for schema definition text

What is done with schema definition text elsewhere: a type system is built from it, and the type
system is told as an introspection document.
-/

namespace FlowDecl
namespace Sdl

/-- Why no type system is built from a text. -/
inductive BuildFault where
  /-- The text or what it defines is not valid. -/
  | invalid (words : String)
  | mishap (mishap : Mishap)
  deriving Repr, Inhabited

/-- A way to build and to introspect type systems. -/
structure Toolkit where
  build : String → Except BuildFault TypeSystem
  introspect : TypeSystem → Except Mishap Json.Value

end Sdl
end FlowDecl
