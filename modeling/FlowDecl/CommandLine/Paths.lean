import FlowDecl.CommandLine.Generate
import FlowDecl.CommandLine.Words

/-!
# Paths in arguments

Which files a session looks at is seen only while it runs.  The paths collected here are those that
its arguments may name, so that the files can be read before the session begins.  A path too many
does no harm.
-/

namespace FlowDecl
namespace CommandLine

/-- The texts in an argument that may be values: the argument itself, and for options what is left
of it from any character on. -/
def valuesIn (argument : String) : List String :=
  if Text.beginsWith "-" argument then
    (List.range argument.length).map fun n => String.ofList (argument.toList.drop n)
  else [argument]

/-- The paths in a value: the value itself, the template below it, and the words of a command. -/
def pathsIn (value : String) : List String :=
  [value, Files.below value Module.templateName] ++ (splitCommand value).toOption.getD []

/-- The paths that some arguments may name. -/
def pathsOf (arguments : List String) : List String :=
  Generate.standardOutput :: (arguments.flatMap valuesIn).flatMap pathsIn

/-- The places that a path leads through from the outermost directory, and the one that it leads
to. -/
def placesOn (tree : Files.Tree) (path : String) : List (List String) :=
  let parts := (tree.route path).1 ++ (tree.route path).2
  (List.range (parts.length + 1)).map fun n => Files.follow [] (parts.take n)

end CommandLine
end FlowDecl
