import FlowDecl.Text.Pieces

/-!
# Path texts

Paths are texts of parts with slashes between them.  The functions here look at the text alone and
know nothing of which files there are.
-/

namespace FlowDecl
namespace Files

/-- The parts of a path; doubled slashes leave no part. -/
def parts (path : String) : List String :=
  ((Text.splitOn '/' path.toList).filter fun p => !p.isEmpty).map String.ofList

/-- What comes after the last slash. -/
def baseName (path : String) : String :=
  String.ofList (path.toList.reverse.takeWhile (· != '/')).reverse

/-- What comes before the last slash, without slashes at its end unless it has nothing else. -/
def dirName (path : String) : String :=
  let head := path.toList.reverse.dropWhile (· != '/')
  let bare := head.dropWhile (· = '/')
  String.ofList (if bare.isEmpty then head else bare).reverse

def below (path part : String) : String :=
  path ++ "/" ++ part

/-- Follows parts from a place by their text alone: a dot stays and two dots go up.  Nothing is
above the top. -/
def follow (place : List String) : List String → List String
  | [] => place
  | part :: rest =>
    if part = "." then follow place rest
    else if part = ".." then follow place.dropLast rest
    else follow (place ++ [part]) rest

def fullPath (place : List String) : String :=
  if place.isEmpty then "/" else place.foldl below ""

end Files
end FlowDecl
