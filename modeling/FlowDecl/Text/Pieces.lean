/-!
# Pieces between separators

A text is cut at every place where a separator stands; the pieces may be empty, and there is always
one more of them than there are separators.
-/

namespace FlowDecl
namespace Text

/-- The pieces of a text between the places where a character stands. -/
def splitOn (sep : Char) : List Char → List (List Char)
  | [] => [[]]
  | c :: rest =>
    if c = sep then [] :: splitOn sep rest
    else
      match splitOn sep rest with
      | [] => [[c]]
      | piece :: pieces => (c :: piece) :: pieces

end Text
end FlowDecl
