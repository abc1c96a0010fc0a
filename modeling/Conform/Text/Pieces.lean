/-!
Splitting text at every occurrence of a separator.
-/
namespace Conform.Text

/-- The pieces between separators; there is always one more piece than separators. -/
def pieces (sep : Char) : List Char → List (List Char)
  | [] => [[]]
  | c :: r =>
    if c = sep then [] :: pieces sep r
    else
      match pieces sep r with
      | p :: ps => (c :: p) :: ps
      | [] => [[c]]

def splitAtChar (sep : Char) (s : String) : List String :=
  (pieces sep s.toList).map String.ofList

end Conform.Text
