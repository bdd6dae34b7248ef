/-!
# Splitting texts

The pieces of a text between the places where a character stands.
-/

namespace PageRender.Text

/-- The pieces of a text between the places of a character, empty ones included. -/
def splitOn (mark : Char) : List Char → List (List Char)
  | [] => [[]]
  | c :: rest =>
      if c == mark then [] :: splitOn mark rest
      else match splitOn mark rest with
        | first :: others => (c :: first) :: others
        | [] => [[c]]

end PageRender.Text
