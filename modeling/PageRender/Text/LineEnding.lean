/-!
# Line endings

A text with uniform line endings: every line ends with a line feed, whether it was ended by a line
feed, by a carriage return or by both.
-/

namespace PageRender.Text

def uniformLines : List Char → List Char
  | [] => []
  | '\r' :: '\n' :: rest => '\n' :: uniformLines rest
  | '\r' :: rest => '\n' :: uniformLines rest
  | c :: rest => c :: uniformLines rest

/-- A text without one byte order mark at its start. -/
def withoutMark : List Char → List Char
  | '\uFEFF' :: rest => rest
  | text => text

end PageRender.Text
