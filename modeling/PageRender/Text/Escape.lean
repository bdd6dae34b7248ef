/-!
# Escaping text for markup

Four characters are written as character references wherever text is placed into markup: the
ampersand, the two angle brackets and the double quote. `escape` writes them, `unescape` reads them
back, and `unescape_escape` says that nothing is lost.
-/

namespace PageRender.Text

def escapeChar : Char → List Char
  | '&' => ['&', 'a', 'm', 'p', ';']
  | '<' => ['&', 'l', 't', ';']
  | '>' => ['&', 'g', 't', ';']
  | '"' => ['&', 'q', 'u', 'o', 't', ';']
  | c => [c]

/-- A text with its ampersands, angle brackets and double quotes written as references. -/
def escape (text : List Char) : List Char :=
  text.flatMap escapeChar

/-- Reads the four references back; any other ampersand stands for itself. -/
def unescape : List Char → List Char
  | '&' :: 'a' :: 'm' :: 'p' :: ';' :: rest => '&' :: unescape rest
  | '&' :: 'l' :: 't' :: ';' :: rest => '<' :: unescape rest
  | '&' :: 'g' :: 't' :: ';' :: rest => '>' :: unescape rest
  | '&' :: 'q' :: 'u' :: 'o' :: 't' :: ';' :: rest => '"' :: unescape rest
  | c :: rest => c :: unescape rest
  | [] => []

@[simp]
theorem escape_nil : escape [] = [] := rfl

@[simp]
theorem escape_cons (c : Char) (text : List Char) :
    escape (c :: text) = escapeChar c ++ escape text := rfl

@[simp]
theorem escape_append (left right : List Char) :
    escape (left ++ right) = escape left ++ escape right := by
  simp [escape]

/-- No angle bracket and no double quote is left where a character is written. -/
theorem not_mem_escapeChar {special : Char} (isSpecial : special ∈ ['<', '>', '"']) (c : Char) :
    special ∉ escapeChar c := by
  simp only [List.mem_cons, List.not_mem_nil, or_false] at isSpecial
  rcases isSpecial with rfl | rfl | rfl <;> simp only [escapeChar] <;> split <;> simp_all [eq_comm]

theorem not_mem_escape {special : Char} (isSpecial : special ∈ ['<', '>', '"'])
    (text : List Char) : special ∉ escape text := by
  intro special_mem
  rcases List.mem_flatMap.mp special_mem with ⟨c, -, written⟩
  exact not_mem_escapeChar isSpecial c written

/-- Reading a written character back gives the character. -/
theorem unescape_escapeChar (c : Char) (rest : List Char) :
    unescape (escapeChar c ++ rest) = c :: unescape rest := by
  unfold escapeChar
  split
  · rfl
  · rfl
  · rfl
  · rfl
  · rename_i amp _ _ _
    rw [List.singleton_append, unescape] <;> simp_all

/-- Reading a written text back gives the text. -/
theorem unescape_escape (text : List Char) : unescape (escape text) = text := by
  induction text with
  | nil => rfl
  | cons c rest ih => rw [escape_cons, unescape_escapeChar, ih]

end PageRender.Text

namespace String

/-- A string with its ampersands, angle brackets and double quotes written as references. -/
def escapeMarkup (text : String) : String :=
  .ofList (PageRender.Text.escape text.toList)

end String
