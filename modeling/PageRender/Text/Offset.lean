/-!
# Offsets in a text

A text takes one to four bytes for each of its characters, and a place in it is given by the number of
bytes before it. A text can be cut between two of its characters only: an offset that lies behind its
end or inside a character is refused.
-/

namespace PageRender.Text

/-- How many bytes a text takes. -/
def byteLength : List Char → Nat
  | [] => 0
  | c :: rest => c.utf8Size + byteLength rest

/-- A text cut at an offset. -/
def splitAt? : Nat → List Char → Option (List Char × List Char)
  | 0, text => some ([], text)
  | _ + 1, [] => none
  | offset + 1, c :: rest =>
      if c.utf8Size ≤ offset + 1 then
        (splitAt? (offset + 1 - c.utf8Size) rest).map fun (front, back) => (c :: front, back)
      else none

/-- What stands behind an offset. -/
def sliceFrom? (start : Nat) (text : List Char) : Option (List Char) :=
  (splitAt? start text).map Prod.snd

/-- What stands between two offsets. -/
def slice? (start stop : Nat) (text : List Char) : Option (List Char) :=
  (splitAt? stop text).bind fun (front, _) => sliceFrom? start front

/-- The offset behind the character that begins at an offset; at the end of the text, the end. -/
def nextOffset? (start : Nat) (text : List Char) : Option Nat :=
  (sliceFrom? start text).map fun
    | [] => byteLength text
    | c :: _ => start + c.utf8Size

@[simp]
theorem byteLength_nil : byteLength [] = 0 := rfl

@[simp]
theorem byteLength_cons (c : Char) (text : List Char) :
    byteLength (c :: text) = c.utf8Size + byteLength text := rfl

@[simp]
theorem byteLength_append (front back : List Char) :
    byteLength (front ++ back) = byteLength front + byteLength back := by
  induction front with
  | nil => simp
  | cons c front ih => rw [List.cons_append, byteLength_cons, byteLength_cons, ih, Nat.add_assoc]

theorem byteLength_pos {text : List Char} (nonempty : text ≠ []) : 0 < byteLength text := by
  cases text with
  | nil => exact absurd rfl nonempty
  | cons c rest =>
      rw [byteLength_cons]
      exact Nat.add_pos_left c.utf8Size_pos _

/-- A text is cut behind any part that it begins with. -/
theorem splitAt?_append (front back : List Char) :
    splitAt? (byteLength front) (front ++ back) = some (front, back) := by
  induction front with
  | nil => cases back <;> rfl
  | cons c front ih =>
      obtain ⟨offset, positive⟩ : ∃ offset, c.utf8Size + byteLength front = offset + 1 :=
        Nat.exists_eq_succ_of_ne_zero (by have := c.utf8Size_pos; omega)
      have within : c.utf8Size ≤ offset + 1 := by omega
      have behind : offset + 1 - c.utf8Size = byteLength front := by omega
      rw [byteLength_cons, positive, List.cons_append, splitAt?, if_pos within, behind, ih]
      rfl

@[simp]
theorem sliceFrom?_append (front back : List Char) :
    sliceFrom? (byteLength front) (front ++ back) = some back := by
  simp [sliceFrom?, splitAt?_append]

theorem slice?_append (front part back : List Char) :
    slice? (byteLength front) (byteLength (front ++ part)) (front ++ (part ++ back)) = some part := by
  rw [slice?, ← List.append_assoc, splitAt?_append]
  exact sliceFrom?_append front part

theorem nextOffset?_append (front : List Char) (c : Char) (back : List Char) :
    nextOffset? (byteLength front) (front ++ c :: back) = some (byteLength (front ++ [c])) := by
  simp [nextOffset?]

end PageRender.Text
