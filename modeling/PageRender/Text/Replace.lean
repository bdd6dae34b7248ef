/-!
# Replacing in a text

A pattern is replaced in the whole text at once: from left to right, at places that do not overlap, and
not again in what took its place.
-/

namespace PageRender.Text

/-- A text with every place of a pattern that is not empty replaced, from left to right. -/
def replaceAll (pattern replacement : List Char) : List Char → List Char
  | [] => []
  | c :: rest =>
      if pattern.isPrefixOf (c :: rest) then
        replacement ++ replaceAll pattern replacement (rest.drop (pattern.length - 1))
      else c :: replaceAll pattern replacement rest
  termination_by text => text.length
  decreasing_by all_goals simp [List.length_drop]; try omega

/-- A single character is replaced wherever it stands. -/
theorem replaceAll_singleton (c : Char) (replacement text : List Char) :
    replaceAll [c] replacement text =
      text.flatMap fun d => if d = c then replacement else [d] := by
  induction text with
  | nil => rw [replaceAll, List.flatMap_nil]
  | cons d rest ih =>
      rw [replaceAll, List.flatMap_cons]
      by_cases same : d = c
      · simp [same, ih]
      · have other : (c == d) = false := beq_eq_false_iff_ne.mpr (Ne.symm same)
        simp [List.isPrefixOf, other, same, ih]

end PageRender.Text
