import Mathlib.Algebra.Order.Group.Nat
import PageRender.Highlight.Keyword

/-!
# Short and long keywords

No character has more case variants than there are runs of case pairs, and no variant takes more
than four bytes. That bounds the room that a character takes, so short keywords can always be looked
for. Every character takes some room, so long ones never can.
-/

namespace PageRender

namespace Text

theorem withoutRepeats_sublist (points : List Nat) : (withoutRepeats points).Sublist points := by
  induction points using withoutRepeats.induct with
  | case1 first second rest same ih =>
      rw [withoutRepeats, if_pos same]
      exact ih.cons first
  | case2 first second rest differ ih =>
      rw [withoutRepeats, if_neg differ]
      exact ih.cons_cons first
  | case3 points short =>
      unfold withoutRepeats
      split
      · exact absurd rfl (short _ _ _)
      · exact List.Sublist.refl _

theorem length_caseVariants_le (c : Char) : (caseVariants c).length ≤ foldRuns.length + 1 := by
  unfold caseVariants
  refine (withoutRepeats_sublist _).length_le.trans ?_
  rw [List.length_mergeSort, List.length_cons]
  exact Nat.add_le_add_right (List.length_filterMap_le _ foldRuns) 1

end Text

namespace Keyword

theorem length_utf8_le (point : Nat) : (utf8 point).length ≤ 4 := by
  unfold utf8
  split
  · simp
  · split
    · simp
    · split <;> simp

theorem length_utf8_pos (point : Nat) : 0 < (utf8 point).length := by
  unfold utf8
  split
  · simp
  · split
    · simp
    · split <;> simp

theorem mergeNeighbours_sublist (sequences : List (List Nat)) :
    (mergeNeighbours sequences).Sublist sequences := by
  induction sequences using mergeNeighbours.induct with
  | case1 first second rest neighbours ih =>
      rw [mergeNeighbours, if_pos neighbours]
      exact ih.cons first
  | case2 first second rest apart ih =>
      rw [mergeNeighbours, if_neg apart]
      exact ih.cons_cons first
  | case3 sequences short =>
      unfold mergeNeighbours
      split
      · exact absurd rfl (short _ _ _)
      · exact List.Sublist.refl _

theorem length_eraseDups_le (sequences : List (List Nat)) :
    sequences.eraseDups.length ≤ sequences.length := by
  induction size : sequences.length using Nat.strong_induction_on generalizing sequences with
  | _ count ih =>
      cases sequences with
      | nil => simp
      | cons first rest =>
          rw [List.eraseDups_cons, List.length_cons]
          have fewer := List.length_filter_le (fun bytes => !bytes == first) rest
          rw [List.length_cons] at size
          have later := ih _ (by omega) (rest.filter fun bytes => !bytes == first) rfl
          omega

theorem length_beginnings_le {sequences : List (List Nat)}
    (short : ∀ bytes ∈ sequences, bytes.length ≤ 4) :
    (beginnings sequences).length ≤ 4 * sequences.length := by
  refine (length_eraseDups_le _).trans ?_
  induction sequences with
  | nil => simp
  | cons bytes sequences ih =>
      have first := short bytes List.mem_cons_self
      have others := ih fun bytes bytes_mem => short bytes (List.mem_cons_of_mem _ bytes_mem)
      rw [List.flatMap_cons, List.length_append, List.length_map, List.length_range,
        List.length_cons]
      omega

/-- The most room that one character can take. -/
def maxCharSize : Nat :=
  64 + 132 * (Text.foldRuns.length + 1)

theorem charSize_le (c : Char) : charSize c ≤ maxCharSize := by
  have variants := Text.length_caseVariants_le c
  have merged := mergeNeighbours_sublist ((Text.caseVariants c).map utf8)
  have sequences := merged.length_le
  have short : ∀ bytes ∈ mergeNeighbours ((Text.caseVariants c).map utf8), bytes.length ≤ 4 := by
    intro bytes bytes_mem
    rcases List.mem_map.mp (merged.subset bytes_mem) with ⟨point, -, rfl⟩
    exact length_utf8_le point
  have branches := length_beginnings_le short
  have plain := length_utf8_le c.toNat
  rw [List.length_map] at sequences
  unfold charSize maxCharSize
  dsimp only
  split
  · omega
  · split <;> omega

theorem size_cons (c : Char) (rest : Keyword) : size (c :: rest) = charSize c + size rest := by
  have shift (total : Nat) : rest.foldl (fun total c => total + charSize c) total =
      total + size rest := by
    unfold size
    induction rest generalizing total with
    | nil => rfl
    | cons next rest ih =>
        rw [List.foldl_cons, List.foldl_cons, ih (total + charSize next), ih (0 + charSize next)]
        omega
  rw [size, List.foldl_cons, shift]
  omega

theorem size_le (keyword : Keyword) : keyword.size ≤ keyword.length * maxCharSize := by
  induction keyword with
  | nil => simp [size]
  | cons c rest ih =>
      have first := charSize_le c
      rw [size_cons, List.length_cons, Nat.succ_mul]
      omega

/-- Keywords of up to 37 characters, whichever, can be looked for. -/
theorem fits_of_length_le {keyword : Keyword} (short : keyword.length ≤ 37) :
    keyword.fits = true := by
  have room : 37 * maxCharSize ≤ sizeLimit := by decide +kernel
  rw [fits, decide_eq_true_eq]
  calc keyword.size ≤ keyword.length * maxCharSize := keyword.size_le
    _ ≤ 37 * maxCharSize := Nat.mul_le_mul_right _ short
    _ ≤ sizeLimit := room

theorem le_charSize (c : Char) : 32 ≤ charSize c := by
  have bytes := length_utf8_pos c.toNat
  unfold charSize
  dsimp only
  split
  · omega
  · split <;> omega

theorem length_mul_le_size (keyword : Keyword) : keyword.length * 32 ≤ keyword.size := by
  induction keyword with
  | nil => simp
  | cons c rest ih =>
      have first := le_charSize c
      rw [size_cons, List.length_cons, Nat.succ_mul]
      omega

/-- Keywords of more than 32768 characters, whichever, are refused. -/
theorem fits_eq_false_of_lt_length {keyword : Keyword} (long : 32768 < keyword.length) :
    keyword.fits = false := by
  have room := keyword.length_mul_le_size
  rw [fits, decide_eq_false_iff_not, sizeLimit]
  omega

end Keyword

end PageRender
