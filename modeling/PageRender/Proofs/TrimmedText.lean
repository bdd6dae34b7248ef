import Mathlib
import PageRender.Text.Blank

/-!
# Trimmed texts

Which characters are blank, whatever their case, and what trimming leaves: blanks at the ends make
no difference to it, nothing else is lost, and a text without blanks stays as it is.
-/

namespace PageRender.Text

/-! ## Characters -/

theorem isBlank_eq_false_of_isAlphanum {c : Char} (letter : c.isAlphanum = true) :
    isBlank c = false := by
  simp only [Char.isAlphanum, Char.isAlpha, Char.isUpper, Char.isLower, Char.isDigit,
    Bool.or_eq_true, Bool.and_eq_true, decide_eq_true_eq, UInt32.le_iff_toNat_le, ge_iff_le]
    at letter
  change ((0x41 ≤ c.toNat ∧ c.toNat ≤ 0x5A) ∨ 0x61 ≤ c.toNat ∧ c.toNat ≤ 0x7A) ∨
    0x30 ≤ c.toNat ∧ c.toNat ≤ 0x39 at letter
  simp only [isBlank, Bool.or_eq_false_iff, Bool.and_eq_false_iff, decide_eq_false_iff_not,
    beq_eq_false_iff_ne]
  omega

theorem isBlank_toLower (c : Char) : isBlank c.toLower = isBlank c := by
  by_cases upper : c.isUpper = true
  · have letter : c.isAlphanum = true := by simp [Char.isAlphanum, Char.isAlpha, upper]
    have lowered : c.toLower.isAlphanum = true := by
      simp [Char.isAlphanum, Char.isAlpha, upper]
    rw [isBlank_eq_false_of_isAlphanum letter, isBlank_eq_false_of_isAlphanum lowered]
  · rw [Char.toLower_eq_of_not_isUpper upper]

theorem toLower_eq_iff_of_not_isAlpha {c mark : Char} (notLetter : mark.isAlpha = false) :
    c.toLower = mark ↔ c = mark := by
  by_cases upper : c.isUpper = true
  · have letter : c.isAlpha = true := by simp [Char.isAlpha, upper]
    constructor
    · intro lowered
      rw [← lowered, Char.isAlpha_toLower_eq_isAlpha, letter] at notLetter
      cases notLetter
    · rintro rfl
      rw [letter] at notLetter
      cases notLetter
  · rw [Char.toLower_eq_of_not_isUpper upper]

/-! ## Trimming -/

variable {inClass : Char → Bool} {text : List Char}

theorem trimEndBy_map (inClass : Char → Bool) {change : Char → Char}
    (kept : ∀ c, inClass (change c) = inClass c) (text : List Char) :
    trimEndBy inClass (text.map change) = (trimEndBy inClass text).map change := by
  have same : inClass ∘ change = inClass := funext kept
  rw [trimEndBy, trimEndBy, ← List.map_reverse, List.dropWhile_map, same, List.map_reverse]

theorem trim_map_toLower (text : List Char) :
    trim (text.map Char.toLower) = (trim text).map Char.toLower := by
  have same : isBlank ∘ Char.toLower = isBlank := funext isBlank_toLower
  rw [trim, trim, trimBy, trimBy, trimStartBy, trimStartBy, List.dropWhile_map, same,
    trimEndBy_map isBlank isBlank_toLower]

theorem trimEndBy_append {trailing : List Char} (inside : ∀ c ∈ trailing, inClass c = true) :
    trimEndBy inClass (text ++ trailing) = trimEndBy inClass text := by
  rw [trimEndBy, trimEndBy, List.reverse_append, List.dropWhile_append_of_pos]
  intro c c_mem
  exact inside c (List.mem_reverse.mp c_mem)

theorem trim_padded {leading trailing : List Char} (blankBefore : isAllBlank leading = true)
    (blankBehind : isAllBlank trailing = true) : trim (leading ++ text ++ trailing) = trim text := by
  have before := List.all_eq_true.mp blankBefore
  have behind := List.all_eq_true.mp blankBehind
  rw [trim, trim, trimBy, trimBy, trimStartBy, trimStartBy, List.append_assoc,
    List.dropWhile_append_of_pos before, List.dropWhile_append]
  split
  · rename_i none
    rw [List.isEmpty_iff.mp none, List.dropWhile_eq_nil_iff.mpr behind]
  · exact trimEndBy_append behind

/-- What is trimmed is blank. -/
theorem exists_padding (text : List Char) :
    ∃ leading trailing, isAllBlank leading = true ∧ isAllBlank trailing = true ∧
      leading ++ trim text ++ trailing = text := by
  refine ⟨text.takeWhile isBlank, (text.dropWhile isBlank).rtakeWhile isBlank, ?_, ?_, ?_⟩
  · exact List.all_eq_true.mpr fun c c_mem => List.mem_takeWhile_imp c_mem
  · exact List.all_eq_true.mpr fun c c_mem => List.mem_rtakeWhile_imp c_mem
  · have whole : trim text ++ (text.dropWhile isBlank).rtakeWhile isBlank = text.dropWhile isBlank :=
      List.rdropWhile_append_rtakeWhile
    rw [List.append_assoc, whole, List.takeWhile_append_dropWhile]

/-- Nothing is left exactly of a blank text. -/
theorem trim_eq_nil_iff (text : List Char) : trim text = [] ↔ isAllBlank text = true := by
  constructor
  · intro nothing
    rcases exists_padding text with ⟨leading, trailing, blankBefore, blankBehind, whole⟩
    rw [nothing, List.append_nil] at whole
    rw [← whole, isAllBlank, List.all_append, Bool.and_eq_true]
    exact ⟨blankBefore, blankBehind⟩
  · intro blank
    have padded := @trim_padded [] text [] blank rfl
    rwa [List.append_nil, List.append_nil] at padded

theorem dropWhile_eq_self (free : ∀ c ∈ text, inClass c = false) :
    text.dropWhile inClass = text := by
  cases text with
  | nil => rfl
  | cons c rest => simp [free c List.mem_cons_self]

theorem trimEndBy_eq_self (free : ∀ c ∈ text, inClass c = false) :
    trimEndBy inClass text = text := by
  rw [trimEndBy, dropWhile_eq_self, List.reverse_reverse]
  intro c c_mem
  exact free c (List.mem_reverse.mp c_mem)

theorem trim_eq_self (free : ∀ c ∈ text, isBlank c = false) : trim text = text := by
  rw [trim, trimBy, trimStartBy, dropWhile_eq_self free, trimEndBy_eq_self free]

end PageRender.Text
