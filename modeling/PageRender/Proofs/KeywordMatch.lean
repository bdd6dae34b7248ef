import Mathlib
import PageRender.Highlight
import PageRender.Proofs.TrimmedText

/-!
# Where keywords match

A double quote and the ends of lines bar a keyword: they are in no keyword of a query, and no case
variant of theirs is. So an occurrence of a keyword never reaches across such a character, and
whether a text begins with a keyword does not depend on what stands behind the next of them.
-/

namespace PageRender

/-! ## Barriers -/

namespace Highlighter

/-- Whether a character ends a line or is a double quote. -/
def isBarrier (c : Char) : Bool :=
  c == '"' || isLineEnd c

theorem isBarrier_iff {c : Char} :
    isBarrier c = true ↔ c ∈ ['"', '\n', '\r', '\u2028', '\u2029'] := by
  simp [isBarrier, isLineEnd, or_assoc]

end Highlighter

namespace Text

open Highlighter

def barrierPoints : List Nat :=
  [0x22, 0x0a, 0x0d, 0x2028, 0x2029]

theorem toNat_mem_barrierPoints {c : Char} (barrier : isBarrier c = true) :
    c.toNat ∈ barrierPoints := by
  rw [isBarrier_iff] at barrier
  simp only [List.mem_cons, List.not_mem_nil, or_false] at barrier
  rcases barrier with rfl | rfl | rfl | rfl | rfl <;> decide

/-- Case folding neither maps a barrier nor maps anything to one. -/
theorem foldRuns_avoid_barriers : ∀ run ∈ foldRuns, ∀ barrier ∈ barrierPoints,
    run.covers barrier = false ∧
      ((barrier : Int) < run.first + run.shift ∨ (run.last : Int) + run.shift < barrier) := by
  decide +kernel

theorem image_ne_barrier {run : CaseRun} (run_mem : run ∈ foldRuns) {point barrier : Nat}
    (covered : run.covers point = true) (barrier_mem : barrier ∈ barrierPoints) :
    run.image point ≠ barrier := by
  have positive : ∀ barrier ∈ barrierPoints, 0 < barrier := by decide
  have := positive barrier barrier_mem
  simp only [CaseRun.covers, Bool.and_eq_true, decide_eq_true_eq] at covered
  intro mapped
  simp only [CaseRun.image] at mapped
  rcases (foldRuns_avoid_barriers run run_mem barrier barrier_mem).2 with below | above <;> omega

theorem mapPoint_barrier {barrier : Nat} (barrier_mem : barrier ∈ barrierPoints) :
    mapPoint foldRuns barrier = barrier := by
  have none : foldRuns.find? (·.covers barrier) = none := by
    rw [List.find?_eq_none]
    intro run run_mem
    simp [(foldRuns_avoid_barriers run run_mem barrier barrier_mem).1]
  rw [mapPoint, none]

theorem eq_of_mapPoint_eq_barrier {point barrier : Nat} (barrier_mem : barrier ∈ barrierPoints)
    (mapped : mapPoint foldRuns point = barrier) : point = barrier := by
  unfold mapPoint at mapped
  split at mapped
  · rename_i run found
    have covered := List.find?_some found
    exact absurd mapped (image_ne_barrier (List.mem_of_find?_eq_some found) covered barrier_mem)
  · exact mapped

theorem isAlpha_barrier {c : Char} (barrier : isBarrier c = true) : c.isAlpha = false := by
  rw [isBarrier_iff] at barrier
  simp only [List.mem_cons, List.not_mem_nil, or_false] at barrier
  rcases barrier with rfl | rfl | rfl | rfl | rfl <;> decide

theorem simpleFold_eq_barrier {c barrier : Char} (isBar : isBarrier barrier = true) :
    simpleFold c = barrier ↔ c = barrier := by
  have point_mem := toNat_mem_barrierPoints isBar
  unfold simpleFold
  split
  · exact toLower_eq_iff_of_not_isAlpha (isAlpha_barrier isBar)
  · constructor
    · intro folded
      have points := congrArg Char.toNat folded
      rw [Char.toNat_ofNat] at points
      split at points
      · exact Char.toNat_inj.mp (eq_of_mapPoint_eq_barrier point_mem points)
      · rw [← points] at point_mem
        exact absurd point_mem (by decide)
    · rintro rfl
      rw [mapPoint_barrier point_mem, Char.ofNat_toNat]

/-- A barrier has no other case variant. -/
theorem eq_of_sameLetter_barrier {letter c : Char} (barrier : isBarrier c = true)
    (same : sameLetter letter c = true) : letter = c := by
  simp only [sameLetter, Bool.or_eq_true, beq_iff_eq] at same
  rcases same with equal | folded
  · exact equal
  · rw [(simpleFold_eq_barrier barrier).mpr rfl] at folded
    exact (simpleFold_eq_barrier barrier).mp folded

/-! ## Pieces of a text -/

/-- A piece of a text holds something, and only characters of the text outside the class. -/
theorem of_mem_fieldsFrom {inClass : Char → Bool} {holds : Char → Prop}
    {current text field : List Char} (read : ∀ c ∈ current, holds c)
    (unread : ∀ c ∈ text, inClass c = false → holds c)
    (field_mem : field ∈ fieldsFrom inClass current text) :
    field ≠ [] ∧ ∀ c ∈ field, holds c := by
  have whole {current : List Char} (read : ∀ c ∈ current, holds c)
      (started : ¬current.isEmpty = true) :
      current.reverse ≠ [] ∧ ∀ c ∈ current.reverse, holds c :=
    ⟨by simpa using started, fun c c_mem => read c (List.mem_reverse.mp c_mem)⟩
  induction text generalizing current with
  | nil =>
      unfold fieldsFrom at field_mem
      split at field_mem
      · cases field_mem
      · rename_i started
        rw [List.mem_singleton.mp field_mem]
        exact whole read started
  | cons first rest ih =>
      have later : ∀ c ∈ rest, inClass c = false → holds c :=
        fun c c_mem => unread c (List.mem_cons_of_mem _ c_mem)
      have restart : field ∈ fieldsFrom inClass [] rest → field ≠ [] ∧ ∀ c ∈ field, holds c :=
        fun rest_mem => ih (by simp) later rest_mem
      unfold fieldsFrom at field_mem
      split at field_mem
      · split at field_mem
        · exact restart field_mem
        · rename_i started
          rcases List.mem_cons.mp field_mem with rfl | rest_mem
          · exact whole read started
          · exact restart rest_mem
      · rename_i outside
        refine ih (fun c c_mem => ?_) later field_mem
        rcases List.mem_cons.mp c_mem with rfl | c_mem
        · exact unread c (by simp) (by simpa using outside)
        · exact read c c_mem

end Text

/-! ## Keywords -/

namespace Keyword

open Highlighter

/-- A keyword as queries give it: not empty, and without barriers. -/
structure Plain (keyword : Keyword) : Prop where
  nonempty : keyword ≠ []
  free : ∀ letter ∈ keyword, isBarrier letter = false

theorem isBlank_of_isLineEnd {c : Char} (lineEnd : isLineEnd c = true) : Text.isBlank c = true := by
  simp only [isLineEnd, Bool.or_eq_true, beq_iff_eq] at lineEnd
  rcases lineEnd with ((rfl | rfl) | rfl) | rfl <;> decide

theorem plain_of_mem_ofQuery {keyword : Keyword} {query : List Char}
    (keyword_mem : keyword ∈ ofQuery query) : keyword.Plain := by
  have unread : ∀ c ∈ query.filter (· != '"'), Text.isBlank c = false → isBarrier c = false := by
    intro c c_mem notBlank
    have notQuote := (List.mem_filter.mp c_mem).2
    have notLineEnd : isLineEnd c = false := by
      by_contra lineEnd
      simp [isBlank_of_isLineEnd (by simpa using lineEnd)] at notBlank
    simpa [isBarrier, notLineEnd] using notQuote
  rcases Text.of_mem_fieldsFrom (by simp) unread keyword_mem with ⟨nonempty, free⟩
  exact ⟨nonempty, free⟩

/-- A piece of a text that a keyword matches: the same letters, up to case. -/
def Spells (keyword : Keyword) (matched : List Char) : Prop :=
  List.Forall₂ (fun letter c => Text.sameLetter letter c = true) keyword matched

/-- What a keyword without barriers matches holds none. -/
theorem Spells.free {keyword : Keyword} {matched : List Char} (spells : keyword.Spells matched)
    (free : ∀ letter ∈ keyword, isBarrier letter = false) :
    ∀ c ∈ matched, isBarrier c = false := by
  induction spells with
  | nil => exact free
  | @cons letter c letters others same _ ih =>
      rcases List.forall_mem_cons.mp free with ⟨first, later⟩
      refine List.forall_mem_cons.mpr ⟨?_, ih later⟩
      by_contra barrier
      have isBar : isBarrier c = true := by simpa using barrier
      rw [← Text.eq_of_sameLetter_barrier isBar same, first] at isBar
      cases isBar

theorem matchStart_eq_some_iff {keyword : Keyword} {text matched rest : List Char} :
    keyword.matchStart text = some (matched, rest) ↔
      keyword.Spells matched ∧ text = matched ++ rest := by
  induction keyword generalizing text matched with
  | nil =>
      rw [matchStart, Option.some.injEq, Prod.mk.injEq, Spells, List.forall₂_nil_left_iff]
      constructor <;> rintro ⟨rfl, rfl⟩ <;> exact ⟨rfl, rfl⟩
  | cons letter letters ih =>
      cases text with
      | nil =>
          constructor
          · intro found
            simp [matchStart] at found
          · rintro ⟨spells, joined⟩
            rcases List.append_eq_nil_iff.mp joined.symm with ⟨rfl, -⟩
            cases spells
      | cons c text =>
          constructor
          · intro found
            unfold matchStart at found
            split at found
            · rename_i same
              rcases Option.map_eq_some_iff.mp found with ⟨⟨tail, after⟩, tailFound, found⟩
              cases found
              rcases ih.mp tailFound with ⟨spells, rfl⟩
              exact ⟨.cons same spells, rfl⟩
            · cases found
          · rintro ⟨spells, joined⟩
            cases spells with
            | cons same spells =>
                rcases List.cons.inj joined with ⟨rfl, rfl⟩
                simp [matchStart, same, ih.mpr ⟨spells, rfl⟩]

theorem matchStart_nil {keyword : Keyword} (nonempty : keyword ≠ []) :
    keyword.matchStart [] = none := by
  cases keyword with
  | nil => exact absurd rfl nonempty
  | cons letter letters => rfl

/-- Whether a text begins with a keyword does not depend on what stands behind the next barrier. -/
theorem matchStart_append_barrier {keyword : Keyword}
    (free : ∀ letter ∈ keyword, isBarrier letter = false) {barrier : Char}
    (isBar : isBarrier barrier = true) (text behind : List Char) :
    keyword.matchStart (text ++ barrier :: behind) =
      (keyword.matchStart text).map fun found => (found.1, found.2 ++ barrier :: behind) := by
  induction keyword generalizing text with
  | nil => rfl
  | cons letter letters ih =>
      rcases List.forall_mem_cons.mp free with ⟨first, others⟩
      cases text with
      | nil =>
          have differs : Text.sameLetter letter barrier = false := by
            by_contra same
            have equal := Text.eq_of_sameLetter_barrier isBar (by simpa using same)
            rw [equal, isBar] at first
            cases first
          simp [matchStart, differs]
      | cons c text =>
          simp only [List.cons_append, matchStart, ih others]
          split
          · simp [Function.comp_def]
          · rfl

theorem matchStart_append_barrier_eq_some {keyword : Keyword}
    (free : ∀ letter ∈ keyword, isBarrier letter = false) {barrier : Char}
    (isBar : isBarrier barrier = true) {text behind matched after : List Char}
    (found : keyword.matchStart (text ++ barrier :: behind) = some (matched, after)) :
    ∃ rest, keyword.matchStart text = some (matched, rest) ∧ after = rest ++ barrier :: behind := by
  rw [matchStart_append_barrier free isBar] at found
  rcases Option.map_eq_some_iff.mp found with ⟨⟨head, rest⟩, within, same⟩
  cases same
  exact ⟨rest, within, rfl⟩

theorem Plain.matchStart_barrier {keyword : Keyword} (plain : keyword.Plain) {barrier : Char}
    (isBar : isBarrier barrier = true) (behind : List Char) :
    keyword.matchStart (barrier :: behind) = none := by
  simpa [matchStart_nil plain.nonempty] using matchStart_append_barrier plain.free isBar [] behind

end Keyword

end PageRender
