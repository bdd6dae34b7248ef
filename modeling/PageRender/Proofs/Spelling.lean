import PageRender.Proofs.PolicyNames
import PageRender.Proofs.TrimmedText

/-!
# Spellings of names

A name may be written with blanks around it and in any case. Two written names have the same plain
form exactly if nothing else tells them apart, and a name that is plain already is its own plain
form.
-/

namespace PageRender

open Policy

/-- Two written names that only blanks around them and the case of their letters tell apart. -/
inductive SameName : String → String → Prop where
  | cased {left right : String} (same : left.toLower = right.toLower) : SameName left right
  | padded (name : String) {before behind : String} (leading : before.isAllBlank = true)
      (trailing : behind.isAllBlank = true) : SameName (before ++ name ++ behind) name
  | symm {left right : String} (same : SameName left right) : SameName right left
  | trans {left middle right : String} (first : SameName left middle)
      (second : SameName middle right) : SameName left right

namespace Policy

/-! ## Plain forms -/

theorem normaliseName_padded (name : String) {before behind : String}
    (leading : before.isAllBlank = true) (trailing : behind.isAllBlank = true) :
    normaliseName (before ++ name ++ behind) = normaliseName name := by
  unfold normaliseName String.trimBlank
  rw [String.toList_append, String.toList_append, Text.trim_padded leading trailing]

theorem normaliseName_toLower (name : String) :
    normaliseName name.toLower = normaliseName name := by
  rw [← String.toList_inj]
  simp [normaliseName, String.trimBlank, String.toLower, Text.trim_map_toLower,
    Function.comp_def]

/-- Two written names have one plain form exactly if only blanks and case tell them apart. -/
theorem normaliseName_eq_iff {left right : String} :
    normaliseName left = normaliseName right ↔ SameName left right := by
  constructor
  · intro same
    have padded (name : String) : SameName name name.trimBlank := by
      rcases Text.exists_padding name.toList with ⟨before, behind, leading, trailing, whole⟩
      have split : String.ofList before ++ name.trimBlank ++ String.ofList behind = name := by
        rw [← String.toList_inj]
        simpa [String.trimBlank] using whole
      have spelled : SameName (String.ofList before ++ name.trimBlank ++ String.ofList behind)
          name.trimBlank :=
        SameName.padded _ (by simpa [String.isAllBlank] using leading)
          (by simpa [String.isAllBlank] using trailing)
      rwa [split] at spelled
    exact (padded left).trans ((SameName.cased same).trans (padded right).symm)
  · intro same
    induction same with
    | cased same => rw [← normaliseName_toLower, same, normaliseName_toLower]
    | padded name leading trailing => exact normaliseName_padded name leading trailing
    | symm _ ih => exact ih.symm
    | trans _ _ first second => exact first.trans second

instance : DecidableRel SameName := fun left right =>
  decidable_of_iff ((normaliseName left).toList = (normaliseName right).toList)
    (String.toList_inj.trans normaliseName_eq_iff)

theorem normaliseSchemeName_eq (written : String) :
    normaliseSchemeName written =
      .ofList (Text.trimEndBy (· == ':') (normaliseName written).toList) := by
  have kept (c : Char) : (c.toLower == ':') = (c == ':') := by
    rw [Bool.eq_iff_iff, beq_iff_eq, beq_iff_eq]
    exact Text.toLower_eq_iff_of_not_isAlpha (by decide)
  rw [← String.toList_inj]
  simp [normaliseSchemeName, normaliseName, String.toLower, Text.trimEndBy_map (· == ':') kept]

theorem normaliseSchemeName_congr {left right : String} (same : SameName left right) :
    normaliseSchemeName left = normaliseSchemeName right := by
  rw [normaliseSchemeName_eq, normaliseSchemeName_eq, normaliseName_eq_iff.mpr same]

/-! ## Names that are plain already -/

/-- The name of a scheme in the form that policies keep. -/
structure IsPlainScheme (scheme : String) : Prop where
  name : isSchemeName scheme = true
  lower : scheme.toLower = scheme

instance (scheme : String) : Decidable (IsPlainScheme scheme) :=
  decidable_of_iff (isSchemeName scheme = true ∧ scheme.toLower = scheme)
    ⟨fun both => ⟨both.1, both.2⟩, fun plain => ⟨plain.name, plain.lower⟩⟩

theorem isPlainScheme_of_normaliseScheme {written scheme : String}
    (normalised : normaliseScheme written = .ok scheme) : IsPlainScheme scheme := by
  rcases normaliseScheme_eq_ok.mp normalised with ⟨named, rfl⟩
  refine ⟨named, ?_⟩
  rw [← String.toList_inj]
  simp [normaliseSchemeName, String.toLower, Function.comp_def]

theorem IsPlainName.unblank {name : String} (plain : IsPlainName name) :
    ∀ c ∈ name.toList, Text.isBlank c = false := by
  rcases exists_first_of_isMarkupName plain.markup with ⟨first, more, spelt, -, named⟩
  rw [spelt]
  intro c c_mem
  have inName := named c c_mem
  simp only [Bool.or_eq_true, beq_iff_eq] at inName
  rcases inName with ((letter | rfl) | rfl) | rfl
  · exact Text.isBlank_eq_false_of_isAlphanum letter
  all_goals decide

theorem IsPlainScheme.unblank {scheme : String} (plain : IsPlainScheme scheme) :
    ∀ c ∈ scheme.toList, Text.isBlank c = false ∧ c ≠ ':' := by
  have named := plain.name
  unfold isSchemeName at named
  split at named
  · cases named
  · rename_i first more spelt
    rw [spelt]
    simp only [Bool.and_eq_true, List.all_eq_true, Bool.or_eq_true, beq_iff_eq] at named
    have ofLetter {c : Char} (letter : c.isAlphanum = true) :
        Text.isBlank c = false ∧ c ≠ ':' := by
      refine ⟨Text.isBlank_eq_false_of_isAlphanum letter, ?_⟩
      rintro rfl
      cases letter
    intro c c_mem
    rcases List.mem_cons.mp c_mem with rfl | later
    · exact ofLetter (by simp [Char.isAlphanum, named.1])
    · rcases named.2 c later with ((letter | rfl) | rfl) | rfl
      · exact ofLetter letter
      all_goals decide

theorem trimBlank_eq_self {name : String} (unblank : ∀ c ∈ name.toList, Text.isBlank c = false) :
    name.trimBlank = name := by
  rw [String.trimBlank, Text.trim_eq_self unblank, String.ofList_toList]

theorem IsPlainName.normaliseName_eq {name : String} (plain : IsPlainName name) :
    normaliseName name = name := by
  rw [normaliseName, trimBlank_eq_self plain.unblank, plain.lower]

theorem IsPlainScheme.normaliseSchemeName_eq {scheme : String} (plain : IsPlainScheme scheme) :
    normaliseSchemeName scheme = scheme := by
  have uncolon : ∀ c ∈ scheme.toList, (c == ':') = false := by
    intro c c_mem
    simpa using (plain.unblank c c_mem).2
  rw [normaliseSchemeName, trimBlank_eq_self fun c c_mem => (plain.unblank c c_mem).1,
    Text.trimEndBy_eq_self uncolon, String.ofList_toList, plain.lower]

end Policy

end PageRender
