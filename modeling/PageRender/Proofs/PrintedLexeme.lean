import PageRender.Proofs.EscapedText
import PageRender.Proofs.PolicyNames

/-!
# Reading what is printed

The tags that printing writes and the escaped text between them are read again as the tags and the
text that they were printed from, whatever follows. This asks little of an element: its name and
those of its attributes are plain, no name is given twice, and no value holds a null.
-/

namespace PageRender.Html

open Policy (IsPlainName)

theorem span_append {p : Char → Bool} {front rest : List Char}
    (inside : ∀ c ∈ front, p c = true) (stops : ∀ c ∈ rest.head?, p c = false) :
    (front ++ rest).span p = (front, rest) := by
  rw [List.span_eq_takeWhile_dropWhile, List.takeWhile_append_of_pos inside,
    List.dropWhile_append_of_pos inside]
  cases rest with
  | nil => simp
  | cons c rest =>
      have stop : p c = false := stops c rfl
      simp [stop]

/-! ## Names -/

/-- The characters that no plain name holds, though markup is written with them. -/
def delimiters : List Char :=
  [' ', '\t', '\n', '\x0c', '\r', '/', '>', '=', '<', '!', '?', '\x00']

theorem not_mem_delimiters {c : Char}
    (markup : (c.isAlphanum || c == '-' || c == '_' || c == ':') = true) : c ∉ delimiters := by
  intro listed
  revert markup
  fin_cases listed <;> decide

/-- A plain name begins with a letter, and nothing in it delimits a name. -/
theorem exists_first_of_isPlainName {name : String} (plain : IsPlainName name) :
    ∃ first more, name.toList = first :: more ∧ first.isAlpha = true ∧
      ∀ c ∈ first :: more, c ∉ delimiters := by
  rcases Policy.exists_first_of_isMarkupName plain.markup with ⟨first, more, spelt, letter, named⟩
  exact ⟨first, more, spelt, letter, fun c c_mem => not_mem_delimiters (named c c_mem)⟩

theorem not_mem_delimiters_of_isPlainName {name : String} (plain : IsPlainName name) {c : Char}
    (c_mem : c ∈ name.toList) : c ∉ delimiters := by
  rcases exists_first_of_isPlainName plain with ⟨first, more, spelt, -, inside⟩
  exact inside c (spelt ▸ c_mem)

theorem endsAttributeName_eq_false {c : Char} (inside : c ∉ delimiters) :
    Lexeme.endsAttributeName c = false := by
  simp only [delimiters, List.mem_cons, not_or] at inside
  simp [Lexeme.endsAttributeName, Lexeme.endsTagName, isSpace, inside]

theorem endsTagName_eq_false {c : Char} (inside : c ∉ delimiters) :
    Lexeme.endsTagName c = false := by
  have ends := endsAttributeName_eq_false inside
  rw [Lexeme.endsAttributeName, Bool.or_eq_false_iff] at ends
  exact ends.1

theorem replaceNull_eq {text : List Char} (whole : '\x00' ∉ text) :
    Token.replaceNull text = text := by
  refine (List.map_congr_left fun c c_mem => ?_).trans (List.map_id text)
  have present : c.toNat ≠ 0 := by
    intro null
    have same : c = '\x00' := Char.toNat_inj.mp null
    exact whole (same ▸ c_mem)
  simp [present]

theorem nameOf_toList {name : String} (plain : IsPlainName name) :
    Token.nameOf name.toList = name := by
  have lower : name.toList.map Char.toLower = name.toList := by
    conv => rhs; rw [← plain.lower]
    simp [String.toLower]
  have whole : '\x00' ∉ name.toList := fun null =>
    not_mem_delimiters_of_isPlainName plain null (by decide)
  rw [Token.nameOf, lower, replaceNull_eq whole, String.ofList_toList]

/-! ## Attributes -/

/-- An attribute that is read as it is printed. -/
structure Attribute.Legible (item : Attribute) : Prop where
  unspaced : item.vocabulary = none
  plain : IsPlainName item.name
  whole : '\x00' ∉ item.value.toList

instance (item : Attribute) : Decidable item.Legible :=
  decidable_of_iff
    (item.vocabulary = none ∧ IsPlainName item.name ∧ '\x00' ∉ item.value.toList)
    ⟨fun parts => ⟨parts.1, parts.2.1, parts.2.2⟩,
      fun legible => ⟨legible.unspaced, legible.plain, legible.whole⟩⟩

/-- An attribute as printing writes it. -/
def Attribute.written (item : Attribute) : WrittenAttribute where
  gap := [' ']
  name := item.name.toList
  value := some ⟨['='], some '"', item.value.toList.flatMap printValueChar⟩

namespace Lexeme

theorem value?_print {value : List Char} (unquoted : '"' ∉ value) (sign rest : List Char) :
    value? sign ('"' :: (value ++ '"' :: rest)) = some (⟨sign, some '"', value⟩, rest) := by
  have unspaced : ('"' :: (value ++ '"' :: rest)).span isSpace =
      ([], '"' :: (value ++ '"' :: rest)) := rfl
  have text : (value ++ '"' :: rest).span (fun c => c != '"') = (value, '"' :: rest) := by
    refine span_append (fun c c_mem => ?_) (by simp)
    have other : c ≠ '"' := fun same => unquoted (same ▸ c_mem)
    simpa using other
  rw [value?, unspaced]
  simp only [text, List.append_nil, beq_self_eq_true, Bool.true_or, if_true]

theorem attribute?_print {first : Char} {more value : List Char}
    (inside : ∀ c ∈ more, c ∉ delimiters) (unquoted : '"' ∉ value) (gap rest : List Char) :
    attribute? gap first (more ++ '=' :: '"' :: (value ++ '"' :: rest)) =
      some (⟨gap, first :: more, some ⟨['='], some '"', value⟩⟩, rest) := by
  have name : (more ++ '=' :: '"' :: (value ++ '"' :: rest)).span
      (fun c => !endsAttributeName c) = (more, '=' :: '"' :: (value ++ '"' :: rest)) := by
    refine span_append (fun c c_mem => ?_) (by simp [endsAttributeName])
    simp [endsAttributeName_eq_false (inside c c_mem)]
  have unspaced : ('=' :: '"' :: (value ++ '"' :: rest)).span isSpace =
      ([], '=' :: '"' :: (value ++ '"' :: rest)) := rfl
  rw [attribute?, name]
  simp only [unspaced, List.nil_append, value?_print unquoted]
  rfl

/-- Behind a blank, one attribute with its value in double quotes is read. -/
theorem attributes?_quoted {name : String} (plain : IsPlainName name) {value : List Char}
    (unquoted : '"' ∉ value) (limit : Nat) (rest : List Char) :
    attributes? (limit + 1) (' ' :: (name.toList ++ '=' :: '"' :: (value ++ '"' :: rest))) =
      (attributes? limit rest).map fun (others, gap, rest) =>
        (⟨[' '], name.toList, some ⟨['='], some '"', value⟩⟩ :: others, gap, rest) := by
  rcases exists_first_of_isPlainName plain with ⟨first, more, spelt, letter, inside⟩
  rw [spelt, List.cons_append]
  have outside := inside first List.mem_cons_self
  have gap : (' ' :: first :: (more ++ '=' :: '"' :: (value ++ '"' :: rest))).span
      (fun c => isSpace c || c == '/') =
        ([' '], first :: (more ++ '=' :: '"' :: (value ++ '"' :: rest))) := by
    rw [← List.singleton_append]
    refine span_append (by simp [isSpace]) ?_
    have ends := endsTagName_eq_false outside
    simp only [endsTagName, Bool.or_eq_false_iff] at ends
    simpa using ends.1
  have read := @attribute?_print first _ _
    (fun c c_mem => inside c (List.mem_cons_of_mem first c_mem)) unquoted [' '] rest
  rw [attributes?, gap]
  dsimp only
  split
  · rename_i none
    cases none
  · rename_i same
    cases same
    exact absurd (by decide) outside
  · rename_i same
    cases same
    rw [read]
    rfl

theorem attributes?_cons {item : Attribute} (legible : item.Legible) (limit : Nat)
    (rest : List Char) :
    attributes? (limit + 1) (item.print ++ rest) =
      (attributes? limit rest).map fun (others, gap, rest) =>
        (item.written :: others, gap, rest) := by
  have shown : item.print ++ rest = ' ' :: (item.name.toList ++ '=' :: '"' ::
      (item.value.toList.flatMap printValueChar ++ '"' :: rest)) := by
    have equals : "=\"".toList = ['=', '"'] := String.toList_ofList
    simp [Attribute.print, Attribute.printedName, legible.unspaced, equals]
  rw [shown, attributes?_quoted legible.plain
    (not_mem_escapedValue List.mem_cons_self item.value.toList)]
  rfl

theorem attributes?_print {items : List Attribute} (legible : ∀ item ∈ items, item.Legible)
    {limit : Nat} (enough : items.length < limit) (rest : List Char) :
    attributes? limit (items.flatMap Attribute.print ++ '>' :: rest) =
      some (items.map Attribute.written, [], rest) := by
  induction items generalizing limit with
  | nil =>
      obtain ⟨limit, rfl⟩ := Nat.exists_eq_add_of_lt enough
      rfl
  | cons item items ih =>
      obtain ⟨limit, rfl⟩ : ∃ smaller, limit = smaller + 1 := ⟨limit - 1, by omega⟩
      rw [List.flatMap_cons, List.append_assoc,
        attributes?_cons (legible item List.mem_cons_self),
        ih (fun later later_mem => legible later (List.mem_cons_of_mem _ later_mem))
          (by simpa using enough)]
      rfl

/-! ## Lexemes -/

/-- Behind a plain name, the attributes of a tag are read. -/
theorem tag?_of_attributes {name : String} (plain : IsPlainName name) {text rest gap : List Char}
    {items : List WrittenAttribute} (ends : ∀ c ∈ text.head?, endsTagName c = true)
    (read : attributes? (text.length + 1) text = some (items, gap, rest)) :
    tag? (name.toList ++ text) = some (⟨name.toList, items, gap⟩, rest) := by
  have split : (name.toList ++ text).span (fun c => !endsTagName c) = (name.toList, text) := by
    refine span_append (fun c c_mem => ?_) fun c here => by simp [ends c here]
    simp [endsTagName_eq_false (not_mem_delimiters_of_isPlainName plain c_mem)]
  rw [tag?, split]
  simp only [read, Option.map_some]

theorem tag?_print {name : String} (plain : IsPlainName name) {items : List Attribute}
    (legible : ∀ item ∈ items, item.Legible) (rest : List Char) :
    tag? (name.toList ++ (items.flatMap Attribute.print ++ '>' :: rest)) =
      some (⟨name.toList, items.map Attribute.written, []⟩, rest) := by
  have short : items.length < (items.flatMap Attribute.print ++ '>' :: rest).length + 1 := by
    have each : (items.map fun _ => 1).sum ≤ (items.map fun item => item.print.length).sum :=
      List.sum_le_sum fun item _ => by simp [Attribute.print]
    simp only [List.length_append, List.length_flatMap]
    simp only [List.map_const', List.sum_replicate, smul_eq_mul, mul_one] at each
    omega
  refine tag?_of_attributes plain ?_ (attributes?_print legible short rest)
  cases items with
  | nil => simp [endsTagName]
  | cons item items => simp [Attribute.print, endsTagName, isSpace]

theorem bracket_of_letter {first : Char} (letter : first.isAlpha = true) {tag : WrittenTag}
    {text rest : List Char} (read : tag? (first :: text) = some (tag, rest)) (sections : Bool) :
    bracket sections (first :: text) = (startTag tag, rest) := by
  have apart : first ≠ '!' ∧ first ≠ '?' ∧ first ≠ '/' := by
    refine ⟨?_, ?_, ?_⟩ <;> (rintro rfl; exact absurd letter (by decide))
  unfold bracket
  split
  all_goals simp_all

theorem bracket_slash {first : Char} (letter : first.isAlpha = true) {tag : WrittenTag}
    {text rest : List Char} (read : tag? (first :: text) = some (tag, rest)) (sections : Bool) :
    bracket sections ('/' :: first :: text) = (endTag tag, rest) := by
  have notBracket : first ≠ '>' := by
    rintro rfl
    exact absurd letter (by decide)
  unfold bracket
  split
  all_goals simp_all

theorem next_startTag {name : String} (plain : IsPlainName name) {tag : WrittenTag}
    {text rest : List Char} (read : tag? (name.toList ++ text) = some (tag, rest)) (sections : Bool) :
    next .markup sections ('<' :: (name.toList ++ text)) = (.startTag tag, rest) := by
  rcases exists_first_of_isPlainName plain with ⟨first, more, spelt, letter, -⟩
  rw [spelt, List.cons_append] at read ⊢
  exact bracket_of_letter letter read sections

theorem next_printStart {name : ElementName} (plain : IsPlainName name.name)
    {items : List Attribute} (legible : ∀ item ∈ items, item.Legible) (sections : Bool)
    (rest : List Char) :
    next .markup sections (Fragment.printStart name items ++ rest) =
      (.startTag ⟨name.name.toList, items.map Attribute.written, []⟩, rest) := by
  have shown : Fragment.printStart name items ++ rest =
      '<' :: (name.name.toList ++ (items.flatMap Attribute.print ++ '>' :: rest)) := by
    simp [Fragment.printStart]
  rw [shown, next_startTag plain (tag?_print plain legible rest)]

theorem next_printEnd {name : ElementName} (plain : IsPlainName name.name) (sections : Bool)
    (rest : List Char) :
    next .markup sections (Fragment.printEnd name ++ rest) =
      (.endTag ⟨name.name.toList, [], []⟩, rest) := by
  have tag := tag?_print plain (List.forall_mem_nil _) rest
  rcases exists_first_of_isPlainName plain with ⟨first, more, spelt, letter, -⟩
  rw [spelt, List.flatMap_nil, List.nil_append, List.cons_append] at tag
  have slash : "</".toList = ['<', '/'] := String.toList_ofList
  have shown : Fragment.printEnd name ++ rest = '<' :: '/' :: first :: (more ++ '>' :: rest) := by
    simp [Fragment.printEnd, slash, spelt]
  rw [shown, next]
  simp only [bracket_slash letter tag, spelt, List.map_nil]

theorem next_text {text rest : List Char} (nonempty : text ≠ []) (unbracketed : '<' ∉ text)
    (stops : ∀ c ∈ rest.head?, c = '<') (sections : Bool) :
    next .markup sections (text ++ rest) = (.text text, rest) := by
  have split : (text ++ rest).span (fun c => c != '<') = (text, rest) := by
    refine span_append (fun c c_mem => ?_) (fun c here => by simpa using stops c here)
    have other : c ≠ '<' := fun same => unbracketed (same ▸ c_mem)
    simpa using other
  cases text with
  | nil => exact absurd rfl nonempty
  | cons first text =>
      have notBracket : first ≠ '<' := fun same => unbracketed (same ▸ List.mem_cons_self)
      rw [next]
      · simp only [split]
      · intro later same
        exact notBracket (List.cons.inj same).1

end Lexeme

/-! ## Tokens -/

namespace Token

theorem attributeOf_written {item : Attribute} (legible : item.Legible) :
    Attribute.mk none (nameOf item.written.name)
      (.ofList (Entity.decode true (replaceNull item.written.text))) = item := by
  have escaped : item.written.text = item.value.toList.flatMap printValueChar := rfl
  have whole : '\x00' ∉ item.written.text := by
    rw [escaped]
    exact fun null => legible.whole (mem_of_mem_escapedValue (by decide) null)
  rw [replaceNull_eq whole, escaped, decode_escapedValue, String.ofList_toList,
    show item.written.name = item.name.toList from rfl, nameOf_toList legible.plain,
    ← legible.unspaced]

theorem attributesOf_written {items : List Attribute} (legible : ∀ item ∈ items, item.Legible)
    (distinct : (items.map Attribute.name).Nodup) :
    attributesOf (items.map Attribute.written) = items := by
  induction items using List.reverseRecOn with
  | nil => rfl
  | append_singleton items item ih =>
      rw [List.map_append, List.nodup_append] at distinct
      have earlier := ih (fun other other_mem => legible other (List.mem_append_left _ other_mem))
        distinct.1
      have last : item.Legible := legible item (by simp)
      have fresh : (items.any fun other => other.name == nameOf item.written.name) = false := by
        rw [show item.written.name = item.name.toList from rfl, nameOf_toList last.plain]
        refine List.any_eq_false.mpr fun other other_mem => ?_
        simpa using distinct.2.2 other.name (List.mem_map_of_mem other_mem) item.name (by simp)
      rw [attributesOf, List.map_append, List.foldl_append, ← attributesOf, earlier]
      simp only [List.map_cons, List.map_nil, List.foldl_cons, List.foldl_nil, fresh,
        Bool.false_eq_true, if_false, attributeOf_written last]

theorem tagOf_written {name : String} (plain : IsPlainName name) {items : List Attribute}
    (legible : ∀ item ∈ items, item.Legible) (distinct : (items.map Attribute.name).Nodup) :
    tagOf ⟨name.toList, items.map Attribute.written, []⟩ =
      { name := name, attributes := items } := by
  rw [tagOf, nameOf_toList plain, attributesOf_written legible distinct]
  rfl

end Token

end PageRender.Html
