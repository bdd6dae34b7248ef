import PageRender.Proofs.FragmentLinks
import PageRender.Proofs.PrintedTags

/-!
# What mounting changes in a text

Mounting is meant to put a name into ids and links and to leave everything else as it stands. A tag
with such a value is written anew, though, always with one blank before each attribute, double
quotes and no other blanks. So the rest of a text stays as it is exactly if all these tags were
written that way.
-/

namespace PageRender

open Html

namespace Mount

/-! ## Values with a name put into them -/

/-- What an id or a link to a fragment says once a name is put before the fragment; what any other
attribute says stays. -/
def scopedText (name : List Char) (tag item : String) (text : List Char) : List Char :=
  if item = "id" ∧ text ≠ [] then name ++ '-' :: text
  else if tag = "a" ∧ item = "href" ∧ text.head? = some '#' ∧ text.tail ≠ [] then
    '#' :: (name ++ '-' :: text.tail)
  else text

/-- An attribute with the name put into its value, and everything else as it was written. Of the
attributes that repeat a name only the first one counts; `seen` holds the names before. -/
def scopedAttribute (name : List Char) (tag : String) (seen : List String)
    (written : WrittenAttribute) : WrittenAttribute :=
  if Token.nameOf written.name ∈ seen then written
  else { written with
    value := written.value.map fun value =>
      { value with text := scopedText name tag (Token.nameOf written.name) value.text } }

def scopedAttributes (name : List Char) (tag : String) :
    List String → List WrittenAttribute → List WrittenAttribute
  | _, [] => []
  | seen, written :: rest =>
      scopedAttribute name tag seen written ::
        scopedAttributes name tag (Token.nameOf written.name :: seen) rest

def scopedTag (name : List Char) (tag : WrittenTag) : WrittenTag :=
  { tag with attributes := scopedAttributes name (Token.nameOf tag.name) [] tag.attributes }

def scopedLexeme (name : List Char) : Lexeme → Lexeme
  | .startTag tag => .startTag (scopedTag name tag)
  | lexeme => lexeme

/-- A value is written the way in which mounting writes values: in double quotes, right behind the
equals sign. -/
def Quoted (written : WrittenAttribute) : Prop :=
  ∃ text, written.value = some ⟨['='], some '"', text⟩

/-- A tag is written the way in which mounting writes tags: a blank before each attribute, the
values that the name is put into in double quotes, and before the closing bracket nothing, or a
blank and a slash. -/
structure Tidy (name : List Char) (tag : WrittenTag) : Prop where
  gaps : ∀ written ∈ tag.attributes, written.gap = [' ']
  quotes : ∀ pair ∈ tag.attributes.zip (scopedTag name tag).attributes, pair.2 ≠ pair.1 →
    Quoted pair.1
  closing : tag.gap = [] ∨ tag.gap = [' ', '/']

variable {name : List Char}

theorem scopedText_nil (tag item : String) : scopedText name tag item [] = [] := by
  simp [scopedText]

theorem append_cons_ne (text : List Char) (c : Char) : name ++ c :: text ≠ text := by
  intro same
  have counted := congrArg List.length same
  simp at counted
  omega

/-- Mounting changes a value exactly if the name is put into it. -/
theorem mountedValue?_eq (tag item : String) (text : List Char) :
    mountedValue? name tag item text =
      if scopedText name tag item text = text then none else some (scopedText name tag item text) := by
  by_cases isId : item = "id"
  · subst isId
    by_cases empty : text = []
    · simp [mountedValue?, scopedText, empty]
    · simp [mountedValue?, scopedText, empty, append_cons_ne]
  · by_cases isLink : tag = "a" ∧ item = "href"
    · rcases isLink with ⟨rfl, rfl⟩
      rw [mountedValue?_href]
      by_cases marked : text.head? = some '#' ∧ text.tail ≠ []
      · have grown : '#' :: (name ++ '-' :: text.tail) ≠ text := by
          rcases List.head?_eq_some_iff.mp marked.1 with ⟨fragment, rfl⟩
          simpa using append_cons_ne fragment '-'
        simp [scopedText, marked, grown]
      · simp [scopedText, marked]
    · have other : (tag == "a" && item == "href") = false := by simpa using isLink
      have kept : scopedText name tag item text = text := by
        unfold scopedText
        rw [if_neg (fun both => isId both.1), if_neg (fun all => isLink ⟨all.1, all.2.1⟩)]
      simp [mountedValue?, isId, other, kept]

theorem mem_of_mem_scopedText {tag item : String} {text : List Char} {c : Char}
    (c_mem : c ∈ scopedText name tag item text) : c ∈ name ∨ c = '-' ∨ c ∈ text := by
  by_cases same : scopedText name tag item text = text
  · exact Or.inr (Or.inr (same ▸ c_mem))
  · exact mem_of_mountedValue? (by rw [mountedValue?_eq, if_neg same]) c_mem

theorem scopedText_eq_cons {tag item : String} {text : List Char} (plain : IsFragmentName name)
    (changed : scopedText name tag item text ≠ text) :
    ∃ c rest, scopedText name tag item text = c :: rest ∧ c ≠ '"' := by
  unfold scopedText at changed ⊢
  split
  · cases name with
    | nil => exact ⟨'-', text, rfl, by decide⟩
    | cons c more =>
        refine ⟨c, more ++ '-' :: text, rfl, ?_⟩
        rintro rfl
        exact absurd (plain _ List.mem_cons_self) (by decide)
  · split
    · exact ⟨'#', _, rfl, by decide⟩
    · simp_all

/-! ## Attributes -/

variable {tag : String} {seen : List String} {written : WrittenAttribute}

theorem scopedAttribute_eq_iff :
    scopedAttribute name tag seen written = written ↔ Token.nameOf written.name ∈ seen ∨
      scopedText name tag (Token.nameOf written.name) written.text = written.text := by
  unfold scopedAttribute
  split
  · simp_all
  · rcases written with ⟨gap, item, value⟩
    cases value with
    | none => simp [WrittenAttribute.text, scopedText_nil]
    | some value =>
        rcases value with ⟨sign, quote, text⟩
        simp_all [WrittenAttribute.text]

theorem gap_scopedAttribute : (scopedAttribute name tag seen written).gap = written.gap := by
  unfold scopedAttribute
  split <;> rfl

variable {front back : List Char}

theorem eq_nil_of_cons_eq_append {p : Char → Bool} {c : Char} {blank : List Char}
    (inside : ∀ d ∈ blank, p d = true) (outside : p c = false)
    (same : c :: front = blank ++ back) : blank = [] := by
  cases blank with
  | nil => rfl
  | cons d blank =>
      obtain rfl := (List.cons.inj same).1
      have blank := inside c List.mem_cons_self
      rw [outside] at blank
      cases blank

/-- A blank stands before a name exactly where one blank was written before it. -/
theorem name_append_iff (proper : written.Proper) :
    ' ' :: (written.name ++ front) = written.gap ++ (written.name ++ back) ↔
      written.gap = [' '] ∧ front = back := by
  rcases proper.name with ⟨first, more, spelt, starts⟩
  constructor
  · intro same
    rw [spelt] at same
    cases gap : written.gap with
    | nil =>
        rw [gap] at same
        rw [← (List.cons.inj same).1] at starts
        cases starts
    | cons c later =>
        rw [gap] at same
        rcases List.cons.inj same with ⟨rfl, behind⟩
        have blank : ∀ d ∈ later, isGap d = true := by
          intro d d_mem
          exact proper.gap d (by simp [gap, d_mem])
        obtain rfl := eq_nil_of_cons_eq_append blank starts behind
        exact ⟨rfl, List.append_cancel_left behind⟩
  · rintro ⟨gap, rfl⟩
    rw [gap]
    rfl

/-- A value is written anew in double quotes right behind the equals sign, so what follows agrees
exactly if it was written like that. -/
theorem value_append_iff {value : WrittenValue} (proper : value.Proper) {text : List Char}
    (starts : ∃ c rest, text = c :: rest ∧ c ≠ '"')
    (unquoted : '"' ∉ value.text → '"' ∉ text) :
    '=' :: (quoteValue text ++ front) = { value with text := text }.source ++ back ↔
      (value.sign = ['='] ∧ value.quote = some '"') ∧ front = back := by
  rcases value with ⟨sign, quote, old⟩
  have written (quoted : quote = some '"') : quoteValue text = '"' :: text ++ ['"'] :=
    quoteValue_eq (unquoted (proper.quoted '"' quoted))
  constructor
  · intro same
    rcases proper.sign with ⟨before, after, spelt, blank, blankAfter⟩
    dsimp only at spelt
    subst spelt
    have equals : isSpace '=' = false := by decide
    have mark : isSpace '"' = false := by decide
    simp only [WrittenValue.source, List.append_assoc, List.cons_append] at same
    obtain rfl := eq_nil_of_cons_eq_append blank equals same
    have later := (List.cons.inj same).2
    obtain rfl := eq_nil_of_cons_eq_append blankAfter mark later
    cases quote with
    | none =>
        rcases starts with ⟨c, rest, rfl, other⟩
        have first : '"' = c := (List.cons.inj later).1
        exact absurd first.symm other
    | some c =>
        have first : '"' = c := (List.cons.inj later).1
        subst first
        rw [written rfl] at later
        refine ⟨⟨rfl, rfl⟩, ?_⟩
        simpa [WrittenValue.source] using later
  · rintro ⟨⟨rfl, rfl⟩, rfl⟩
    rw [written rfl]
    simp [WrittenValue.source]

/-- An attribute once it is mounted, as it is printed. -/
def mountedSource (name : List Char) (tag : String) (seen : List String)
    (written : WrittenAttribute) : List Char :=
  if scopedAttribute name tag seen written = written then written.source
  else written.name ++ '=' :: quoteValue
    (scopedText name tag (Token.nameOf written.name) written.text)

/-- Behind a blank, what follows agrees exactly if the attribute was written behind a blank as well,
and in double quotes if the name is put into it. -/
theorem mountedSource_append_iff (plain : IsFragmentName name) (proper : written.Proper) :
    ' ' :: (mountedSource name tag seen written ++ front) =
        written.gap ++ ((scopedAttribute name tag seen written).source ++ back) ↔
      (written.gap = [' '] ∧ (scopedAttribute name tag seen written ≠ written → Quoted written)) ∧
        front = back := by
  unfold mountedSource
  by_cases kept : scopedAttribute name tag seen written = written
  · rw [if_pos kept, kept, WrittenAttribute.source, List.append_assoc, List.append_assoc,
      name_append_iff proper, List.append_right_inj]
    simp
  · rw [if_neg kept, List.append_assoc]
    have changed := mt scopedAttribute_eq_iff.mpr kept
    rw [not_or] at changed
    rcases written with ⟨gap, item, value⟩
    cases value with
    | none => exact absurd (scopedText_nil tag (Token.nameOf item)) changed.2
    | some value =>
        have own := proper.value value rfl
        have unquoted : '"' ∉ value.text →
            '"' ∉ scopedText name tag (Token.nameOf item) value.text := by
          intro free quoted
          rcases mem_of_mem_scopedText quoted with inName | dash | inside
          · exact absurd (plain _ inName) (by decide)
          · cases dash
          · exact free inside
        have source : (scopedAttribute name tag seen ⟨gap, item, some value⟩).source = item ++
            { value with text := scopedText name tag (Token.nameOf item) value.text }.source := by
          rw [scopedAttribute, if_neg changed.1]
          rfl
        rw [source, List.append_assoc, name_append_iff proper, and_assoc]
        refine and_congr_right fun _ => ?_
        refine (value_append_iff own (scopedText_eq_cons plain changed.2) unquoted).trans ?_
        rcases value with ⟨sign, quote, text⟩
        simp [kept, Quoted]

/-! ## Tags -/

theorem mountAttributes_cons (rest : List WrittenAttribute) :
    mountAttributes name tag seen (written :: rest) =
      let later := mountAttributes name tag (Token.nameOf written.name :: seen) rest
      (mountedSource name tag seen written :: later.1,
        scopedAttribute name tag seen written ≠ written || later.2) := by
  rw [mountAttributes]
  by_cases kept : scopedAttribute name tag seen written = written
  · rcases scopedAttribute_eq_iff.mp kept with repeated | same
    · simp [mountedSource, kept, repeated]
    · simp [mountedSource, kept, mountedValue?_eq, same]
  · have changed := mt scopedAttribute_eq_iff.mpr kept
    rw [not_or] at changed
    simp [mountedSource, kept, changed, mountedValue?_eq]

theorem mountAttributes_snd {items : List WrittenAttribute} :
    (mountAttributes name tag seen items).2 = true ↔
      scopedAttributes name tag seen items ≠ items := by
  induction items generalizing seen with
  | nil => simp [mountAttributes, scopedAttributes]
  | cons written rest ih =>
      rw [mountAttributes_cons, scopedAttributes]
      simp [ih, imp_iff_not_or]

/-- The induction is over the attributes: what follows the first of them agrees exactly if the
others are written as mounting writes them and what follows the tag agrees. -/
theorem mountAttributes_append_iff (plain : IsFragmentName name) {items : List WrittenAttribute}
    (proper : ∀ written ∈ items, written.Proper) :
    (mountAttributes name tag seen items).1.flatMap (' ' :: ·) ++ front =
        (scopedAttributes name tag seen items).flatMap (fun item => item.gap ++ item.source) ++
          back ↔
      ((∀ written ∈ items, written.gap = [' ']) ∧
        ∀ pair ∈ items.zip (scopedAttributes name tag seen items),
          pair.2 ≠ pair.1 → Quoted pair.1) ∧ front = back := by
  induction items generalizing seen with
  | nil => simp [mountAttributes, scopedAttributes]
  | cons written rest ih =>
      have own := proper written List.mem_cons_self
      have later := @ih (Token.nameOf written.name :: seen)
        fun item item_mem => proper item (List.mem_cons_of_mem _ item_mem)
      rw [mountAttributes_cons, scopedAttributes, List.flatMap_cons, List.flatMap_cons,
        gap_scopedAttribute, List.append_assoc, List.append_assoc, List.append_assoc,
        List.cons_append, mountedSource_append_iff plain own, later]
      simp only [List.forall_mem_cons, List.zip_cons_cons]
      tauto

theorem closing_append_iff {tag : WrittenTag} (proper : tag.Proper) :
    (if tag.selfClosing then " />".toList else ['>']) ++ front = tag.gap ++ '>' :: back ↔
      (tag.gap = [] ∨ tag.gap = [' ', '/']) ∧ front = back := by
  have slash : " />".toList = [' ', '/', '>'] := String.toList_ofList
  have unbracketed : '>' ∉ tag.gap := fun bracket => absurd (proper.gap _ bracket) (by decide)
  rw [WrittenTag.selfClosing, slash]
  rcases gap : tag.gap with _ | ⟨c, _ | ⟨d, _ | ⟨e, later⟩⟩⟩
  · simp
  · have first : '>' ≠ c := fun same => unbracketed (by simp [gap, ← same])
    by_cases closes : c = '/'
    · subst closes
      simp
    · simp [closes, first]
  · have first : '>' ≠ c := fun same => unbracketed (by simp [gap, ← same])
    by_cases closes : d = '/'
    · subst closes
      simpa using fun _ => eq_comm
    · simp [closes, first]
  · have first : '>' ≠ c := fun same => unbracketed (by simp [gap, ← same])
    have third : '>' ≠ e := fun same => unbracketed (by simp [gap, ← same])
    split
    · simp [third]
    · simp [first]

theorem scopedTag_eq_iff {tag : WrittenTag} : scopedTag name tag = tag ↔
    scopedAttributes name (Token.nameOf tag.name) [] tag.attributes = tag.attributes := by
  rcases tag with ⟨tag, items, gap⟩
  simp [scopedTag]

/-- What follows a tag agrees exactly if the tag was written as mounting writes it or no name is put
into it. -/
theorem mountTag_append_iff (plain : IsFragmentName name) {tag : WrittenTag}
    (proper : tag.Proper) :
    mountTag name tag ++ front = (Lexeme.startTag (scopedTag name tag)).source ++ back ↔
      (scopedTag name tag ≠ tag → Tidy name tag) ∧ front = back := by
  unfold mountTag
  by_cases kept : scopedTag name tag = tag
  · have unchanged := mt mountAttributes_snd.mp (not_not_intro (scopedTag_eq_iff.mp kept))
    simp [unchanged, kept]
  · have changed := mountAttributes_snd.mpr (mt scopedTag_eq_iff.mpr kept)
    have whole : (Lexeme.startTag (scopedTag name tag)).source ++ back = '<' :: (tag.name ++
        ((scopedAttributes name (Token.nameOf tag.name) [] tag.attributes).flatMap
          (fun item => item.gap ++ item.source) ++ (tag.gap ++ '>' :: back))) := by
      simp [Lexeme.source, WrittenTag.source, scopedTag]
    simp only [changed, if_true]
    rw [whole, List.append_assoc, List.append_assoc, List.cons_append, List.cons_inj_right,
      List.append_right_inj, mountAttributes_append_iff plain proper.attributes,
      closing_append_iff proper]
    constructor
    · rintro ⟨⟨gaps, quotes⟩, closing, same⟩
      exact ⟨fun _ => ⟨gaps, quotes, closing⟩, same⟩
    · rintro ⟨tidy, same⟩
      exact ⟨⟨(tidy kept).gaps, (tidy kept).quotes⟩, (tidy kept).closing, same⟩

/-! ## Texts -/

theorem mountLexeme_append_iff (plain : IsFragmentName name) {lexeme : Lexeme}
    (proper : ∀ tag, lexeme = .startTag tag → tag.Proper) :
    mountLexeme name lexeme ++ front = (scopedLexeme name lexeme).source ++ back ↔
      (∀ tag, lexeme = .startTag tag → scopedTag name tag ≠ tag → Tidy name tag) ∧
        front = back := by
  cases lexeme with
  | startTag tag =>
      have own := @mountTag_append_iff _ front back plain tag (proper tag rfl)
      simpa [mountLexeme, scopedLexeme] using own
  | text content => simp [mountLexeme, scopedLexeme]
  | endTag tag => simp [mountLexeme, scopedLexeme]
  | comment source => simp [mountLexeme, scopedLexeme]
  | characterData content close => simp [mountLexeme, scopedLexeme]
  | nothing source => simp [mountLexeme, scopedLexeme]

/-- Mounting puts the name into the ids and links of a text and leaves everything else as it stands,
exactly if each tag that holds one is written as mounting writes tags. -/
theorem flatMap_mountLexeme_eq_iff (plain : IsFragmentName name) {lexemes : List Lexeme}
    (proper : ∀ tag, .startTag tag ∈ lexemes → tag.Proper) :
    lexemes.flatMap (mountLexeme name) = (lexemes.map (scopedLexeme name)).flatMap Lexeme.source ↔
      ∀ tag, .startTag tag ∈ lexemes → scopedTag name tag ≠ tag → Tidy name tag := by
  induction lexemes with
  | nil => simp
  | cons lexeme rest ih =>
      have later := ih fun tag listed => proper tag (List.mem_cons_of_mem _ listed)
      rw [List.flatMap_cons, List.map_cons, List.flatMap_cons,
        mountLexeme_append_iff plain fun tag same => proper tag (same ▸ List.mem_cons_self), later]
      simp only [List.mem_cons, or_imp, forall_and, eq_comm]

/-- What printing writes, mounting would write the same way. -/
theorem tidy_of_printed {tag : WrittenTag} (printed : tag.Printed) : Tidy name tag := by
  rcases printed with ⟨tag, items, rfl⟩
  refine ⟨?_, ?_, Or.inl rfl⟩
  · intro written listed
    rcases List.mem_map.mp listed with ⟨item, -, rfl⟩
    rfl
  · intro pair pair_mem changed
    rcases List.mem_map.mp (List.of_mem_zip pair_mem).1 with ⟨item, -, same⟩
    rw [← same]
    exact ⟨_, rfl⟩

/-- A text with the name put into its ids and links and everything else as it stands. -/
def scopedMarkup (name : List Char) (lexemes : List Lexeme) : String :=
  .ofList ((lexemes.map (scopedLexeme name)).flatMap Lexeme.source)

theorem mount_of_blank {anchor html output : String} (blank : anchor.trimBlank = "")
    (mounted : mount anchor html = .ok output) : output = html := by
  rw [mount] at mounted
  simp only [isEmpty_fragmentName.mpr blank, if_true] at mounted
  exact (Except.ok.inj mounted).symm

theorem exists_lexemes_of_mount {anchor html output : String} (named : anchor.trimBlank ≠ "")
    (mounted : mount anchor html = .ok output) :
    ∃ lexemes, Stream.lexemes html.toList = .ok lexemes ∧
      (output = scopedMarkup (fragmentName anchor) lexemes ↔
        ∀ tag, .startTag tag ∈ lexemes →
          scopedTag (fragmentName anchor) tag ≠ tag → Tidy (fragmentName anchor) tag) := by
  rw [mount] at mounted
  simp only [mt isEmpty_fragmentName.mp named] at mounted
  cases read : Stream.lexemes html.toList with
  | error ambiguity =>
      rw [read] at mounted
      cases mounted
  | ok lexemes =>
      rw [read] at mounted
      obtain rfl := Except.ok.inj mounted
      refine ⟨lexemes, rfl, ?_⟩
      rw [scopedMarkup, String.ofList_inj]
      apply flatMap_mountLexeme_eq_iff (isFragmentName_fragmentName anchor)
      intro tag listed
      exact Stream.proper_of_mem_lexemes read listed

end Mount

namespace Policy

open Mount

variable {policy : Policy} {html : String} {lexemes : List Lexeme}

theorem Lawful.tidy_of_mem_lexemes (lawful : policy.Lawful) (enabled : policy.enabled = true)
    (unraw : ∀ tag ∈ policy.allowedTags, tag ∉ rawTextNames)
    (read : Stream.lexemes (policy.sanitize html).toList = .ok lexemes) {tag : WrittenTag}
    (listed : .startTag tag ∈ lexemes) (name : List Char) : Tidy name tag := by
  rw [lawful.sanitize_eq_print enabled, String.toList_ofList] at read
  apply tidy_of_printed
  apply printed_of_mem_lexemes _ read listed
  intro element inside
  exact lawful.plain_of_mem_cleanText unraw inside

theorem Lawful.startTags_of_lexemes (lawful : policy.Lawful) (enabled : policy.enabled = true)
    (unmarked : ∀ tag ∈ policy.allowedTags, tag ∉ loudNames)
    (read : Stream.lexemes (policy.sanitize html).toList = .ok lexemes) :
    lexemes.filterMap Lexeme.startTag? = (policy.cleanText html).shownElements.map tagOfElement := by
  have tags := (lawful.quiet_cleanText unmarked html).startTags_print
  rw [← lawful.sanitize_eq_print enabled, startTags, read] at tags
  exact Except.ok.inj tags

end Policy

namespace PageRenderer

open Mount

theorem mount_of_mounted {policy : Policy} {pageLinks : Bool} {html anchor output : String}
    (processed : (PageRenderer.mk policy pageLinks).mounted html (some anchor) = .ok output) :
    mount anchor (policy.sanitize html) = .ok output := by
  rw [mounted] at processed
  dsimp only at processed
  cases done : mount anchor (policy.sanitize html) with
  | error ambiguity =>
      rw [done] at processed
      cases processed
  | ok mounted =>
      rw [done] at processed
      cases processed
      rfl

/-- What mounting makes of cleaned markup. Under a blank name the markup stays. Under another one it
is the markup with the name put into ids and links, exactly if all tags that hold one are written as
mounting writes tags. That is so wherever no tag is allowed whose text is printed as it stands, and
where no tag is allowed that changes how text is read, the tags that are read are those of all
elements. -/
theorem mounted_scopes_iff {policy : Policy} (reachable : policy.Reachable)
    (enabled : policy.enabled = true) {pageLinks : Bool} {html anchor output : String}
    (processed : (PageRenderer.mk policy pageLinks).mounted html (some anchor) = .ok output) :
    (anchor.trimBlank = "" → output = policy.sanitize html) ∧
      (anchor.trimBlank ≠ "" → ∃ lexemes,
        Stream.lexemes (policy.sanitize html).toList = .ok lexemes ∧
        lexemes.flatMap Lexeme.source = (policy.sanitize html).toList ∧
        (output = scopedMarkup (fragmentName anchor) lexemes ↔
          ∀ tag, .startTag tag ∈ lexemes →
            scopedTag (fragmentName anchor) tag ≠ tag → Tidy (fragmentName anchor) tag) ∧
        ((∀ tag ∈ policy.allowedTags, tag ∉ rawTextNames) →
          output = scopedMarkup (fragmentName anchor) lexemes) ∧
        ((∀ tag ∈ policy.allowedTags, tag ∉ loudNames) →
          lexemes.filterMap Lexeme.startTag? =
            (policy.cleanText html).shownElements.map tagOfElement)) := by
  have mounted := mount_of_mounted processed
  constructor
  · intro blank
    exact mount_of_blank blank mounted
  · intro named
    rcases exists_lexemes_of_mount named mounted with ⟨lexemes, read, inserted⟩
    refine ⟨lexemes, read, Stream.source_lexemes read, inserted, ?_, ?_⟩
    · intro unraw
      rw [inserted]
      intro tag listed changed
      exact reachable.lawful.tidy_of_mem_lexemes enabled unraw read listed _
    · intro unmarked
      exact reachable.lawful.startTags_of_lexemes enabled unmarked read

/-- A page with ids and links in other spellings than those of printing. -/
def spelledPage : String :=
  "<h2 id='a\"b' title='#x'>u</h2><a href='#y' id=x name=z>1</a><a href=#>t</a>" ++
    "<p id=''>id=\"x\"</p>"

/-- The page, cleaned and mounted. -/
def scopedPage : String :=
  "<h2 id=\"my-doc-a&quot;b\" title=\"#x\">u</h2>" ++
    "<a href=\"#my-doc-y\" id=\"my-doc-x\" name=\"z\" rel=\"noopener noreferrer\">1</a>" ++
    "<a href=\"#\" rel=\"noopener noreferrer\">t</a><p id=\"\">id=\"x\"</p>"

theorem mounted_spelledPage :
    Policy.recommended.Reachable ∧ Policy.recommended.enabled = true ∧
      (PageRenderer.mk .recommended true).mounted spelledPage (some " my doc ") = .ok scopedPage ∧
      " my doc ".trimBlank ≠ "" ∧ (∀ tag ∈ Policy.recommended.allowedTags, tag ∉ rawTextNames) ∧
      ∃ lexemes, Stream.lexemes (Policy.recommended.sanitize spelledPage).toList = .ok lexemes ∧
        scopedPage = scopedMarkup "my-doc".toList lexemes := by
  have processed : (PageRenderer.mk .recommended true).mounted spelledPage (some " my doc ") =
      .ok scopedPage := by
    decide +kernel
  have named : " my doc ".trimBlank ≠ "" := by decide +kernel
  have unraw : ∀ tag ∈ Policy.recommended.allowedTags, tag ∉ rawTextNames := by
    intro tag allowed raw
    exact Policy.unmarked_recommended tag allowed (List.mem_append_left _ raw)
  have called : fragmentName " my doc " = "my-doc".toList := by decide +kernel
  rcases (mounted_scopes_iff .recommended rfl processed).2 named with
    ⟨lexemes, read, -, -, inserted, -⟩
  rw [called] at inserted
  exact ⟨.recommended, rfl, processed, named, unraw, lexemes, read, inserted unraw⟩

/-- A policy that allows an element whose text is printed as it stands, and formulas around it. -/
def rawPolicy : Policy where
  enabled := true
  allowedTags := .ofNames ["math", "mi", "mglyph", "xmp"]
  allowedAttributes := ∅
  allowedSchemes := ∅
  cleanContentTags := Policy.defaultCleanContentTags

/-- A page whose only text looks like a tag. -/
def rawPage : String :=
  "<math><mi><mglyph><mi></mi></mglyph><xmp><a id=x></xmp></mi></math>"

/-- The page, mounted into an element. -/
def mountedRawPage : String :=
  "<math><mi><mglyph><mi></mi></mglyph><xmp><a id=\"d-x\"></xmp></mi></math>"

/-- The page stays as it is when it is cleaned, and no element of it has an attribute. When it is
mounted its text is changed, and more than the name is put into it: quotes are, though there was
none before. -/
theorem mounted_rewrites_text :
    rawPolicy.Reachable ∧ rawPolicy.enabled = true ∧ rawPolicy.sanitize rawPage = rawPage ∧
      (∀ element ∈ (rawPolicy.cleanText rawPage).elements, element.2 = []) ∧
      (PageRenderer.mk rawPolicy true).mounted rawPage (some "d") = .ok mountedRawPage ∧
      mountedRawPage ≠ rawPage ∧ '"' ∉ rawPage.toList ∧ '"' ∈ mountedRawPage.toList ∧
      ∃ lexemes, Stream.lexemes rawPage.toList = .ok lexemes ∧
        mountedRawPage ≠ scopedMarkup (fragmentName "d") lexemes := by
  have built : (Policy.custom { tags := ["math", "mi", "mglyph", "xmp"] }
      ["script", "style"]).2 = .ok rawPolicy := by
    rw [Policy.custom_eq_ok]
    exact ⟨rfl, by decide +kernel, by decide +kernel, by decide +kernel, by decide +kernel⟩
  have inserted : (Stream.lexemes rawPage.toList).map (scopedMarkup (fragmentName "d")) =
      .ok "<math><mi><mglyph><mi></mi></mglyph><xmp><a id=d-x></xmp></mi></math>" := by
    decide +kernel
  refine ⟨.custom built, rfl, by decide +kernel, by decide +kernel, by decide +kernel,
    by decide +kernel, by decide +kernel, by decide +kernel, ?_⟩
  cases read : Stream.lexemes rawPage.toList with
  | error ambiguity =>
      rw [read] at inserted
      cases inserted
  | ok lexemes =>
      rw [read] at inserted
      refine ⟨lexemes, rfl, ?_⟩
      rw [Except.ok.inj inserted]
      decide +kernel

end PageRenderer

end PageRender
