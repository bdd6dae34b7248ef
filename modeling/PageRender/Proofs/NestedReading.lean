import PageRender.Proofs.NestedSteps

/-!
# Reading nested markup

What is printed of a nested fragment is read as that fragment. The induction is on the fragment. It
is carried by what reading a part of the text does to a builder: once what is pending has been put
into the tree, the builder is the one before, with the part planted under the innermost element.
Only the list of formatting may differ, since the same formatting is not listed more than three
times.
-/

namespace PageRender.Html

open Nesting

open Policy (IsPlainName)

namespace Fragment

/-- A fragment that is read as it is printed, as far as single tags and texts go. -/
def Legible : Fragment → Prop
  | nil => True
  | text content rest => '\x00' ∉ content.toList ∧ rest.Legible
  | comment rest => rest.Legible
  | element name attributes children rest =>
      (IsPlainName name.name ∧ (∀ item ∈ attributes, item.Legible) ∧
        (attributes.map Attribute.name).Nodup) ∧ children.Legible ∧ rest.Legible

/-- How many lexemes a fragment is printed as. -/
def lexemeCount : Fragment → Nat
  | nil => 0
  | text _ rest => rest.lexemeCount + 1
  | comment rest => rest.lexemeCount
  | element name _ children rest =>
      rest.lexemeCount + (if name.isVoid then 0 else children.lexemeCount + 1) + 1

end Fragment

namespace Builder

variable {builder : Builder}

/-! ## Single lexemes -/

theorem escapedText_ne_nil {text : List Char} (nonempty : text ≠ []) :
    text.flatMap printTextChar ≠ [] := by
  intro empty
  have decoded := decode_escapedText text
  rw [empty] at decoded
  exact nonempty decoded.symm

theorem read_startTag (content : builder.content = .markup) (tag : Tag) :
    builder.read (.startTag tag) =
      process builder.rested.rounds builder.rested (.startTag tag) := by
  cases builder
  cases content
  rfl

theorem read_endTag (content : builder.content = .markup) (name : String) :
    builder.read (.endTag name) = process builder.rested.rounds builder.rested (.endTag name) := by
  cases builder
  cases content
  rfl

theorem read_text (content : builder.content = .markup) (flushed : builder.pending = [])
    {text : List Char} (nonempty : text ≠ [])
    (kept : builder.skipsNewline = true → text.head? ≠ some '\n') :
    builder.read (.text text) = process builder.rested.rounds builder.rested (.text text) := by
  have whole : builder.trimToken (.text text) = .text text := by
    unfold trimToken
    split
    · rename_i same
      cases same
      rw [if_neg fun skips => kept skips rfl]
    · rfl
  have rested : builder.rested = { builder with skipsNewline := false } := by
    rw [Builder.rested, flushPending]
    simp only [flushed]
    rfl
  cases text with
  | nil => exact absurd rfl nonempty
  | cons c text =>
      rw [read, whole, rested]
      simp only [content]

theorem readText_cons (limit : Nat) (c : Char) (text : List Char) :
    readText (limit + 1) builder (c :: text) =
      let read := Lexeme.next builder.content builder.hasSections (c :: text)
      readText limit
        (match Token.ofLexeme? builder.content read.1 with
          | some token => (builder.reach read.1).read token
          | none => builder.reach read.1)
        read.2 := rfl

@[simp]
theorem reach_startTag (tag : WrittenTag) : builder.reach (.startTag tag) = builder := rfl

@[simp]
theorem reach_endTag (tag : WrittenTag) : builder.reach (.endTag tag) = builder := rfl

theorem reach_escapedText (content : builder.content = .markup) (text : List Char) :
    builder.reach (.text (text.flatMap printTextChar)) = builder := by
  rw [reach, content, Token.interrupts]
  simp only [beginsUnclosed_escapedText, Bool.false_eq_true, if_false]

theorem readText_printStart (content : builder.content = .markup) {name : ElementName}
    (plain : IsPlainName name.name) {items : List Attribute}
    (legible : ∀ item ∈ items, item.Legible) (distinct : (items.map Attribute.name).Nodup)
    (limit : Nat) (rest : List Char) :
    readText (limit + 1) builder (Fragment.printStart name items ++ rest) =
      readText limit (builder.read (.startTag ⟨name.name, items, false⟩)) rest := by
  have next := Lexeme.next_printStart plain legible builder.hasSections rest
  have shown : Fragment.printStart name items ++ rest =
      '<' :: (name.name.toList ++ items.flatMap Attribute.print ++ ['>'] ++ rest) := by
    simp [Fragment.printStart]
  rw [shown] at next ⊢
  rw [readText_cons, content, next]
  simp only [Token.ofLexeme?, Token.tagOf_written plain legible distinct, reach_startTag]

theorem readText_printEnd (content : builder.content = .markup) {name : ElementName}
    (plain : IsPlainName name.name) (limit : Nat) (rest : List Char) :
    readText (limit + 1) builder (Fragment.printEnd name ++ rest) =
      readText limit (builder.read (.endTag name.name)) rest := by
  have next := Lexeme.next_printEnd plain builder.hasSections rest
  have slash : "</".toList = ['<', '/'] := String.toList_ofList
  have shown : Fragment.printEnd name ++ rest =
      '<' :: ('/' :: name.name.toList ++ ['>'] ++ rest) := by
    simp [Fragment.printEnd, slash]
  rw [shown] at next ⊢
  rw [readText_cons, content, next]
  simp only [Token.ofLexeme?, nameOf_toList plain, reach_endTag]

theorem readText_printText (content : builder.content = .markup) {text : List Char}
    (nonempty : text ≠ []) (limit : Nat) {rest : List Char} (stops : ∀ c ∈ rest.head?, c = '<') :
    readText (limit + 1) builder (printText false text ++ rest) =
      readText limit (builder.read (.text text)) rest := by
  have shown : printText false text = text.flatMap printTextChar := rfl
  rw [shown]
  have next := Lexeme.next_text (escapedText_ne_nil nonempty)
    (angle_not_mem_escapedText List.mem_cons_self text)
    stops builder.hasSections
  cases written : text.flatMap printTextChar with
  | nil => exact absurd written (escapedText_ne_nil nonempty)
  | cons c more =>
      rw [written] at next
      rw [List.cons_append] at next ⊢
      rw [readText_cons, content, next]
      simp only [Token.ofLexeme?, Token.textOf, ← written, decode_escapedText,
        reach_escapedText content]

/-! ## Builders at rest stay at rest -/

/-- Planting a fragment leaves a builder ready. -/
theorem Ready.planted (ready : Ready builder) (parent : Nat) (fragment : Fragment)
    {formats : List Format} (listed : Listed builder.stack formats) :
    Ready { builder with store := builder.store.plant parent fragment, formats := formats } where
  content := ready.content
  flushed := ready.flushed
  straight := ready.straight
  unfostered := ready.unfostered
  mode := ready.mode
  rooted := ready.rooted
  plain := ready.plain
  listed := listed
  distinct := ready.distinct
  created := by
    intro element element_mem
    have earlier := ready.created element element_mem
    rw [Store.size_plant]
    omega

theorem free_of_opens {around : List ElementName} {name : String}
    (opens : Nesting.opens around name = true) : reserved.contains name = false := by
  unfold Nesting.opens at opens
  split at opens
  · rename_i parents part
    unfold tableParents? at part
    split at part <;> first | decide | cases part
  · simp only [opensInContent, Bool.and_eq_true, Bool.not_eq_true'] at opens
    exact opens.2.1.1.1.1.1

theorem not_mem_of_free {name : String} (free : reserved.contains name = false)
    {names : List String} (taken : ∀ name ∈ names, reserved.contains name = true) :
    name ∉ names := by
  intro listed
  rw [taken name listed] at free
  cases free

/-- After a start tag that opens its element, a builder is ready for what the element holds. -/
theorem Ready.entered (ready : Ready builder) {tag : Tag}
    (opens : Nesting.opens (names builder.stack) tag.name = true) {formats : List Format}
    (listed : Listed (⟨builder.store.entries.size, .page tag.name, false⟩ :: builder.stack)
      formats) :
    Ready { builder.entered tag formats with skipsNewline := false } where
  content := ready.content
  flushed := ready.flushed
  straight := rfl
  unfostered := ready.unfostered
  mode := rfl
  rooted := by
    rcases ready.rooted with ⟨inner, stack⟩
    exact ⟨_ :: inner, congrArg (List.cons _) stack⟩
  plain := by
    intro element element_mem
    rcases List.mem_cons.mp element_mem with rfl | earlier
    · exact ⟨rfl, not_mem_of_free (free_of_opens opens) (by decide)⟩
    · exact ready.plain element earlier
  listed := listed
  distinct := by
    refine List.nodup_cons.mpr ⟨fun taken => ?_, ready.distinct⟩
    rcases List.mem_map.mp taken with ⟨element, element_mem, same⟩
    have earlier := ready.created element element_mem
    dsimp only at same
    omega
  created := by
    intro element element_mem
    have grown : (builder.store.sprout builder.top (.page tag.name) tag.attributes).entries.size =
        builder.store.entries.size + 1 := Store.size_sprout _ _
    have bound : element.id < builder.store.entries.size + 1 := by
      rcases List.mem_cons.mp element_mem with rfl | earlier
      · exact Nat.lt_succ_self _
      · exact Nat.lt_succ_of_lt (ready.created element earlier)
    exact grown ▸ bound

theorem Ready.unmet (ready : Ready builder) {condition : Prop} :
    builder.pending = [] ∧ (builder.skipsNewline = true → condition) :=
  ⟨ready.flushed, fun skips => absurd (ready.straight.symm.trans skips) Bool.false_ne_true⟩

/-! ## Nested fragments -/

theorem head?_print {fragment : Fragment} (joined : fragment.Joined)
    (untexted : fragment.beginsWithText = false) {rest : List Char}
    (stops : ∀ c ∈ rest.head?, c = '<') :
    ∀ c ∈ (fragment.print false ++ rest).head?, c = '<' := by
  cases fragment with
  | nil => exact stops
  | text content later => cases untexted
  | comment later => exact absurd joined id
  | element name attributes children later =>
      intro c here
      simp only [Fragment.print, Fragment.printStart, List.cons_append, List.head?_cons,
        Option.mem_some_iff] at here
      exact here.symm

theorem head?_printText {text : List Char} (lineFeed : text.head? = some '\n') :
    (printText false text).head? = some '\n' := by
  cases text with
  | nil => cases lineFeed
  | cons c text =>
      cases lineFeed
      rfl

theorem rested_entered (ready : Ready builder) (tag : Tag) (formats : List Format) :
    (builder.entered tag formats).rested =
      { builder.entered tag formats with skipsNewline := false } := by
  have flushed : (builder.entered tag formats).pending = [] := ready.flushed
  rw [rested, flushPending]
  simp only [flushed]
  rfl

/-- The end tag of an element leads back to where its start tag was read. -/
theorem process_endTag_entered (ready : Ready builder) {tag : Tag} (formats : List Format)
    {inner : List Format} {store : Store}
    (opens : Nesting.opens (names builder.stack) tag.name = true)
    (filled : ElementName.voids.contains tag.name = false) {inside : Builder}
    (within : inside = { builder.entered tag formats with
      store := store, formats := inner, skipsNewline := false })
    (readyInside : Ready inside) :
    ∃ outer, process inside.rounds inside (.endTag tag.name) =
        { builder with store := store, formats := outer } ∧
      Listed builder.stack outer := by
  have stack : inside.stack =
      ⟨builder.store.entries.size, .page tag.name, false⟩ :: builder.stack := by
    rw [within]
    rfl
  have more : builder.stack ≠ [] := by
    rcases ready.exists_head with ⟨element, rest, stack⟩
    simp [stack]
  rcases process_endTag readyInside stack more rfl opens filled with ⟨outer, closed, listed⟩
  refine ⟨outer, ?_, listed⟩
  rw [closed, within, ← ready.mode]
  simp only [entered, ready.straight]

/-- A builder has read a fragment and nothing else: it rests where it did, with the fragment put
there, but for formatting that it no longer lists. -/
structure HasRead (before after : Builder) (fragment : Fragment) : Prop where
  content : after.content = .markup
  straight : before.skipsNewline = false → after.skipsNewline = false
  rested : ∃ formats, after.rested = { before.rested with
      store := before.rested.store.plant before.rested.top fragment, formats := formats } ∧
    Listed before.rested.stack formats

namespace HasRead

variable {before after : Builder} {fragment : Fragment}

theorem nil (content : builder.content = .markup) (ready : Ready builder.rested) :
    HasRead builder builder .nil where
  content := content
  straight := id
  rested := ⟨builder.rested.formats, rfl, ready.listed⟩

theorem ready (read : HasRead before after fragment) (earlier : Ready before.rested) :
    Ready after.rested := by
  rcases read.rested with ⟨formats, rested, listed⟩
  rw [rested]
  exact earlier.planted before.rested.top fragment listed

/-- What remains open is the same. -/
theorem stack (read : HasRead before after fragment) :
    after.rested.stack = before.rested.stack := by
  rcases read.rested with ⟨formats, rested, -⟩
  rw [rested]

/-- Fragments that are read one after another are put behind each other. -/
theorem append {middle : Builder} {later : Fragment} (first : HasRead before middle fragment)
    (second : HasRead middle after later) : HasRead before after (fragment ++ later) where
  content := second.content
  straight := fun straight => second.straight (first.straight straight)
  rested := by
    rcases first.rested with ⟨formats, rested, -⟩
    rcases second.rested with ⟨laterFormats, laterRested, listed⟩
    rw [rested] at laterRested listed
    refine ⟨laterFormats, ?_, listed⟩
    rw [laterRested, ← Store.plant_append]
    rfl

end HasRead

theorem hasRead_planted (ready : Ready builder.rested) {fragment : Fragment}
    {formats : List Format} (listed : Listed builder.rested.stack formats) :
    Ready { builder.rested with
        store := builder.rested.store.plant builder.rested.top fragment, formats := formats } ∧
      HasRead builder { builder.rested with
        store := builder.rested.store.plant builder.rested.top fragment, formats := formats }
        fragment := by
  have planted := ready.planted builder.rested.top fragment listed
  exact ⟨planted, planted.content, fun _ => planted.straight, formats,
    rested_eq planted.straight planted.flushed, listed⟩

theorem readText_text (content : builder.content = .markup) (ready : Ready builder.rested)
    {text : String} (filled : text ≠ "") (whole : '\x00' ∉ text.toList)
    (kept : keepsText (names builder.rested.stack) text.toList = true)
    (flushed : builder.pending = [])
    (straight : builder.skipsNewline = true → text.toList.head? ≠ some '\n') (limit : Nat)
    {rest : List Char} (stops : ∀ c ∈ rest.head?, c = '<') :
    ∃ after, readText (limit + 1) builder (printText false text.toList ++ rest) =
        readText limit after rest ∧ HasRead builder after (.text text .nil) := by
  have nonempty : text.toList ≠ [] := by simpa using filled
  have taken := process_text ready kept nonempty whole
  rw [← read_text content flushed nonempty straight] at taken
  refine ⟨_, readText_printText content nonempty limit stops, taken.content,
    fun _ => taken.straight, builder.rested.formats, ?_, ready.listed⟩
  rw [taken.rested, String.ofList_toList]
  rfl

theorem readText_void (content : builder.content = .markup) (ready : Ready builder.rested)
    {name : String} {attributes : List Attribute} (plain : IsPlainName name)
    (legible : ∀ item ∈ attributes, item.Legible) (distinct : (attributes.map Attribute.name).Nodup)
    (opens : Nesting.opens (names builder.rested.stack) name = true)
    (void : ElementName.voids.contains name = true) (limit : Nat) (rest : List Char) :
    ∃ after, readText (limit + 1) builder
          (Fragment.printStart ⟨.page, name⟩ attributes ++ rest) = readText limit after rest ∧
      Ready after ∧ HasRead builder after (.element ⟨.page, name⟩ attributes .nil .nil) := by
  have opened := @process_void _ ready ⟨name, attributes, false⟩ opens void
  rw [← read_startTag content] at opened
  refine ⟨_, ?_, hasRead_planted ready ready.listed⟩
  rw [readText_printStart content plain legible distinct, opened]
  rfl

/-- Between its tags, an element is read as what it holds. -/
theorem readText_filled (content : builder.content = .markup) (ready : Ready builder.rested)
    {name : String} {attributes : List Attribute} (plain : IsPlainName name)
    (legible : ∀ item ∈ attributes, item.Legible) (distinct : (attributes.map Attribute.name).Nodup)
    (opens : Nesting.opens (names builder.rested.stack) name = true)
    (filled : ElementName.voids.contains name = false) {children : Fragment} {limit between : Nat}
    {inner rest : List Char}
    (held : ∀ inside, inside.content = .markup → Ready inside.rested →
      names inside.rested.stack = .page name :: names builder.rested.stack → inside.pending = [] →
      inside.skipsNewline = (name == "pre" || name == "listing") →
      ∃ within, readText (limit + 1 + between) inside
          (inner ++ (Fragment.printEnd ⟨.page, name⟩ ++ rest)) =
          readText (limit + 1) within (Fragment.printEnd ⟨.page, name⟩ ++ rest) ∧
        HasRead inside within children) :
    ∃ after, readText (limit + 1 + between + 1) builder
          (Fragment.printStart ⟨.page, name⟩ attributes ++
            (inner ++ (Fragment.printEnd ⟨.page, name⟩ ++ rest))) = readText limit after rest ∧
      Ready after ∧ HasRead builder after (.element ⟨.page, name⟩ attributes children .nil) := by
  rcases @process_startTag _ ready ⟨name, attributes, false⟩ opens filled with
    ⟨formats, opened, listed⟩
  rw [← read_startTag content] at opened
  have rested := rested_entered ready ⟨name, attributes, false⟩ formats
  have readyInside : Ready (builder.rested.entered ⟨name, attributes, false⟩ formats).rested := by
    rw [rested]
    exact ready.entered opens listed
  rcases held (builder.rested.entered ⟨name, attributes, false⟩ formats) ready.content readyInside
    (by rw [rested]; rfl) ready.flushed rfl with ⟨within, readInside, read⟩
  have readyWithin := read.ready readyInside
  rcases read.rested with ⟨inside, restedWithin, -⟩
  rw [rested] at restedWithin
  rcases process_endTag_entered ready formats opens filled restedWithin readyWithin with
    ⟨outer, closed, listedOuter⟩
  rw [← read_endTag read.content] at closed
  refine ⟨_, ?_, hasRead_planted ready listedOuter⟩
  rw [readText_printStart content plain legible distinct, opened, readInside,
    readText_printEnd read.content plain, closed]
  rfl

/-- What is printed of a fragment is read as the fragment by every builder that is ready for it. -/
def Reads (fragment : Fragment) : Prop :=
  ∀ builder : Builder, builder.content = .markup → Ready builder.rested →
    fragment.nested (names builder.rested.stack) = true →
    (fragment.beginsWithText = true → builder.pending = [] ∧
      (builder.skipsNewline = true → (fragment.print false).head? ≠ some '\n')) →
    ∀ (limit : Nat) (rest : List Char), (∀ c ∈ rest.head?, c = '<') →
      ∃ after, readText (limit + fragment.lexemeCount) builder (fragment.print false ++ rest) =
          readText limit after rest ∧ HasRead builder after fragment

theorem reads_text {text : String} {later : Fragment} (filled : text ≠ "")
    (whole : '\x00' ∉ text.toList) (joined : later.Joined)
    (untexted : later.beginsWithText = false) (reads : Reads later) :
    Reads (.text text later) := by
  intro builder content ready nested begins limit rest stops
  rcases begins rfl with ⟨flushed, kept⟩
  rw [Fragment.nested, Bool.and_eq_true] at nested
  have straight : builder.skipsNewline = true → text.toList.head? ≠ some '\n' := by
    intro skips lineFeed
    refine kept skips ?_
    rw [Fragment.print, List.head?_append, head?_printText lineFeed]
    rfl
  rcases readText_text content ready filled whole nested.1 flushed straight
    (limit + later.lexemeCount) (head?_print joined untexted stops) with ⟨here, readHere, first⟩
  rcases reads here first.content (first.ready ready) (first.stack ▸ nested.2)
    (by simp [untexted]) limit rest stops with ⟨after, readAfter, second⟩
  refine ⟨after, ?_, first.append second⟩
  rw [Fragment.print, List.append_assoc, Fragment.lexemeCount, ← Nat.add_assoc, readHere,
    readAfter]

/-- An element is read as it was printed, whether it holds anything or not. -/
theorem readText_element (content : builder.content = .markup) (ready : Ready builder.rested)
    {name : String} {attributes : List Attribute} (plain : IsPlainName name)
    (legible : ∀ item ∈ attributes, item.Legible) (distinct : (attributes.map Attribute.name).Nodup)
    (opens : Nesting.opens (names builder.rested.stack) name = true) {children : Fragment}
    (inside : (if ElementName.voids.contains name then children == .nil
      else !losesLineFeed name (children.print false) &&
        children.nested (.page name :: names builder.rested.stack)) = true)
    (reads : Reads children) (limit : Nat) (rest : List Char) :
    ∃ after, readText (limit +
          ((if ElementName.voids.contains name then 0 else children.lexemeCount + 1) + 1)) builder
        (Fragment.printStart ⟨.page, name⟩ attributes ++
          ((if ElementName.voids.contains name then []
            else children.print false ++ Fragment.printEnd ⟨.page, name⟩) ++ rest)) =
        readText limit after rest ∧
      Ready after ∧ HasRead builder after (.element ⟨.page, name⟩ attributes children .nil) := by
  cases filled : ElementName.voids.contains name with
  | true =>
      rw [filled] at inside
      obtain rfl : children = .nil := by simpa using inside
      exact readText_void content ready plain legible distinct opens filled _ _
  | false =>
      rw [filled] at inside
      simp only [Bool.false_eq_true, if_false, Bool.and_eq_true, Bool.not_eq_true'] at inside
      have closing : ∀ c ∈ (Fragment.printEnd ⟨.page, name⟩ ++ rest).head?, c = '<' := by
        have slash : "</".toList = ['<', '/'] := String.toList_ofList
        simp [Fragment.printEnd, slash]
      have read := @readText_filled _ content ready _ _ plain legible distinct opens filled
        children limit children.lexemeCount (children.print false) rest
      simp only [Bool.false_eq_true, if_false, List.append_assoc]
      rw [show limit + (children.lexemeCount + 1 + 1) =
        limit + 1 + children.lexemeCount + 1 by omega]
      refine read fun insideOf marked readyInside stack flushed skips => ?_
      refine reads insideOf marked readyInside (stack ▸ inside.2)
        (fun _ => ⟨flushed, fun skipped lineFeed => ?_⟩) _ _ closing
      have lost : losesLineFeed name (children.print false) = true := by
        rw [losesLineFeed, lineFeed, ← skips, skipped]
        rfl
      rw [inside.1] at lost
      cases lost

theorem reads_element {name : ElementName} {attributes : List Attribute}
    {children later : Fragment} (plain : IsPlainName name.name)
    (legible : ∀ item ∈ attributes, item.Legible) (distinct : (attributes.map Attribute.name).Nodup)
    (readsChildren : Reads children) (readsLater : Reads later) :
    Reads (.element name attributes children later) := by
  intro builder content ready nested _ limit rest stops
  simp only [Fragment.nested, Bool.and_eq_true, beq_iff_eq] at nested
  rcases nested with ⟨⟨⟨space, opens⟩, inside⟩, nestedLater⟩
  obtain ⟨_, name⟩ := name
  obtain rfl := space
  replace plain : IsPlainName name := plain
  have void : (ElementName.mk .page name).isVoid = ElementName.voids.contains name := rfl
  have unraw : (ElementName.mk .page name).hasRawText = false := by
    have other : name ∉ rawTextNames := not_mem_of_free (free_of_opens opens) (by decide)
    rw [ElementName.hasRawText, ElementName.isOneOf]
    simpa using other
  rcases readText_element content ready plain legible distinct opens inside readsChildren
    (limit + later.lexemeCount) (later.print false ++ rest) with ⟨here, readHere, readyHere, first⟩
  have restedHere := rested_eq readyHere.straight readyHere.flushed
  rcases readsLater here readyHere.content (first.ready ready) (first.stack ▸ nestedLater)
    (fun _ => readyHere.unmet) limit rest stops with ⟨after, readAfter, second⟩
  refine ⟨after, ?_, first.append second⟩
  rw [Fragment.print, Fragment.lexemeCount, unraw, void, ← readAfter, ← readHere]
  congr 1
  · omega
  · simp only [List.append_assoc]

/-- What is printed of a nested fragment is read as the fragment, where the reader is ready for
it. -/
theorem reads_fragment {fragment : Fragment} (legible : fragment.Legible)
    (joined : fragment.Joined) : Reads fragment := by
  induction fragment with
  | nil => exact fun builder content ready _ _ _ _ _ => ⟨builder, rfl, .nil content ready⟩
  | comment rest ih => exact absurd joined id
  | text text later ih =>
      rcases joined with ⟨filled, untexted, joined⟩
      exact reads_text filled legible.1 joined untexted (ih legible.2 joined)
  | element name attributes children later ihChildren ihLater =>
      rcases legible with ⟨⟨plain, legibleItems, distinct⟩, legibleChildren, legibleLater⟩
      exact reads_element plain legibleItems distinct (ihChildren legibleChildren joined.1)
        (ihLater legibleLater joined.2)

/-! ## Whole texts -/

theorem Ready.start : Ready Builder.start where
  content := rfl
  flushed := rfl
  straight := rfl
  unfostered := rfl
  mode := rfl
  rooted := ⟨[], rfl⟩
  plain := by
    intro element element_mem
    rw [List.mem_singleton.mp element_mem]
    decide
  listed := .unlisted rfl .nil
  distinct := List.nodup_singleton _
  created := by
    intro element element_mem
    rw [List.mem_singleton.mp element_mem]
    decide

theorem uniform_eq {text : List Char} (lined : '\r' ∉ text) : prepare.uniform text = text := by
  induction text using prepare.uniform.induct with
  | case1 => rfl
  | case2 rest ih => exact absurd List.mem_cons_self lined
  | case3 c rest apart ih =>
      rw [List.mem_cons, not_or] at lined
      rw [prepare.uniform, ih lined.2, if_neg (by simpa using Ne.symm lined.1)]
      exact apart

theorem prepare_eq {text : List Char} (lined : '\r' ∉ text)
    (unmarked : text.head? ≠ some '\ufeff') : prepare text = text := by
  have kept := uniform_eq lined
  unfold prepare
  dsimp only
  split
  · exact absurd rfl unmarked
  · exact kept

end Builder

namespace Fragment

theorem lexemeCount_le_length {fragment : Fragment} (joined : fragment.Joined) (raw : Bool) :
    fragment.lexemeCount ≤ (fragment.print raw).length := by
  induction fragment generalizing raw with
  | nil => exact Nat.le_refl 0
  | comment rest ih => exact absurd joined id
  | text content rest ih =>
      rcases joined with ⟨filled, -, joined⟩
      have nonempty : printText raw content.toList ≠ [] := by
        rw [printText]
        split
        · simpa using filled
        · exact Builder.escapedText_ne_nil (by simpa using filled)
      have positive := List.length_pos_iff.mpr nonempty
      have later := ih joined raw
      simp only [lexemeCount, print, List.length_append]
      omega
  | element name attributes children rest ihChildren ihRest =>
      have inside := ihChildren joined.1 name.hasRawText
      have later := ihRest joined.2 raw
      simp only [lexemeCount, print, printStart, printEnd, List.length_append, List.length_cons]
      split
      · simp only [List.length_nil]
        omega
      · simp only [List.length_append, List.length_cons]
        omega

theorem unhidden_of_nested {fragment : Fragment} {around : List ElementName}
    (nested : fragment.nested around = true) : fragment.Unhidden := by
  induction fragment generalizing around with
  | nil => exact fun element listed => absurd listed List.not_mem_nil
  | text content rest ih =>
      rw [Fragment.nested, Bool.and_eq_true] at nested
      exact ih nested.2
  | comment rest ih => exact ih nested
  | element name attributes children rest ihChildren ihRest =>
      simp only [Fragment.nested, Bool.and_eq_true] at nested
      rcases nested with ⟨⟨⟨-, opens⟩, inside⟩, nestedRest⟩
      have visible : name.isPage "template" = false := by
        refine Bool.eq_false_iff.mpr fun hidden => ?_
        rw [ElementName.isPage, Bool.and_eq_true, beq_iff_eq, beq_iff_eq] at hidden
        rw [hidden.2] at opens
        exact absurd (Builder.free_of_opens opens) (by decide)
      intro element listed
      rcases List.mem_cons.mp listed with rfl | below
      · exact visible
      · rcases List.mem_append.mp below with held | later
        · split at inside
          · rw [beq_iff_eq.mp inside] at held
            cases held
          · rw [Bool.and_eq_true] at inside
            exact ihChildren inside.2 element held
        · exact ihRest nestedRest element later

/-- What is printed of a nested fragment whose texts are joined is read as that fragment. -/
theorem ofText_print {fragment : Fragment} (nested : fragment.nested [.page "html"] = true)
    (legible : fragment.Legible) (joined : fragment.Joined)
    (lined : '\r' ∉ fragment.print false)
    (unmarked : (fragment.print false).head? ≠ some '\ufeff') :
    ofText (fragment.print false) = fragment := by
  have rested := Builder.rested_eq Builder.Ready.start.straight Builder.Ready.start.flushed
  have count := lexemeCount_le_length joined false
  obtain ⟨limit, enough⟩ : ∃ limit,
      (fragment.print false).length + 1 = limit + 1 + fragment.lexemeCount :=
    ⟨(fragment.print false).length - fragment.lexemeCount, by omega⟩
  rcases Builder.reads_fragment legible joined Builder.start rfl
    (rested.symm ▸ Builder.Ready.start) nested (fun _ => Builder.Ready.start.unmet) (limit + 1) []
    (by simp) with ⟨after, read, kept⟩
  rw [List.append_nil, ← enough] at read
  have finished : Builder.readText (limit + 1) after [] = after.rested := by
    rw [Builder.rested, Builder.straighten (kept.straight rfl)]
    rfl
  rcases kept.rested with ⟨formats, restedAfter, -⟩
  rw [ofText, Builder.prepare_eq lined unmarked, read, finished, restedAfter]
  exact Store.fragment_plant rfl joined (unhidden_of_nested nested)

end Fragment

end PageRender.Html
