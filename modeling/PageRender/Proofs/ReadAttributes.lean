import PageRender.Proofs.BuilderAttributes

/-!
# What is read has attributes of tags
-/

namespace PageRender.Html

/-- The attributes of a token are those of a tag. -/
def Token.FromTag (source : List Attribute → Prop) : Token → Prop
  | .startTag tag => source tag.attributes
  | _ => True

/-- What a rule comes to holds attributes of tags. -/
def Step.FromTags (source : List Attribute → Prop) : Step → Prop
  | .done builder => builder.FromTags source
  | .again builder => builder.FromTags source

namespace Builder

variable {source : List Attribute → Prop} {builder : Builder} {tag : Tag}

/-! ## Content -/

theorem FromTags.contentText (taken : builder.FromTags source) (text : List Char) :
    (builder.contentText text).FromTags source := by
  unfold Builder.contentText
  dsimp only
  split
  · exact taken
  · exact fromTags_insertText.mpr taken.reconstruct

@[simp]
theorem FromTags.openTemplate (taken : builder.FromTags source) (own : source tag.attributes) :
    (builder.openTemplate tag).FromTags source :=
  fromTags_listMarker.mpr (taken.insert own)

theorem FromTags.headStart? (taken : builder.FromTags source) (own : source tag.attributes)
    {opened : Builder} (found : builder.headStart? tag = some opened) :
    opened.FromTags source := by
  unfold Builder.headStart? at found
  split at found
  all_goals cases found
  all_goals simp [taken, own]

@[simp]
theorem fromTags_closeItem {names : List String} {stack : List OpenElement} :
    (closeItem names stack builder).FromTags source ↔ builder.FromTags source := by
  induction stack with
  | nil => rfl
  | cons element rest ih =>
      unfold closeItem
      split
      · simp
      · split
        · rfl
        · exact ih

@[simp]
theorem FromTags.closeOpenLink (taken : builder.FromTags source) :
    builder.closeOpenLink.FromTags source := by
  unfold Builder.closeOpenLink
  split
  · exact taken
  · rename_i id link found
    exact (taken.closeFormatting "a").unlist id

@[simp]
theorem fromTags_closeSelection :
    builder.closeSelection.FromTags source ↔ builder.FromTags source := by
  unfold closeSelection
  split <;> simp

@[simp]
theorem fromTags_closeOption {except : List String} :
    (builder.closeOption except).FromTags source ↔ builder.FromTags source := by
  unfold closeOption
  split
  · simp
  · split <;> simp

@[simp]
theorem FromTags.insertForeign (taken : builder.FromTags source) (own : source tag.attributes)
    {space : Space} (foreign : space ≠ .page) :
    (builder.insertForeign space tag).FromTags source := by
  have opened : ∀ name holdsPage, (builder.insertElement ⟨space, name⟩
      (tag.attributes.map (adjustAttribute space)) holdsPage).FromTags source := by
    intro name holdsPage
    refine taken.insertElement ⟨tag.attributes, own, ?_⟩ holdsPage
    simp [foreign]
  unfold Builder.insertForeign
  dsimp only
  split
  · exact fromTags_pop.mpr (opened _ _)
  · exact opened _ _

@[simp]
theorem FromTags.openForm (taken : builder.FromTags source) (own : source tag.attributes) :
    (builder.openForm tag).FromTags source := by
  have opened := (fromTags_closeParagraph.mpr taken).insert own
  unfold Builder.openForm
  split
  · exact taken
  · dsimp only
    split <;> exact opened

@[simp]
theorem FromTags.openControl (taken : builder.FromTags source) (own : source tag.attributes) :
    (builder.openControl tag).FromTags source := by
  unfold Builder.openControl
  dsimp only
  split <;> simp [taken, own]

@[simp]
theorem FromTags.openFormatting (taken : builder.FromTags source) (own : source tag.attributes) :
    (builder.openFormatting tag).FromTags source :=
  (taken.reconstruct.insert own).listFormat own

@[simp]
theorem FromTags.openSelection (taken : builder.FromTags source) (own : source tag.attributes) :
    (builder.openSelection tag).FromTags source := by
  unfold Builder.openSelection
  split <;> simp [taken, own]

theorem FromTags.contentStart (taken : builder.FromTags source) (own : source tag.attributes) :
    (builder.contentStart tag).FromTags source := by
  unfold Builder.contentStart
  have named : ∀ tag' : Tag, (if tag.name == "image" then { tag with name := "img" } else tag) =
      tag' → source tag'.attributes := by
    rintro _ rfl
    split <;> exact own
  generalize (if tag.name == "image" then { tag with name := "img" } else tag) = renamed at named
  have own := named renamed rfl
  dsimp only
  split
  · rename_i opened found
    exact taken.headStart? own found
  · have ready := taken.reconstruct
    split
    all_goals simp [taken, own, ready]

/-! ### End tags -/

@[simp]
theorem fromTags_closeInScope {name : String} {targets : List String} :
    (builder.closeInScope name targets).FromTags source ↔ builder.FromTags source := by
  simp [closeInScope]

@[simp]
theorem FromTags.closeTemplate (taken : builder.FromTags source) :
    builder.closeTemplate.FromTags source := by
  unfold Builder.closeTemplate
  split
  · exact FromTags.clearToMarker taken
  · exact taken

@[simp]
theorem FromTags.closeForm (taken : builder.FromTags source) :
    builder.closeForm.FromTags source := by
  unfold Builder.closeForm
  split
  · exact fromTags_closeInScope.mpr taken
  · dsimp only
    split
    · exact taken
    · split <;> exact taken

/-! ## Steps

A step leaves one part of a table, or graphics, for what is around it. -/

@[simp]
theorem fromTags_done : (Step.done builder).FromTags source ↔ builder.FromTags source := Iff.rfl

@[simp]
theorem fromTags_again : (Step.again builder).FromTags source ↔ builder.FromTags source := Iff.rfl

@[simp]
theorem fromTags_iteStep {condition : Prop} [Decidable condition] {first second : Step} :
    (if condition then first else second).FromTags source ↔
      if condition then first.FromTags source else second.FromTags source := by
  split <;> rfl

@[simp]
theorem fromTags_clearTo {names : List String} :
    (builder.clearTo names).FromTags source ↔ builder.FromTags source := Iff.rfl

@[simp]
theorem fromTags_closeSection :
    builder.closeSection.FromTags source ↔ builder.FromTags source := Iff.rfl

@[simp]
theorem fromTags_closeRow : builder.closeRow.FromTags source ↔ builder.FromTags source := Iff.rfl

@[simp]
theorem FromTags.closeCell (taken : builder.FromTags source) :
    builder.closeCell.FromTags source := by
  simp [Builder.closeCell, taken]

@[simp]
theorem FromTags.closeCaption (taken : builder.FromTags source) :
    builder.closeCaption.FromTags source := by
  simp [Builder.closeCaption, taken]

@[simp]
theorem FromTags.closeColumns (taken : builder.FromTags source) :
    builder.closeColumns.FromTags source := by
  simp [Builder.closeColumns, taken]

@[simp]
theorem fromTags_leaveForeign :
    builder.leaveForeign.FromTags source ↔ builder.FromTags source := Iff.rfl

theorem current_ne_page {token : Token} (foreign : builder.isForeign token = true) :
    builder.current.space ≠ .page := by
  unfold isForeign at foreign
  split at foreign
  · cases foreign
  · rename_i element rest stack
    split at foreign
    · cases foreign
    · rename_i other
      simpa [current, stack] using other

theorem fromTag_trimToken {token : Token} (own : token.FromTag source) :
    (builder.trimToken token).FromTag source := by
  unfold trimToken
  split
  · split
    · trivial
    · exact own
  · exact own

theorem FromTags.rawToken (taken : builder.FromTags source) (token : Token) :
    (builder.rawToken token).FromTags source := by
  unfold Builder.rawToken
  split
  · exact fromTags_insertText.mpr taken
  · exact taken
  · exact taken

/-! ## Rules -/

variable (bare : source [])
include bare

theorem FromTags.contentEnd (taken : builder.FromTags source) (name : String) :
    (builder.contentEnd name).FromTags source := by
  unfold Builder.contentEnd
  split
  all_goals simp [taken, bare]

theorem FromTags.contentToken (taken : builder.FromTags source) {token : Token}
    (own : token.FromTag source) : (builder.contentToken token).FromTags source := by
  cases token with
  | text text => exact taken.contentText text
  | comment => exact fromTags_insertComment.mpr taken
  | startTag tag => exact taken.contentStart own
  | endTag name => exact taken.contentEnd bare name

theorem FromTags.foster (taken : builder.FromTags source) {token : Token}
    (own : token.FromTag source) : (builder.foster token).FromTags source := by
  have moved : FromTags source { builder with fosters := true } := taken
  exact moved.contentToken bare own

theorem FromTags.flushPending (taken : builder.FromTags source) :
    builder.flushPending.FromTags source := by
  have emptied : FromTags source { builder with pending := [] } := taken
  unfold Builder.flushPending
  dsimp only
  split
  · exact taken
  · split
    · exact fromTags_insertText.mpr emptied
    · exact emptied.foster bare trivial

theorem FromTags.tableText (taken : builder.FromTags source) (text : List Char) :
    (builder.tableText text).FromTags source := by
  unfold Builder.tableText
  split
  · exact taken
  · exact taken.foster bare trivial

theorem FromTags.tableStart (taken : builder.FromTags source) (own : source tag.attributes) :
    (builder.tableStart tag).FromTags source := by
  have fostered : (builder.foster (.startTag tag)).FromTags source := taken.foster bare own
  have opened : ((builder.headStart? tag).getD builder).FromTags source := by
    cases found : builder.headStart? tag with
    | none => exact taken
    | some opened => exact taken.headStart? own found
  unfold Builder.tableStart
  split
  all_goals simp [taken, own, bare, fostered, opened]

theorem FromTags.tableEnd (taken : builder.FromTags source) (name : String) :
    (builder.tableEnd name).FromTags source := by
  have fostered : (builder.foster (.endTag name)).FromTags source := taken.foster bare trivial
  unfold Builder.tableEnd
  split
  all_goals simp [taken, fostered]

theorem FromTags.tableToken (taken : builder.FromTags source) {token : Token}
    (own : token.FromTag source) : (builder.tableToken token).FromTags source := by
  cases token with
  | text text => exact taken.tableText bare text
  | comment => exact fromTags_insertComment.mpr taken
  | startTag tag => exact taken.tableStart bare own
  | endTag name => exact taken.tableEnd bare name

theorem FromTags.sectionToken (taken : builder.FromTags source) {token : Token}
    (own : token.FromTag source) : (builder.sectionToken token).FromTags source := by
  have others := taken.tableToken bare own
  unfold Builder.sectionToken
  split
  · have start : source _ := own
    simp [taken, start, bare, others]
  · simp [taken, others]
  · exact others

theorem FromTags.rowToken (taken : builder.FromTags source) {token : Token}
    (own : token.FromTag source) : (builder.rowToken token).FromTags source := by
  have others := taken.tableToken bare own
  unfold Builder.rowToken
  dsimp only
  split
  · have start : source _ := own
    simp [taken, start, others]
  · simp [taken, others]
  · exact others

theorem FromTags.cellToken (taken : builder.FromTags source) {token : Token}
    (own : token.FromTag source) : (builder.cellToken token).FromTags source := by
  have others := taken.contentToken bare own
  unfold Builder.cellToken
  split
  all_goals simp [taken, others]

theorem FromTags.captionToken (taken : builder.FromTags source) {token : Token}
    (own : token.FromTag source) : (builder.captionToken token).FromTags source := by
  have others := taken.contentToken bare own
  unfold Builder.captionToken
  dsimp only
  split
  all_goals simp [taken, others]

theorem FromTags.columnsToken (taken : builder.FromTags source) {token : Token}
    (own : token.FromTag source) : (builder.columnsToken token).FromTags source := by
  unfold Builder.columnsToken
  split
  · rename_i text
    have inserted : (builder.insertText (text.span isSpace).1).FromTags source :=
      fromTags_insertText.mpr taken
    have popped : FromTags source
        { (builder.insertText (text.span isSpace).1).pop with mode := .table } := inserted
    dsimp only
    split
    · exact inserted
    · split
      · exact popped.tableText bare _
      · exact inserted
  · exact fromTags_insertComment.mpr taken
  · have start : source _ := own
    simp [taken, start]
  · simp [taken]

theorem FromTags.templateToken (taken : builder.FromTags source) {token : Token}
    (own : token.FromTag source) : (builder.templateToken token).FromTags source := by
  have switched : ∀ mode, (builder.switchTemplate mode).FromTags source := fun mode => taken
  unfold Builder.templateToken
  split
  · split
    · rename_i opened found
      exact taken.headStart? own found
    · simp [switched]
  · simp [taken]
  · exact taken.contentToken bare own

/-! ## Tokens -/

theorem FromTags.byMode (taken : builder.FromTags source) {token : Token}
    (own : token.FromTag source) : (builder.byMode token).FromTags source := by
  unfold Builder.byMode
  split
  · exact taken.contentToken bare own
  · exact taken.tableToken bare own
  · exact taken.captionToken bare own
  · exact taken.columnsToken bare own
  · exact taken.sectionToken bare own
  · exact taken.rowToken bare own
  · exact taken.cellToken bare own
  · exact taken.templateToken bare own

theorem FromTags.foreignToken (taken : builder.FromTags source) {token : Token}
    (own : token.FromTag source) (foreign : builder.isForeign token = true) :
    (builder.foreignToken token).FromTags source := by
  unfold Builder.foreignToken
  split
  · exact fromTags_insertText.mpr taken
  · exact fromTags_insertComment.mpr taken
  · have start : source _ := own
    simp [taken, start, current_ne_page foreign]
  · split
    · exact taken
    · split
      · exact taken
      · exact taken.byMode bare own

theorem FromTags.process (taken : builder.FromTags source) {token : Token}
    (own : token.FromTag source) (rounds : Nat) :
    (process rounds builder token).FromTags source := by
  induction rounds generalizing builder with
  | zero => exact taken
  | succ rounds ih =>
      have step : (if builder.isForeign token then builder.foreignToken token
          else builder.byMode token).FromTags source := by
        split
        · rename_i foreign
          exact taken.foreignToken bare own foreign
        · exact taken.byMode bare own
      unfold Builder.process
      split
      · rename_i last
        rw [last] at step
        exact step
      · rename_i next
        rw [next] at step
        exact ih step

theorem FromTags.read (taken : builder.FromTags source) {token : Token}
    (own : token.FromTag source) : (builder.read token).FromTags source := by
  have trimmed : (builder.trimToken token).FromTag source := fromTag_trimToken own
  have ready : FromTags source { builder with skipsNewline := false } := taken
  unfold Builder.read
  dsimp only
  split
  case h_3 => exact ready.rawToken _
  all_goals
    split
    · exact ready
    · exact ready.process bare trimmed _
    · exact (ready.flushPending bare).process bare trimmed _

omit bare in
theorem fromTag_of_ofLexeme? (every : ∀ written, source (Token.attributesOf written))
    {content : Content} {lexeme : Lexeme} {token : Token}
    (read : Token.ofLexeme? content lexeme = some token) : token.FromTag source := by
  cases lexeme with
  | startTag tag =>
      cases read
      exact every tag.attributes
  | nothing text => cases read
  | text text => cases read; trivial
  | endTag tag => cases read; trivial
  | comment text => cases read; trivial
  | characterData text close => cases read; trivial

omit bare in
theorem fromTags_reach (taken : builder.FromTags source) (lexeme : Lexeme) :
    (builder.reach lexeme).FromTags source := by
  unfold reach
  split
  · exact taken
  · exact taken

theorem FromTags.readText (every : ∀ written, source (Token.attributesOf written))
    (taken : builder.FromTags source) (limit : Nat) (text : List Char) :
    (readText limit builder text).FromTags source := by
  induction limit generalizing builder text with
  | zero => exact taken
  | succ limit ih =>
      cases text with
      | nil => exact taken.flushPending bare
      | cons c text =>
          unfold Builder.readText
          dsimp only
          apply ih
          have reached := fromTags_reach taken
            (Lexeme.next builder.content builder.hasSections (c :: text)).1
          split
          · rename_i token read
            exact reached.read bare (fromTag_of_ofLexeme? every read)
          · exact reached

theorem FromTags.start : Builder.start.FromTags source := by
  refine ⟨fun id => ?_, fun listed => nomatch listed⟩
  cases id with
  | zero => exact fromTag_page.mpr bare
  | succ id => exact fromTag_page.mpr bare

end Builder

/-- What holds of no attributes and of the attributes of every tag, holds of every element that is
read. -/
theorem fromTag_of_mem_ofText {source : List Attribute → Prop} (bare : source [])
    (every : ∀ written, source (Token.attributesOf written)) {text : List Char}
    {element : ElementName × List Attribute} (listed : element ∈ (Fragment.ofText text).elements) :
    FromTag source element := by
  have read := (Builder.FromTags.start bare).readText bare every
    ((prepare text).length + 1) (prepare text)
  exact read.store.fragment listed

end PageRender.Html
