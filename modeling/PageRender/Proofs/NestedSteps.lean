import PageRender.Proofs.NestedTags

/-!
# Steps through nested markup

What one token of nested markup does to a builder that is ready for it, whichever rules are in
force: a start tag opens its element under the innermost one, an end tag closes that element again,
and a text comes to stand there. The parts of tables have rules of their own, and the text between
them waits until it is known to be blank.
-/

namespace PageRender.Html.Builder

open Nesting

variable {builder : Builder}

theorem process_eq (ready : Ready builder) {token : Token} {after : Builder}
    (done : builder.byMode token = .done after) :
    process builder.rounds builder token = after := by
  rw [rounds, process, ready.isForeign_eq_false, if_neg (by simp), done]

theorem mode_of_inContent (ready : Ready builder)
    (content : inContent (names builder.stack) = true) :
    builder.mode = .body ∨ builder.mode = .caption ∨ builder.mode = .cell := by
  simpa [inContent, ← ready.mode] using content

theorem byMode_startTag (ready : Ready builder) (content : inContent (names builder.stack) = true)
    {tag : Tag} (whole : tableParents? tag.name = none) :
    builder.byMode (.startTag tag) = .done (builder.contentStart tag) := by
  have stays : cellBreakers.contains tag.name = false := contains_eq_false whole (by decide)
  rcases mode_of_inContent ready content with mode | mode | mode
  · rw [byMode, mode]
    rfl
  · rw [byMode, mode]
    simp only [captionToken, stays, Bool.false_eq_true, if_false]
    rfl
  · rw [byMode, mode]
    simp only [cellToken, stays, Bool.false_eq_true, if_false]
    rfl

theorem byMode_endTag (ready : Ready builder) (content : inContent (names builder.stack) = true)
    {name : String} (whole : tableParents? name = none) (free : reserved.contains name = false)
    (untabled : name ≠ "table") :
    builder.byMode (.endTag name) = .done (builder.contentEnd name) := by
  have apart : ∀ names, names ⊆ cellBreakers ++ ["body", "html", "table"] →
      names.contains name = false := by
    intro names subset
    refine Bool.eq_false_iff.mpr fun listed => ?_
    have closed : ∀ name ∈ cellBreakers ++ ["body", "html", "table"], name = "table" ∨
        reserved.contains name = true ∨ (tableParents? name).isSome = true := by decide
    rcases closed name (subset (List.contains_iff_mem.mp listed)) with same | taken | part
    · exact untabled same
    · rw [free] at taken
      cases taken
    · rw [whole] at part
      cases part
  rcases mode_of_inContent ready content with mode | mode | mode
  · rw [byMode, mode]
    rfl
  · have single : (name == "caption") = false ∧ (name == "table") = false := by
      have caption := apart ["caption"] (by decide)
      have table := apart ["table"] (by decide)
      simp_all
    rw [byMode, mode]
    simp only [captionToken, single, apart (["body", "html"] ++ cellBreakers) (by decide),
      Bool.false_eq_true, if_false]
    rfl
  · rw [byMode, mode]
    simp only [cellToken, apart ["td", "th"] (by decide),
      apart ["body", "caption", "col", "colgroup", "html"] (by decide),
      apart ElementName.tableParts (by decide), Bool.false_eq_true, if_false]
    rfl

/-! ## Tags that open where they stand -/

theorem modeWithin_page {name : String} (whole : tableParents? name = none)
    {around : List ElementName} (inside : around ≠ []) :
    modeWithin (.page name :: around) =
      if name == "table" then .table else modeWithin around := by
  have row : (name == "tr") = false := by
    simpa using @contains_eq_false name whole ["tr"] (by decide)
  have caption : (name == "caption") = false := by
    simpa using @contains_eq_false name whole ["caption"] (by decide)
  have columns : (name == "colgroup") = false := by
    simpa using @contains_eq_false name whole ["colgroup"] (by decide)
  rw [modeWithin, if_neg (by simpa using inside)]
  simp only [ElementName.isOneOf, ElementName.isPage, ElementName.page, beq_self_eq_true,
    Bool.true_and, @contains_eq_false name whole ["td", "th"] (by decide), row, caption, columns,
    @contains_eq_false name whole ["tbody", "thead", "tfoot"] (by decide), Bool.false_eq_true,
    if_false]

/-- The builder after a start tag that opens its element where it stands. -/
def entered (builder : Builder) (tag : Tag) (formats : List Format) : Builder :=
  { builder with
    store := builder.store.sprout builder.top (.page tag.name) tag.attributes
    stack := ⟨builder.store.entries.size, .page tag.name, false⟩ :: builder.stack
    formats := formats
    mode := modeWithin (.page tag.name :: names builder.stack)
    skipsNewline := tag.name == "pre" || tag.name == "listing" }

/-- A builder has opened the element of a start tag where it stands. -/
def HasEntered (before after : Builder) (tag : Tag) : Prop :=
  ∃ formats, after = before.entered tag formats ∧
    Listed (⟨before.store.entries.size, .page tag.name, false⟩ :: before.stack) formats

theorem names_ne_nil (ready : Ready builder) : names builder.stack ≠ [] := by
  rcases ready.exists_head with ⟨element, rest, stack⟩
  simp [names, stack]

theorem hasEntered_contentStart (ready : Ready builder) {tag : Tag}
    (whole : tableParents? tag.name = none)
    (opens : opensInContent (names builder.stack) tag.name = true)
    (filled : ElementName.voids.contains tag.name = false) :
    HasEntered builder (builder.contentStart tag) tag := by
  have unbounded := unbounded_of_whole whole
  rw [contentStart_filled ready whole opens filled]
  have mode := modeWithin_page whole (names_ne_nil ready)
  rw [← ready.mode] at mode
  split
  · rename_i styled
    have special : ∀ name ∈ formattingNames,
        (name == "table") = false ∧ (name == "pre" || name == "listing") = false := by decide
    rcases special tag.name (by simpa using styled) with ⟨untabled, unspaced⟩
    refine ⟨.element builder.store.entries.size tag :: withoutFourth tag builder.formats, ?_, ?_⟩
    · rw [listFormat, insert_eq ready.unfostered, entered, mode, untabled, unspaced]
      refine (straighten ?_).symm
      exact ready.straight
    · exact .formatting unbounded rfl styled (ready.listed.withoutFourth tag)
  · refine ⟨builder.formats, ?_, .unlisted unbounded ready.listed⟩
    rw [insert_eq ready.unfostered, entered, mode]

/-- Above the bottom of a stack, a parent is not the bottom itself. -/
theorem exists_parent {stack : List OpenElement} (rooted : ∃ inner, stack = inner ++ [base])
    {parents : List String} (inside : within (names stack) parents = true)
    (inner : parents.contains "html" = false) :
    ∃ element rest parent, stack = element :: rest ∧ element.name = .page parent ∧
      parents.contains parent = true ∧ rest ≠ [] := by
  rcases rooted with ⟨outer, rfl⟩
  cases outer with
  | nil =>
      have target : parents.contains "html" = true := inside
      rw [inner] at target
      cases target
  | cons element outer =>
      simp only [within, names, List.cons_append, List.map_cons, List.head?_cons, Option.any_some,
        ElementName.isOneOf, Bool.and_eq_true, beq_iff_eq] at inside
      refine ⟨element, outer ++ [base], element.name.name, rfl, ?_, inside.2, by simp⟩
      rw [ElementName.page, ← inside.1]

theorem not_html_of_parents {name : String} {parents : List String}
    (part : tableParents? name = some parents) : parents.contains "html" = false := by
  unfold tableParents? at part
  split at part <;> first | (cases part; decide) | cases part

theorem clearTo_eq {element : OpenElement} {rest : List OpenElement} {name : String}
    (stack : builder.stack = element :: rest) (named : element.name = .page name)
    {targets : List String} (target : targets.contains name = true) :
    builder.clearTo targets = builder := by
  have stays : (!element.name.isOneOf (targets ++ ["template", "html"])) = false := by
    simp_all [ElementName.isOneOf, ElementName.page]
  cases builder
  cases stack
  rw [clearTo, popWhile]
  simp [stays]

/-- The rules inside a table and inside the parts of a table that hold other elements. -/
def partMode? (name : String) : Option Mode :=
  match name with
  | "table" => some .table
  | "tbody" | "tfoot" | "thead" => some .tableBody
  | "tr" => some .row
  | "td" | "th" => some .cell
  | "caption" => some .caption
  | "colgroup" => some .columns
  | _ => none

theorem modeWithin_part {name : String} {mode : Mode} (part : partMode? name = some mode)
    {around : List ElementName} (inside : around ≠ []) :
    modeWithin (.page name :: around) = mode := by
  rw [modeWithin, if_neg (by simpa using inside)]
  unfold partMode? at part
  split at part
  all_goals
    cases part
    try rfl

/-- Where the innermost element is a part of a table, the rules in force are those of the part. -/
theorem Ready.mode_part (ready : Ready builder) {element : OpenElement} {rest : List OpenElement}
    {name : String} (stack : builder.stack = element :: rest) (named : element.name = .page name)
    (more : rest ≠ []) {mode : Mode} (part : partMode? name = some mode) :
    builder.mode = mode := by
  rw [ready.mode, stack, names, List.map_cons, named]
  exact modeWithin_part part (by simpa using more)

theorem unspaced_of_part {name : String} {mode : Mode} (part : partMode? name = some mode) :
    (name == "pre" || name == "listing") = false := by
  unfold partMode? at part
  split at part
  all_goals
    cases part
    try rfl

theorem entered_part (ready : Ready builder) {tag : Tag} {mode : Mode}
    (part : partMode? tag.name = some mode) (formats : List Format) :
    builder.entered tag formats = { builder.insert tag with formats := formats, mode := mode } := by
  rw [entered, modeWithin_part part (names_ne_nil ready), unspaced_of_part part,
    insert_eq ready.unfostered]
  dsimp only
  rw [ready.straight]

/-- A part of a table has been opened that does not bound formatting. -/
theorem hasEntered_part (ready : Ready builder) {tag : Tag} {mode : Mode}
    (part : partMode? tag.name = some mode) (unbounded : bounds (.page tag.name) = false) :
    HasEntered builder ((builder.insert tag).setMode mode) tag := by
  refine ⟨builder.formats, ?_, .unlisted unbounded ready.listed⟩
  rw [entered_part ready part]
  rfl

/-- A caption or a cell has been opened: the formatting outside it is kept behind a marker. -/
theorem hasEntered_bounding (ready : Ready builder) {tag : Tag} {mode : Mode}
    (part : partMode? tag.name = some mode) (bounding : bounds (.page tag.name) = true) :
    HasEntered builder ((builder.insert tag).listMarker.setMode mode) tag := by
  refine ⟨.marker :: builder.formats, ?_, .marker bounding ready.listed⟩
  rw [entered_part ready part]
  rfl

/-! ## Start tags of the parts of a table -/

/-- The parts of a table, with the elements that they stand in. -/
inductive TablePart (name : String) (parents : List String) : Prop where
  | caption (named : name = "caption") (around : parents = ["table"])
  | columns (named : name = "colgroup") (around : parents = ["table"])
  | column (named : name = "col") (around : parents = ["colgroup"])
  | rows (listed : name ∈ tableSections) (around : parents = ["table"])
  | row (named : name = "tr") (around : parents = tableSections)
  | cell (listed : name ∈ ["td", "th"]) (around : parents = ["tr"])

theorem tablePart {name : String} {parents : List String}
    (part : tableParents? name = some parents) : TablePart name parents := by
  unfold tableParents? at part
  split at part
  all_goals cases part
  all_goals first
    | exact .caption rfl rfl
    | exact .columns rfl rfl
    | exact .column rfl rfl
    | exact .rows (by decide) rfl
    | exact .row rfl rfl
    | exact .cell (by decide) rfl

theorem of_section : ∀ name ∈ tableSections, partMode? name = some .tableBody ∧
    bounds (.page name) = false ∧ formattingNames.contains name = false := by
  decide

theorem of_cell : ∀ name ∈ ["td", "th"], partMode? name = some .cell ∧
    bounds (.page name) = true ∧ ElementName.impliedEnds.contains name = false := by
  decide

/-- The rules in force open the element of a start tag where it stands. -/
def OpensPart (builder : Builder) (tag : Tag) : Prop :=
  ∃ after, builder.byMode (.startTag tag) = .done after ∧ HasEntered builder after tag

section Opening

variable {tag : Tag}

theorem opensPart_caption (ready : Ready builder) (mode : builder.mode = .table)
    (cleared : builder.clearTo ["table"] = builder) (named : tag.name = "caption") :
    OpensPart builder tag := by
  have started : builder.byMode (.startTag tag) =
      .done (((builder.clearTo ["table"]).listMarker.insert tag).setMode .caption) := by
    rw [byMode, mode]
    cases tag
    cases named
    rfl
  rw [cleared] at started
  exact ⟨_, started, hasEntered_bounding ready (by rw [named]; rfl) (by rw [named]; rfl)⟩

theorem opensPart_columns (ready : Ready builder) (mode : builder.mode = .table)
    (cleared : builder.clearTo ["table"] = builder) (named : tag.name = "colgroup") :
    OpensPart builder tag := by
  have started : builder.byMode (.startTag tag) =
      .done (((builder.clearTo ["table"]).insert tag).setMode .columns) := by
    rw [byMode, mode]
    cases tag
    cases named
    rfl
  rw [cleared] at started
  exact ⟨_, started, hasEntered_part ready (by rw [named]; rfl) (by rw [named]; rfl)⟩

theorem opensPart_rows (ready : Ready builder) (mode : builder.mode = .table)
    (cleared : builder.clearTo ["table"] = builder) (listed : tag.name ∈ tableSections) :
    OpensPart builder tag := by
  have started : builder.byMode (.startTag tag) =
      .done (((builder.clearTo ["table"]).insert tag).setMode .tableBody) := by
    rw [byMode, mode]
    cases tag
    fin_cases listed <;> rfl
  rcases of_section _ listed with ⟨part, unbounded, -⟩
  rw [cleared] at started
  exact ⟨_, started, hasEntered_part ready part unbounded⟩

theorem opensPart_row (ready : Ready builder) (mode : builder.mode = .tableBody)
    (cleared : builder.clearTo tableSections = builder) (named : tag.name = "tr") :
    OpensPart builder tag := by
  have started : builder.byMode (.startTag tag) =
      .done (((builder.clearTo tableSections).insert tag).setMode .row) := by
    rw [byMode, mode]
    cases tag
    cases named
    rfl
  rw [cleared] at started
  exact ⟨_, started, hasEntered_part ready (by rw [named]; rfl) (by rw [named]; rfl)⟩

theorem opensPart_cell (ready : Ready builder) (mode : builder.mode = .row)
    (cleared : builder.clearTo ["tr"] = builder) (listed : tag.name ∈ ["td", "th"]) :
    OpensPart builder tag := by
  have started : builder.byMode (.startTag tag) =
      .done (((builder.clearTo ["tr"]).insert tag).setMode .cell).listMarker := by
    rw [byMode, mode]
    cases tag
    fin_cases listed <;> rfl
  rcases of_cell _ listed with ⟨part, bounding, -⟩
  rw [cleared] at started
  exact ⟨_, started, hasEntered_bounding ready part bounding⟩

/-- A start tag of a part of a table opens it where it belongs. -/
theorem opensPart_of_within (ready : Ready builder) {parents : List String}
    (part : tableParents? tag.name = some parents)
    (inside : within (names builder.stack) parents = true)
    (filled : ElementName.voids.contains tag.name = false) : OpensPart builder tag := by
  rcases exists_parent ready.rooted inside (not_html_of_parents part) with
    ⟨element, rest, parent, stack, parentNamed, target, more⟩
  have mode {mode : Mode} := @Ready.mode_part _ ready _ _ _ stack parentNamed more mode
  have cleared : builder.clearTo parents = builder := clearTo_eq stack parentNamed target
  rw [List.contains_iff_mem] at target
  cases tablePart part with
  | caption named around =>
      subst around
      obtain rfl := List.mem_singleton.mp target
      exact opensPart_caption ready (mode rfl) cleared named
  | columns named around =>
      subst around
      obtain rfl := List.mem_singleton.mp target
      exact opensPart_columns ready (mode rfl) cleared named
  | column named =>
      rw [named] at filled
      exact absurd filled (by decide)
  | rows listed around =>
      subst around
      obtain rfl := List.mem_singleton.mp target
      exact opensPart_rows ready (mode rfl) cleared listed
  | row named around =>
      subst around
      exact opensPart_row ready (mode (of_section parent target).1) cleared named
  | cell listed around =>
      subst around
      obtain rfl := List.mem_singleton.mp target
      exact opensPart_cell ready (mode rfl) cleared listed

/-- Of the parts of a table, only a column holds nothing. -/
theorem byMode_column (ready : Ready builder) {parents : List String}
    (part : tableParents? tag.name = some parents)
    (inside : within (names builder.stack) parents = true)
    (void : ElementName.voids.contains tag.name = true) :
    builder.byMode (.startTag tag) = .done (builder.insertVoid tag) := by
  rcases exists_parent ready.rooted inside (not_html_of_parents part) with
    ⟨element, rest, parent, stack, parentNamed, target, more⟩
  have column : ∀ name ∈ ElementName.voids, (tableParents? name).isSome = true →
      name = "col" := by decide
  have named := column tag.name (List.contains_iff_mem.mp void) (by rw [part]; rfl)
  rw [named] at part
  cases part
  obtain rfl := List.mem_singleton.mp (List.contains_iff_mem.mp target)
  rw [byMode, ready.mode_part stack parentNamed more rfl]
  simp only [columnsToken, named]
  rfl

end Opening

/-! ## Start tags -/

/-- A start tag opens its element where it stands. -/
theorem process_startTag (ready : Ready builder) {tag : Tag}
    (opens : Nesting.opens (names builder.stack) tag.name = true)
    (filled : ElementName.voids.contains tag.name = false) :
    HasEntered builder (process builder.rounds builder (.startTag tag)) tag := by
  unfold Nesting.opens at opens
  split at opens
  · rename_i parents part
    rcases opensPart_of_within ready part opens filled with ⟨after, done, entered⟩
    exact process_eq ready done ▸ entered
  · rename_i whole
    rw [Bool.and_eq_true] at opens
    rw [process_eq ready (byMode_startTag ready opens.1 whole)]
    exact hasEntered_contentStart ready whole opens.2 filled

/-- The start tag of an element that holds nothing leaves the element behind. -/
theorem process_void (ready : Ready builder) {tag : Tag}
    (opens : Nesting.opens (names builder.stack) tag.name = true)
    (void : ElementName.voids.contains tag.name = true) :
    process builder.rounds builder (.startTag tag) =
      { builder with
        store := builder.store.sprout builder.top (.page tag.name) tag.attributes } := by
  have inserted : builder.insertVoid tag = { builder with
      store := builder.store.sprout builder.top (.page tag.name) tag.attributes } := by
    rw [insertVoid, insert_eq ready.unfostered]
    rfl
  unfold Nesting.opens at opens
  split at opens
  · rename_i parents part
    rw [process_eq ready (byMode_column ready part opens void), inserted]
  · rename_i whole
    rw [Bool.and_eq_true] at opens
    rw [process_eq ready (byMode_startTag ready opens.1 whole),
      contentStart_void ready whole opens.2 void, inserted]

/-! ## End tags -/

/-- A builder has closed the innermost element, and follows the rules from before it. -/
def HasLeft (before after : Builder) (rest : List OpenElement) : Prop :=
  ∃ formats, after = { before with
      stack := rest, mode := modeWithin (names rest), formats := formats } ∧
    Listed rest formats

theorem Ready.rooted_rest (ready : Ready builder) {element : OpenElement}
    {rest : List OpenElement} (stack : builder.stack = element :: rest) (more : rest ≠ []) :
    ∃ inner, rest = inner ++ [base] := by
  rcases ready.rooted with ⟨inner, bottom⟩
  rw [stack] at bottom
  cases inner with
  | nil => exact absurd (List.cons.inj bottom).2 more
  | cons first inner => exact ⟨inner, (List.cons.inj bottom).2⟩

theorem hasLeft_content (ready : Ready builder) {element : OpenElement}
    {rest : List OpenElement} {name : String} (stack : builder.stack = element :: rest)
    (more : rest ≠ []) (named : element.name = .page name)
    (whole : tableParents? name = none) (content : inContent (names rest) = true)
    (opens : opensInContent (names rest) name = true)
    (filled : ElementName.voids.contains name = false) :
    HasLeft builder (process builder.rounds builder (.endTag name)) rest := by
  have free : reserved.contains name = false := by
    simp only [opensInContent, Bool.and_eq_true, Bool.not_eq_true'] at opens
    exact opens.1.1.1.1.1
  have mode := ready.mode
  rw [stack, names, List.map_cons, named, modeWithin_page whole (by simpa using more)] at mode
  by_cases tabled : name = "table"
  · subst tabled
    refine ⟨builder.formats, process_eq ready ?_,
      ready.listed_rest stack named (named ▸ rfl) (by decide)⟩
    have inScope : builder.inTableScope ["table"] = true := reaches_head _ stack named (by decide)
    rw [byMode, mode]
    simp only [beq_self_eq_true, if_true, tableToken, tableEnd, inScope]
    rw [popThrough_eq stack named (by decide), resetMode,
      ready.modeOf_eq builder.templateModes (show builder.stack = [element] ++ rest from stack)]
  · rw [if_neg (by simpa using tabled)] at mode
    have inside : inContent (names builder.stack) = true := by
      rw [inContent, ← ready.mode, mode]
      exact content
    rcases contentEnd_eq ready stack named whole free filled with ⟨formats, closed, listed⟩
    refine ⟨formats, ?_, listed⟩
    have unchanged : modeWithin (names rest) = builder.mode := mode.symm
    rw [process_eq ready (byMode_endTag ready inside whole free tabled), closed, unchanged]

/-- The formatting of an element that bounds formatting goes with it. -/
theorem clearToMarker_eq (ready : Ready builder) {element : OpenElement} {rest : List OpenElement}
    (stack : builder.stack = element :: rest) (bounding : bounds element.name = true) :
    Listed rest builder.clearToMarker.formats := by
  have listed := ready.listed
  rw [stack] at listed
  rw [clearToMarker]
  generalize builder.formats = formats at listed ⊢
  cases listed with
  | unlisted unbounded _ =>
      rw [bounding] at unbounded
      cases unbounded
  | formatting unbounded _ _ _ =>
      rw [bounding] at unbounded
      cases unbounded
  | marker _ listed => exact listed

/-- A section, a row or a group of columns has been closed, as the innermost element. -/
theorem hasLeft_pop (ready : Ready builder) {element : OpenElement} {rest : List OpenElement}
    {name : String} (stack : builder.stack = element :: rest) (named : element.name = .page name)
    (unbounded : bounds element.name = false) (unstyled : formattingNames.contains name = false)
    {mode : Mode} (outside : modeWithin (names rest) = mode) :
    HasLeft builder (builder.pop.setMode mode) rest := by
  refine ⟨builder.formats, ?_, ready.listed_rest stack named unbounded unstyled⟩
  rw [pop, stack, outside]
  rfl

/-- A caption or a cell has been closed, as the innermost element. -/
theorem hasLeft_popThrough (ready : Ready builder) {element : OpenElement}
    {rest : List OpenElement} {name : String} (stack : builder.stack = element :: rest)
    (named : element.name = .page name) (bounding : bounds element.name = true)
    (kept : ElementName.impliedEnds.contains name = false) {mode : Mode}
    (outside : modeWithin (names rest) = mode) :
    HasLeft builder
      (((builder.impliedEnds []).popThrough [name]).clearToMarker.setMode mode) rest := by
  refine ⟨builder.clearToMarker.formats, ?_, clearToMarker_eq ready stack bounding⟩
  rw [impliedEnds_eq stack named (Or.inl kept), popThrough_eq stack named (by simp), outside]
  rfl

/-- The rules in force close the innermost element at its end tag. -/
def ClosesPart (builder : Builder) (name : String) (rest : List OpenElement) : Prop :=
  ∃ after, builder.byMode (.endTag name) = .done after ∧ HasLeft builder after rest

section Closing

variable {element : OpenElement} {rest : List OpenElement} {name : String}

theorem closesPart_caption (ready : Ready builder) (stack : builder.stack = element :: rest)
    (named : element.name = .page "caption") (mode : builder.mode = .caption)
    (outside : modeWithin (names rest) = .table) : ClosesPart builder "caption" rest := by
  have inScope : builder.inTableScope ["caption"] = true := reaches_head _ stack named (by decide)
  have ended : builder.byMode (.endTag "caption") = .done builder.closeCaption := by
    rw [byMode, mode]
    exact if_pos inScope
  exact ⟨_, ended,
    hasLeft_popThrough ready stack named (by rw [named]; rfl) (by decide) outside⟩

theorem closesPart_columns (ready : Ready builder) (stack : builder.stack = element :: rest)
    (named : element.name = .page "colgroup") (mode : builder.mode = .columns)
    (outside : modeWithin (names rest) = .table) : ClosesPart builder "colgroup" rest := by
  have current : builder.current.isPage "colgroup" = true := by
    rw [Builder.current, stack, List.head?_cons, Option.map_some, Option.getD_some, named]
    rfl
  have ended : builder.byMode (.endTag "colgroup") = .done (builder.pop.setMode .table) := by
    rw [byMode, mode]
    exact if_pos current
  exact ⟨_, ended, hasLeft_pop ready stack named (by rw [named]; rfl) (by decide) outside⟩

theorem closesPart_rows (ready : Ready builder) (stack : builder.stack = element :: rest)
    (named : element.name = .page name) (listed : name ∈ tableSections)
    (mode : builder.mode = .tableBody) (outside : modeWithin (names rest) = .table) :
    ClosesPart builder name rest := by
  have isSection : tableSections.contains name = true := List.contains_iff_mem.mpr listed
  have inScope : builder.inTableScope [name] = true := reaches_head _ stack named (by simp)
  have ended : builder.byMode (.endTag name) = .done builder.closeSection := by
    rw [byMode, mode]
    simp only [sectionToken, isSection, inScope, if_true]
  rcases of_section _ listed with ⟨-, unbounded, unstyled⟩
  refine ⟨_, ended, ?_⟩
  rw [closeSection, clearTo_eq stack named isSection]
  exact hasLeft_pop ready stack named (named ▸ unbounded) unstyled outside

theorem closesPart_row (ready : Ready builder) (stack : builder.stack = element :: rest)
    (named : element.name = .page "tr") (mode : builder.mode = .row)
    (outside : modeWithin (names rest) = .tableBody) : ClosesPart builder "tr" rest := by
  have inScope : builder.inTableScope ["tr"] = true := reaches_head _ stack named (by decide)
  have ended : builder.byMode (.endTag "tr") = .done builder.closeRow := by
    rw [byMode, mode]
    exact if_pos inScope
  refine ⟨_, ended, ?_⟩
  rw [closeRow, clearTo_eq stack named (by decide)]
  exact hasLeft_pop ready stack named (by rw [named]; rfl) (by decide) outside

theorem closesPart_cell (ready : Ready builder) (stack : builder.stack = element :: rest)
    (named : element.name = .page name) (listed : name ∈ ["td", "th"])
    (mode : builder.mode = .cell) (outside : modeWithin (names rest) = .row) :
    ClosesPart builder name rest := by
  have isCell : ["td", "th"].contains name = true := List.contains_iff_mem.mpr listed
  have inScope : builder.inTableScope [name] = true := reaches_head _ stack named (by simp)
  have ended : builder.byMode (.endTag name) =
      .done (((builder.impliedEnds []).popThrough [name]).clearToMarker.setMode .row) := by
    rw [byMode, mode]
    simp only [cellToken, isCell, inScope, if_true]
  rcases of_cell _ listed with ⟨-, bounding, kept⟩
  exact ⟨_, ended, hasLeft_popThrough ready stack named (named ▸ bounding) kept outside⟩

/-- An end tag of a part of a table closes it. -/
theorem closesPart_of_within (ready : Ready builder) (stack : builder.stack = element :: rest)
    (more : rest ≠ []) (named : element.name = .page name) {parents : List String}
    (part : tableParents? name = some parents) (inside : within (names rest) parents = true)
    (filled : ElementName.voids.contains name = false) : ClosesPart builder name rest := by
  rcases exists_parent (ready.rooted_rest stack more) inside (not_html_of_parents part) with
    ⟨outer, further, parent, outside, parentNamed, target, deeper⟩
  have mode {mode : Mode} := @Ready.mode_part _ ready _ _ _ stack named more mode
  have outsideMode {mode : Mode} (part : partMode? parent = some mode) :
      modeWithin (names rest) = mode := by
    rw [outside, names, List.map_cons, parentNamed]
    exact modeWithin_part part (by simpa using deeper)
  rw [List.contains_iff_mem] at target
  cases tablePart part with
  | caption same around =>
      subst same around
      obtain rfl := List.mem_singleton.mp target
      exact closesPart_caption ready stack named (mode rfl) (outsideMode rfl)
  | columns same around =>
      subst same around
      obtain rfl := List.mem_singleton.mp target
      exact closesPart_columns ready stack named (mode rfl) (outsideMode rfl)
  | column same =>
      rw [same] at filled
      exact absurd filled (by decide)
  | rows listed around =>
      subst around
      obtain rfl := List.mem_singleton.mp target
      exact closesPart_rows ready stack named listed (mode (of_section name listed).1)
        (outsideMode rfl)
  | row same around =>
      subst same around
      exact closesPart_row ready stack named (mode rfl)
        (outsideMode (of_section parent target).1)
  | cell listed around =>
      subst around
      obtain rfl := List.mem_singleton.mp target
      exact closesPart_cell ready stack named listed (mode (of_cell name listed).1)
        (outsideMode rfl)

end Closing

/-- An end tag closes the element that it belongs to, and the rules are those from before it. -/
theorem process_endTag (ready : Ready builder) {element : OpenElement} {rest : List OpenElement}
    {name : String} (stack : builder.stack = element :: rest) (more : rest ≠ [])
    (named : element.name = .page name) (opens : Nesting.opens (names rest) name = true)
    (filled : ElementName.voids.contains name = false) :
    HasLeft builder (process builder.rounds builder (.endTag name)) rest := by
  unfold Nesting.opens at opens
  split at opens
  · rename_i parents part
    rcases closesPart_of_within ready stack more named part opens filled with ⟨after, done, left⟩
    exact process_eq ready done ▸ left
  · rename_i whole
    rw [Bool.and_eq_true] at opens
    exact hasLeft_content ready stack more named whole opens.1 opens.2 filled

/-! ## Texts -/

/-- The builder with the text put into the tree that waits between the parts of a table. -/
def rested (builder : Builder) : Builder :=
  { builder with skipsNewline := false }.flushPending

theorem rested_eq (straight : builder.skipsNewline = false) (flushed : builder.pending = []) :
    builder.rested = builder := by
  rw [rested, straighten straight, flushPending, flushed]
  rfl

theorem withoutNull_eq {text : List Char} (whole : '\x00' ∉ text) : withoutNull text = text := by
  refine List.filter_eq_self.mpr fun c c_mem => ?_
  have present : c.toNat ≠ 0 := fun null =>
    whole ((Char.toNat_inj.mp null : c = '\x00') ▸ c_mem)
  simpa using present

theorem byMode_text (ready : Ready builder) (content : inContent (names builder.stack) = true)
    (text : List Char) : builder.byMode (.text text) = .done (builder.contentText text) := by
  rcases mode_of_inContent ready content with mode | mode | mode <;> rw [byMode, mode] <;> rfl

/-- A builder has taken a text in, which stands in the tree once what is pending has been put
there. -/
structure HasTaken (before after : Builder) (text : List Char) : Prop where
  content : after.content = .markup
  straight : after.skipsNewline = false
  rested : after.rested = { before with
    store := before.store.put (.inside before.top) (.text (.ofList text)) }

theorem hasTaken_insertText (ready : Ready builder) {text : List Char} (nonempty : text ≠ []) :
    HasTaken builder (builder.insertText text) text := by
  rw [insertText_eq ready.unfostered nonempty]
  exact ⟨ready.content, ready.straight, rested_eq ready.straight ready.flushed⟩

/-- Between the parts of a table a text waits. -/
theorem hasTaken_tableText (ready : Ready builder) {element : OpenElement}
    {rest : List OpenElement} {parent : String} (stack : builder.stack = element :: rest)
    (named : element.name = .page parent)
    (target : ("template" :: ElementName.tableParts).contains parent = true)
    {text : List Char} (blank : text.all isSpace = true) (nonempty : text ≠ [])
    (whole : '\x00' ∉ text) : HasTaken builder (builder.tableText text) text := by
  have current : builder.current.isOneOf ("template" :: ElementName.tableParts) = true := by
    rw [Builder.current, stack, List.head?_cons, Option.map_some, Option.getD_some, named]
    exact Bool.and_eq_true_iff.mpr ⟨rfl, target⟩
  have waits : builder.tableText text = { builder with pending := text } := by
    rw [tableText, if_pos current, withoutNull_eq whole, ready.flushed]
    rfl
  rw [waits]
  refine ⟨ready.content, ready.straight, ?_⟩
  rw [rested, flushPending]
  simp only [List.isEmpty_iff, nonempty, if_false, blank, if_true]
  rw [insertText_eq (by exact ready.unfostered) nonempty, ready.flushed, ready.straight]
  rfl

/-- A text comes to stand where it is written, at the latest when the next tag is read. -/
theorem process_text (ready : Ready builder) {text : List Char}
    (kept : keepsText (names builder.stack) text = true) (nonempty : text ≠ [])
    (whole : '\x00' ∉ text) :
    HasTaken builder (process builder.rounds builder (.text text)) text := by
  have inserted := hasTaken_insertText ready nonempty
  unfold keepsText at kept
  split at kept
  · rename_i parted
    rcases exists_parent ready.rooted parted (by decide) with
      ⟨element, rest, parent, stack, named, target, more⟩
    have mode {mode : Mode} := @Ready.mode_part _ ready _ _ _ stack named more mode
    have waiting (part : ("template" :: ElementName.tableParts).contains parent = true)
        (done : builder.byMode (.text text) = .done (builder.tableText text)) :
        HasTaken builder (process builder.rounds builder (.text text)) text :=
      process_eq ready done ▸ hasTaken_tableText ready stack named part kept nonempty whole
    rw [List.contains_iff_mem] at target
    fin_cases target
    · have split : text.span isSpace = (text, []) := by
        simpa using @span_append _ _ [] (List.all_eq_true.mp kept) (by simp)
      have done : builder.byMode (.text text) = .done (builder.insertText text) := by
        rw [byMode, mode rfl]
        simp only [columnsToken, split]
        rfl
      exact process_eq ready done ▸ inserted
    all_goals exact waiting (by decide) (by rw [byMode, mode rfl]; rfl)
  · have done : builder.byMode (.text text) = .done (builder.insertText text) := by
      rw [byMode_text ready kept, contentText, withoutNull_eq whole,
        if_neg (by simpa using nonempty), reconstruct_eq ready.listed]
    exact process_eq ready done ▸ inserted

end PageRender.Html.Builder
