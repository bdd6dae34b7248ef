import PageRender.Proofs.Nesting

/-!
# Tags of content

What the start tag and the end tag of an element of content come to where the element opens in its
place and is closed as the innermost one. Whatever else the rules do first (closing a paragraph or
an item, popping what is implied, opening formatting anew) finds nothing to do there.
-/

namespace PageRender.Html.Builder

open Nesting

variable {builder : Builder}

theorem straighten {builder : Builder} (straight : builder.skipsNewline = false) :
    { builder with skipsNewline := false } = builder := by
  cases builder
  cases straight
  rfl

theorem closeOpenLink_eq (ready : Ready builder) (closed : linkOpen (names builder.stack) = false) :
    builder.closeOpenLink = builder := by
  have unlisted := ready.listed.format?_eq_none closed builder
  rw [closeOpenLink]
  cases builder
  rw [unlisted]

theorem current_isOneOf (ready : Ready builder) (targets : List String) :
    builder.current.isOneOf targets = within (names builder.stack) targets := by
  rcases ready.exists_head with ⟨element, rest, stack⟩
  rw [current, within, names, stack]
  rfl

theorem of_heading : ∀ name ∈ ElementName.headings,
    paragraphClosers.contains name = true ∧ ElementName.formatting.contains name = false ∧
      ElementName.impliedEnds.contains name = false ∧ formattingNames.contains name = false := by
  decide

theorem of_block : ∀ name ∈ ElementName.blocks,
    paragraphClosers.contains name = true ∧ ElementName.formatting.contains name = false := by
  decide

/-- Nothing is open that the start tag of an element of content would close. -/
structure Undisturbed (builder : Builder) (name : String) : Prop where
  free : reserved.contains name = false
  paragraph : paragraphClosers.contains name = true → builder.closeParagraph = builder
  heading : ElementName.headings.contains name = true →
    builder.current.isOneOf ElementName.headings = false
  item : name = "li" → closeItem ["li"] builder.stack builder = builder
  term : name = "dd" ∨ name = "dt" → closeItem ["dd", "dt"] builder.stack builder = builder
  link : name = "a" → builder.closeOpenLink = builder

theorem Ready.undisturbed (ready : Ready builder) {name : String}
    (opens : opensInContent (names builder.stack) name = true) : Undisturbed builder name := by
  simp only [opensInContent, Bool.and_eq_true, Bool.not_eq_true', Bool.and_eq_false_iff] at opens
  obtain ⟨⟨⟨⟨⟨free, paragraph⟩, heading⟩, item⟩, term⟩, link⟩ := opens
  refine ⟨free, fun closes => ?_, fun isHeading => ?_, fun isItem => ?_, fun isTerm => ?_,
    fun isLink => ?_⟩
  · exact closeParagraph_eq (paragraph.resolve_left (by rw [closes]; decide))
  · rw [current_isOneOf ready]
    exact heading.resolve_left (by rw [isHeading]; decide)
  · exact closeItem_eq _ (item.resolve_left (by simp [isItem]))
  · exact closeItem_eq _ (term.resolve_left (by rcases isTerm with rfl | rfl <;> decide))
  · exact closeOpenLink_eq ready (link.resolve_left (by simp [isLink]))

section Starting

variable {tag : Tag}

/-! ## Start tags of elements that hold nothing -/

/-- The rules for the start tags of elements of content that hold nothing. -/
inductive VoidRule (name : String) : Prop where
  | metadata (listed : name ∈ ["base", "basefont", "bgsound", "link", "meta"])
  | inline (listed : name ∈ ["area", "br", "embed", "img", "keygen", "wbr"])
  | input (named : name = "input")
  | source (listed : name ∈ ["param", "source", "track"])
  | thematicBreak (named : name = "hr")

theorem voidRule {name : String} (free : reserved.contains name = false)
    (whole : tableParents? name = none) (void : ElementName.voids.contains name = true) :
    VoidRule name := by
  have families : ∀ name ∈ ElementName.voids,
      reserved.contains name = false → tableParents? name = none →
        name ∈ ["base", "basefont", "bgsound", "link", "meta"] ∨
          name ∈ ["area", "br", "embed", "img", "keygen", "wbr"] ∨ name = "input" ∨
          name ∈ ["param", "source", "track"] ∨ name = "hr" := by decide
  rcases families name (List.contains_iff_mem.mp void) free whole with
    metadata | inline | input | source | thematicBreak
  · exact .metadata metadata
  · exact .inline inline
  · exact .input input
  · exact .source source
  · exact .thematicBreak thematicBreak

theorem contentStart_metadata (listed : tag.name ∈ ["base", "basefont", "bgsound", "link", "meta"]) :
    builder.contentStart tag = builder.insertVoid tag := by
  cases tag
  fin_cases listed <;> rfl

theorem contentStart_inline (ready : Ready builder)
    (listed : tag.name ∈ ["area", "br", "embed", "img", "keygen", "wbr"]) :
    builder.contentStart tag = builder.insertVoid tag := by
  have started : builder.contentStart tag = builder.reconstruct.insertVoid tag := by
    cases tag
    fin_cases listed <;> rfl
  rw [started, reconstruct_eq ready.listed]

theorem contentStart_input (ready : Ready builder) (named : tag.name = "input") :
    builder.contentStart tag = builder.insertVoid tag := by
  have started : builder.contentStart tag = builder.closeSelection.reconstruct.insertVoid tag := by
    cases tag
    cases named
    rfl
  have kept : builder.closeSelection = builder := by
    rw [closeSelection, ready.inScope_select_eq_false, if_neg (by decide)]
  rw [started, kept, reconstruct_eq ready.listed]

theorem contentStart_source (listed : tag.name ∈ ["param", "source", "track"]) :
    builder.contentStart tag = builder.insertVoid tag := by
  cases tag
  fin_cases listed <;> rfl

theorem contentStart_thematicBreak (ready : Ready builder)
    (undisturbed : Undisturbed builder tag.name) (named : tag.name = "hr") :
    builder.contentStart tag = builder.insertVoid tag := by
  have started : builder.contentStart tag =
      (if builder.closeParagraph.inScope ["select"] then builder.closeParagraph.impliedEnds []
        else builder.closeParagraph).insertVoid tag := by
    cases tag
    cases named
    rfl
  rw [started, undisturbed.paragraph (by rw [named]; rfl), ready.inScope_select_eq_false,
    if_neg (by decide)]

/-- The start tag of an element of content that holds nothing leaves the element behind. -/
theorem contentStart_void (ready : Ready builder) (whole : tableParents? tag.name = none)
    (opens : opensInContent (names builder.stack) tag.name = true)
    (void : ElementName.voids.contains tag.name = true) :
    builder.contentStart tag = builder.insertVoid tag := by
  have undisturbed := ready.undisturbed opens
  cases voidRule undisturbed.free whole void with
  | metadata listed => exact contentStart_metadata listed
  | inline listed => exact contentStart_inline ready listed
  | input named => exact contentStart_input ready named
  | source listed => exact contentStart_source listed
  | thematicBreak named => exact contentStart_thematicBreak ready undisturbed named

/-! ## Start tags of elements that hold others -/

/-- The elements of content that hold others and have a rule of their own for their start tags. -/
def ruledStarts : List String :=
  ["pre", "listing", "li", "dd", "dt", "a", "table"]

/-- The rules for the start tags of elements of content that hold others. -/
inductive StartRule (name : String) : Prop where
  | preformatted (listed : name ∈ ["pre", "listing"])
  | item (named : name = "li")
  | term (listed : name ∈ ["dd", "dt"])
  | link (named : name = "a")
  | table (named : name = "table")
  | common (unruled : name ∉ ruledStarts)

theorem startRule (name : String) : StartRule name := by
  by_cases ruled : name ∈ ruledStarts
  · have families : ∀ name ∈ ruledStarts, name ∈ ["pre", "listing"] ∨ name = "li" ∨
        name ∈ ["dd", "dt"] ∨ name = "a" ∨ name = "table" := by decide
    rcases families name ruled with preformatted | item | term | link | table
    · exact .preformatted preformatted
    · exact .item item
    · exact .term term
    · exact .link link
    · exact .table table
  · exact .common ruled

theorem contentStart_preformatted (undisturbed : Undisturbed builder tag.name)
    (listed : tag.name ∈ ["pre", "listing"]) :
    builder.contentStart tag = { builder.insert tag with skipsNewline := true } := by
  have started : builder.contentStart tag =
      { builder.closeParagraph.insert tag with skipsNewline := true } := by
    cases tag
    fin_cases listed <;> rfl
  have closes : ∀ name ∈ ["pre", "listing"], paragraphClosers.contains name = true := by decide
  rw [started, undisturbed.paragraph (closes _ listed)]

theorem contentStart_item (undisturbed : Undisturbed builder tag.name) (named : tag.name = "li") :
    builder.contentStart tag = builder.insert tag := by
  have started : builder.contentStart tag =
      (closeItem ["li"] builder.stack builder).closeParagraph.insert tag := by
    cases tag
    cases named
    rfl
  rw [started, undisturbed.item named, undisturbed.paragraph (by rw [named]; rfl)]

theorem contentStart_term (undisturbed : Undisturbed builder tag.name)
    (listed : tag.name ∈ ["dd", "dt"]) : builder.contentStart tag = builder.insert tag := by
  have started : builder.contentStart tag =
      (closeItem ["dd", "dt"] builder.stack builder).closeParagraph.insert tag := by
    cases tag
    fin_cases listed <;> rfl
  have closes : ∀ name ∈ ["dd", "dt"], paragraphClosers.contains name = true := by decide
  rw [started, undisturbed.term (by simpa using listed), undisturbed.paragraph (closes _ listed)]

theorem contentStart_link (ready : Ready builder) (undisturbed : Undisturbed builder tag.name)
    (named : tag.name = "a") :
    builder.contentStart tag = (builder.insert tag).listFormat tag := by
  have started : builder.contentStart tag = builder.closeOpenLink.openFormatting tag := by
    cases tag
    cases named
    rfl
  rw [started, undisturbed.link named, openFormatting, reconstruct_eq ready.listed]

theorem contentStart_table (undisturbed : Undisturbed builder tag.name)
    (named : tag.name = "table") :
    builder.contentStart tag = (builder.insert tag).setMode .table := by
  have started : builder.contentStart tag =
      (builder.closeParagraph.insert tag).setMode .table := by
    cases tag
    cases named
    rfl
  rw [started, undisturbed.paragraph (by rw [named]; rfl)]

/-- Tags without rules of their own are those of headings, of blocks, of formatting and of plain
elements. -/
theorem openUnruled_eq (ready : Ready builder) (undisturbed : Undisturbed builder tag.name)
    (unlinked : tag.name ≠ "a") :
    (if ElementName.headings.contains tag.name then
        (if builder.closeParagraph.current.isOneOf ElementName.headings then
          builder.closeParagraph.pop else builder.closeParagraph).insert tag
      else if ElementName.blocks.contains tag.name then builder.closeParagraph.insert tag
      else if ElementName.formatting.contains tag.name then builder.openFormatting tag
      else builder.reconstruct.insert tag) =
      if formattingNames.contains tag.name then (builder.insert tag).listFormat tag
      else builder.insert tag := by
  have styled : formattingNames.contains tag.name = ElementName.formatting.contains tag.name := by
    rw [formattingNames, List.contains_cons, beq_eq_false_iff_ne.mpr unlinked, Bool.false_or]
  rw [styled]
  split
  · rename_i isHeading
    rcases of_heading tag.name (by simpa using isHeading) with ⟨closes, unformatted, -⟩
    rw [undisturbed.paragraph closes, undisturbed.heading isHeading, unformatted]
    rfl
  · split
    · rename_i isBlock
      rcases of_block tag.name (by simpa using isBlock) with ⟨closes, unformatted⟩
      rw [undisturbed.paragraph closes, unformatted]
      rfl
    · rw [openFormatting, reconstruct_eq ready.listed]

theorem contentStart_common (ready : Ready builder) (undisturbed : Undisturbed builder tag.name)
    (whole : tableParents? tag.name = none) (filled : ElementName.voids.contains tag.name = false)
    (unruled : tag.name ∉ ruledStarts) :
    builder.contentStart tag =
      if formattingNames.contains tag.name then (builder.insert tag).listFormat tag
      else builder.insert tag := by
  -- no rule but the last one is that of the tag
  have apart (name : String) (ruled : (reserved.contains name || (tableParents? name).isSome ||
      ElementName.voids.contains name || ruledStarts.contains name) = true) : tag.name ≠ name := by
    rintro rfl
    have unlisted : ruledStarts.contains tag.name = false := by simpa using unruled
    rw [undisturbed.free, whole, filled, unlisted] at ruled
    cases ruled
  have unrenamed : (tag.name == "image") = false :=
    beq_eq_false_iff_ne.mpr (apart "image" (by decide))
  have unheaded : builder.headStart? tag = none := by
    unfold headStart?
    split
    all_goals first
      | (rename_i same; exact absurd same (apart _ (by decide)))
      | rfl
  rw [← openUnruled_eq ready undisturbed (apart "a" (by decide))]
  unfold contentStart
  simp only [unrenamed, Bool.false_eq_true, if_false, unheaded]
  split
  all_goals first
    | (rename_i same; exact absurd same (apart _ (by decide)))
    | rfl

/-- The start tag of an element of content that holds others opens the element and nothing else. -/
theorem contentStart_filled (ready : Ready builder) (whole : tableParents? tag.name = none)
    (opens : opensInContent (names builder.stack) tag.name = true)
    (filled : ElementName.voids.contains tag.name = false) :
    builder.contentStart tag =
      if formattingNames.contains tag.name then (builder.insert tag).listFormat tag
      else
        { builder.insert tag with
          mode := if tag.name == "table" then .table else builder.mode
          skipsNewline := tag.name == "pre" || tag.name == "listing" } := by
  have undisturbed := ready.undisturbed opens
  have inserted : { builder.insert tag with mode := builder.mode, skipsNewline := false } =
      builder.insert tag :=
    straighten ready.straight
  cases startRule tag.name with
  | preformatted listed =>
      rw [contentStart_preformatted undisturbed listed]
      have special : ∀ name ∈ ["pre", "listing"], formattingNames.contains name = false ∧
          (name == "table") = false ∧ (name == "pre" || name == "listing") = true := by decide
      rcases special _ listed with ⟨unstyled, untabled, spaced⟩
      rw [unstyled, untabled, spaced]
      rfl
  | item named =>
      rw [contentStart_item undisturbed named, named]
      exact inserted.symm
  | term listed =>
      rw [contentStart_term undisturbed listed]
      have special : ∀ name ∈ ["dd", "dt"], formattingNames.contains name = false ∧
          (name == "table") = false ∧ (name == "pre" || name == "listing") = false := by decide
      rcases special _ listed with ⟨unstyled, untabled, unspaced⟩
      rw [unstyled, untabled, unspaced]
      exact inserted.symm
  | link named =>
      rw [contentStart_link ready undisturbed named, named]
      rfl
  | table named =>
      rw [contentStart_table undisturbed named, named]
      have tabled : { (builder.insert tag).setMode .table with skipsNewline := false } =
          (builder.insert tag).setMode .table := straighten ready.straight
      exact tabled.symm
  | common unruled =>
      rw [contentStart_common ready undisturbed whole filled unruled]
      have untabled : (tag.name == "table") = false :=
        beq_eq_false_iff_ne.mpr fun same => unruled (same ▸ by decide)
      have unspaced : (tag.name == "pre" || tag.name == "listing") = false := by
        refine Bool.or_eq_false_iff.mpr ⟨?_, ?_⟩
        · exact beq_eq_false_iff_ne.mpr fun same => unruled (same ▸ by decide)
        · exact beq_eq_false_iff_ne.mpr fun same => unruled (same ▸ by decide)
      rw [untabled, unspaced]
      simp only [Bool.false_eq_true, if_false, inserted]

end Starting

/-! ## End tags -/

section Closing

variable {element : OpenElement} {rest : List OpenElement} {name : String}

theorem impliedEnds_eq (stack : builder.stack = element :: rest)
    (named : element.name = .page name) {except : List String}
    (kept : ElementName.impliedEnds.contains name = false ∨ except.contains name = true) :
    builder.impliedEnds except = builder := by
  have stays : (element.name.isOneOf ElementName.impliedEnds &&
      !element.name.isOneOf except) = false := by
    rcases kept with ends | excepted
    · simp_all [ElementName.isOneOf, ElementName.page]
    · simp_all [ElementName.isOneOf, ElementName.page]
  cases builder
  cases stack
  rw [impliedEnds, popWhile]
  simp [stays]

theorem popThrough_eq (stack : builder.stack = element :: rest)
    (named : element.name = .page name) {targets : List String}
    (target : targets.contains name = true) :
    builder.popThrough targets = { builder with stack := rest } := by
  have stops : (!element.name.isOneOf targets) = false := by
    simp_all [ElementName.isOneOf, ElementName.page]
  rw [popThrough, popWhile, stack]
  simp [pop, stops]

theorem reaches_head (isBound : ElementName → Bool) (stack : builder.stack = element :: rest)
    (named : element.name = .page name) {targets : List String}
    (target : targets.contains name = true) :
    reaches isBound (fun name => name.isOneOf targets) builder.stack = true := by
  rw [stack, reaches]
  simp_all [ElementName.isOneOf, ElementName.page]

theorem closeInScope_eq (stack : builder.stack = element :: rest)
    (named : element.name = .page name) {except : String} {targets : List String}
    (kept : ElementName.impliedEnds.contains name = false ∨ except = name)
    (target : targets.contains name = true) :
    builder.closeInScope except targets = { builder with stack := rest } := by
  have ends : ElementName.impliedEnds.contains name = false ∨ [except].contains name = true :=
    kept.imp_right fun same => by simp [same]
  rw [closeInScope, inScope, reaches_head _ stack named target, impliedEnds_eq stack named ends,
    popThrough_eq stack named target]
  rfl

theorem closeNamed_eq (stack : builder.stack = element :: rest)
    (named : element.name = .page name) :
    builder.closeNamed name = { builder with stack := rest } := by
  have here : closeNamed.find name builder.stack = some element.id := by
    rw [stack, closeNamed.find]
    simp [named, ElementName.isPage, ElementName.page]
  rw [closeNamed, here, impliedEnds_eq stack named (Or.inr (by simp))]
  simp [stack]

/-- Formatting that is not listed is closed as other elements are. -/
theorem closeFormatting_unlisted (stack : builder.stack = element :: rest)
    (named : element.name = .page name)
    (unlisted : ∀ tag, Format.element element.id tag ∉ builder.formats) :
    builder.closeFormatting name = { builder with stack := rest } := by
  have fresh : builder.formats.any (isFormat element.id) = false := by
    refine List.any_eq_false.mpr fun format listed => ?_
    cases format with
    | marker => simp [isFormat]
    | element id tag =>
        have other : id ≠ element.id := fun same => unlisted tag (same ▸ listed)
        simpa [isFormat] using other
  have isName : element.name.isPage name = true := by
    simp [named, ElementName.isPage, ElementName.page]
  rw [closeFormatting, stack]
  simp only [isName, fresh, Bool.not_false, Bool.and_self, if_true]

theorem closeFormatting_listed (stack : builder.stack = element :: rest) {tag : Tag}
    {formats : List Format} (tagged : tag.name = name)
    (listed : builder.formats = .element element.id tag :: formats)
    (fresh : ∀ tag, Format.element element.id tag ∉ formats) :
    builder.closeFormatting name = { builder with stack := rest, formats := formats } := by
  have latest : builder.format? name = some (element.id, tag) := by
    rw [format?, sinceMarker, listed, List.takeWhile_cons_of_pos (by simp), List.findSome?_cons]
    simp [tagged]
  have unlisted : ∀ format ∈ formats, isFormat element.id format = false := by
    intro format other
    cases format with
    | marker => rfl
    | element id tag =>
        have apart : id ≠ element.id := fun same => fresh tag (same ▸ other)
        simpa [isFormat] using apart
  have innermost : builder.stack.takeWhile (fun other => other.id != element.id) = [] ∧
      builder.stack.dropWhile (fun other => other.id != element.id) = element :: rest := by
    simp [stack]
  have round : builder.closeFormattingRound name =
      .done { builder with stack := rest, formats := formats } := by
    rw [closeFormattingRound, latest]
    simp only [innermost, unlist, listed]
    rw [List.filter_cons_of_neg (by simp [isFormat]),
      List.filter_eq_self.mpr fun format other => by rw [unlisted format other]; rfl]
    rfl
  rw [closeFormatting, stack]
  simp only [listed, List.any_cons, isFormat, beq_self_eq_true, Bool.true_or, Bool.not_true,
    Bool.and_false, Bool.false_eq_true, if_false]
  rw [closeFormattingRounds, round]

theorem Ready.fresh {formats : List Format} (ready : Ready builder)
    (stack : builder.stack = element :: rest) (listed : Listed rest formats) (tag : Tag) : Format.element element.id tag ∉ formats := by
  intro listing
  rcases listed.isOpen listing with ⟨other, other_mem, same⟩
  have distinct := ready.distinct
  rw [stack, List.map_cons, List.nodup_cons] at distinct
  exact distinct.1 (same ▸ List.mem_map_of_mem other_mem)

theorem closeFormatting_eq (ready : Ready builder) (stack : builder.stack = element :: rest)
    (named : element.name = .page name) (unbounded : bounds element.name = false) :
    ∃ formats, builder.closeFormatting name = { builder with stack := rest, formats := formats } ∧
      Listed rest formats := by
  have listed := ready.listed
  rw [stack] at listed
  generalize kept : builder.formats = formats at listed
  cases listed with
  | unlisted _ listed =>
      refine ⟨formats, ?_, listed⟩
      rw [closeFormatting_unlisted stack named fun tag => kept ▸ ready.fresh stack listed tag,
        ← kept]
  | formatting _ tagged _ listed =>
      have same := named.symm.trans tagged
      simp only [ElementName.page, ElementName.mk.injEq, true_and] at same
      exact ⟨_, closeFormatting_listed stack same.symm kept (ready.fresh stack listed),
        listed⟩
  | marker bounding _ =>
      rw [unbounded] at bounding
      cases bounding

theorem Ready.listed_rest (ready : Ready builder) (stack : builder.stack = element :: rest)
    (named : element.name = .page name) (unbounded : bounds element.name = false)
    (unstyled : formattingNames.contains name = false) : Listed rest builder.formats := by
  have listed := ready.listed
  rw [stack] at listed
  generalize builder.formats = formats at listed ⊢
  cases listed with
  | unlisted _ listed => exact listed
  | formatting _ tagged styled _ =>
      have same := named.symm.trans tagged
      simp only [ElementName.page, ElementName.mk.injEq, true_and] at same
      rw [← same, unstyled] at styled
      cases styled
  | marker bounding _ =>
      rw [unbounded] at bounding
      cases bounding

theorem unbounded_of_whole (whole : tableParents? name = none) :
    bounds (.page name) = false := by
  have unparted := @contains_eq_false name whole ["td", "th", "caption"] (by decide)
  rw [bounds, ElementName.isOneOf]
  exact Bool.and_eq_false_iff.mpr (Or.inr unparted)

theorem unimplied_of_block :
    ∀ name ∈ ElementName.blocks ++ ["button", "listing", "pre", "select"], name ≠ "p" →
      ElementName.impliedEnds.contains name = false := by
  decide

/-- The elements of content that have a rule of their own for their end tags. -/
def ruledEnds : List String :=
  ["p", "li", "dd", "dt", "a"]

/-- The rules for the end tags of elements of content. -/
inductive EndRule (name : String) : Prop where
  | paragraph (same : name = "p")
  | item (same : name = "li")
  | term (listed : name ∈ ["dd", "dt"])
  | link (same : name = "a")
  | common (unruled : name ∉ ruledEnds)

theorem endRule (name : String) : EndRule name := by
  by_cases ruled : name ∈ ruledEnds
  · have families : ∀ name ∈ ruledEnds,
        name = "p" ∨ name = "li" ∨ name ∈ ["dd", "dt"] ∨ name = "a" := by decide
    rcases families name ruled with paragraph | item | term | link
    · exact .paragraph paragraph
    · exact .item item
    · exact .term term
    · exact .link link
  · exact .common ruled

theorem contentEnd_paragraph (stack : builder.stack = element :: rest)
    (named : element.name = .page "p") :
    builder.contentEnd "p" = { builder with stack := rest } := by
  have inScope : builder.inButtonScope ["p"] = true := reaches_head _ stack named (by decide)
  simp only [contentEnd, inScope, if_true]
  rw [closeParagraph, inScope, if_pos rfl, impliedEnds_eq stack named (Or.inr (by decide)),
    popThrough_eq stack named (by decide)]

theorem contentEnd_item (stack : builder.stack = element :: rest)
    (named : element.name = .page "li") :
    builder.contentEnd "li" = { builder with stack := rest } := by
  have inScope : builder.inListScope ["li"] = true := reaches_head _ stack named (by decide)
  simp only [contentEnd, inScope, if_true]
  rw [impliedEnds_eq stack named (Or.inr (by decide)), popThrough_eq stack named (by decide)]

theorem contentEnd_term (stack : builder.stack = element :: rest)
    (named : element.name = .page name) (listed : name ∈ ["dd", "dt"]) :
    builder.contentEnd name = { builder with stack := rest } := by
  have ended : builder.contentEnd name = builder.closeInScope name [name] := by
    fin_cases listed <;> rfl
  rw [ended, closeInScope_eq stack named (Or.inr rfl) (by simp)]

/-- End tags without rules of their own are those of headings, of formatting, of blocks and of plain
elements. -/
theorem contentEnd_common (free : reserved.contains name = false)
    (filled : ElementName.voids.contains name = false) (unruled : name ∉ ruledEnds) :
    builder.contentEnd name =
      if ElementName.headings.contains name then builder.closeInScope "" ElementName.headings
      else if ElementName.formatting.contains name then builder.closeFormatting name
      else if name != "p" && ElementName.blocks.contains name ||
          ["button", "listing", "pre", "select"].contains name then
        builder.closeInScope "" [name]
      else builder.closeNamed name := by
  unfold contentEnd
  split
  all_goals first
    | exact absurd free (by decide)
    | exact absurd filled (by decide)
    | exact absurd unruled (by decide)
    | rfl

/-- The builder after an end tag has closed the innermost element and no other. -/
theorem closeUnruled_eq (ready : Ready builder) (stack : builder.stack = element :: rest)
    (named : element.name = .page name) (unbounded : bounds element.name = false)
    (unruled : name ∉ ruledEnds) :
    ∃ formats,
      (if ElementName.headings.contains name then builder.closeInScope "" ElementName.headings
      else if ElementName.formatting.contains name then builder.closeFormatting name
      else if name != "p" && ElementName.blocks.contains name ||
          ["button", "listing", "pre", "select"].contains name then
        builder.closeInScope "" [name]
      else builder.closeNamed name) = { builder with stack := rest, formats := formats } ∧
      Listed rest formats := by
  have plain : formattingNames.contains name = false → Listed rest builder.formats :=
    fun unstyled => ready.listed_rest stack named unbounded unstyled
  have unlinked : name ≠ "a" := fun same => unruled (same ▸ by decide)
  have unparagraphed : name ≠ "p" := fun same => unruled (same ▸ by decide)
  split
  · rename_i isHeading
    rcases of_heading name (by simpa using isHeading) with ⟨-, -, kept, unstyled⟩
    exact ⟨builder.formats, closeInScope_eq stack named (Or.inl kept) isHeading, plain unstyled⟩
  · split
    · exact closeFormatting_eq ready stack named unbounded
    · rename_i unformatted
      have unstyled : formattingNames.contains name = false := by
        simpa [formattingNames, unlinked] using unformatted
      refine ⟨builder.formats, ?_, plain unstyled⟩
      split
      · rename_i isBlock
        simp only [Bool.or_eq_true, Bool.and_eq_true, List.contains_iff_mem] at isBlock
        have unimplied := unimplied_of_block name (List.mem_append.mpr (isBlock.imp_left And.right))
          unparagraphed
        exact closeInScope_eq stack named (Or.inl unimplied) (by simp)
      · exact closeNamed_eq stack named

/-- An end tag read by the rules for content closes the innermost element, and only it. -/
theorem contentEnd_eq (ready : Ready builder) (stack : builder.stack = element :: rest)
    (named : element.name = .page name) (whole : tableParents? name = none)
    (free : reserved.contains name = false) (filled : ElementName.voids.contains name = false) :
    ∃ formats, builder.contentEnd name = { builder with stack := rest, formats := formats } ∧
      Listed rest formats := by
  have unbounded : bounds element.name = false := named ▸ unbounded_of_whole whole
  have plain : formattingNames.contains name = false → Listed rest builder.formats :=
    fun unstyled => ready.listed_rest stack named unbounded unstyled
  cases endRule name with
  | paragraph same =>
      subst same
      exact ⟨builder.formats, contentEnd_paragraph stack named, plain (by decide)⟩
  | item same =>
      subst same
      exact ⟨builder.formats, contentEnd_item stack named, plain (by decide)⟩
  | term listed =>
      have unstyled : ∀ name ∈ ["dd", "dt"], formattingNames.contains name = false := by decide
      exact ⟨builder.formats, contentEnd_term stack named listed, plain (unstyled name listed)⟩
  | link same =>
      subst same
      exact closeFormatting_eq ready stack named unbounded
  | common unruled =>
      rw [contentEnd_common free filled unruled]
      exact closeUnruled_eq ready stack named unbounded unruled

end Closing

end PageRender.Html.Builder
