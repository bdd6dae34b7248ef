import PageRender.Html.Tree.Reading
import PageRender.Proofs.PlantedTree
import PageRender.Proofs.PrintedLexeme

/-!
# Nested markup

Where an element of the page stands decides what its start tag does: it may close what is open, move
to another place, or be passed over. A fragment is nested if the start tag of each element opens it
right where it stands and closes nothing. Elements whose tags do more than that wherever they stand,
as those of forms and scripts, are left out.
-/

namespace PageRender.Html

namespace Nesting

/-- Whether, going outwards, a target is met before something that bounds the search. -/
def meets (isBound isTarget : ElementName → Bool) : List ElementName → Bool
  | [] => false
  | element :: around =>
      isTarget element || (!isBound element && meets isBound isTarget around)

/-- The rules in force inside some elements, the innermost first. -/
def modeWithin : List ElementName → Mode
  | [] => .body
  | element :: around =>
      if around.isEmpty then .body
      else if element.isOneOf ["td", "th"] then .cell
      else if element.isPage "tr" then .row
      else if element.isOneOf ["tbody", "thead", "tfoot"] then .tableBody
      else if element.isPage "caption" then .caption
      else if element.isPage "colgroup" then .columns
      else if element.isPage "table" then .table
      else modeWithin around

/-- Whether what stands in some elements is read by the rules for content. -/
def inContent (around : List ElementName) : Bool :=
  [Mode.body, .caption, .cell].contains (modeWithin around)

/-- Whether the innermost element is one of some. -/
def within (around : List ElementName) (names : List String) : Bool :=
  around.head?.any fun element => element.isOneOf names

/-- The elements that the parts of a table stand in. -/
def tableParents? (name : String) : Option (List String) :=
  match name with
  | "caption" | "colgroup" | "tbody" | "tfoot" | "thead" => some ["table"]
  | "col" => some ["colgroup"]
  | "tr" => some ["tbody", "tfoot", "thead"]
  | "td" | "th" => some ["tr"]
  | _ => none

theorem contains_eq_false {name : String} (whole : tableParents? name = none)
    {parts : List String} (tabled : ∀ part ∈ parts, (tableParents? part).isSome = true) :
    parts.contains name = false := by
  refine Bool.eq_false_iff.mpr fun listed => ?_
  have isPart := tabled name (List.contains_iff_mem.mp listed)
  rw [whole] at isPart
  cases isPart

/-- The elements whose tags do more than to open and to close them. -/
def reserved : List String :=
  ["html", "head", "body", "frameset", "frame", "image", "template", "form", "button", "select",
    "option", "optgroup", "textarea", "title", "style", "script", "xmp", "iframe", "noembed",
    "noframes", "noscript", "plaintext", "svg", "math", "nobr", "applet", "marquee", "object", "rb",
    "rp", "rt", "rtc"]

/-- The elements that close an open paragraph. -/
def paragraphClosers : List String :=
  ["pre", "listing", "li", "dd", "dt", "table", "hr"] ++ ElementName.headings ++ ElementName.blocks

def paragraphOpen (around : List ElementName) : Bool :=
  meets (fun element => element.boundsScope || element.isPage "button")
    (fun element => element.isOneOf ["p"]) around

/-- Whether one of some items is open that the next item closes. -/
def itemOpen (names : List String) (around : List ElementName) : Bool :=
  meets (fun element => element.isSpecial && !element.isOneOf ["address", "div", "p"])
    (fun element => element.isOneOf names) around

/-- Whether formatting outside the element does not reach inside. -/
def bounds (element : ElementName) : Bool :=
  element.isOneOf ["td", "th", "caption"]

/-- The elements whose formatting is opened anew where a block interrupts it. -/
def formattingNames : List String :=
  "a" :: ElementName.formatting

def linkOpen (around : List ElementName) : Bool :=
  meets bounds (fun element => element.isPage "a") around

/-- Whether a start tag read by the rules for content opens its element and closes nothing. -/
def opensInContent (around : List ElementName) (name : String) : Bool :=
  !reserved.contains name && !(paragraphClosers.contains name && paragraphOpen around) &&
    !(ElementName.headings.contains name && within around ElementName.headings) &&
    !(name == "li" && itemOpen ["li"] around) &&
    !((name == "dd" || name == "dt") && itemOpen ["dd", "dt"] around) &&
    !(name == "a" && linkOpen around)

/-- Whether a start tag inside some elements opens its element there and closes nothing. -/
def opens (around : List ElementName) (name : String) : Bool :=
  match tableParents? name with
  | some parents => within around parents
  | none => inContent around && opensInContent around name

/-- Whether a text stays where it is: between the parts of a table only blanks do. -/
def keepsText (around : List ElementName) (text : List Char) : Bool :=
  if within around ("colgroup" :: ElementName.tableParts) then text.all isSpace
  else inContent around

end Nesting

open Nesting

/-- Whether the preformatted text that an element may hold begins with a line feed, which is passed
over right after the start tag. -/
def losesLineFeed (name : String) (printed : List Char) : Bool :=
  (name == "pre" || name == "listing") && printed.head? == some '\n'

/-- Whether every element of a fragment inside some elements opens where it stands, and every text
stays there. -/
def Fragment.nested (around : List ElementName) : Fragment → Bool
  | nil => true
  | text content rest => keepsText around content.toList && rest.nested around
  | comment rest => rest.nested around
  | element name _ children rest =>
      name.space == .page && opens around name.name &&
        (if name.isVoid then children == nil
        else !losesLineFeed name.name (children.print false) &&
          children.nested (name :: around)) &&
        rest.nested around

namespace Builder

/-! ## Open elements -/

def names (stack : List OpenElement) : List ElementName :=
  stack.map OpenElement.name

theorem reaches_eq_meets (isBound isTarget : ElementName → Bool) (stack : List OpenElement) :
    reaches isBound isTarget stack = meets isBound isTarget (names stack) := by
  induction stack with
  | nil => rfl
  | cons element stack ih => rw [reaches, ih]; rfl

theorem modeOf_eq_modeWithin (modes : List Mode) {stack : List OpenElement}
    (plain : ∀ element ∈ stack, element.name.isPage "template" = false) :
    modeOf modes stack = modeWithin (names stack) := by
  induction stack with
  | nil => rfl
  | cons element stack ih =>
      rw [modeOf, ih fun other other_mem => plain other (List.mem_cons_of_mem _ other_mem),
        plain element List.mem_cons_self]
      simp [names, modeWithin]

theorem closeItem_eq {targets : List String} {stack : List OpenElement} (builder : Builder)
    (closed : itemOpen targets (names stack) = false) :
    closeItem targets stack builder = builder := by
  induction stack with
  | nil => rfl
  | cons element stack ih =>
      simp only [itemOpen, names, List.map_cons, meets, Bool.or_eq_false_iff] at closed
      rw [closeItem, closed.1, if_neg (by simp)]
      split
      · rfl
      · rename_i passes
        refine ih ?_
        simpa [itemOpen, names, passes] using closed.2

theorem closeParagraph_eq {builder : Builder}
    (closed : paragraphOpen (names builder.stack) = false) :
    builder.closeParagraph = builder := by
  rw [closeParagraph, inButtonScope, reaches_eq_meets, ← paragraphOpen, closed]
  rfl

/-! ## Formatting -/

/-- A list of formatting that comes from the open elements: each entry is of an open element, in
their order, and the elements that bound formatting have left their markers. -/
inductive Listed : List OpenElement → List Format → Prop where
  | nil : Listed [] []
  | unlisted {element : OpenElement} {stack : List OpenElement} {formats : List Format}
      (unbounded : bounds element.name = false) (listed : Listed stack formats) :
      Listed (element :: stack) formats
  | formatting {element : OpenElement} {stack : List OpenElement} {formats : List Format}
      {tag : Tag} (unbounded : bounds element.name = false)
      (named : element.name = .page tag.name) (styled : formattingNames.contains tag.name = true)
      (listed : Listed stack formats) :
      Listed (element :: stack) (.element element.id tag :: formats)
  | marker {element : OpenElement} {stack : List OpenElement} {formats : List Format}
      (bounding : bounds element.name = true) (listed : Listed stack formats) :
      Listed (element :: stack) (.marker :: formats)

namespace Listed

variable {stack : List OpenElement} {formats : List Format}

theorem isOpen (listed : Listed stack formats) {id : Nat} {tag : Tag}
    (listing : .element id tag ∈ formats) : ∃ element ∈ stack, element.id = id := by
  induction listed with
  | nil => cases listing
  | unlisted _ _ ih =>
      rcases ih listing with ⟨element, element_mem, same⟩
      exact ⟨element, List.mem_cons_of_mem _ element_mem, same⟩
  | formatting _ _ _ _ ih =>
      rcases List.mem_cons.mp listing with new | old
      · cases new
        exact ⟨_, List.mem_cons_self, rfl⟩
      · rcases ih old with ⟨element, element_mem, same⟩
        exact ⟨element, List.mem_cons_of_mem _ element_mem, same⟩
  | marker _ _ ih =>
      rcases List.mem_cons.mp listing with new | old
      · cases new
      · rcases ih old with ⟨element, element_mem, same⟩
        exact ⟨element, List.mem_cons_of_mem _ element_mem, same⟩

theorem erase (listed : Listed stack formats) (id : Nat) (tag : Tag) :
    Listed stack (formats.erase (.element id tag)) := by
  induction listed with
  | nil => exact nil
  | unlisted unbounded _ ih => exact unlisted unbounded ih
  | formatting unbounded named styled listed ih =>
      rw [List.erase_cons]
      split
      · exact unlisted unbounded listed
      · exact formatting unbounded named styled ih
  | marker bounding _ ih =>
      rw [List.erase_cons_tail (by simp)]
      exact marker bounding ih

theorem withoutFourth (listed : Listed stack formats) (tag : Tag) :
    Listed stack (Builder.withoutFourth tag formats) := by
  unfold Builder.withoutFourth
  dsimp only
  split
  · exact listed
  · split
    · rename_i earliest found
      have equal := (List.mem_filter.mp (List.mem_of_getLast? found)).2
      cases earliest with
      | marker => cases equal
      | element id tag => exact listed.erase id tag
    · exact listed

/-- Without an open link, no link is listed after the last marker. -/
theorem format?_eq_none (listed : Listed stack formats) (closed : linkOpen (names stack) = false)
    (builder : Builder) : { builder with formats := formats }.format? "a" = none := by
  induction listed with
  | nil => rfl
  | unlisted unbounded _ ih =>
      refine ih ?_
      simp only [linkOpen, names, List.map_cons, meets, unbounded] at closed
      simpa [linkOpen, names] using (Bool.or_eq_false_iff.mp closed).2
  | @formatting element stack formats tag unbounded named _ _ ih =>
      simp only [linkOpen, names, List.map_cons, meets, unbounded, Bool.or_eq_false_iff] at closed
      have other : (tag.name == "a") = false := by
        simpa [named, ElementName.isPage, ElementName.page] using closed.1
      have later := ih (by simpa [linkOpen, names] using closed.2)
      unfold format? sinceMarker at later ⊢
      rw [List.takeWhile_cons_of_pos (by simp), List.findSome?_cons]
      simpa [other] using later
  | marker bounding _ ih => rfl

end Listed

theorem reconstruct_eq {builder : Builder} (listed : Listed builder.stack builder.formats) :
    builder.reconstruct = builder := by
  unfold reconstruct
  cases formats : builder.formats with
  | nil =>
      cases builder
      cases formats
      rfl
  | cons format rest =>
      cases format with
      | marker =>
          cases builder
          cases formats
          rfl
      | element id tag =>
          rcases listed.isOpen (formats ▸ List.mem_cons_self) with ⟨element, element_mem, same⟩
          have isOpen : builder.isOpen id = true :=
            List.any_eq_true.mpr ⟨element, element_mem, by simp [same]⟩
          simp only [List.takeWhile_cons, List.dropWhile_cons, isOpen, Bool.not_true,
            Bool.false_eq_true, if_false, List.reverse_nil, List.foldl_nil]
          cases builder
          cases formats
          rfl

/-! ## Builders at rest -/

/-- The bottom of every stack. -/
def base : OpenElement := { id := root, name := .page "html" }

/-- Nothing is pending, all open elements are elements of the page whose tags do no more than to
open and to close them, and the rules and the formatting are those that the open elements call
for. -/
structure Ready (builder : Builder) : Prop where
  content : builder.content = .markup
  flushed : builder.pending = []
  straight : builder.skipsNewline = false
  unfostered : builder.fosters = false
  mode : builder.mode = modeWithin (names builder.stack)
  rooted : ∃ inner, builder.stack = inner ++ [base]
  plain : ∀ element ∈ builder.stack, element.name.space = .page ∧
    element.name.name ∉ ["select", "template"]
  listed : Listed builder.stack builder.formats
  distinct : (builder.stack.map OpenElement.id).Nodup
  created : ∀ element ∈ builder.stack, element.id < builder.store.entries.size

/-- The innermost open element. -/
def top (builder : Builder) : Nat :=
  ((builder.stack.head?).map OpenElement.id).getD root

theorem place_eq {builder : Builder} (unfostered : builder.fosters = false) :
    builder.place = .inside builder.top := by
  unfold place top
  split
  · rename_i empty
    rw [empty]
    rfl
  · rename_i element rest stack
    rw [placeIn, unfostered, stack]
    rfl

theorem insert_eq {builder : Builder} (unfostered : builder.fosters = false) (tag : Tag) :
    builder.insert tag =
      { builder with
        store := builder.store.sprout builder.top (.page tag.name) tag.attributes
        stack := ⟨builder.store.entries.size, .page tag.name, false⟩ :: builder.stack } := by
  rw [insert, insertElement, place_eq unfostered]
  rfl

theorem insertText_eq {builder : Builder} (unfostered : builder.fosters = false)
    {text : List Char} (nonempty : text ≠ []) :
    builder.insertText text =
      { builder with
        store := builder.store.put (.inside builder.top) (.text (.ofList text)) } := by
  rw [insertText, place_eq unfostered, if_neg (by simpa using nonempty)]

namespace Ready

variable {builder : Builder}

theorem exists_head (ready : Ready builder) :
    ∃ element rest, builder.stack = element :: rest := by
  rcases ready.rooted with ⟨inner, stack⟩
  cases inner with
  | nil => exact ⟨base, [], stack⟩
  | cons element inner => exact ⟨element, inner ++ [base], stack⟩

theorem isForeign_eq_false (ready : Ready builder) (token : Token) :
    builder.isForeign token = false := by
  rcases ready.exists_head with ⟨element, rest, stack⟩
  have page := (ready.plain element (stack ▸ List.mem_cons_self)).1
  simp [isForeign, stack, page]

theorem inScope_select_eq_false (ready : Ready builder) : builder.inScope ["select"] = false := by
  have absent : ∀ element ∈ builder.stack, element.name.isOneOf ["select"] = false := by
    intro element element_mem
    have other := (ready.plain element element_mem).2
    simp_all [ElementName.isOneOf]
  rw [inScope]
  generalize builder.stack = stack at absent
  induction stack with
  | nil => rfl
  | cons element stack ih =>
      simp [reaches, absent element List.mem_cons_self,
        ih fun other other_mem => absent other (List.mem_cons_of_mem _ other_mem)]

theorem modeOf_eq (ready : Ready builder) (modes : List Mode) {inner stack : List OpenElement}
    (within : builder.stack = inner ++ stack) :
    modeOf modes stack = modeWithin (names stack) := by
  refine modeOf_eq_modeWithin modes fun element element_mem => ?_
  have other := (ready.plain element (within ▸ List.mem_append_right _ element_mem)).2
  simp_all [ElementName.isPage]

end Ready

end Builder

end PageRender.Html
