import Mathlib.Data.List.TakeWhile
import PageRender.Proofs.PageLinkText

/-!
# Where references to pages stand

Whether a text refers to a page at some place is told by the path there and by the characters on
both sides of it, wherever a reader may have come from. A text has one division into its references
and the characters between them. Its markup is written from that division, and gives the text back
once the links are taken for their paths in square brackets and the characters are unescaped.
-/

namespace PageRender.Markdown.PageLink

/-- The path of a page begins with a slash and holds no bracket, no parenthesis and no blank. -/
structure IsPath (path : List Char) : Prop where
  rooted : path.head? = some '/'
  plain : ∀ c ∈ path, c ∉ ['[', ']', '(', ')'] ∧ Text.isBlank c = false

/-- A text refers to a page between the text before and the text after, and nothing next to the
reference makes it the label of a link or of an image. -/
structure RefersAt (text before path after : List Char) : Prop where
  split : text = before ++ '[' :: path ++ ']' :: after
  isPath : IsPath path
  unopened : ∀ c, before.getLast? = some c → c ∉ ['[', '!']
  unfollowed : ∀ c, after.head? = some c → c ∉ ['(', '[', ':']

/-- A reference stands among pieces between what they were read from before and after it. -/
def Places (pieces : List Piece) (before path after : List Char) : Prop :=
  ∃ front back, pieces = front ++ .reference path :: back ∧
    front.flatMap Piece.source = before ∧ back.flatMap Piece.source = after

/-- Pieces divide a text if they make it up and their references are those of the text. -/
structure Divides (text : List Char) (pieces : List Piece) : Prop where
  source : pieces.flatMap Piece.source = text
  references : ∀ before path after, RefersAt text before path after ↔
    Places pieces before path after

/-! ## Paths -/

theorem isPathChar_eq_true {c : Char} :
    isPathChar c = true ↔ c ∉ ['[', ']', '(', ')'] ∧ Text.isBlank c = false := by
  have brackets : "[]()".toList = ['[', ']', '(', ')'] := rfl
  simp [isPathChar, brackets]

theorem IsPath.bracket_not_mem {path : List Char} (isPath : IsPath path) {c : Char}
    (bracket : c ∈ ['[', ']']) : c ∉ path := by
  intro c_mem
  apply (isPath.plain c c_mem).1
  simp only [List.mem_cons] at bracket ⊢
  tauto

theorem path?_eq_some_iff {text path after : List Char} :
    path? text = some (path, after) ↔ text = path ++ ']' :: after ∧ IsPath path := by
  constructor
  · intro read
    refine ⟨append_of_path? read, ?_⟩
    unfold path? at read
    split at read
    · split at read
      · rename_i front behind spanned
        cases read
        rw [List.span_eq_takeWhile_dropWhile, Prod.mk.injEq] at spanned
        constructor
        · rw [← spanned.1, List.takeWhile_cons_of_pos (by decide)]
          rfl
        · intro c c_mem
          rw [← spanned.1] at c_mem
          exact isPathChar_eq_true.mp (List.mem_takeWhile_imp c_mem)
      · cases read
    · cases read
  · rintro ⟨rfl, isPath⟩
    have inside : ∀ c ∈ path, isPathChar c = true := by
      intro c c_mem
      exact isPathChar_eq_true.mpr (isPath.plain c c_mem)
    have spanned : (path ++ ']' :: after).span isPathChar = (path, ']' :: after) := by
      have stop : isPathChar ']' = false := by decide
      rw [List.span_eq_takeWhile_dropWhile, List.takeWhile_append_of_pos inside,
        List.dropWhile_append_of_pos inside]
      simp [stop]
    cases path with
    | nil => cases isPath.rooted
    | cons c rest =>
        cases isPath.rooted
        rw [List.cons_append] at spanned ⊢
        simp only [path?, spanned]

/-! ## Reading -/

/-- A reference begins a text; what was read before is given with the last character first. -/
structure Begins (read text path after : List Char) : Prop where
  split : text = '[' :: path ++ ']' :: after
  isPath : IsPath path
  free : isFree read after = true

/-- A reference begins in a text, behind some of it. -/
def BeginsBehind (read text before path after : List Char) : Prop :=
  ∃ rest, text = before ++ rest ∧ Begins (before.reverse ++ read) rest path after

theorem refersAt_iff_beginsBehind {text before path after : List Char} :
    RefersAt text before path after ↔ BeginsBehind [] text before path after := by
  have free_iff : isFree (before.reverse ++ []) after = true ↔
      (∀ c, before.getLast? = some c → c ∉ ['[', '!']) ∧
        ∀ c, after.head? = some c → c ∉ ['(', '[', ':'] := by
    simp [isFree, Option.all_eq_true, and_assoc]
  constructor
  · rintro ⟨split, isPath, unopened, unfollowed⟩
    exact ⟨_, by simpa using split, rfl, isPath, free_iff.mpr ⟨unopened, unfollowed⟩⟩
  · rintro ⟨rest, rfl, rfl, isPath, free⟩
    rcases free_iff.mp free with ⟨unopened, unfollowed⟩
    exact ⟨by simp, isPath, unopened, unfollowed⟩

theorem Begins.unique {read text path after other later : List Char}
    (begins : Begins read text path after) (again : Begins read text other later) :
    path = other ∧ after = later := by
  have same : path ++ ']' :: after = other ++ ']' :: later := by
    simpa using begins.split.symm.trans again.split
  have found : path? (path ++ ']' :: after) = some (path, after) :=
    path?_eq_some_iff.mpr ⟨rfl, begins.isPath⟩
  rw [path?_eq_some_iff.mpr ⟨same, again.isPath⟩] at found
  simpa [eq_comm] using found

/-- Behind the bracket that opens a reference the next reference begins after it. -/
theorem Begins.split_later {read text path after front rest : List Char}
    (begins : Begins read text path after) (split : text = '[' :: front ++ '[' :: rest) :
    ∃ later, front = path ++ ']' :: later ∧ after = later ++ '[' :: rest := by
  have same : path ++ ']' :: after = front ++ '[' :: rest := by
    simpa using begins.split.symm.trans split
  rcases List.append_eq_append_iff.mp same with ⟨later, rfl, closed⟩ | ⟨inner, rfl, opened⟩
  · cases later with
    | nil => simp at closed
    | cons c later =>
        rw [List.cons_append, List.cons.injEq] at closed
        exact ⟨later, by rw [closed.1], closed.2⟩
  · cases inner with
    | nil => simp at opened
    | cons c inner =>
        rw [List.cons_append, List.cons.injEq] at opened
        have inPath : '[' ∈ front ++ c :: inner := by simp [← opened.1]
        exact absurd inPath (begins.isPath.bracket_not_mem (by simp))

/-- Where a reference begins a text, the others of the text begin behind its closing bracket. -/
theorem Begins.beginsBehind_iff {read text path after : List Char}
    (begins : Begins read text path after) {before other later : List Char} :
    BeginsBehind read text before other later ↔
      (path = other ∧ before = [] ∧ after = later) ∨
        ∃ behind, before = (Piece.reference path).source ++ behind ∧
          BeginsBehind (']' :: path.reverse ++ '[' :: read) after behind other later := by
  constructor
  · rintro ⟨rest, split, again⟩
    cases before with
    | nil =>
        rw [List.nil_append] at split
        rw [← split] at again
        rcases begins.unique (by simpa using again) with ⟨rfl, rfl⟩
        exact Or.inl ⟨rfl, rfl, rfl⟩
    | cons c before =>
        rw [begins.split, List.cons_append, List.cons_append, List.cons.injEq] at split
        rcases split with ⟨rfl, split⟩
        have whole : text = '[' :: before ++ '[' :: (other ++ ']' :: later) := by
          rw [begins.split, List.cons_append, split, again.split]
          simp
        rcases begins.split_later whole with ⟨behind, rfl, rfl⟩
        refine Or.inr ⟨behind, by simp [Piece.source], rest, ?_, by simpa using again⟩
        simp [again.split]
  · rintro (⟨rfl, rfl, rfl⟩ | ⟨behind, rfl, rest, rfl, again⟩)
    · exact ⟨text, rfl, by simpa using begins⟩
    · exact ⟨rest, by simp [begins.split, Piece.source], by simpa [Piece.source] using again⟩

/-- Where none begins a text, the references of the text begin behind its first character. -/
theorem beginsBehind_cons_iff {read text before path after : List Char} {c : Char}
    (none : ∀ path after, ¬Begins read (c :: text) path after) :
    BeginsBehind read (c :: text) before path after ↔
      ∃ behind, before = (Piece.char c).source ++ behind ∧
        BeginsBehind (c :: read) text behind path after := by
  constructor
  · rintro ⟨rest, split, begins⟩
    cases before with
    | nil =>
        rw [List.nil_append] at split
        rw [← split] at begins
        exact absurd (by simpa using begins) (none path after)
    | cons d before =>
        rw [List.cons_append, List.cons.injEq] at split
        rcases split with ⟨rfl, rfl⟩
        exact ⟨before, rfl, rest, rfl, by simpa using begins⟩
  · rintro ⟨behind, rfl, rest, rfl, begins⟩
    exact ⟨rest, by simp [Piece.source], by simpa [Piece.source] using begins⟩

theorem not_beginsBehind_nil {read before path after : List Char} :
    ¬BeginsBehind read [] before path after := by
  rintro ⟨rest, split, begins⟩
  rw [(List.append_eq_nil_iff.mp split.symm).2] at begins
  cases begins.split

/-- A reference begins a text exactly where the reader finds a path behind an opening bracket. -/
theorem begins_cons_iff {read rest path after : List Char} {c : Char} :
    Begins read (c :: rest) path after ↔
      (if c == '[' then path? rest else none) = some (path, after) ∧
        isFree read after = true := by
  constructor
  · rintro ⟨split, isPath, free⟩
    rw [List.cons_append, List.cons.injEq] at split
    simp [split.1, path?_eq_some_iff, split.2, isPath, free]
  · rintro ⟨found, free⟩
    split at found
    · rename_i isOpening
      rcases path?_eq_some_iff.mp found with ⟨rfl, isPath⟩
      exact ⟨by simpa using isOpening, isPath, free⟩
    · cases found

/-- A step of the reader passes over the reference that begins the text, or over one character
where none does. -/
theorem piecesFrom_cases (limit : Nat) (read : List Char) (c : Char) (rest : List Char) :
    (∃ path after, Begins read (c :: rest) path after ∧
        piecesFrom (limit + 1) read (c :: rest) =
          .reference path :: piecesFrom limit (']' :: path.reverse ++ '[' :: read) after) ∨
      (∀ path after, ¬Begins read (c :: rest) path after) ∧
        piecesFrom (limit + 1) read (c :: rest) =
          .char c :: piecesFrom limit (c :: read) rest := by
  cases found : if c == '[' then path? rest else none with
  | none =>
      right
      simp only [begins_cons_iff, piecesFrom, found]
      simp
  | some reference =>
      rcases reference with ⟨path, after⟩
      by_cases free : isFree read after = true
      · have begins := begins_cons_iff.mpr ⟨found, free⟩
        have opening : c = '[' := List.head_eq_of_cons_eq begins.split
        subst opening
        refine Or.inl ⟨path, after, begins, ?_⟩
        simp only [piecesFrom, found, free, if_true]
      · right
        constructor
        · intro other later begins
          rcases begins_cons_iff.mp begins with ⟨again, stillFree⟩
          rw [found] at again
          cases again
          exact free stillFree
        · simp only [piecesFrom, found, free]
          simp

theorem Piece.source_ne_nil (piece : Piece) : piece.source ≠ [] := by
  cases piece <;> simp [source]

theorem places_nil {before path after : List Char} : ¬Places [] before path after := by
  rintro ⟨front, back, none, -, -⟩
  simp at none

theorem places_cons {piece : Piece} {rest : List Piece} {before path after : List Char} :
    Places (piece :: rest) before path after ↔
      (piece = .reference path ∧ before = [] ∧ rest.flatMap Piece.source = after) ∨
        ∃ later, before = piece.source ++ later ∧ Places rest later path after := by
  constructor
  · rintro ⟨front, back, split, rfl, rfl⟩
    cases front with
    | nil =>
        rw [List.nil_append, List.cons.injEq] at split
        exact Or.inl ⟨split.1, rfl, by rw [split.2]⟩
    | cons first front =>
        rw [List.cons_append, List.cons.injEq] at split
        exact Or.inr ⟨_, by rw [List.flatMap_cons, split.1], front, back, split.2, rfl, rfl⟩
  · rintro (⟨rfl, rfl, rfl⟩ | ⟨later, rfl, front, back, rfl, rfl, rfl⟩)
    · exact ⟨[], rest, rfl, rfl, rfl⟩
    · exact ⟨piece :: front, back, rfl, rfl, rfl⟩

/-- The reader finds the references of a text, and no others. -/
theorem places_piecesFrom {limit : Nat} {text : List Char} (enough : text.length ≤ limit)
    (read before path after : List Char) :
    Places (piecesFrom limit read text) before path after ↔
      BeginsBehind read text before path after := by
  induction limit generalizing read text before with
  | zero =>
      have noText : text = [] := List.length_eq_zero_iff.mp (Nat.le_zero.mp enough)
      rw [noText]
      exact iff_of_false places_nil not_beginsBehind_nil
  | succ limit ih =>
      cases text with
      | nil => exact iff_of_false places_nil not_beginsBehind_nil
      | cons c text =>
          simp only [List.length_cons, Nat.add_le_add_iff_right] at enough
          rcases piecesFrom_cases limit read c text with
            ⟨found, behind, begins, stepped⟩ | ⟨none, stepped⟩
          · have shorter : behind.length ≤ limit := by
              have lengths := congrArg List.length begins.split
              simp only [List.length_cons, List.length_append] at lengths
              omega
            rw [stepped, places_cons, begins.beginsBehind_iff, source_piecesFrom]
            simp only [Piece.reference.injEq, ih shorter]
          · rw [stepped, places_cons, beginsBehind_cons_iff none]
            simp only [reduceCtorEq, false_and, false_or, ih enough]

theorem divides_pieces (text : List Char) : Divides text (pieces text) := by
  refine ⟨source_pieces text, ?_⟩
  intro before path after
  rw [refersAt_iff_beginsBehind, pieces, places_piecesFrom (Nat.le_refl _)]

theorem places_cons_source (piece : Piece) {rest : List Piece} {before path after : List Char} :
    Places (piece :: rest) (piece.source ++ before) path after ↔ Places rest before path after := by
  rw [places_cons]
  constructor
  · rintro (⟨-, none, -⟩ | ⟨later, same, inRest⟩)
    · exact absurd (List.append_eq_nil_iff.mp none).1 piece.source_ne_nil
    · rwa [List.append_cancel_left same]
  · intro inRest
    exact Or.inr ⟨before, rfl, inRest⟩

theorem places_head {piece : Piece} {rest : List Piece} {path after : List Char} :
    Places (piece :: rest) [] path after ↔
      piece = .reference path ∧ rest.flatMap Piece.source = after := by
  rw [places_cons]
  constructor
  · rintro (⟨same, -, behind⟩ | ⟨later, none, -⟩)
    · exact ⟨same, behind⟩
    · exact absurd (List.append_eq_nil_iff.mp none.symm).1 piece.source_ne_nil
  · rintro ⟨same, behind⟩
    exact Or.inl ⟨same, rfl, behind⟩

/-- Pieces of one text with references in the same places are the same. -/
theorem eq_of_places {first second : List Piece}
    (sameText : first.flatMap Piece.source = second.flatMap Piece.source)
    (samePlaces : ∀ before path after,
      Places first before path after ↔ Places second before path after) : first = second := by
  induction first generalizing second with
  | nil =>
      cases second with
      | nil => rfl
      | cons piece rest =>
          rw [List.flatMap_nil, List.flatMap_cons] at sameText
          exact absurd (List.append_eq_nil_iff.mp sameText.symm).1 piece.source_ne_nil
  | cons piece rest ih =>
      cases second with
      | nil =>
          rw [List.flatMap_nil, List.flatMap_cons] at sameText
          exact absurd (List.append_eq_nil_iff.mp sameText).1 piece.source_ne_nil
      | cons other others =>
          have same : piece = other := by
            cases piece with
            | reference path =>
                have found := (samePlaces [] path _).mp (places_head.mpr ⟨rfl, rfl⟩)
                exact (places_head.mp found).1.symm
            | char value =>
                cases other with
                | reference path =>
                    have found := (samePlaces [] path _).mpr (places_head.mpr ⟨rfl, rfl⟩)
                    exact (places_head.mp found).1
                | char later =>
                    rw [List.flatMap_cons, List.flatMap_cons] at sameText
                    rw [List.head_eq_of_cons_eq sameText]
          subst same
          rw [List.flatMap_cons, List.flatMap_cons, List.append_right_inj] at sameText
          rw [ih sameText]
          intro before path after
          rw [← places_cons_source piece, samePlaces, places_cons_source]

theorem divides_iff {text : List Char} {read : List Piece} :
    Divides text read ↔ read = pieces text := by
  constructor
  · intro divides
    apply eq_of_places (by rw [divides.source, source_pieces])
    intro before path after
    rw [← divides.references, (divides_pieces text).references]
  · rintro rfl
    exact divides_pieces text

/-! ## Reading back -/

/-- The link to a path, from the path as it is written. -/
def linkOf (written : List Char) : List Char :=
  "<a href=\"".toList ++ written ++ "\">".toList ++ written ++ "</a>".toList

/-- Reads a link to a path: the path as it is written, and the markup behind the link. -/
def link? (html : List Char) : Option (List Char × List Char) :=
  let written := (html.drop "<a href=\"".toList.length).takeWhile (· != '"')
  if (linkOf written).isPrefixOf html then some (written, html.drop (linkOf written).length)
  else none

theorem linkOf_eq (written : List Char) :
    linkOf written = '<' :: (['a', ' ', 'h', 'r', 'e', 'f', '=', '"'] ++ written ++ ['"', '>'] ++
      written ++ ['<', '/', 'a', '>']) := by
  have opening : "<a href=\"".toList = ['<', 'a', ' ', 'h', 'r', 'e', 'f', '=', '"'] :=
    String.toList_ofList
  have behind : "\">".toList = ['"', '>'] := String.toList_ofList
  have closing : "</a>".toList = ['<', '/', 'a', '>'] := String.toList_ofList
  unfold linkOf
  simp only [opening, behind, closing, List.cons_append]

theorem append_of_link? {html written after : List Char}
    (read : link? html = some (written, after)) : html = linkOf written ++ after := by
  simp only [link?] at read
  split at read
  · rename_i isLink
    cases read
    exact (List.prefix_iff_eq_append.mp (List.isPrefixOf_iff_prefix.mp isLink)).symm
  · cases read

theorem length_lt_of_link? {html written after : List Char}
    (read : link? html = some (written, after)) : after.length < html.length := by
  rw [append_of_link? read, linkOf_eq, List.length_append, List.length_cons]
  omega

/-- Markup with every link taken for its path in square brackets. -/
def unlink (html : List Char) : List Char :=
  match html with
  | [] => []
  | c :: rest =>
      match _read : link? (c :: rest) with
      | some (written, after) => '[' :: written ++ ']' :: unlink after
      | none => c :: unlink rest
termination_by html.length
decreasing_by
  · exact length_lt_of_link? ‹_›
  · exact Nat.lt_succ_self _

theorem link?_linkOf {written : List Char} (unquoted : '"' ∉ written) (after : List Char) :
    link? (linkOf written ++ after) = some (written, after) := by
  have path : ((linkOf written ++ after).drop "<a href=\"".toList.length).takeWhile (· != '"') =
      written := by
    have others : ∀ c ∈ written, (c != '"') = true := by
      intro c c_mem
      have other : c ≠ '"' := fun same => unquoted (same ▸ c_mem)
      simpa using other
    have behind : "\">".toList = ['"', '>'] := String.toList_ofList
    unfold linkOf
    simp only [List.append_assoc, List.drop_left, List.takeWhile_append_of_pos others, behind]
    simp
  simp only [link?, path]
  rw [if_pos (List.isPrefixOf_iff_prefix.mpr (List.prefix_append _ _)), List.drop_left]

theorem unlink_linkOf {written : List Char} (unquoted : '"' ∉ written) (after : List Char) :
    unlink (linkOf written ++ after) = '[' :: written ++ ']' :: unlink after := by
  have found := link?_linkOf unquoted after
  rw [linkOf_eq, List.cons_append] at found ⊢
  rw [unlink]
  split
  · rename_i read
    rw [found] at read
    cases read
    rfl
  · rename_i read
    rw [found] at read
    cases read

theorem unlink_append_of_plain {front : List Char} (plain : '<' ∉ front) (rest : List Char) :
    unlink (front ++ rest) = front ++ unlink rest := by
  induction front with
  | nil => rfl
  | cons c front ih =>
      rw [List.mem_cons, not_or] at plain
      rw [List.cons_append, unlink]
      split
      · rename_i read
        have isLink := append_of_link? read
        rw [linkOf_eq, List.cons_append, List.cons.injEq] at isLink
        exact absurd isLink.1.symm plain.1
      · rw [ih plain.2, List.cons_append]

/-- With its links taken for references, the markup of pieces is the text of the pieces, escaped. -/
theorem unlink_markup (read : List Piece) :
    unlink (read.flatMap Piece.markup) = Text.escape (read.flatMap Piece.source) := by
  induction read with
  | nil => simp [unlink]
  | cons piece rest ih =>
      rw [List.flatMap_cons, List.flatMap_cons, Text.escape_append, ← ih]
      cases piece with
      | char value =>
          have written : (Piece.char value).markup = Text.escapeChar value := rfl
          rw [written, unlink_append_of_plain (Text.not_mem_escapeChar (by simp) value)]
          simp [Piece.source]
      | reference path =>
          have written : (Piece.reference path).markup = linkOf (Text.escape path) := rfl
          rw [written, unlink_linkOf (Text.not_mem_escape (by simp) path)]
          simp [Piece.source, Text.escapeChar]

theorem markup?_eq_none_iff {text : List Char} :
    markup? text = none ↔ ¬∃ before path after, RefersAt text before path after := by
  have any_iff : (pieces text).any Piece.isReference = true ↔
      ∃ before path after, RefersAt text before path after := by
    simp only [(divides_pieces text).references, List.any_eq_true]
    constructor
    · rintro ⟨piece, piece_mem, isReference⟩
      cases piece with
      | char value => cases isReference
      | reference path =>
          rcases List.append_of_mem piece_mem with ⟨front, back, split⟩
          exact ⟨_, path, _, front, back, split, rfl, rfl⟩
    · rintro ⟨before, path, after, front, back, split, -, -⟩
      exact ⟨.reference path, by simp [split], rfl⟩
  rw [← any_iff, markup?]
  simp

/-- A text becomes markup exactly if it holds a reference. The markup is then that of the one
division of the text into references and characters: links to the references' paths, and all else
escaped. Reading it back gives the text. -/
theorem markup?_links_references (text : List Char) :
    (markup? text = none ↔ ¬∃ before path after, RefersAt text before path after) ∧
      ∃ read : List Piece,
        (∀ other, Divides text other ↔ other = read) ∧
        ∀ html, markup? text = some html →
          html = read.flatMap Piece.markup ∧ Text.unescape (unlink html) = text := by
  refine ⟨markup?_eq_none_iff, pieces text, fun other => divides_iff, ?_⟩
  intro html linked
  have written := markup?_eq_some linked
  refine ⟨written, ?_⟩
  rw [written, unlink_markup, source_pieces, Text.unescape_escape]

/-- A label of an image, references side by side, a definition, and a path that must be escaped. -/
theorem markup?_crowdedText :
    markup? "![/x][/a][/b] [/c]: [/d&\"]<".toList =
        some ("![/x][/a]<a href=\"/b\">/b</a> [/c]: " ++
          "<a href=\"/d&amp;&quot;\">/d&amp;&quot;</a>&lt;").toList ∧
      Text.unescape (unlink ("![/x][/a]<a href=\"/b\">/b</a> [/c]: " ++
          "<a href=\"/d&amp;&quot;\">/d&amp;&quot;</a>&lt;").toList) =
        "![/x][/a][/b] [/c]: [/d&\"]<".toList := by
  have linked : markup? "![/x][/a][/b] [/c]: [/d&\"]<".toList =
      some ("![/x][/a]<a href=\"/b\">/b</a> [/c]: " ++
        "<a href=\"/d&amp;&quot;\">/d&amp;&quot;</a>&lt;").toList := by
    decide +kernel
  rcases (markup?_links_references "![/x][/a][/b] [/c]: [/d&\"]<".toList).2 with ⟨read, -, reads⟩
  exact ⟨linked, (reads _ linked).2⟩

end PageRender.Markdown.PageLink
