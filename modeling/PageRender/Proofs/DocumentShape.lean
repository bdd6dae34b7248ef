import PageRender.Markdown.Document

/-!
# The shape of documents

Blocks hold blocks or the inline parts of one text, inline parts hold inline parts, and below a
text, a break or a span of code there is nothing. Every document that is read has this shape.
-/

namespace PageRender.Markdown

namespace Part

/-- Whether a part stands in a text. -/
def isInline : Part → Bool
  | text _ | softBreak | lineBreak | codeSpan _ | htmlInline _ | emphasised _ | link _ _ | image _ _
  | noteReference _ _ _ => true
  | _ => false

/-- Whether a block holds the inline parts of a text. -/
def holdsText : Part → Bool
  | paragraph | heading _ | cell => true
  | _ => false

/-- Whether nothing may stand below an inline part. -/
def isLeaf : Part → Bool
  | text _ | softBreak | lineBreak | codeSpan _ | htmlInline _ | noteReference _ _ _ => true
  | _ => false

end Part

namespace Document

/-- Only blocks, or only inline parts, stand side by side, and all of them hold what they may. -/
def Shaped (inline : Bool) : Document → Prop
  | .nil => True
  | .node part children rest =>
      part.isInline = inline ∧ (part.isLeaf → children = .nil) ∧
        Shaped (inline || part.holdsText) children ∧ Shaped inline rest

variable {inline : Bool}

@[simp]
theorem shaped_nil : Shaped inline .nil :=
  trivial

@[simp]
theorem shaped_text {content : String} {rest : Document} :
    Shaped true (.node (.text content) .nil rest) ↔ Shaped true rest := by
  simp [Shaped, Part.isInline]

@[simp]
theorem shaped_append {front rest : Document} :
    Shaped inline (front ++ rest) ↔ Shaped inline front ∧ Shaped inline rest := by
  induction front generalizing inline with
  | nil => simp
  | node part children later _ ih => simp [Shaped, ih, and_assoc]

theorem shaped_ofTrees {trees : List (Part × Document)} :
    Shaped inline (.ofTrees trees) ↔ ∀ tree ∈ trees, Shaped inline (.tree tree.1 tree.2) := by
  induction trees with
  | nil => simp [Forest.ofTrees]
  | cons tree rest ih =>
      have split : (Forest.ofTrees (tree :: rest) : Document) =
          .tree tree.1 tree.2 ++ .ofTrees rest := rfl
      rw [split, shaped_append, ih, List.forall_mem_cons]

end Document

/-! ## Inline text -/

/-- A piece that comes to an inline part with what it may hold. -/
def Piece.Sound (piece : Piece) : Prop :=
  Document.Shaped true (.tree piece.tree.1 piece.tree.2)

namespace Piece

@[simp]
theorem sound_text (content : List Char) : (text content).Sound := by
  simp [Sound, tree, text, Forest.tree]

@[simp]
theorem sound_run (mark : Char) (left length : Nat) (opens closes : Bool) :
    (run mark left length opens closes).Sound := by
  simp [Sound, tree, Forest.tree]

@[simp]
theorem sound_bracket (image : Bool) (behind : List Char) (followed : Bool) :
    (bracket image behind followed).Sound := by
  simp [Sound, tree, Forest.tree]

@[simp]
theorem sound_ofRun (mark : Char) (length : Nat) (before after : Char) :
    (ofRun mark length before after).Sound := by
  unfold ofRun
  dsimp only
  split
  · exact sound_run ..
  · exact sound_text _

theorem sound_part {value : Part} {children : Document} (isInline : value.isInline)
    (notLeaf : value.isLeaf = false) (shaped : children.Shaped true) :
    (part value children).Sound := by
  simp [Sound, tree, Forest.tree, Document.Shaped, isInline, notLeaf, shaped]

end Piece

namespace Emphasise

theorem shaped_forest {pieces : List Piece} (sound : ∀ piece ∈ pieces, piece.Sound) :
    (forest pieces).Shaped true := by
  rw [forest, Document.shaped_ofTrees]
  intro tree tree_mem
  rcases List.mem_map.mp tree_mem with ⟨piece, piece_mem, rfl⟩
  exact sound piece (List.mem_reverse.mp piece_mem)

theorem sound_of_opening? {closing : MarkRun} {pieces : List Piece} {found : Opening}
    (opened : opening? closing pieces = some found) (sound : ∀ piece ∈ pieces, piece.Sound) :
    (∀ piece ∈ found.between, piece.Sound) ∧ ∀ piece ∈ found.outer, piece.Sound := by
  induction pieces generalizing found with
  | nil => cases opened
  | cons piece rest ih =>
      rcases List.forall_mem_cons.mp sound with ⟨first, others⟩
      have further : ∀ inner : Opening, opening? closing rest = some inner →
          (∀ other ∈ piece :: inner.between, other.Sound) ∧ ∀ other ∈ inner.outer, other.Sound :=
        fun inner opened =>
          ⟨List.forall_mem_cons.mpr ⟨first, (ih opened others).1⟩, (ih opened others).2⟩
      cases piece with
      | run mark left length opens closes =>
          simp only [opening?] at opened
          split at opened
          · cases opened
            exact ⟨by simp, others⟩
          · rcases Option.map_eq_some_iff.mp opened with ⟨inner, innerOpened, rfl⟩
            exact further inner innerOpened
      | part value children =>
          rcases Option.map_eq_some_iff.mp opened with ⟨inner, innerOpened, rfl⟩
          exact further inner innerOpened
      | bracket image behind followed =>
          rcases Option.map_eq_some_iff.mp opened with ⟨inner, innerOpened, rfl⟩
          exact further inner innerOpened

theorem sound_pairUpTo {limit : Nat} {done ahead : List Piece}
    (soundDone : ∀ piece ∈ done, piece.Sound) (soundAhead : ∀ piece ∈ ahead, piece.Sound) :
    ∀ piece ∈ pairUpTo limit done ahead, piece.Sound := by
  have sound_cons : ∀ {piece : Piece} {pieces : List Piece}, piece.Sound →
      (∀ other ∈ pieces, other.Sound) → ∀ other ∈ piece :: pieces, other.Sound :=
    fun first others => List.forall_mem_cons.mpr ⟨first, others⟩
  induction limit generalizing done ahead with
  | zero =>
      intro piece piece_mem
      rcases List.mem_append.mp piece_mem with later | earlier
      · exact soundAhead piece (List.mem_reverse.mp later)
      · exact soundDone piece earlier
  | succ limit ih =>
      cases ahead with
      | nil => exact soundDone
      | cons piece ahead =>
          rcases List.forall_mem_cons.mp soundAhead with ⟨first, others⟩
          cases piece with
          | part value children => exact ih (sound_cons first soundDone) others
          | bracket image behind followed => exact ih (sound_cons first soundDone) others
          | run mark left length opens closes =>
              simp only [pairUpTo]
              split
              · split
                · rename_i found opened
                  rcases sound_of_opening? opened soundDone with ⟨between, outer⟩
                  generalize (if left ≥ 2 && found.run.left ≥ 2 then 2 else 1) = used
                  split
                  · intro piece piece_mem
                    rcases List.mem_append.mp piece_mem with later | earlier
                    · exact others piece (List.mem_reverse.mp later)
                    · exact sound_cons (Piece.sound_run ..) soundDone piece earlier
                  · refine ih (sound_cons ?_ ?_) ?_
                    · exact Piece.sound_part rfl rfl (shaped_forest between)
                    · split
                      · exact outer
                      · exact sound_cons (Piece.sound_run ..) outer
                    · split
                      · exact others
                      · exact sound_cons (Piece.sound_run ..) others
                · split
                  · exact ih (sound_cons (Piece.sound_run ..) soundDone) others
                  · exact ih (sound_cons (Piece.sound_text _) soundDone) others
              · exact ih (sound_cons (Piece.sound_run ..) soundDone) others

end Emphasise

theorem shaped_emphasise {pieces : List Piece} (sound : ∀ piece ∈ pieces, piece.Sound) :
    (emphasise pieces).Shaped true :=
  Emphasise.shaped_forest (Emphasise.sound_pairUpTo (by simp) sound)

namespace InlineReader

/-- Every piece that was read is sound. -/
def Sound (reader : InlineReader) : Prop :=
  ∀ piece ∈ reader.pieces, piece.Sound

variable {reader : InlineReader}

theorem Sound.push (sound : reader.Sound) {piece : Piece} (first : piece.Sound) :
    (reader.push piece).Sound :=
  List.forall_mem_cons.mpr ⟨first, sound⟩

theorem Sound.pass (sound : reader.Sound) (count : Nat) : (reader.pass count).Sound :=
  sound

theorem Sound.passTo (sound : reader.Sound) (later : List Char) : (reader.passTo later).Sound :=
  sound

theorem Sound.takeText (sound : reader.Sound) (count : Nat) : (reader.takeText count).Sound :=
  (sound.pass count).push (Piece.sound_text _)

theorem sound_leaf {part : Part} (isInline : part.isInline) : (Piece.part part .nil).Sound :=
  ⟨isInline, fun _ => rfl, Document.shaped_nil, Document.shaped_nil⟩

theorem sound_link (url : String) (written : String) :
    (Piece.part (.link url "") (.leaf (.text written))).Sound :=
  Piece.sound_part rfl rfl (by simp [Forest.leaf])

theorem Sound.lineEnd (sound : reader.Sound) : reader.lineEnd.Sound := by
  refine (sound.pass 1).push ?_
  split <;> exact sound_leaf rfl

theorem Sound.backslash (sound : reader.Sound) : reader.backslash.Sound := by
  unfold InlineReader.backslash
  split
  · split
    · exact (sound.pass 2).push (Piece.sound_text _)
    · split
      · exact (sound.pass 2).push (sound_leaf rfl)
      · exact sound.takeText 1
  · exact sound.takeText 1

theorem Sound.code (sound : reader.Sound) : reader.code.Sound := by
  unfold InlineReader.code
  generalize (reader.ahead.takeWhile (· == '\x60')).length = count
  dsimp only
  generalize (if count ≤ 80 then codeRest count 0 (reader.ahead.drop count) else none) = found
  split
  · exact (sound.passTo _).push (sound_leaf rfl)
  · exact sound.takeText _

theorem Sound.ampersand (sound : reader.Sound) : reader.ampersand.Sound := by
  unfold InlineReader.ampersand
  split
  · exact (sound.passTo _).push (Piece.sound_text _)
  · exact sound.takeText 1

theorem Sound.angle (sound : reader.Sound) : reader.angle.Sound := by
  unfold InlineReader.angle
  dsimp only
  split
  · exact (sound.passTo _).push (sound_link _ _)
  · split
    · exact (sound.passTo _).push (sound_link _ _)
    · split
      · exact (sound.passTo _).push (sound_leaf rfl)
      · exact sound.takeText 1

theorem sound_dropText {pieces : List Piece} (sound : ∀ piece ∈ pieces, piece.Sound)
    (count : Nat) : ∀ piece ∈ dropText count pieces, piece.Sound := by
  induction pieces generalizing count with
  | nil => simp [dropText]
  | cons piece rest ih =>
      rcases List.forall_mem_cons.mp sound with ⟨first, others⟩
      unfold dropText
      split
      · simp
      · rename_i content children later same
        cases same
        split
        · refine List.forall_mem_cons.mpr ⟨?_, others⟩
          simpa [Piece.Sound, Piece.tree, Document.Shaped, Part.isInline, Part.isLeaf, Forest.tree]
            using first
        · exact ih others _
      · exact sound

theorem Sound.colon (sound : reader.Sound) : reader.colon.Sound := by
  unfold InlineReader.colon
  split
  · refine List.forall_mem_cons.mpr ⟨sound_link _ _, ?_⟩
    dsimp only [InlineReader.pass]
    split
    · exact sound
    · exact sound_dropText sound _
  · exact sound.takeText 1

theorem Sound.letterW (sound : reader.Sound) : reader.letterW.Sound := by
  unfold InlineReader.letterW
  split
  · exact (sound.pass _).push (sound_link _ _)
  · exact sound.takeText 1

theorem Sound.marks (sound : reader.Sound) (mark : Char) : (reader.marks mark).Sound :=
  (sound.pass _).push (Piece.sound_ofRun ..)

theorem sound_noteFollowed {pieces : List Piece} (sound : ∀ piece ∈ pieces, piece.Sound) :
    ∀ piece ∈ noteFollowed pieces, piece.Sound := by
  induction pieces with
  | nil => simp [noteFollowed]
  | cons piece rest ih =>
      rcases List.forall_mem_cons.mp sound with ⟨first, others⟩
      unfold noteFollowed
      split
      · simp
      · rename_i same
        cases same
        exact List.forall_mem_cons.mpr ⟨Piece.sound_bracket .., others⟩
      · rename_i same
        cases same
        exact List.forall_mem_cons.mpr ⟨first, ih others⟩

theorem Sound.openBracket (sound : reader.Sound) (count : Nat) :
    (reader.openBracket count).Sound :=
  List.forall_mem_cons.mpr ⟨Piece.sound_bracket .., sound_noteFollowed sound⟩

theorem sound_of_bracketed? {pieces : List Piece} {found : Bracketed}
    (bracketed : bracketed? pieces = some found) (sound : ∀ piece ∈ pieces, piece.Sound) :
    (∀ piece ∈ found.inner, piece.Sound) ∧ ∀ piece ∈ found.outer, piece.Sound := by
  induction pieces generalizing found with
  | nil => cases bracketed
  | cons piece rest ih =>
      rcases List.forall_mem_cons.mp sound with ⟨first, others⟩
      unfold bracketed? at bracketed
      split at bracketed
      · cases bracketed
      · rename_i same
        cases same
        cases bracketed
        exact ⟨by simp, others⟩
      · rename_i same
        cases same
        rcases Option.map_eq_some_iff.mp bracketed with ⟨inner, innerBracketed, rfl⟩
        exact ⟨List.forall_mem_cons.mpr ⟨first, (ih innerBracketed others).1⟩,
          (ih innerBracketed others).2⟩

theorem sound_closeLink {found : Bracketed} (inner : ∀ piece ∈ found.inner, piece.Sound)
    (outer : ∀ piece ∈ found.outer, piece.Sound) (reader : InlineReader) (reference : Reference) :
    (reader.closeLink found reference).Sound := by
  have shaped := shaped_emphasise fun piece piece_mem => inner piece (List.mem_reverse.mp piece_mem)
  refine List.forall_mem_cons.mpr ⟨?_, outer⟩
  split <;> exact Piece.sound_part rfl rfl shaped

theorem Sound.closeBracket (sound : reader.Sound) (references : References) :
    (reader.closeBracket references).Sound := by
  unfold InlineReader.closeBracket
  dsimp only
  split
  · exact List.forall_mem_cons.mpr ⟨Piece.sound_text _, sound⟩
  · rename_i found bracketed
    rcases sound_of_bracketed? bracketed sound with ⟨inner, outer⟩
    have asText : ∀ piece ∈ Piece.text [']'] :: found.inner ++
        Piece.text (if found.image then ['!', '['] else ['[']) :: found.outer, piece.Sound := by
      refine List.forall_mem_append.mpr ⟨?_, ?_⟩
      · exact List.forall_mem_cons.mpr ⟨Piece.sound_text _, inner⟩
      · exact List.forall_mem_cons.mpr ⟨Piece.sound_text _, outer⟩
    split
    · exact asText
    · split
      · exact sound_closeLink inner outer _ _
      · split
        · exact sound_closeLink inner outer _ _
        · split
          · refine List.forall_mem_append.mpr ⟨?_, ?_⟩
            · exact fun piece piece_mem => inner piece (List.mem_filter.mp piece_mem).1
            · exact List.forall_mem_cons.mpr ⟨sound_leaf rfl, outer⟩
          · exact asText

theorem Sound.plain (sound : reader.Sound) : reader.plain.Sound := by
  unfold InlineReader.plain
  split
  · exact sound
  · have taken : ∀ (count : Nat) (content : List Char),
        (if content.isEmpty then reader.pass count
          else (reader.pass count).push (.text content)).Sound := by
      intro count content
      split
      · exact sound
      · exact (sound.pass count).push (Piece.sound_text content)
    exact taken _ _

/-- A step of the reader leaves only sound pieces. -/
theorem Sound.step (sound : reader.Sound) (references : References) :
    (reader.step references).Sound := by
  unfold InlineReader.step
  split
  · exact sound.lineEnd
  · exact sound.code
  · exact sound.backslash
  · exact sound.ampersand
  · exact sound.angle
  · exact sound.colon
  · exact sound.letterW
  · exact sound.marks _
  · exact sound.marks _
  · exact sound.marks _
  · exact sound.openBracket 1
  · exact sound.closeBracket references
  · exact sound.takeText 1
  · exact sound.openBracket 2
  · exact sound.takeText 1
  · split
    · exact sound.plain
    · exact sound.marks _
  · exact sound.plain

theorem Sound.run (sound : reader.Sound) (references : References) (limit : Nat) :
    (reader.run references limit).Sound := by
  induction limit generalizing reader with
  | zero => exact sound
  | succ limit ih =>
      unfold InlineReader.run
      split
      · exact sound
      · exact ih (sound.step references)

end InlineReader

theorem shaped_inlineParts (references : References) (text : List Char) :
    (inlineParts references text).Shaped true := by
  refine shaped_emphasise fun piece piece_mem => ?_
  have sound : InlineReader.Sound { ahead := Text.trimEndBy isSpacing text } := by
    intro piece piece_mem
    cases piece_mem
  exact sound.run references _ piece (List.mem_reverse.mp piece_mem)

namespace Document

variable {inline : Bool}

/-! ## Blocks -/

theorem shaped_ofBlocks (references : References) (blocks : Forest Block) :
    (ofBlocks references blocks).Shaped false := by
  induction blocks with
  | nil => exact shaped_nil
  | node block children rest ihChildren ihRest =>
      have isBlock : block.part.isInline = false ∧ block.part.isLeaf = false ∧
          block.part.holdsText = block.holdsText := by
        rcases block with ⟨kind, content, endsBlank⟩
        rcases kind with _ | _ | _ | _ | (_ | _) | _ | _ | _ | _ | _ | _ | _ | _ | _ | _ | _ | _ <;>
          exact ⟨rfl, rfl, rfl⟩
      rcases isBlock with ⟨isBlock, notLeaf, holds⟩
      refine ⟨isBlock, by simp [notLeaf], ?_, ihRest⟩
      rw [Bool.false_or, holds]
      split
      · rename_i holdsText
        rw [holdsText]
        exact shaped_inlineParts references block.content
      · rename_i holdsBlocks
        rw [Bool.eq_false_iff.mpr holdsBlocks]
        exact ihChildren

/-! ## Notes -/

theorem shaped_of_mem_noteDefinitions {document : Document} (shaped : document.Shaped inline) :
    ∀ entry ∈ noteDefinitions document, entry.2.2.Shaped false := by
  induction document generalizing inline with
  | nil => simp [noteDefinitions]
  | node part children rest ihChildren ihRest =>
      rcases shaped with ⟨isInline, -, below, behind⟩
      unfold noteDefinitions
      split
      · rename_i same
        cases same
      · rename_i name number references children rest same
        cases same
        subst isInline
        exact List.forall_mem_cons.mpr ⟨below, ihRest behind⟩
      · rename_i same
        cases same
        exact List.forall_mem_append.mpr ⟨ihChildren below, ihRest behind⟩

theorem shaped_numberReferences (defined : NoteDefinitions) {document : Document}
    (shaped : document.Shaped inline) (uses : NoteUses) :
    ((numberReferences defined document).run uses).1.Shaped inline ∧
      (document = .nil → ((numberReferences defined document).run uses).1 = .nil) := by
  induction document generalizing inline uses with
  | nil => exact ⟨shaped_nil, fun _ => rfl⟩
  | node part children rest ihChildren ihRest =>
      rcases shaped with ⟨isInline, leaf, below, behind⟩
      refine ⟨?_, nofun⟩
      unfold numberReferences
      split
      · rename_i same
        cases same
      · rename_i name number occurrence children rest same
        cases same
        subst isInline
        dsimp only
        cases defined.reverse.lookup (labelKey name.toList) with
        | some entry => exact ⟨rfl, fun _ => rfl, shaped_nil, (ihRest behind _).1⟩
        | none => exact ⟨rfl, fun _ => rfl, shaped_nil, (ihRest behind _).1⟩
      · rename_i same
        cases same
        exact ⟨isInline, fun isLeaf => (ihChildren below uses).2 (leaf isLeaf),
          (ihChildren below uses).1, (ihRest behind _).1⟩

theorem shaped_withoutNotes {document : Document} (shaped : document.Shaped inline) :
    (withoutNotes document).Shaped inline := by
  induction document generalizing inline with
  | nil => exact shaped_nil
  | node part children rest ihChildren ihRest =>
      rcases shaped with ⟨isInline, leaf, below, behind⟩
      unfold withoutNotes
      split
      · exact shaped_nil
      · rename_i same
        cases same
        exact ihRest behind
      · rename_i same
        cases same
        refine ⟨isInline, fun isLeaf => ?_, ihChildren below, ihRest behind⟩
        rw [leaf isLeaf]
        rfl

theorem shaped_arrangeNotes {document : Document} (shaped : document.Shaped false) :
    (arrangeNotes document).Shaped false := by
  have numbered := (shaped_numberReferences (noteDefinitions document) shaped []).1
  refine shaped_append.mpr ⟨shaped_withoutNotes numbered, shaped_ofTrees.mpr ?_⟩
  intro tree tree_mem
  rcases List.mem_filterMap.mp tree_mem with ⟨⟨used, index⟩, -, noted⟩
  rcases Option.map_eq_some_iff.mp noted with ⟨⟨name, content⟩, found, rfl⟩
  rcases List.lookup_eq_some_iff.mp found with ⟨front, back, split, -⟩
  have defines : (used.key, name, content) ∈ noteDefinitions
      ((numberReferences (noteDefinitions document) document).run []).1 :=
    List.mem_reverse.mp (split ▸ List.mem_append_right _ List.mem_cons_self)
  exact ⟨rfl, nofun, shaped_withoutNotes (shaped_of_mem_noteDefinitions numbered _ defines),
    shaped_nil⟩

/-! ## Running text -/

theorem shaped_joinTexts {document : Document} (shaped : document.Shaped inline) :
    (joinTexts document).Shaped inline := by
  induction document generalizing inline with
  | nil => exact shaped_nil
  | node part children rest ihChildren ihRest =>
      rcases shaped with ⟨isInline, leaf, below, behind⟩
      have joined := ihRest behind
      unfold joinTexts
      split
      · rename_i content more inner later same
        rw [same] at joined
        exact ⟨isInline, fun _ => rfl, shaped_nil, joined.2.2.2⟩
      · refine ⟨isInline, fun isLeaf => ?_, ihChildren below, joined⟩
        rw [leaf isLeaf]
        rfl

theorem shaped_of_task? {document task : Document} {done : Bool} (shaped : document.Shaped false)
    (isTask : task? document = some (done, task)) : task.Shaped false := by
  unfold task? at isTask
  split at isTask
  · rename_i content inner later rest
    rcases Option.map_eq_some_iff.mp isTask with ⟨⟨ticked, behind⟩, -, same⟩
    cases same
    rcases shaped with ⟨-, -, ⟨-, -, -, text⟩, others⟩
    refine ⟨rfl, nofun, ?_, others⟩
    split
    · exact text
    · exact shaped_text.mpr text
  · cases isTask

theorem shaped_markTasks {document : Document} (shaped : document.Shaped inline) :
    (markTasks document).Shaped inline := by
  induction document generalizing inline with
  | nil => exact shaped_nil
  | node part children rest ihChildren ihRest =>
      rcases shaped with ⟨isInline, leaf, below, behind⟩
      have marked := ihChildren below
      unfold markTasks
      dsimp only
      split
      · subst isInline
        split
        · rename_i done content isTask
          exact ⟨rfl, nofun, shaped_of_task? marked isTask, ihRest behind⟩
        · exact ⟨rfl, nofun, marked, ihRest behind⟩
      · subst isInline
        exact ⟨rfl, nofun, marked, ihRest behind⟩
      · refine ⟨isInline, fun isLeaf => ?_, marked, ihRest behind⟩
        rw [leaf isLeaf]
        rfl

theorem shaped_splitMail (limit : Nat) (depth : Int) (before ahead : List Char) :
    ∀ tree ∈ Autolink.splitMail limit depth before ahead,
      Shaped true (.tree tree.1 tree.2) := by
  have shaped_textTree : ∀ content, ∀ tree ∈ Autolink.splitMail.textTree content,
      Shaped true (.tree tree.1 tree.2) := by
    intro content tree tree_mem
    unfold Autolink.splitMail.textTree at tree_mem
    split at tree_mem
    · cases tree_mem
    · rcases List.mem_singleton.mp tree_mem with rfl
      exact shaped_text.mpr shaped_nil
  induction limit generalizing depth before ahead with
  | zero => exact shaped_textTree _
  | succ limit ih =>
      cases ahead with
      | nil => exact shaped_textTree _
      | cons c rest =>
          simp only [Autolink.splitMail]
          split
          · refine List.forall_mem_append.mpr ⟨shaped_textTree _, ?_⟩
            refine List.forall_mem_cons.mpr ⟨?_, ih _ _ _⟩
            exact ⟨rfl, nofun, shaped_text.mpr shaped_nil, shaped_nil⟩
          · exact ih _ _ _

theorem shaped_linkMail {document : Document} (shaped : document.Shaped inline) :
    (linkMail document).Shaped inline := by
  induction document generalizing inline with
  | nil => exact shaped_nil
  | node part children rest ihChildren ihRest =>
      rcases shaped with ⟨isInline, leaf, below, behind⟩
      unfold linkMail
      split
      · exact shaped_nil
      · rename_i same
        cases same
        subst isInline
        exact shaped_append.mpr
          ⟨shaped_ofTrees.mpr (shaped_splitMail _ _ _ _), ihRest behind⟩
      · rename_i notLeaf same
        cases same
        refine ⟨isInline, fun isLeaf => ?_, ?_, ihRest behind⟩
        · rw [leaf isLeaf]
          split <;> rfl
        · split
          · exact below
          · exact ihChildren below

/-- Blocks hold blocks or text, and nothing stands below a text, in every document that is read. -/
theorem shaped_read (text : String) : (read text).Shaped false := by
  unfold read
  dsimp only
  with_reducible exact shaped_linkMail (shaped_markTasks (shaped_joinTexts (shaped_arrangeNotes
    (shaped_ofBlocks _ _))))

end Document

end PageRender.Markdown
