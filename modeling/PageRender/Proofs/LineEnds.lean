import Mathlib.Data.List.Chain
import PageRender.Page
import PageRender.Proofs.RenderStages
import PageRender.Text.Replace

/-!
# Line ends of a page

How the lines of a page are ended makes no difference to what it is rendered to. The text is made
uniform in one pass; replacing each pair of a carriage return and a line feed first, and then each
carriage return that is left, comes to the same. Two texts with the same lines, however each line is
ended, are therefore prepared alike, unless a lone carriage return meets an empty line that a line feed
ends: there the two would be taken for one line end. From the preparation on the renders of both are one.
-/

namespace PageRender

namespace Text

/-- The whole text replaced twice, if it has a carriage return at all. -/
def replacedLines (text : List Char) : List Char :=
  if text.contains '\r' then replaceAll ['\r'] ['\n'] (replaceAll ['\r', '\n'] ['\n'] text)
  else text

/-- What ends a line. -/
inductive LineEnd where
  | lineFeed
  | carriageReturn
  | both
  deriving DecidableEq, Repr

def LineEnd.chars : LineEnd → List Char
  | .lineFeed => ['\n']
  | .carriageReturn => ['\r']
  | .both => ['\r', '\n']

/-- A line of a text with what ends it. -/
structure EndedLine where
  content : List Char
  lineEnd : LineEnd
  deriving DecidableEq, Repr

def EndedLine.chars (line : EndedLine) : List Char :=
  line.content ++ line.lineEnd.chars

/-- Lines that can be told apart once they are written one behind the other. -/
structure Lined (lines : List EndedLine) : Prop where
  plain : ∀ line ∈ lines, '\r' ∉ line.content ∧ '\n' ∉ line.content
  apart : lines.IsChain fun line next =>
    line.lineEnd = .carriageReturn → ¬(next.content = [] ∧ next.lineEnd = .lineFeed)
  unmarked : ∀ line ∈ lines, line.content.head? ≠ some '\uFEFF'

/-- The text that lines make, perhaps with a byte order mark at its start. -/
def written (marked : Bool) (lines : List EndedLine) : List Char :=
  (if marked then ['\uFEFF'] else []) ++ lines.flatMap EndedLine.chars

/-- Lines that a line feed ends each. -/
def fed (lines : List (List Char)) : List Char :=
  lines.flatMap (· ++ ['\n'])

/-! ## One pass and two -/

theorem replaceAll_pair (rest : List Char) :
    replaceAll ['\r', '\n'] ['\n'] ('\r' :: '\n' :: rest) =
      '\n' :: replaceAll ['\r', '\n'] ['\n'] rest := by
  rw [replaceAll]
  simp

theorem replaceAll_unpaired {c : Char} {rest : List Char} (unpaired : c = '\r' → rest.head? ≠ some '\n') :
    replaceAll ['\r', '\n'] ['\n'] (c :: rest) = c :: replaceAll ['\r', '\n'] ['\n'] rest := by
  rw [replaceAll, if_neg]
  cases rest with
  | nil => simp
  | cons next rest =>
      intro pair
      simp only [List.isPrefixOf, Bool.and_true, Bool.and_eq_true, beq_iff_eq] at pair
      exact unpaired pair.1.symm (congrArg some pair.2.symm)

theorem replaceAll_return (text : List Char) :
    replaceAll ['\r'] ['\n'] text = text.map fun c => if c = '\r' then '\n' else c := by
  rw [replaceAll_singleton, List.map_eq_flatMap]
  refine List.flatMap_congr fun c _ => ?_
  split <;> rfl

/-- Making a text uniform in one pass is what two replacements of the whole text come to. -/
theorem uniformLines_eq_replaceAll (text : List Char) :
    uniformLines text = replaceAll ['\r'] ['\n'] (replaceAll ['\r', '\n'] ['\n'] text) := by
  -- The cases are those of the one pass. The second replacement goes character by character, so a
  -- character that the first one has passed stays in front.
  induction text using uniformLines.induct with
  | case1 => simp [uniformLines, replaceAll]
  | case2 rest ih => simp [uniformLines, replaceAll_pair, replaceAll_return, ih]
  | case3 rest unpaired ih =>
      have alone : '\r' = '\r' → rest.head? ≠ some '\n' := by
        rintro - paired
        rcases List.head?_eq_some_iff.mp paired with ⟨behind, split⟩
        exact unpaired behind split
      rw [replaceAll_unpaired alone, replaceAll_return, List.map_cons, ← replaceAll_return, ← ih,
        uniformLines]
      · rfl
      · exact unpaired
  | case4 c rest pair other ih =>
      rw [replaceAll_unpaired fun isReturn => absurd isReturn other, replaceAll_return, List.map_cons,
        ← replaceAll_return, ← ih, if_neg other, uniformLines]
      · exact pair
      · exact other

theorem return_not_mem_uniformLines (text : List Char) : '\r' ∉ uniformLines text := by
  rw [uniformLines_eq_replaceAll, replaceAll_return, List.mem_map]
  rintro ⟨c, -, written⟩
  split at written
  · cases written
  · exact absurd written ‹_›

theorem uniformLines_append_of_plain {content : List Char} (plain : '\r' ∉ content)
    (rest : List Char) : uniformLines (content ++ rest) = content ++ uniformLines rest := by
  induction content with
  | nil => rfl
  | cons c content ih =>
      rcases not_or.mp (mt List.mem_cons.mpr plain) with ⟨other, others⟩
      rw [List.cons_append, uniformLines, ih others, List.cons_append]
      · rintro behind rfl -
        exact other rfl
      · rintro rfl
        exact other rfl

/-- A text without a carriage return is uniform as it stands. -/
theorem uniformLines_eq_self {text : List Char} (plain : '\r' ∉ text) : uniformLines text = text := by
  simpa [uniformLines] using uniformLines_append_of_plain plain []

theorem uniformLines_eq_replacedLines (text : List Char) : uniformLines text = replacedLines text := by
  unfold replacedLines
  split
  · exact uniformLines_eq_replaceAll text
  · exact uniformLines_eq_self (by simpa using ‹¬text.contains '\r' = true›)

/-! ## Lines -/

theorem Lined.tail {line : EndedLine} {rest : List EndedLine} (lined : Lined (line :: rest)) :
    Lined rest where
  plain next next_mem := lined.plain next (List.mem_cons_of_mem _ next_mem)
  apart := lined.apart.tail
  unmarked next next_mem := lined.unmarked next (List.mem_cons_of_mem _ next_mem)

theorem uniformLines_lineEnd (lineEnd : LineEnd) {rest : List Char}
    (apart : lineEnd = .carriageReturn → rest.head? ≠ some '\n') :
    uniformLines (lineEnd.chars ++ rest) = '\n' :: uniformLines rest := by
  cases lineEnd with
  | lineFeed => simp [LineEnd.chars, uniformLines]
  | both => simp [LineEnd.chars, uniformLines]
  | carriageReturn =>
      rw [LineEnd.chars, List.singleton_append, uniformLines]
      rintro behind rfl
      exact apart rfl rfl

/-- A line feed stands first only if it ends an empty line. -/
theorem head?_chars_ne_lineFeed {next : EndedLine} (plain : '\n' ∉ next.content)
    (apart : ¬(next.content = [] ∧ next.lineEnd = .lineFeed)) (rest : List Char) :
    (next.chars ++ rest).head? ≠ some '\n' := by
  rcases next with ⟨_ | ⟨c, content⟩, lineEnd⟩
  · cases lineEnd with
    | lineFeed => exact absurd ⟨rfl, rfl⟩ apart
    | carriageReturn => simp [EndedLine.chars, LineEnd.chars]
    | both => simp [EndedLine.chars, LineEnd.chars]
  · have other : c ≠ '\n' := fun same => plain (same ▸ List.mem_cons_self)
    simpa [EndedLine.chars] using other

/-- A line is told from those behind it, whatever ends it. -/
theorem Lined.head?_ne_lineFeed {line : EndedLine} {rest : List EndedLine}
    (lined : Lined (line :: rest)) (alone : line.lineEnd = .carriageReturn) :
    (rest.flatMap EndedLine.chars).head? ≠ some '\n' := by
  cases rest with
  | nil => simp
  | cons next rest =>
      have apart := (List.isChain_cons_cons.mp lined.apart).1 alone
      have plain := (lined.plain next (by simp)).2
      exact head?_chars_ne_lineFeed plain apart _

theorem uniformLines_flatMap {lines : List EndedLine} (lined : Lined lines) :
    uniformLines (lines.flatMap EndedLine.chars) = fed (lines.map EndedLine.content) := by
  induction lines with
  | nil => rfl
  | cons line rest ih =>
      rw [List.flatMap_cons, EndedLine.chars, List.append_assoc,
        uniformLines_append_of_plain (lined.plain line List.mem_cons_self).1,
        uniformLines_lineEnd line.lineEnd lined.head?_ne_lineFeed, ih lined.tail]
      simp [fed]

theorem withoutMark_eq_self {text : List Char} (unmarked : text.head? ≠ some '\uFEFF') :
    withoutMark text = text := by
  unfold withoutMark
  split
  · simp at unmarked
  · rfl

theorem Lined.head?_ne_mark {lines : List EndedLine} (lined : Lined lines) :
    (lines.flatMap EndedLine.chars).head? ≠ some '\uFEFF' := by
  rcases lines with _ | ⟨⟨_ | ⟨c, content⟩, lineEnd⟩, rest⟩
  · simp
  · cases lineEnd <;> simp [EndedLine.chars, LineEnd.chars]
  · simpa [EndedLine.chars] using lined.unmarked _ List.mem_cons_self

/-- Of a text that is written in lines, the lines are all that is left, each ended by a line feed. -/
theorem uniformLines_written {lines : List EndedLine} (lined : Lined lines) (marked : Bool) :
    uniformLines (withoutMark (written marked lines)) = fed (lines.map EndedLine.content) := by
  have unmarked : withoutMark (written marked lines) = lines.flatMap EndedLine.chars := by
    cases marked with
    | true => rfl
    | false => exact withoutMark_eq_self lined.head?_ne_mark
  rw [unmarked, uniformLines_flatMap lined]

end Text

namespace PageRenderer

/-- The source text as the renderer prepares it. -/
def prepared (markdown : String) : String :=
  .ofList (Text.uniformLines (Text.withoutMark markdown.toList))

theorem preProcess_eq (page : PageRenderer) (markdown : String) :
    page.renderer.preProcess markdown = Reply.pure (.ok (prepared markdown)) := rfl

theorem prepared_written {lines : List Text.EndedLine} (lined : Text.Lined lines) (marked : Bool) :
    prepared (.ofList (Text.written marked lines)) =
      .ofList (Text.fed (lines.map Text.EndedLine.content)) := by
  rw [prepared, String.toList_ofList, Text.uniformLines_written lined]

end PageRenderer

theorem Registry.run_of_nil {registry : Registry} {hook : Hook}
    (none : registry.interceptors hook = []) (context : Context) :
    registry.run hook context = Reply.pure context := by
  rw [run, none]
  rfl

namespace Pipeline

/-- The stages behind the preparation of the source text. -/
def afterPreProcess : List Stage :=
  stages.drop 3

/-- A pipeline for pages without interceptors before the source text is prepared. -/
structure OpensQuietly (pipeline : Pipeline) (page : PageRenderer) : Prop where
  renderer : pipeline.renderer = page.renderer
  preRender : pipeline.registry.interceptors .preRender = []
  prePreProcess : pipeline.registry.interceptors .prePreProcess = []

variable {pipeline : Pipeline} {page : PageRenderer} (publish : Context → List Signal)

/-- A stage that leaves nothing behind leaves only its mark. -/
theorem runStages_cons_of_pure {stage : Stage} {pass next : Pass}
    (stays : pipeline.runStage publish pass stage = Reply.pure (.ok next)) (rest : List Stage) :
    pipeline.runStages publish (stage :: rest) pass =
        (Reply.tell (.mark (.stage stage))).bind (fun _ => pipeline.runStages publish rest next) ∧
      pipeline.visits publish (stage :: rest) pass =
        ⟨stage, pass.context, []⟩ :: pipeline.visits publish rest next := by
  rw [runStages, visits, stays]
  exact ⟨rfl, rfl⟩

namespace OpensQuietly

variable (quiet : pipeline.OpensQuietly page)
include quiet

theorem runStage_hook {hook : Hook} (early : hook = .preRender ∨ hook = .prePreProcess)
    (pass : Pass) : pipeline.runStage publish pass (.hook hook) = Reply.pure (.ok pass) := by
  have none : pipeline.registry.interceptors hook = [] := by
    rcases early with rfl | rfl
    · exact quiet.preRender
    · exact quiet.prePreProcess
  rw [runStage, Registry.run_of_nil none]
  rfl

theorem runStage_preProcess (pass : Pass) :
    pipeline.runStage publish pass (.transform .preProcess) =
      Reply.pure (.ok { pass with context :=
        { pass.context with markdown := PageRenderer.prepared pass.context.markdown } }) := by
  rw [runStage, transformStage, applyTransform, quiet.renderer, PageRenderer.preProcess_eq]
  rfl

/-- Nothing but the preparation changes the context before it is done. -/
theorem stages_cases (context : Context) :
    let pass : Pass :=
      { context := { context with markdown := PageRenderer.prepared context.markdown } }
    pipeline.runStages publish stages { context := context } =
        (Reply.tell (.mark (.stage (.hook .preRender)))).bind (fun _ =>
          (Reply.tell (.mark (.stage (.hook .prePreProcess)))).bind fun _ =>
            (Reply.tell (.mark (.stage (.transform .preProcess)))).bind fun _ =>
              pipeline.runStages publish afterPreProcess pass) ∧
      (pipeline.journey publish context).drop 3 = pipeline.visits publish afterPreProcess pass := by
  have first := runStages_cons_of_pure publish
    (quiet.runStage_hook publish (Or.inl rfl) { context := context })
  have second := runStages_cons_of_pure publish
    (quiet.runStage_hook publish (Or.inr rfl) { context := context })
  have third := runStages_cons_of_pure publish
    (quiet.runStage_preProcess publish { context := context })
  constructor
  · exact (first _).1.trans (Reply.bind_congr fun _ => (second _).1.trans
      (Reply.bind_congr fun _ => (third _).1))
  · rw [journey, stages, (first _).2, (second _).2, (third _).2]
    rfl

/-- Two texts that are prepared alike are rendered alike: the renders leave the same behind, and enter
the same stages with the same contexts from the preparation on. -/
theorem renderWith_congr (context : Context) {markdown other : String}
    (same : PageRenderer.prepared markdown = PageRenderer.prepared other) :
    pipeline.renderWith publish { context with markdown := markdown } =
        pipeline.renderWith publish { context with markdown := other } ∧
      (pipeline.journey publish { context with markdown := markdown }).drop 3 =
        (pipeline.journey publish { context with markdown := other }).drop 3 := by
  have one := quiet.stages_cases publish { context with markdown := markdown }
  have two := quiet.stages_cases publish { context with markdown := other }
  dsimp only at one two
  rw [same] at one
  refine ⟨?_, one.2.trans two.2.symm⟩
  rw [renderWith, renderWith, one.1, two.1]

end OpensQuietly

end Pipeline

namespace PageRenderer

open Text (EndedLine Lined written fed)

/-- Pages with the same lines are prepared to the same text, whose lines each end with a line feed, and
are rendered alike where no interceptor comes before: the replies are the same, whatever showing a page
gives, and so are the contexts of all stages behind the preparation. No carriage return is left of any
text, and preparing a text in one pass is what two replacements of the whole text come to. -/
theorem same_lines_rendered_alike (page : PageRenderer) {left right : List EndedLine}
    (leftLined : Lined left) (rightLined : Lined right)
    (same : left.map EndedLine.content = right.map EndedLine.content)
    (leftMarked rightMarked : Bool) :
    (∀ text, Text.uniformLines text = Text.replacedLines text) ∧
    (∀ markdown, ∃ text, page.renderer.preProcess markdown = Reply.pure (.ok text) ∧
      '\r' ∉ text.toList) ∧
    page.renderer.preProcess (.ofList (written leftMarked left)) =
      Reply.pure (.ok (.ofList (fed (left.map EndedLine.content)))) ∧
    page.renderer.preProcess (.ofList (written rightMarked right)) =
      Reply.pure (.ok (.ofList (fed (left.map EndedLine.content)))) ∧
    ∀ (pipeline : Pipeline) (publish : Context → List Signal) (context : Context),
      pipeline.OpensQuietly page →
      let one : Context := { context with markdown := .ofList (written leftMarked left) }
      let other : Context := { context with markdown := .ofList (written rightMarked right) }
      pipeline.renderWith publish one = pipeline.renderWith publish other ∧
        (pipeline.journey publish one).drop 3 = (pipeline.journey publish other).drop 3 := by
  have leftPrepared := prepared_written leftLined leftMarked
  have rightPrepared := prepared_written rightLined rightMarked
  rw [← same] at rightPrepared
  refine ⟨Text.uniformLines_eq_replacedLines, fun markdown => ?_, ?_, ?_, ?_⟩
  · refine ⟨prepared markdown, page.preProcess_eq markdown, ?_⟩
    rw [prepared, String.toList_ofList]
    exact Text.return_not_mem_uniformLines _
  · rw [preProcess_eq, leftPrepared]
  · rw [preProcess_eq, rightPrepared]
  · intro pipeline publish context quiet
    exact quiet.renderWith_congr publish context (leftPrepared.trans rightPrepared.symm)

def pairedLines : List EndedLine :=
  [⟨['a'], .both⟩, ⟨[], .both⟩, ⟨['b'], .both⟩]

/-- A carriage return meets the end of an empty line, but no line feed. -/
def mixedLines : List EndedLine :=
  [⟨['a'], .carriageReturn⟩, ⟨[], .both⟩, ⟨['b'], .lineFeed⟩]

/-- The lines of two texts, with other line ends and a byte order mark, render alike in a pipeline that
traces the later hooks. -/
theorem mixedLines_rendered_alike :
    Lined pairedLines ∧ Lined mixedLines ∧
      pairedLines.map EndedLine.content = mixedLines.map EndedLine.content ∧
      (PageRenderer.renderer { policy := .recommended }).preProcess "\uFEFFa\r\r\nb\n" =
        Reply.pure (.ok "a\n\nb\n") ∧
      let pipeline : Pipeline :=
        { renderer := PageRenderer.renderer { policy := .recommended }
          registry := Registry.empty.register .hookTrace [.postPreProcess, .postRenderHtml]
          highlighter := {} }
      pipeline.OpensQuietly { policy := .recommended } ∧
        pipeline.render { markdown := "a\r\n\r\nb\r\n", pagePath := "/" } =
          pipeline.render { markdown := "\uFEFFa\r\r\nb\n", pagePath := "/" } := by
  have paired : Lined pairedLines := ⟨by decide, by decide, by decide⟩
  have mixed : Lined mixedLines := ⟨by decide, by decide, by decide⟩
  have same : pairedLines.map EndedLine.content = mixedLines.map EndedLine.content := rfl
  have alike := same_lines_rendered_alike { policy := .recommended } paired mixed same false true
  refine ⟨paired, mixed, same, alike.2.2.2.1, ⟨rfl, rfl, rfl⟩, ?_⟩
  exact (alike.2.2.2.2 _ (fun _ => []) { markdown := "", pagePath := "/" } ⟨rfl, rfl, rfl⟩).1

end PageRenderer

end PageRender
