import PageRender.Proofs.HighlightTrace
import PageRender.Proofs.RenderStages

/-!
# The highlight stage

The highlight stage marks all keywords of a query or none. If a keyword is refused, whichever comes
first, the stage passes on the context that it was entered with, the marks of the keywords before
are given up, and all that tells the render from one that marks nothing is one warning and one
count. A render is cut at the highlight stage for this: what comes before is the same in both, and
what comes after is the same function of the same pass, whatever the interceptors do there.
-/

namespace PageRender

namespace Text

/-- Characters outside the class are read into the current piece. -/
theorem fieldsFrom_append_of_outside {inClass : Char → Bool} {piece : List Char}
    (outside : ∀ c ∈ piece, inClass c = false) (current rest : List Char) :
    fieldsFrom inClass current (piece ++ rest) =
      fieldsFrom inClass (piece.reverse ++ current) rest := by
  induction piece generalizing current with
  | nil => rfl
  | cons c piece ih =>
      rcases List.forall_mem_cons.mp outside with ⟨first, others⟩
      simp [fieldsFrom, first, ih others]

end Text

theorem Reply.bind_pure {α : Type} (reply : Reply α) : reply.bind Reply.pure = reply := by
  rcases reply with ⟨signals, _ | _⟩ <;> simp [bind, pure]

namespace Highlighter

variable (highlighter : Highlighter)

/-- The first keyword that is refused ends the marking, wherever it stands. -/
theorem markAll_eq_error_of_refused {keywords : List Keyword} {refused : Keyword}
    (first : keywords.find? (fun keyword => !keyword.fits) = some refused) (text : List Char) :
    highlighter.markAll keywords text = .error (.keywordTooLarge refused) := by
  induction keywords generalizing text with
  | nil => cases first
  | cons keyword keywords ih =>
      rw [markAll]
      by_cases fits : keyword.fits = true
      · rw [if_pos fits]
        exact ih (by simpa [fits] using first) _
      · rw [if_neg fits]
        rw [List.find?_cons_of_pos (by simpa using fits)] at first
        cases first
        rfl

theorem highlight_eq_error_of_refused {query : String} {refused : Keyword}
    (first : (Keyword.ofQuery query.toList).find? (fun keyword => !keyword.fits) = some refused)
    (html : String) :
    highlighter.highlight html query = .error (.keywordTooLarge refused) := by
  rw [highlight, highlighter.markAll_eq_error_of_refused first]
  rfl

theorem exists_highlight_eq_ok {query : String}
    (fit : ∀ keyword ∈ Keyword.ofQuery query.toList, keyword.fits = true) (html : String) :
    ∃ output, highlighter.highlight html query = .ok output :=
  ⟨_, highlighter.highlight_eq_ok_iff.mpr ⟨fit, String.toList_ofList.symm⟩⟩

end Highlighter

namespace Pipeline

/-! ## A render that marks nothing -/

/-- Takes a pass through stages as `runStages` does, except that the highlight stage is entered and
does nothing. -/
def runStagesUnmarked (pipeline : Pipeline) (publish : Context → List Signal) :
    List Stage → Pass → Reply (Except RenderError Pass)
  | [], pass => Reply.pure (.ok pass)
  | .highlight :: rest, pass =>
      (Reply.tell (.mark (.stage .highlight))).bind fun _ =>
        pipeline.runStagesUnmarked publish rest pass
  | stage :: rest, pass =>
      (Reply.tell (.mark (.stage stage))).bind fun _ =>
        (pipeline.runStage publish pass stage).bind fun outcome =>
          match outcome with
          | .ok next => pipeline.runStagesUnmarked publish rest next
          | .error error => Reply.pure (.error error)

/-- What a render gives when no stage is ahead. -/
def finish : Except RenderError Pass → Reply (Except RenderError Context)
  | .ok pass => ⟨[.measure .renderTime], .returned (.ok (pass.published.getD pass.context))⟩
  | .error error => Reply.pure (.error error)

/-- The render in which the highlight stage is the identity. -/
def renderUnmarked (pipeline : Pipeline) (publish : Context → List Signal) (context : Context) :
    Reply (Except RenderError Context) :=
  (pipeline.runStagesUnmarked publish stages { context := context }).bind finish

variable (pipeline : Pipeline) (publish : Context → List Signal)

theorem runStagesUnmarked_cons {stage : Stage} (other : stage ≠ .highlight) (rest : List Stage)
    (pass : Pass) :
    pipeline.runStagesUnmarked publish (stage :: rest) pass =
      (Reply.tell (.mark (.stage stage))).bind fun _ =>
        (pipeline.runStage publish pass stage).bind fun outcome =>
          match outcome with
          | .ok next => pipeline.runStagesUnmarked publish rest next
          | .error error => Reply.pure (.error error) := by
  cases stage with
  | highlight => exact absurd rfl other
  | _ => rfl

/-- Stages ahead that are other stages come first, as they are. -/
theorem runStagesUnmarked_append {ahead : List Stage} (without : .highlight ∉ ahead)
    (behind : List Stage) (pass : Pass) :
    pipeline.runStagesUnmarked publish (ahead ++ behind) pass =
      (pipeline.runStages publish ahead pass).bind fun outcome =>
        match outcome with
        | .ok next => pipeline.runStagesUnmarked publish behind next
        | .error error => Reply.pure (.error error) := by
  induction ahead generalizing pass with
  | nil => rfl
  | cons stage rest ih =>
      rcases not_or.mp (mt List.mem_cons.mpr without) with ⟨other, later⟩
      rw [List.cons_append, runStagesUnmarked_cons pipeline publish (Ne.symm other)]
      simp only [runStages, Reply.bind_assoc, ih later]
      refine Reply.bind_congr fun _ => Reply.bind_congr fun outcome => ?_
      cases outcome with
      | ok next => rfl
      | error error => rfl

/-- Where there is no highlight stage ahead nothing is left out. -/
theorem runStagesUnmarked_eq {ahead : List Stage} (without : .highlight ∉ ahead) (pass : Pass) :
    pipeline.runStagesUnmarked publish ahead pass = pipeline.runStages publish ahead pass := by
  have alone := pipeline.runStagesUnmarked_append publish without [] pass
  rw [List.append_nil] at alone
  rw [alone]
  refine Eq.trans (Reply.bind_congr fun outcome => ?_) (Reply.bind_pure _)
  cases outcome with
  | ok next => rfl
  | error error => rfl

/-! ## A render cut at its highlight stage -/

/-- The stages before the highlight stage. -/
def untilHighlight : List Stage :=
  stages.take 7

/-- The stages after the highlight stage. -/
def afterHighlight : List Stage :=
  stages.drop 8

theorem stages_eq_append_highlight : stages = untilHighlight ++ .highlight :: afterHighlight := rfl

/-- A render enters its highlight stage with a pass. -/
def ReachesHighlight (pipeline : Pipeline) (publish : Context → List Signal) (context : Context)
    (pass : Pass) : Prop :=
  (pipeline.runStages publish untilHighlight { context := context }).ending = .returned (.ok pass)

/-- What a render comes to from the pass that leaves its highlight stage. -/
def renderFrom (pipeline : Pipeline) (publish : Context → List Signal) (pass : Pass) :
    Reply (Except RenderError Context) :=
  (pipeline.runStages publish afterHighlight pass).bind finish

variable {pipeline publish}

theorem renderWith_eq_bind_finish (context : Context) :
    pipeline.renderWith publish context =
      (pipeline.runStages publish stages { context := context }).bind finish := by
  rw [renderWith]
  refine Reply.bind_congr fun outcome => ?_
  cases outcome with
  | ok pass => rfl
  | error error => rfl

/-- If no transform fails a render comes to its highlight stage. -/
theorem exists_reachesHighlight (registry : pipeline.registry.Answers)
    (renderer : pipeline.renderer.Answers) {context : Context}
    (sound : ∀ visit ∈ pipeline.journey publish context, ∀ error,
      ¬pipeline.renderer.FailsAt visit.stage visit.context error) :
    ∃ pass, pipeline.ReachesHighlight publish context pass := by
  rcases pipeline.runStages_cases publish registry renderer untilHighlight { context := context }
    with ⟨pass, reached, -, -⟩ | ⟨error, earlier, visit, -, split, -, fails, -⟩
  · exact ⟨pass, reached⟩
  · have entered : visit ∈ pipeline.journey publish context := by
      rw [journey, stages_eq_append_highlight, visits_append, split]
      simp
    exact absurd fails (sound visit entered error)

variable {context : Context} {pass : Pass}

/-- From the highlight stage on a render depends on nothing but the pass that leaves it. -/
theorem renderWith_of_reachesHighlight (reached : pipeline.ReachesHighlight publish context pass)
    {signals : List Signal} {next : Pass}
    (highlighted : pipeline.runStage publish pass .highlight = ⟨signals, .returned (.ok next)⟩) :
    pipeline.renderWith publish context =
      ⟨(pipeline.runStages publish untilHighlight { context := context }).signals ++
          .mark (.stage .highlight) :: (signals ++ (pipeline.renderFrom publish next).signals),
        (pipeline.renderFrom publish next).ending⟩ := by
  have staged : (pipeline.runStages publish (.highlight :: afterHighlight) pass).bind finish =
      ⟨.mark (.stage .highlight) :: (signals ++ (pipeline.renderFrom publish next).signals),
        (pipeline.renderFrom publish next).ending⟩ := by
    rw [runStages, Reply.bind_assoc, highlighted]
    simp only [Reply.bind_assoc]
    rfl
  rw [renderWith_eq_bind_finish, stages_eq_append_highlight, runStages_append, Reply.bind_assoc,
    Reply.bind_of_returned reached]
  dsimp only
  rw [staged]

theorem renderUnmarked_of_reachesHighlight
    (reached : pipeline.ReachesHighlight publish context pass) :
    pipeline.renderUnmarked publish context =
      ⟨(pipeline.runStages publish untilHighlight { context := context }).signals ++
          .mark (.stage .highlight) :: (pipeline.renderFrom publish pass).signals,
        (pipeline.renderFrom publish pass).ending⟩ := by
  have staged :
      (pipeline.runStagesUnmarked publish (.highlight :: afterHighlight) pass).bind finish =
        ⟨.mark (.stage .highlight) :: (pipeline.renderFrom publish pass).signals,
          (pipeline.renderFrom publish pass).ending⟩ := by
    rw [runStagesUnmarked, Reply.bind_assoc, pipeline.runStagesUnmarked_eq publish (by decide)]
    rfl
  rw [renderUnmarked, stages_eq_append_highlight,
    pipeline.runStagesUnmarked_append publish (by decide), Reply.bind_assoc,
    Reply.bind_of_returned reached]
  dsimp only
  rw [staged]

/-! ## All keywords or none -/

/-- What a highlight stage leaves behind that gives up at a keyword. -/
def skippedSignals (pagePath : String) (refused : Keyword) : List Signal :=
  [.event (.highlightSkipped pagePath (.keywordTooLarge refused)), .measure .highlightFailure]

/-- A render that gives its highlighting up: the stage passes on the very pass that it was entered
with, and the render is the one that marks nothing, with a warning and a count put in. -/
structure GivesUpHighlight (pipeline : Pipeline) (publish : Context → List Signal)
    (context : Context) (pass : Pass) (refused : Keyword) : Prop where
  stage : pipeline.runStage publish pass .highlight =
    ⟨skippedSignals pass.context.pagePath refused, .returned (.ok pass)⟩
  warning : (Event.highlightSkipped pass.context.pagePath (.keywordTooLarge refused)).level = .warn
  render : ∃ before after ending,
    pipeline.renderWith publish context =
        ⟨before ++ skippedSignals pass.context.pagePath refused ++ after, ending⟩ ∧
      pipeline.renderUnmarked publish context = ⟨before ++ after, ending⟩ ∧
      before = (pipeline.runStages publish untilHighlight { context := context }).signals ++
        [.mark (.stage .highlight)]

variable (pipeline publish)

theorem runStage_highlight_of_refused {query : String} {refused : Keyword}
    (asked : pass.context.highlightQuery = some query) (filled : query.isAllBlank = false)
    (first : (Keyword.ofQuery query.toList).find? (fun keyword => !keyword.fits) = some refused) :
    pipeline.runStage publish pass .highlight =
      ⟨skippedSignals pass.context.pagePath refused, .returned (.ok pass)⟩ := by
  simp [runStage, highlightStage, asked, filled,
    pipeline.highlighter.highlight_eq_error_of_refused first, skippedSignals]

theorem givesUpHighlight_of_refused (reached : pipeline.ReachesHighlight publish context pass)
    {query : String} {refused : Keyword} (asked : pass.context.highlightQuery = some query)
    (filled : query.isAllBlank = false)
    (first : (Keyword.ofQuery query.toList).find? (fun keyword => !keyword.fits) = some refused) :
    pipeline.GivesUpHighlight publish context pass refused := by
  have gaveUp := pipeline.runStage_highlight_of_refused publish asked filled first
  refine { stage := gaveUp, warning := rfl, render := ?_ }
  refine ⟨_, (pipeline.renderFrom publish pass).signals, (pipeline.renderFrom publish pass).ending,
    ?_, ?_, rfl⟩
  · rw [renderWith_of_reachesHighlight reached gaveUp]
    simp
  · rw [renderUnmarked_of_reachesHighlight reached]
    simp

theorem runStage_highlight_of_highlight {query output : String}
    (asked : pass.context.highlightQuery = some query) (filled : query.isAllBlank = false)
    (marked : pipeline.highlighter.highlight pass.context.html query = .ok output) :
    pipeline.runStage publish pass .highlight =
      ⟨[], .returned (.ok
        { pass with context := { pass.context with parsedHtml := some output } })⟩ := by
  simp [runStage, highlightStage, asked, filled, marked]

/-- The highlight stage marks all keywords of a query or none. If no transform fails a render comes
to the stage; if a keyword is refused there, at whichever position, the render goes on as if the
stage did nothing, and else the markup is all that the stage changes. -/
theorem highlight_all_or_none (context : Context) :
    (pipeline.registry.Answers → pipeline.renderer.Answers →
      (∀ visit ∈ pipeline.journey publish context, ∀ error,
        ¬pipeline.renderer.FailsAt visit.stage visit.context error) →
      ∃ pass, pipeline.ReachesHighlight publish context pass) ∧
    ∀ pass query, pipeline.ReachesHighlight publish context pass →
      pass.context.highlightQuery = some query → query.isAllBlank = false →
        ((∃ keyword ∈ Keyword.ofQuery query.toList, keyword.fits = false) →
          ∃ refused ∈ Keyword.ofQuery query.toList, refused.fits = false ∧
            pipeline.GivesUpHighlight publish context pass refused) ∧
        ((∀ keyword ∈ Keyword.ofQuery query.toList, keyword.fits = true) →
          ∃ output, pipeline.highlighter.highlight pass.context.html query = .ok output ∧
            pipeline.runStage publish pass .highlight =
              ⟨[], .returned (.ok
                { pass with context := { pass.context with parsedHtml := some output } })⟩) := by
  refine ⟨fun registry renderer sound => exists_reachesHighlight registry renderer sound, ?_⟩
  intro pass query reached asked filled
  constructor
  -- the keyword that ends the marking is the first refused one, not the given one
  · rintro ⟨keyword, keyword_mem, tooLarge⟩
    rcases found : (Keyword.ofQuery query.toList).find? (fun keyword => !keyword.fits) with
      _ | refused
    · simpa [tooLarge] using List.find?_eq_none.mp found keyword keyword_mem
    · exact ⟨refused, List.mem_of_find?_eq_some found, by simpa using List.find?_some found,
        pipeline.givesUpHighlight_of_refused publish reached asked filled found⟩
  · intro fit
    rcases pipeline.highlighter.exists_highlight_eq_ok fit pass.context.html with ⟨output, marked⟩
    exact ⟨output, marked, pipeline.runStage_highlight_of_highlight publish asked filled marked⟩

/-- A page whose render asks for a query. -/
def asking (query : String) : Context :=
  { markdown := "x", pagePath := "y", highlightQuery := some query }

/-- The pass that the render of such a page comes to its highlight stage with. -/
def askingPass (query : String) : Pass :=
  { context := { asking query with parsedHtml := some "<p>x</p>" } }

/-- A query of a keyword that occurs on the page and a keyword of many characters. -/
def longQuery (count : Nat) : String :=
  .ofList ("x ".toList ++ List.replicate count 'y')

theorem ofQuery_longQuery (count : Nat) :
    Keyword.ofQuery (longQuery (count + 1)).toList = [['x'], List.replicate (count + 1) 'y'] := by
  have unquoted : (longQuery (count + 1)).toList.filter (· != '"') =
      "x ".toList ++ (List.replicate (count + 1) 'y' ++ []) := by
    rw [longQuery, String.toList_ofList, List.filter_append,
      List.filter_replicate_of_pos (by decide), List.append_nil]
    rfl
  have outside : ∀ c ∈ List.replicate (count + 1) 'y', Text.isBlank c = false := by
    intro c c_mem
    rw [List.eq_of_mem_replicate c_mem]
    rfl
  calc Keyword.ofQuery (longQuery (count + 1)).toList
      _ = ['x'] :: Text.fieldsFrom Text.isBlank [] (List.replicate (count + 1) 'y' ++ []) := by
        rw [Keyword.ofQuery, unquoted]
        rfl
      _ = ['x'] ::
          Text.fieldsFrom Text.isBlank ((List.replicate (count + 1) 'y').reverse ++ []) [] := by
        rw [Text.fieldsFrom_append_of_outside outside]
      _ = [['x'], List.replicate (count + 1) 'y'] := by
        simp [Text.fieldsFrom]

theorem not_failsAt_troubled (stage : Stage) (context : Context) (error : RenderError) :
    ¬(troubled none).renderer.FailsAt stage context error := by
  intro fails
  rcases stage with hook | (_ | _ | _) | _ | _ <;> cases fails

/-- Among interceptors that fail, a query with a refused keyword is given up although the keyword
before it occurs on the page; that keyword alone is marked. -/
theorem highlight_all_or_none_of_longQuery :
    (∃ pass, (troubled none).ReachesHighlight (fun _ => [.mark .published])
      (asking (longQuery 40000)) pass) ∧
    (∃ refused ∈ Keyword.ofQuery (longQuery 40000).toList, refused.fits = false ∧
      (troubled none).GivesUpHighlight (fun _ => [.mark .published]) (asking (longQuery 40000))
        (askingPass (longQuery 40000)) refused) ∧
    ∃ output, (troubled none).highlighter.highlight "<p>x</p>" "x" = .ok output ∧
      (troubled none).runStage (fun _ => [.mark .published]) (askingPass "x") .highlight =
        ⟨[], .returned (.ok
          { context := { asking "x" with parsedHtml := some output } })⟩ := by
  rcases answers_troubled none with ⟨registry, renderer⟩
  have refused : ∃ keyword ∈ Keyword.ofQuery (longQuery 40000).toList, keyword.fits = false := by
    refine ⟨List.replicate 40000 'y', ?_, Keyword.fits_eq_false_of_lt_length ?_⟩
    · rw [ofQuery_longQuery 39999]
      exact List.mem_cons_of_mem _ List.mem_cons_self
    · rw [List.length_replicate]
      decide
  have filled : (longQuery 40000).isAllBlank = false := by
    rw [String.isAllBlank, longQuery, String.toList_ofList]
    rfl
  have fit : ∀ keyword ∈ Keyword.ofQuery "x".toList, keyword.fits = true :=
    fun keyword keyword_mem => Keyword.fits_of_length_le <|
      (by decide : ∀ keyword ∈ Keyword.ofQuery "x".toList, keyword.length ≤ 37) keyword keyword_mem
  have long := highlight_all_or_none (troubled none) (fun _ => [.mark .published])
    (asking (longQuery 40000))
  have short := highlight_all_or_none (troubled none) (fun _ => [.mark .published]) (asking "x")
  refine ⟨long.1 registry renderer fun visit _ => not_failsAt_troubled visit.stage visit.context,
    ?_, ?_⟩
  · exact (long.2 (askingPass (longQuery 40000)) (longQuery 40000) rfl rfl filled).1 refused
  · exact (short.2 (askingPass "x") "x" rfl rfl rfl).2 fit

end Pipeline

end PageRender
