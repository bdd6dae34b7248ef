import Mathlib.Data.List.Infix
import PageRender.Interceptor.Script
import PageRender.Pipeline

/-!
# The stages of a render

A render enters the stages in their fixed order. Its journey lists the stages that it enters, each
with the context at the entry and with what is left behind there. Either every stage is entered, the
page is shown once and the render gives what was shown, or the journey ends at the first transform
that fails and its error is all that the render gives.
-/

namespace PageRender

/-- A call that gives a value and does not break off. -/
def Reply.Returns {α : Type} (reply : Reply α) : Prop :=
  ∃ value, reply.ending = .returned value

/-- Every interceptor answers whether it applies. -/
def Registry.Answers (registry : Registry) : Prop :=
  ∀ hook, ∀ interceptor ∈ registry.interceptors hook, ∀ context,
    (interceptor.isApplicable hook context).Returns

/-- Every transform gives a text or an error. -/
def Renderer.Answers (renderer : Renderer) : Prop :=
  ∀ transform context, (Pipeline.applyTransform renderer transform context).Returns

def Stage.hook? : Stage → Option Hook
  | .hook point => some point
  | _ => none

/-- Whether a stage fails on a context with an error; only transforms fail. -/
def Renderer.FailsAt (renderer : Renderer) (stage : Stage) (context : Context)
    (error : RenderError) : Prop :=
  match stage with
  | .transform transform =>
      (Pipeline.applyTransform renderer transform context).ending = .returned (.error error)
  | _ => False

/-- A stage that is entered: the context that it is entered with, and what is left behind there. -/
structure Visit where
  stage : Stage
  context : Context
  signals : List Signal

/-- What is left behind of a visit, the mark that the stage begins first. -/
def Visit.record (visit : Visit) : List Signal :=
  .mark (.stage visit.stage) :: visit.signals

namespace Reply

variable {α β : Type}

theorem bind_of_returned {reply : Reply α} {value : α} (returned : reply.ending = .returned value)
    (next : α → Reply β) :
    reply.bind next = ⟨reply.signals ++ (next value).signals, (next value).ending⟩ := by
  simp [bind, returned]

theorem bind_assoc {γ : Type} (reply : Reply α) (next : α → Reply β) (last : β → Reply γ) :
    (reply.bind next).bind last = reply.bind fun value => (next value).bind last := by
  cases ended : reply.ending with
  | panicked payload => simp [bind, ended]
  | returned value => cases later : (next value).ending <;> simp [bind, ended, later]

theorem bind_congr {reply : Reply α} {next other : α → Reply β}
    (same : ∀ value, next value = other value) : reply.bind next = reply.bind other :=
  congrArg reply.bind (funext same)

theorem Returns.bind {reply : Reply α} {next : α → Reply β} (returns : reply.Returns)
    (goesOn : ∀ value, (next value).Returns) : (reply.bind next).Returns := by
  rcases returns with ⟨value, returned⟩
  rcases goesOn value with ⟨result, ended⟩
  exact ⟨result, by rw [bind_of_returned returned, ended]⟩

end Reply

namespace Registry

variable {registry : Registry}

theorem returns_applicable {hook : Hook} {context : Context} {interceptors : List Interceptor}
    (answers : ∀ interceptor ∈ interceptors, (interceptor.isApplicable hook context).Returns) :
    (applicable hook context interceptors).Returns := by
  induction interceptors with
  | nil => exact ⟨[], rfl⟩
  | cons interceptor rest ih =>
      rcases List.forall_mem_cons.mp answers with ⟨first, others⟩
      exact first.bind fun answer => (ih others).bind fun chosen => ⟨_, rfl⟩

/-- Whatever the interceptors of a hook do when they are run, the hook gives a context. -/
theorem Answers.returns_run (answers : registry.Answers) (hook : Hook) (context : Context) :
    (registry.run hook context).Returns :=
  (returns_applicable fun interceptor registered =>
    answers hook interceptor registered context).bind fun _ => ⟨_, rfl⟩

end Registry

namespace Pipeline

/-- The stages among some that a pass enters, up to the first that it does not come out of. -/
def visits (pipeline : Pipeline) (publish : Context → List Signal) :
    List Stage → Pass → List Visit
  | [], _ => []
  | stage :: rest, pass =>
      let reply := pipeline.runStage publish pass stage
      ⟨stage, pass.context, reply.signals⟩ ::
        match reply.ending with
        | .returned (.ok next) => pipeline.visits publish rest next
        | _ => []

/-- The stages that a render enters. -/
def journey (pipeline : Pipeline) (publish : Context → List Signal) (context : Context) :
    List Visit :=
  pipeline.visits publish stages { context := context }

variable (pipeline : Pipeline) (publish : Context → List Signal)

/-! ## One stage -/

/-- What a stage comes to: it passes the context on, or it is a transform and fails. -/
theorem runStage_cases (registry : pipeline.registry.Answers) (renderer : pipeline.renderer.Answers)
    (pass : Pass) (stage : Stage) :
    (∃ next, (pipeline.runStage publish pass stage).ending = .returned (.ok next) ∧
        ∀ error, ¬pipeline.renderer.FailsAt stage pass.context error) ∨
      ∃ error, (pipeline.runStage publish pass stage).ending = .returned (.error error) ∧
        pipeline.renderer.FailsAt stage pass.context error := by
  cases stage with
  | hook hook =>
      left
      rcases registry.returns_run hook pass.context with ⟨context, returned⟩
      refine ⟨{ pass with context := context }, ?_, fun error fails => fails⟩
      simp only [runStage, Reply.bind_of_returned returned]
      rfl
  | transform transform =>
      rcases renderer transform pass.context with ⟨outcome, returned⟩
      cases outcome with
      | ok text =>
          left
          refine ⟨{ pass with context := storeText transform pass.context text }, ?_, ?_⟩
          · simp only [runStage, transformStage, Reply.bind_of_returned returned]
            rfl
          · intro error fails
            rw [Renderer.FailsAt, returned] at fails
            cases fails
      | error error =>
          right
          refine ⟨error, ?_, returned⟩
          simp only [runStage, transformStage, Reply.bind_of_returned returned]
          rfl
  | highlight => exact Or.inl ⟨_, rfl, fun error fails => fails⟩
  | publish => exact Or.inl ⟨_, rfl, fun error fails => fails⟩

/-! ## The stages ahead -/

/-- Nothing is left behind but what is left behind at the stages that are entered. -/
theorem signals_runStages (ahead : List Stage) (pass : Pass) :
    (pipeline.runStages publish ahead pass).signals =
      (pipeline.visits publish ahead pass).flatMap Visit.record := by
  induction ahead generalizing pass with
  | nil => rfl
  | cons stage rest ih =>
      unfold runStages visits
      cases ended : (pipeline.runStage publish pass stage).ending with
      | panicked payload => simp [Reply.bind, Reply.tell, ended, Visit.record]
      | returned outcome =>
          cases outcome with
          | error error => simp [Reply.bind, Reply.tell, Reply.pure, ended, Visit.record]
          | ok next => simp [Reply.bind, Reply.tell, ended, Visit.record, ih]

/-- The stages ahead first; the stages behind are entered if none of those ahead fails. -/
theorem runStages_append (ahead behind : List Stage) (pass : Pass) :
    pipeline.runStages publish (ahead ++ behind) pass =
      (pipeline.runStages publish ahead pass).bind fun outcome =>
        match outcome with
        | .ok next => pipeline.runStages publish behind next
        | .error error => Reply.pure (.error error) := by
  induction ahead generalizing pass with
  | nil => rfl
  | cons stage rest ih =>
      simp only [List.cons_append, runStages, Reply.bind_assoc, ih]
      refine Reply.bind_congr fun _ => Reply.bind_congr fun outcome => ?_
      cases outcome with
      | ok next => rfl
      | error error => rfl

theorem visits_append (ahead behind : List Stage) (pass : Pass) :
    pipeline.visits publish (ahead ++ behind) pass =
      pipeline.visits publish ahead pass ++
        match (pipeline.runStages publish ahead pass).ending with
        | .returned (.ok next) => pipeline.visits publish behind next
        | _ => [] := by
  induction ahead generalizing pass with
  | nil => rfl
  | cons stage rest ih =>
      simp only [List.cons_append, visits, runStages]
      cases ended : (pipeline.runStage publish pass stage).ending with
      | panicked payload => simp [Reply.bind, Reply.tell, ended]
      | returned outcome =>
          cases outcome with
          | error error => simp [Reply.bind, Reply.tell, Reply.pure, ended]
          | ok next => simp [Reply.bind, Reply.tell, ended, ih]

/-- What the stages ahead come to: all of them are entered and none fails, or the last that is
entered is the first to fail. -/
theorem runStages_cases (registry : pipeline.registry.Answers)
    (renderer : pipeline.renderer.Answers) (ahead : List Stage) (pass : Pass) :
    (∃ last, (pipeline.runStages publish ahead pass).ending = .returned (.ok last) ∧
        (pipeline.visits publish ahead pass).map Visit.stage = ahead ∧
        ∀ visit ∈ pipeline.visits publish ahead pass, ∀ error,
          ¬pipeline.renderer.FailsAt visit.stage visit.context error) ∨
      ∃ error earlier visit,
        (pipeline.runStages publish ahead pass).ending = .returned (.error error) ∧
        pipeline.visits publish ahead pass = earlier ++ [visit] ∧
        (earlier ++ [visit]).map Visit.stage <+: ahead ∧
        pipeline.renderer.FailsAt visit.stage visit.context error ∧
        ∀ visit ∈ earlier, ∀ error,
          ¬pipeline.renderer.FailsAt visit.stage visit.context error := by
  induction ahead generalizing pass with
  | nil => exact Or.inl ⟨pass, rfl, rfl, by simp [visits]⟩
  | cons stage rest ih =>
      rcases pipeline.runStage_cases publish registry renderer pass stage with
        ⟨next, done, sound⟩ | ⟨error, failed, fails⟩
      · have ended : (pipeline.runStages publish (stage :: rest) pass).ending =
            (pipeline.runStages publish rest next).ending := by
          simp [runStages, Reply.bind, Reply.tell, done]
        have entered : pipeline.visits publish (stage :: rest) pass =
            ⟨stage, pass.context, (pipeline.runStage publish pass stage).signals⟩ ::
              pipeline.visits publish rest next := by
          simp [visits, done]
        rw [ended, entered]
        rcases ih next with ⟨last, ended, stages, sounds⟩ |
          ⟨error, earlier, visit, ended, split, stages, fails, sounds⟩
        · exact Or.inl ⟨last, ended, by simp [stages], List.forall_mem_cons.mpr ⟨sound, sounds⟩⟩
        · right
          refine ⟨error, _ :: earlier, visit, ended, by rw [split]; rfl, ?_, fails,
            List.forall_mem_cons.mpr ⟨sound, sounds⟩⟩
          exact List.cons_prefix_cons.mpr ⟨rfl, stages⟩
      · right
        refine ⟨error, [], ⟨stage, pass.context, (pipeline.runStage publish pass stage).signals⟩,
          ?_, ?_, by simp, fails, by simp⟩
        · simp [runStages, Reply.bind, Reply.tell, Reply.pure, failed]
        · simp [visits, failed]

/-- Two pipelines that do the same at every stage ahead do the same. -/
theorem runStages_congr {pipeline other : Pipeline} {publish shows : Context → List Signal}
    {ahead : List Stage}
    (same : ∀ stage ∈ ahead, ∀ pass,
      pipeline.runStage publish pass stage = other.runStage shows pass stage) (pass : Pass) :
    pipeline.runStages publish ahead pass = other.runStages shows ahead pass ∧
      pipeline.visits publish ahead pass = other.visits shows ahead pass := by
  induction ahead generalizing pass with
  | nil => exact ⟨rfl, rfl⟩
  | cons stage rest ih =>
      rcases List.forall_mem_cons.mp same with ⟨first, others⟩
      unfold runStages visits
      rw [first pass]
      constructor
      · refine Reply.bind_congr fun _ => Reply.bind_congr fun outcome => ?_
        cases outcome with
        | ok next => exact (ih others next).1
        | error error => rfl
      · dsimp only
        split
        · rw [(ih others _).2]
        · rfl

/-! ## Measures -/

/-- The code around the pipeline does not take a measure of its own accord. -/
structure Spares (pipeline : Pipeline) (publish : Context → List Signal) (measure : Measure) :
    Prop where
  asked : ∀ hook, ∀ interceptor ∈ pipeline.registry.interceptors hook, ∀ context,
    .measure measure ∉ (interceptor.isApplicable hook context).signals
  intercepted : ∀ hook, ∀ interceptor ∈ pipeline.registry.interceptors hook, ∀ context,
    .measure measure ∉ (interceptor.process hook context).signals
  transformed : ∀ transform context,
    .measure measure ∉ (applyTransform pipeline.renderer transform context).signals
  shown : ∀ context, .measure measure ∉ publish context

end Pipeline

theorem Signal.mem_measures {measure : Measure} {signals : List Signal} :
    measure ∈ measures signals ↔ .measure measure ∈ signals := by
  rw [measures, List.mem_filterMap]
  constructor
  · rintro ⟨signal, signal_mem, taken⟩
    split at taken
    · cases taken
      exact signal_mem
    · cases taken
  · exact fun taken => ⟨_, taken, rfl⟩

theorem Reply.mem_signals_bind {α β : Type} {reply : Reply α} {next : α → Reply β}
    {signal : Signal} (left : signal ∈ (reply.bind next).signals) :
    signal ∈ reply.signals ∨ ∃ value, reply.ending = .returned value ∧
      signal ∈ (next value).signals := by
  unfold bind at left
  split at left
  · rename_i value returned
    exact (List.mem_append.mp left).imp_right fun later => ⟨value, returned, later⟩
  · exact Or.inl left

namespace Registry

variable {hook : Hook} {signal : Signal}

theorem mem_signals_applicable {context : Context} {interceptors : List Interceptor}
    (left : signal ∈ (applicable hook context interceptors).signals) :
    ∃ interceptor ∈ interceptors, signal ∈ (interceptor.isApplicable hook context).signals := by
  induction interceptors with
  | nil => cases left
  | cons interceptor rest ih =>
      rcases Reply.mem_signals_bind left with first | ⟨answer, -, later⟩
      · exact ⟨interceptor, List.mem_cons_self, first⟩
      · rcases Reply.mem_signals_bind later with others | ⟨chosen, -, none⟩
        · rcases ih others with ⟨other, other_mem, asked⟩
          exact ⟨other, List.mem_cons_of_mem _ other_mem, asked⟩
        · cases none

theorem subset_of_applicable {context : Context} {interceptors chosen : List Interceptor}
    (answered : (applicable hook context interceptors).ending = .returned chosen) :
    chosen.Sublist interceptors := by
  induction interceptors generalizing chosen with
  | nil =>
      cases answered
      exact List.Sublist.refl _
  | cons interceptor rest ih =>
      unfold applicable at answered
      cases first : (interceptor.isApplicable hook context).ending with
      | panicked payload => simp [Reply.bind, first] at answered
      | returned answer =>
          cases later : (applicable hook context rest).ending with
          | panicked payload => simp [Reply.bind, first, later] at answered
          | returned others =>
              simp only [Reply.bind, first, later, Reply.pure, Ending.returned.injEq] at answered
              subst chosen
              split
              · exact (ih later).cons_cons _
              · exact (ih later).cons _

/-- What an attempt leaves behind is the interceptor's own, or tells that it failed. -/
theorem mem_signals_attempt {interceptor : Interceptor} {context : Context}
    (left : signal ∈ (attempt hook interceptor context).1) :
    signal ∈ (interceptor.process hook context).signals ∨
      ∃ error, signal ∈ failureSignals hook interceptor context error := by
  unfold attempt at left
  dsimp only at left
  split at left
  · exact Or.inl left
  · exact (List.mem_append.mp left).imp_right fun told => ⟨_, told⟩
  · exact (List.mem_append.mp left).imp_right fun told => ⟨_, told⟩

theorem mem_signals_attemptAll {interceptors : List Interceptor} {context : Context}
    (left : signal ∈ (attemptAll hook interceptors context).1) :
    ∃ interceptor ∈ interceptors, ∃ met, signal ∈ (attempt hook interceptor met).1 := by
  induction interceptors generalizing context with
  | nil => cases left
  | cons interceptor rest ih =>
      rcases List.mem_append.mp left with first | later
      · exact ⟨interceptor, List.mem_cons_self, context, first⟩
      · rcases ih later with ⟨other, other_mem, attempted⟩
        exact ⟨other, List.mem_cons_of_mem _ other_mem, attempted⟩

end Registry

namespace Pipeline

theorem mem_signals_highlightStage (pipeline : Pipeline) {context : Context} {signal : Signal}
    (left : signal ∈ (pipeline.highlightStage context).1) :
    (∃ error, signal = .event (.highlightSkipped context.pagePath error)) ∨
      signal = .measure .highlightFailure := by
  unfold highlightStage at left
  split at left
  · cases left
  · split at left
    · cases left
    · split at left
      · cases left
      · simp only [List.mem_cons, List.not_mem_nil, or_false] at left
        exact left.imp_left fun skipped => ⟨_, skipped⟩

variable {pipeline : Pipeline} {publish : Context → List Signal}

/-- The pipeline itself counts the failures of interceptors, and takes no other measure at a stage
but that of a highlighting that failed. -/
theorem Spares.not_mem_signals_runStage {measure : Measure}
    (spares : pipeline.Spares publish measure)
    (own : ∀ hook interceptor, measure ≠ .interceptorFailure hook interceptor) {stage : Stage}
    (elsewhere : measure = .highlightFailure → stage ≠ .highlight) (pass : Pass) :
    .measure measure ∉ (pipeline.runStage publish pass stage).signals := by
  intro left
  cases stage with
  | hook hook =>
      rcases Reply.mem_signals_bind left with ran | ⟨_, _, none⟩
      · rcases Reply.mem_signals_bind ran with asked | ⟨chosen, answered, attempted⟩
        · rcases Registry.mem_signals_applicable asked with ⟨interceptor, registered, signalled⟩
          exact spares.asked hook interceptor registered _ signalled
        · rcases Registry.mem_signals_attemptAll attempted with
            ⟨interceptor, chosen_mem, context, signalled⟩
          have registered := (Registry.subset_of_applicable answered).subset chosen_mem
          rcases Registry.mem_signals_attempt signalled with processed | ⟨error, told⟩
          · exact spares.intercepted hook interceptor registered context processed
          · simp [Registry.failureSignals, own] at told
      · cases none
  | transform transform =>
      rcases Reply.mem_signals_bind left with ran | ⟨_, _, none⟩
      · rcases Reply.mem_signals_bind ran with transformed | ⟨outcome, -, told⟩
        · exact spares.transformed transform _ transformed
        · cases outcome with
          | ok text => cases told
          | error error => simp at told
      · cases none
  | highlight =>
      have notHighlight : measure ≠ .highlightFailure := fun isHighlight =>
        elsewhere isHighlight rfl
      rcases pipeline.mem_signals_highlightStage left with ⟨error, told⟩ | told
      · cases told
      · cases told
        exact notHighlight rfl
  | publish => exact spares.shown pass.context left

theorem Spares.not_mem_record {measure : Measure} (spares : pipeline.Spares publish measure)
    (own : ∀ hook interceptor, measure ≠ .interceptorFailure hook interceptor)
    {ahead : List Stage} {pass : Pass}
    (elsewhere : measure = .highlightFailure →
      .highlight ∉ (pipeline.visits publish ahead pass).map Visit.stage) :
    .measure measure ∉ (pipeline.visits publish ahead pass).flatMap Visit.record := by
  induction ahead generalizing pass with
  | nil => simp [visits]
  | cons stage rest ih =>
      unfold visits at elsewhere ⊢
      rw [List.flatMap_cons, List.mem_append, not_or]
      constructor
      · rw [Visit.record, List.mem_cons, not_or]
        exact ⟨nofun, spares.not_mem_signals_runStage own
          (fun isHighlight same => elsewhere isHighlight (by simp [same])) pass⟩
      · cases ended : (pipeline.runStage publish pass stage).ending with
        | panicked payload => simp
        | returned outcome =>
            cases outcome with
            | error error => simp
            | ok next =>
                simp only [ended, List.map_cons, List.mem_cons, not_or] at elsewhere
                exact ih fun isHighlight => (elsewhere isHighlight).2

/-! ## Renders -/

/-- The stages before the page is shown. -/
def preparation : List Stage :=
  stages.take 10

theorem stages_eq_append : stages = preparation ++ [.publish, .hook .postRenderHtml] := rfl

/-- A render that a transform ended: nothing is shown, and no time is recorded. -/
structure Failed (pipeline : Pipeline) (publish : Context → List Signal) (context : Context)
    (error : RenderError) : Prop where
  ending : (pipeline.renderWith publish context).ending = .returned (.error error)
  /-- The last stage entered is the first that fails. -/
  last : ∃ earlier visit, pipeline.journey publish context = earlier ++ [visit] ∧
    pipeline.renderer.FailsAt visit.stage visit.context error ∧
    ∀ visit ∈ earlier, ∀ error, ¬pipeline.renderer.FailsAt visit.stage visit.context error
  entered : (pipeline.journey publish context).map Visit.stage <+: stages
  unshown : .publish ∉ (pipeline.journey publish context).map Visit.stage
  /-- It makes no difference how the page would be shown. -/
  silent : ∀ other, pipeline.renderWith other context = pipeline.renderWith publish context
  recorded : (pipeline.renderWith publish context).signals =
    (pipeline.journey publish context).flatMap Visit.record
  unmeasured : ∀ measure ∈ [Measure.renderTime, Measure.highlightFailure],
    pipeline.Spares publish measure →
      measure ∉ Signal.measures (pipeline.renderWith publish context).signals

/-- A render that every transform lets pass: the page is shown once, and one time is recorded. -/
structure Completed (pipeline : Pipeline) (publish : Context → List Signal)
    (context shown : Context) : Prop where
  ending : (pipeline.renderWith publish context).ending = .returned (.ok shown)
  entered : (pipeline.journey publish context).map Visit.stage = stages
  sound : ∀ visit ∈ pipeline.journey publish context, ∀ error,
    ¬pipeline.renderer.FailsAt visit.stage visit.context error
  shownAt : ∀ visit ∈ pipeline.journey publish context, visit.stage = .publish →
    visit.context = shown ∧ visit.signals = publish shown
  /-- However the page is shown, that happens once, between signals that do not depend on it. -/
  once : ∃ before after, ∀ other, pipeline.renderWith other context =
    ⟨before ++ other shown ++ after, .returned (.ok shown)⟩
  recorded : (pipeline.renderWith publish context).signals =
    (pipeline.journey publish context).flatMap Visit.record ++ [.measure .renderTime]
  timed : pipeline.Spares publish .renderTime →
    (Signal.measures (pipeline.renderWith publish context).signals).count .renderTime = 1

theorem preparation_of_prefix {front : List Stage} {transform : Transform}
    (begins : front ++ [.transform transform] <+: preparation) :
    .highlight ∉ front ++ [.transform transform] ∧ .publish ∉ front ++ [.transform transform] := by
  have cut := List.prefix_iff_eq_take.mp begins
  have short := begins.length_le
  rw [List.length_append, List.length_singleton] at cut short
  have last : (preparation.take (front.length + 1)).getLast? = some (.transform transform) := by
    rw [← cut, List.getLast?_concat]
  have checked : ∀ transform, ∀ count ≤ 10,
      (preparation.take count).getLast? = some (Stage.transform transform) →
        .highlight ∉ preparation.take count ∧ .publish ∉ preparation.take count := by
    intro transform
    cases transform <;> decide
  rw [cut]
  exact checked transform _ short last

/-- How a page is shown makes no difference before it is shown. -/
theorem runStages_preparation (pipeline : Pipeline) (publish other : Context → List Signal)
    (pass : Pass) :
    pipeline.runStages publish preparation pass = pipeline.runStages other preparation pass ∧
      pipeline.visits publish preparation pass = pipeline.visits other preparation pass := by
  refine runStages_congr (fun stage ahead pass => ?_) pass
  cases stage with
  | publish => exact absurd ahead (by decide)
  | hook hook => rfl
  | transform transform => rfl
  | highlight => rfl

/-- Once the page is prepared it is shown as it is then, and the last hook changes nothing. -/
theorem renderWith_of_prepared (registry : pipeline.registry.Answers) {context : Context}
    {last : Pass}
    (prepared : (pipeline.runStages publish preparation { context := context }).ending =
      .returned (.ok last)) :
    pipeline.journey publish context =
        pipeline.visits publish preparation { context := context } ++
          [⟨.publish, last.context, publish last.context⟩,
            ⟨.hook .postRenderHtml, last.context,
              (pipeline.registry.run .postRenderHtml last.context).signals⟩] ∧
      pipeline.renderWith publish context =
        ⟨(pipeline.journey publish context).flatMap Visit.record ++ [.measure .renderTime],
          .returned (.ok last.context)⟩ := by
  rcases registry.returns_run .postRenderHtml last.context with ⟨after, returned⟩
  have ending : (pipeline.runStages publish stages { context := context }).ending =
      .returned (.ok { context := after, published := some last.context }) := by
    rw [stages_eq_append, runStages_append, Reply.bind_of_returned prepared]
    simp [runStages, runStage, Reply.bind, Reply.tell, Reply.pure, returned]
  constructor
  · rw [journey, stages_eq_append, visits_append, prepared]
    simp [visits, runStage, Reply.bind, Reply.pure, returned]
  · rw [renderWith, Reply.bind_of_returned ending, signals_runStages]
    rfl

/-- Nothing comes after a preparation that fails. -/
theorem renderWith_of_stopped {context : Context} {error : RenderError}
    (stopped : (pipeline.runStages publish preparation { context := context }).ending =
      .returned (.error error)) :
    pipeline.journey publish context =
        pipeline.visits publish preparation { context := context } ∧
      pipeline.renderWith publish context =
        ⟨(pipeline.journey publish context).flatMap Visit.record, .returned (.error error)⟩ := by
  have ending : (pipeline.runStages publish stages { context := context }).ending =
      .returned (.error error) := by
    rw [stages_eq_append, runStages_append, Reply.bind_of_returned stopped]
    rfl
  constructor
  · rw [journey, stages_eq_append, visits_append, stopped]
    simp
  · rw [renderWith, Reply.bind_of_returned ending, signals_runStages]
    simp [Reply.pure, journey]

/-- However a prepared page is shown, that happens once, between signals that do not depend on it. -/
theorem shown_once_of_prepared (registry : pipeline.registry.Answers) {context : Context}
    {last : Pass}
    (prepared : (pipeline.runStages publish preparation { context := context }).ending =
      .returned (.ok last)) :
    ∃ before after, ∀ other, pipeline.renderWith other context =
      ⟨before ++ other last.context ++ after, .returned (.ok last.context)⟩ := by
  refine ⟨(pipeline.visits publish preparation { context := context }).flatMap Visit.record ++
      [.mark (.stage .publish)],
    .mark (.stage (.hook .postRenderHtml)) ::
      (pipeline.registry.run .postRenderHtml last.context).signals ++ [.measure .renderTime], ?_⟩
  intro other
  rcases pipeline.runStages_preparation publish other { context := context } with
    ⟨same, sameVisits⟩
  rw [same] at prepared
  rcases renderWith_of_prepared registry prepared with ⟨journeyed, rendered⟩
  rw [rendered, journeyed, sameVisits]
  simp [Visit.record]

/-- A page that is not prepared could be shown in any way. -/
theorem renderWith_congr_of_stopped {context : Context} {error : RenderError}
    (stopped : (pipeline.runStages publish preparation { context := context }).ending =
      .returned (.error error)) (other : Context → List Signal) :
    pipeline.renderWith other context = pipeline.renderWith publish context := by
  rcases renderWith_of_stopped stopped with ⟨journeyed, rendered⟩
  rcases pipeline.runStages_preparation publish other { context := context } with
    ⟨same, sameVisits⟩
  rw [same] at stopped
  rcases renderWith_of_stopped stopped with ⟨journeyedOther, renderedOther⟩
  rw [renderedOther, journeyedOther, rendered, journeyed, sameVisits]

/-- A render that comes to the page being shown completes. -/
theorem completed_of_prepared (registry : pipeline.registry.Answers) {context : Context}
    {last : Pass}
    (ended : (pipeline.runStages publish preparation { context := context }).ending =
      .returned (.ok last))
    (prepared : (pipeline.visits publish preparation { context := context }).map Visit.stage =
      preparation)
    (sound : ∀ visit ∈ pipeline.visits publish preparation { context := context }, ∀ error,
      ¬pipeline.renderer.FailsAt visit.stage visit.context error) :
    pipeline.Completed publish context last.context := by
  rcases renderWith_of_prepared registry ended with ⟨journeyed, rendered⟩
  refine
    { ending := by rw [rendered]
      entered := by rw [journeyed, List.map_append, prepared]; rfl
      sound := ?_
      shownAt := ?_
      once := shown_once_of_prepared registry ended
      recorded := by rw [rendered]
      timed := ?_ }
  · rw [journeyed]
    simp only [List.mem_append, List.mem_cons, List.not_mem_nil, or_false]
    rintro visit (before | rfl | rfl) error fails
    · exact sound visit before error fails
    · exact fails
    · exact fails
  · rw [journeyed]
    simp only [List.mem_append, List.mem_cons, List.not_mem_nil, or_false]
    rintro visit (before | rfl | rfl) isPublish
    · have stage_mem := List.mem_map_of_mem (f := Visit.stage) before
      rw [prepared, isPublish] at stage_mem
      exact absurd stage_mem (by decide)
    · exact ⟨rfl, rfl⟩
    · cases isPublish
  · intro spares
    have none : Measure.renderTime ∉
        Signal.measures ((pipeline.journey publish context).flatMap Visit.record) :=
      fun taken => spares.not_mem_record nofun nofun (Signal.mem_measures.mp taken)
    rw [rendered, Signal.measures, List.filterMap_append, List.count_append, ← Signal.measures,
      List.count_eq_zero.mpr none]
    rfl

/-- A render that a transform ends fails. -/
theorem failed_of_stopped {context : Context} {error : RenderError} {earlier : List Visit}
    {visit : Visit}
    (stopped : (pipeline.runStages publish preparation { context := context }).ending =
      .returned (.error error))
    (split : pipeline.visits publish preparation { context := context } = earlier ++ [visit])
    (begins : (earlier ++ [visit]).map Visit.stage <+: preparation)
    (fails : pipeline.renderer.FailsAt visit.stage visit.context error)
    (sound : ∀ visit ∈ earlier, ∀ error,
      ¬pipeline.renderer.FailsAt visit.stage visit.context error) :
    pipeline.Failed publish context error := by
  rcases renderWith_of_stopped stopped with ⟨journeyed, rendered⟩
  have entered := journeyed.trans split
  have isTransform : ∃ transform, visit.stage = .transform transform := by
    cases stage : visit.stage with
    | transform transform => exact ⟨transform, rfl⟩
    | _ =>
        rw [stage] at fails
        exact fails.elim
  rcases isTransform with ⟨transform, isTransform⟩
  rw [← entered] at begins
  have ahead : .highlight ∉ (pipeline.journey publish context).map Visit.stage ∧
      .publish ∉ (pipeline.journey publish context).map Visit.stage := by
    rw [entered, List.map_append, List.map_singleton, isTransform] at begins ⊢
    exact preparation_of_prefix begins
  refine
    { ending := by rw [rendered]
      last := ⟨earlier, visit, entered, fails, sound⟩
      entered := begins.trans ⟨_, stages_eq_append.symm⟩
      unshown := ahead.2
      silent := renderWith_congr_of_stopped stopped
      recorded := by rw [rendered]
      unmeasured := ?_ }
  · intro measure measure_mem spares taken
    rw [rendered] at taken
    refine spares.not_mem_record ?_ (fun isHighlight => ahead.1) (Signal.mem_measures.mp taken)
    intro hook interceptor same
    simp [same] at measure_mem

/-- What a render comes to is settled once the page is prepared. -/
theorem renderWith_cases (registry : pipeline.registry.Answers)
    (renderer : pipeline.renderer.Answers) (publish : Context → List Signal) (context : Context) :
    (∃ last, (pipeline.runStages publish preparation { context := context }).ending =
        .returned (.ok last) ∧ pipeline.Completed publish context last.context) ∨
      ∃ error, (pipeline.runStages publish preparation { context := context }).ending =
        .returned (.error error) ∧ pipeline.Failed publish context error := by
  rcases pipeline.runStages_cases publish registry renderer preparation { context := context } with
    ⟨last, prepared, stages, sound⟩ | ⟨error, earlier, visit, stopped, split, stages, fails, sound⟩
  · exact Or.inl ⟨last, prepared, completed_of_prepared registry prepared stages sound⟩
  · exact Or.inr ⟨error, stopped, failed_of_stopped stopped split stages fails sound⟩

/-- Two pipelines that differ only after the page is shown prepare it in the same way. -/
theorem runStages_preparation_of_registry (pipeline : Pipeline) (publish : Context → List Signal)
    {registry : Registry}
    (same : ∀ hook, hook ≠ .postRenderHtml →
      registry.interceptors hook = pipeline.registry.interceptors hook) (pass : Pass) :
    { pipeline with registry := registry }.runStages publish preparation pass =
      pipeline.runStages publish preparation pass := by
  refine (runStages_congr (fun stage ahead pass => ?_) pass).1
  cases stage with
  | hook hook =>
      have notLast : hook ≠ .postRenderHtml := by
        rintro rfl
        exact absurd ahead (by decide)
      simp only [runStage, Registry.run, same hook notLast]
  | transform transform => rfl
  | highlight => rfl
  | publish => rfl

/-- A render enters the stages in order. Either a transform fails, which ends it, or the page is
shown and is the result, whatever interceptors the last hook has. -/
theorem renderWith_staged {pipeline : Pipeline} (registry : pipeline.registry.Answers)
    (renderer : pipeline.renderer.Answers) (publish : Context → List Signal) (context : Context) :
    (pipeline.journey publish context).filterMap (fun visit => visit.stage.hook?) <+: Hook.all ∧
      ((∃ error, pipeline.Failed publish context error) ∨
        ∃ shown, pipeline.Completed publish context shown) ∧
      ∀ other : Registry, other.Answers →
        (∀ hook, hook ≠ .postRenderHtml →
          other.interceptors hook = pipeline.registry.interceptors hook) →
        ({ pipeline with registry := other }.renderWith publish context).ending =
          (pipeline.renderWith publish context).ending := by
  have cases := renderWith_cases registry renderer publish context
  refine ⟨?_, ?_, ?_⟩
  · have entered : (pipeline.journey publish context).map Visit.stage <+: stages := by
      rcases cases with ⟨last, -, completed⟩ | ⟨error, -, failed⟩
      · exact completed.entered ▸ List.prefix_rfl
      · exact failed.entered
    have hooks := entered.filterMap Stage.hook?
    rw [List.filterMap_map] at hooks
    exact hooks
  · rcases cases with ⟨last, -, completed⟩ | ⟨error, -, failed⟩
    · exact Or.inr ⟨_, completed⟩
    · exact Or.inl ⟨_, failed⟩
  · intro other answers same
    have prepared := runStages_preparation_of_registry pipeline publish same { context := context }
    rcases cases with ⟨last, ended, completed⟩ | ⟨error, ended, failed⟩
    · rw [← prepared] at ended
      rw [(renderWith_of_prepared answers ended).2, completed.ending]
    · rw [← prepared] at ended
      rw [(renderWith_of_stopped ended).2, failed.ending]

end Pipeline

/-- The interceptors of a hook after a registration are those of before and those that were
registered on the hook. -/
theorem Registry.mem_registerAll {registry : Registry} {entries : List (Interceptor × List Hook)}
    {hook : Hook} {interceptor : Interceptor} :
    interceptor ∈ (registry.registerAll entries).interceptors hook ↔
      interceptor ∈ registry.interceptors hook ∨
        ∃ entry ∈ entries, entry.1 = interceptor ∧ hook ∈ entry.2 := by
  unfold registerAll
  induction entries generalizing registry with
  | nil => simp
  | cons entry rest ih =>
      rw [List.foldl_cons, ih]
      by_cases among : hook ∈ entry.2
      · simp only [register, List.contains_iff_mem, among, if_true, List.mem_append,
          List.mem_singleton, List.exists_mem_cons_iff, and_true, or_assoc]
        simp only [eq_comm]
      · simp [register, among]

namespace Script

theorem returns_holdAll {conditions : List Condition}
    (steady : ∀ text, .panic text ∉ conditions) (hook : Hook) (context : Context) :
    (holdAll hook context conditions).Returns := by
  induction conditions with
  | nil => exact ⟨true, rfl⟩
  | cons condition rest ih =>
      have first : (holds hook context condition).Returns := by
        cases condition with
        | panic text => exact absurd List.mem_cons_self (steady text)
        | _ => exact ⟨_, rfl⟩
      refine first.bind fun answer => ?_
      split
      · exact ih fun text among => steady text (List.mem_cons_of_mem _ among)
      · exact ⟨false, rfl⟩

/-- A script answers unless one of its conditions breaks off. -/
theorem returns_isApplicable {script : Script} (steady : ∀ text, .panic text ∉ script.conditions)
    (hook : Hook) (context : Context) :
    (script.interceptor.isApplicable hook context).Returns :=
  (returns_holdAll steady hook context).bind fun answer => ⟨answer, rfl⟩

end Script

namespace Pipeline

/-- A plain renderer among interceptors that watch, fail and break off. -/
def troubled (failing : Option Transform) : Pipeline where
  renderer := .echo { failing := failing, detail := "no more" }
  registry := Registry.empty.registerAll
    [(.hookTrace, Hook.all),
      (Script.interceptor
        { name := "stubborn", conditions := [.htmlPresent true],
          actions := [.clearHtml, .fail "no"] }, Hook.all),
      (Script.interceptor
        { name := "brittle", actions := [.setHtml "", .panic none] },
        [.postPostProcess, .postRenderHtml])]
  highlighter := { markerClass := "highlighted" }

theorem answers_troubled (failing : Option Transform) :
    (troubled failing).registry.Answers ∧ (troubled failing).renderer.Answers := by
  constructor
  · intro hook interceptor registered context
    rcases Registry.mem_registerAll.mp registered with none | ⟨entry, entry_mem, rfl, -⟩
    · cases none
    · simp only [List.mem_cons, List.not_mem_nil, or_false] at entry_mem
      rcases entry_mem with rfl | rfl | rfl
      · exact ⟨true, rfl⟩
      · exact Script.returns_isApplicable (by simp) hook context
      · exact Script.returns_isApplicable (by simp) hook context
  · intro transform context
    cases transform <;> rcases failing with _ | _ | _ | _ <;> exact ⟨_, rfl⟩

/-- A failure of the second transform ends such a render; without one it completes, although the
last hook has interceptors that fail. -/
theorem renderWith_staged_of_troubled :
    ((troubled (some .process)).registry.Answers ∧ (troubled (some .process)).renderer.Answers ∧
        (troubled (some .process)).Failed (fun _ => [.mark .published])
          { markdown := "x", pagePath := "y" } (.markdown "no more")) ∧
      (troubled none).registry.Answers ∧ (troubled none).renderer.Answers ∧
        (troubled none).Completed (fun _ => [.mark .published])
          { markdown := "x", pagePath := "y" }
          { markdown := "x", pagePath := "y", parsedHtml := some "<p>x</p>" } := by
  rcases answers_troubled (some .process) with ⟨failing, failingRenderer⟩
  rcases answers_troubled none with ⟨sound, soundRenderer⟩
  refine ⟨⟨failing, failingRenderer, ?_⟩, sound, soundRenderer, ?_⟩
  · rcases (renderWith_staged failing failingRenderer (fun _ => [.mark .published])
      { markdown := "x", pagePath := "y" }).2.1 with ⟨error, failed⟩ | ⟨shown, completed⟩
    · cases failed.ending
      exact failed
    · cases completed.ending
  · rcases (renderWith_staged sound soundRenderer (fun _ => [.mark .published])
      { markdown := "x", pagePath := "y" }).2.1 with ⟨error, failed⟩ | ⟨shown, completed⟩
    · cases failed.ending
    · have ended : (renderWith (troubled none) (fun _ => [.mark .published])
          { markdown := "x", pagePath := "y" }).ending =
          .returned (.ok { markdown := "x", pagePath := "y", parsedHtml := some "<p>x</p>" }) := rfl
      have same := ended.symm.trans completed.ending
      cases same
      exact completed

end Pipeline

end PageRender
