import PageRender.Page
import PageRender.Proofs.RenderStages

/-!
# Interceptors that change nothing

An interceptor is neutral if each of its calls fails, breaks off or gives back the context that it
was given. A registry with neutral interceptors put in at any places renders as without them: every
stage is entered with the same context and the render ends in the same way. What is left behind is
what would have been, with the calls of the neutral interceptors and their failures put in.
-/

namespace PageRender

/-- An interceptor that always answers and never gives back another context than it was given. -/
structure Interceptor.Neutral (interceptor : Interceptor) : Prop where
  answers : ∀ hook context, (interceptor.isApplicable hook context).Returns
  unchanged : ∀ hook context next,
    (interceptor.process hook context).ending = .returned (.ok next) → next = context

/-- The second list is the first with further elements put in, all of one kind. -/
inductive Padded {α : Type} (extra : α → Prop) : List α → List α → Prop
  | nil : Padded extra [] []
  | keep (item : α) {plain padded : List α} (rest : Padded extra plain padded) :
      Padded extra (item :: plain) (item :: padded)
  | add {item : α} (isExtra : extra item) {plain padded : List α}
      (rest : Padded extra plain padded) : Padded extra plain (item :: padded)

/-- An interceptor whose calls do not take a measure of their own accord. -/
def Interceptor.Spares (interceptor : Interceptor) (measure : Measure) : Prop :=
  ∀ hook context, .measure measure ∉ (interceptor.isApplicable hook context).signals ∧
    .measure measure ∉ (interceptor.process hook context).signals

namespace Padded

variable {α β : Type} {extra : α → Prop}

theorem refl (items : List α) : Padded extra items items := by
  induction items with
  | nil => exact nil
  | cons item rest ih => exact keep item ih

theorem append {plain padded plainRest paddedRest : List α} (front : Padded extra plain padded)
    (rest : Padded extra plainRest paddedRest) :
    Padded extra (plain ++ plainRest) (padded ++ paddedRest) := by
  induction front with
  | nil => exact rest
  | keep item _ ih => exact keep item ih
  | add isExtra _ ih => exact add isExtra ih

theorem append_left {plain padded front : List α} (added : ∀ item ∈ front, extra item)
    (rest : Padded extra plain padded) : Padded extra plain (front ++ padded) := by
  induction front with
  | nil => exact rest
  | cons item others ih =>
      rcases List.forall_mem_cons.mp added with ⟨isExtra, added⟩
      exact add isExtra (ih added)

theorem append_right {items back : List α} (added : ∀ item ∈ back, extra item) :
    Padded extra items (items ++ back) := by
  simpa using (refl items).append (append_left added nil)

theorem filterMap (choose : α → Option β) {plain padded : List α}
    (isPadded : Padded extra plain padded) :
    Padded (fun chosen => ∃ item, extra item ∧ choose item = some chosen)
      (plain.filterMap choose) (padded.filterMap choose) := by
  induction isPadded with
  | nil => exact nil
  | keep item _ ih =>
      cases chosen : choose item with
      | none => simpa [chosen] using ih
      | some value => simpa [chosen] using keep value ih
  | @add item isExtra _ _ _ ih =>
      cases chosen : choose item with
      | none => simpa [chosen] using ih
      | some value => simpa [chosen] using add ⟨item, isExtra, chosen⟩ ih

theorem count_eq [DecidableEq α] {item : α} (absent : ¬extra item) {plain padded : List α}
    (isPadded : Padded extra plain padded) : padded.count item = plain.count item := by
  induction isPadded with
  | nil => rfl
  | keep other _ ih => rw [List.count_cons, List.count_cons, ih]
  | @add other isExtra _ _ _ ih =>
      have different : other ≠ item := fun same => absent (same ▸ isExtra)
      rw [List.count_cons_of_ne different, ih]

theorem eq_of_none (none : ∀ item, ¬extra item) {plain padded : List α}
    (isPadded : Padded extra plain padded) : padded = plain := by
  induction isPadded with
  | nil => rfl
  | keep item _ ih => rw [ih]
  | add isExtra _ _ => exact absurd isExtra (none _)

end Padded

/-! ## Two runs side by side -/

/-- Two endings of one kind, with values that are related if they have any. -/
inductive Ending.Alike {α β : Type} (related : α → β → Prop) : Ending α → Ending β → Prop
  | returned {value : α} {other : β} (alike : related value other) :
      Alike related (.returned value) (.returned other)
  | panicked (payload : Option String) : Alike related (.panicked payload) (.panicked payload)

/-- Two replies that end alike, where the second leaves further signals behind. -/
structure Reply.Beside {α β : Type} (extra : Signal → Prop) (related : α → β → Prop)
    (plain : Reply α) (padded : Reply β) : Prop where
  signals : Padded extra plain.signals padded.signals
  ending : plain.ending.Alike related padded.ending

namespace Reply

variable {α β γ δ : Type} {extra : Signal → Prop} {related : α → β → Prop} {after : γ → δ → Prop}

theorem Beside.refl (reply : Reply α) : reply.Beside extra Eq reply where
  signals := .refl _
  ending := by
    cases reply.ending with
    | returned value => exact .returned rfl
    | panicked payload => exact .panicked payload

theorem Beside.bind {plain : Reply α} {padded : Reply β}
    (beside : plain.Beside extra related padded) {next : α → Reply γ} {nextPadded : β → Reply δ}
    (goesOn : ∀ value other, related value other →
      (next value).Beside extra after (nextPadded other)) :
    (plain.bind next).Beside extra after (padded.bind nextPadded) := by
  rcases plain with ⟨signals, ending⟩
  rcases padded with ⟨paddedSignals, paddedEnding⟩
  rcases beside with ⟨padding, alike⟩
  cases alike with
  | returned alike =>
      exact ⟨padding.append (goesOn _ _ alike).signals, (goesOn _ _ alike).ending⟩
  | panicked payload => exact ⟨padding, .panicked payload⟩

/-- A call that gives a value may be put in before a run. -/
theorem Returns.beside_bind {plain : Reply γ} {added : Reply α} (returns : added.Returns)
    (isExtra : ∀ signal ∈ added.signals, extra signal) {next : α → Reply δ}
    (goesOn : ∀ value, plain.Beside extra after (next value)) :
    plain.Beside extra after (added.bind next) := by
  rcases returns with ⟨value, returned⟩
  rw [bind_of_returned returned]
  exact ⟨.append_left isExtra (goesOn value).signals, (goesOn value).ending⟩

/-- What the second run gives may be changed, if it stays related. -/
theorem Beside.map_right {plain : Reply α} {padded : Reply β}
    (beside : plain.Beside extra related padded) {change : β → γ} {changed : α → γ → Prop}
    (keeps : ∀ value other, related value other → changed value (change other)) :
    plain.Beside extra changed (padded.bind fun other => .pure (change other)) := by
  rcases plain with ⟨signals, ending⟩
  rcases padded with ⟨paddedSignals, paddedEnding⟩
  rcases beside with ⟨padding, alike⟩
  cases alike with
  | returned alike =>
      exact ⟨by simpa [Reply.bind, Reply.pure] using padding, .returned (keeps _ _ alike)⟩
  | panicked payload => exact ⟨padding, .panicked payload⟩

theorem Beside.ending_eq {plain padded : Reply α} (beside : plain.Beside extra Eq padded) :
    padded.ending = plain.ending := by
  rcases beside with ⟨-, alike⟩
  cases plainEnding : plain.ending <;> cases paddedEnding : padded.ending <;>
    rw [plainEnding, paddedEnding] at alike <;> cases alike
  · rename_i same
    rw [same]
  · rfl

end Reply

/-- The failure of an interceptor's call, if it fails or breaks off. -/
def Ending.failure? : Ending (Except InterceptorError Context) → Option InterceptorError
  | .returned (.ok _) => none
  | .returned (.error error) => some error
  | .panicked payload => some (.panicked (Reply.payloadText payload))

/-- The signals that some interceptors leave behind: what their calls give themselves, and the log
entry and the count of each call that fails. -/
inductive LeftBy (members : Interceptor → Prop) : Signal → Prop
  | asked {member : Interceptor} (isMember : members member) (hook : Hook) (context : Context)
      {signal : Signal} (own : signal ∈ (member.isApplicable hook context).signals) :
      LeftBy members signal
  | processed {member : Interceptor} (isMember : members member) (hook : Hook) (context : Context)
      {signal : Signal} (own : signal ∈ (member.process hook context).signals) :
      LeftBy members signal
  | failed {member : Interceptor} (isMember : members member) (hook : Hook) (context : Context)
      {error : InterceptorError}
      (fails : (member.process hook context).ending.failure? = some error)
      {signal : Signal} (told : signal ∈ Registry.failureSignals hook member context error) :
      LeftBy members signal

variable {members : Interceptor → Prop}

namespace Registry

/-! ## One hook -/

theorem attempt_eq (hook : Hook) (interceptor : Interceptor) (context : Context) :
    (attempt hook interceptor context).1 =
      (interceptor.process hook context).signals ++
        ((interceptor.process hook context).ending.failure?.elim []
          (failureSignals hook interceptor context)) := by
  unfold attempt
  dsimp only
  split <;> rename_i ended <;> simp [ended, Ending.failure?]

/-- An attempt of a neutral interceptor leaves the context as it was. -/
theorem attempt_neutral {interceptor : Interceptor} (neutral : interceptor.Neutral) (hook : Hook)
    (context : Context) : (attempt hook interceptor context).2 = context := by
  unfold attempt
  dsimp only
  split
  · rename_i next ended
    exact neutral.unchanged hook context next ended
  · rfl
  · rfl

theorem leftBy_attempt {interceptor : Interceptor} (isMember : members interceptor) (hook : Hook)
    (context : Context) :
    ∀ signal ∈ (attempt hook interceptor context).1, LeftBy members signal := by
  intro signal left
  rw [attempt_eq, List.mem_append] at left
  rcases left with own | told
  · exact .processed isMember hook context own
  · cases fails : (interceptor.process hook context).ending.failure? with
    | none => simp [fails] at told
    | some error => exact .failed isMember hook context fails (by simpa [fails] using told)

theorem attemptAll_padded (neutral : ∀ interceptor, members interceptor → interceptor.Neutral)
    {plain padded : List Interceptor} (isPadded : Padded members plain padded) (hook : Hook)
    (context : Context) :
    Padded (LeftBy members) (attemptAll hook plain context).1 (attemptAll hook padded context).1 ∧
      (attemptAll hook padded context).2 = (attemptAll hook plain context).2 := by
  induction isPadded generalizing context with
  | nil => exact ⟨.nil, rfl⟩
  | keep interceptor _ ih =>
      rcases ih (attempt hook interceptor context).2 with ⟨signals, same⟩
      exact ⟨(Padded.refl _).append signals, same⟩
  | @add interceptor isMember _ _ _ ih =>
      simp only [attemptAll, attempt_neutral (neutral interceptor isMember)]
      rcases ih context with ⟨signals, same⟩
      exact ⟨.append_left (leftBy_attempt isMember hook context) signals, same⟩

theorem applicable_padded (neutral : ∀ interceptor, members interceptor → interceptor.Neutral)
    {plain padded : List Interceptor} (isPadded : Padded members plain padded) (hook : Hook)
    (context : Context) :
    (applicable hook context plain).Beside (LeftBy members) (Padded members)
      (applicable hook context padded) := by
  induction isPadded with
  | nil => exact ⟨.nil, .returned .nil⟩
  | keep interceptor _ ih =>
      refine (Reply.Beside.refl _).bind ?_
      rintro answer _ rfl
      refine ih.bind fun chosen chosenPadded padded => ⟨.nil, .returned ?_⟩
      split
      · exact padded.keep interceptor
      · exact padded
  | @add interceptor isMember _ _ _ ih =>
      refine ((neutral interceptor isMember).answers hook context).beside_bind
        (fun signal own => .asked isMember hook context own) fun answer => ?_
      refine ih.map_right fun chosen chosenPadded padded => ?_
      split
      · exact padded.add isMember
      · exact padded

/-- At a hook neutral interceptors make no difference to the context that comes out. -/
theorem run_padded (neutral : ∀ interceptor, members interceptor → interceptor.Neutral)
    {plain padded : Registry} {hook : Hook}
    (isPadded : Padded members (plain.interceptors hook) (padded.interceptors hook))
    (context : Context) :
    (plain.run hook context).Beside (LeftBy members) Eq (padded.run hook context) := by
  refine (applicable_padded neutral isPadded hook context).bind fun chosen chosenPadded padded => ?_
  rcases attemptAll_padded neutral padded hook context with ⟨signals, same⟩
  exact ⟨signals, .returned same.symm⟩

/-- An interceptor is put in when it is registered. -/
theorem padded_register (registry : Registry) {interceptor : Interceptor}
    (isMember : members interceptor) (hooks : List Hook) (hook : Hook) :
    Padded members (registry.interceptors hook)
      ((registry.register interceptor hooks).interceptors hook) := by
  unfold register
  dsimp only
  split
  · exact .append_right (by simpa using isMember)
  · exact .refl _

end Registry

/-- A stage with the context that it is entered with. -/
def Visit.entry (visit : Visit) : Stage × Context :=
  (visit.stage, visit.context)

namespace Pipeline

variable {pipeline : Pipeline} {registry : Registry}

/-! ## A whole render -/

theorem runStage_padded (neutral : ∀ interceptor, members interceptor → interceptor.Neutral)
    (isPadded : ∀ hook,
      Padded members (pipeline.registry.interceptors hook) (registry.interceptors hook))
    (publish : Context → List Signal) (pass : Pass) (stage : Stage) :
    (pipeline.runStage publish pass stage).Beside (LeftBy members) Eq
      ({ pipeline with registry := registry }.runStage publish pass stage) := by
  cases stage with
  | hook hook =>
      refine (Registry.run_padded neutral (isPadded hook) pass.context).bind ?_
      rintro context _ rfl
      exact .refl _
  | transform transform => exact .refl _
  | highlight => exact .refl _
  | publish => exact .refl _

/-- The stages ahead come to the same with neutral interceptors as without. -/
theorem runStages_padded (neutral : ∀ interceptor, members interceptor → interceptor.Neutral)
    (isPadded : ∀ hook,
      Padded members (pipeline.registry.interceptors hook) (registry.interceptors hook))
    (publish : Context → List Signal) (ahead : List Stage) (pass : Pass) :
    (pipeline.runStages publish ahead pass).Beside (LeftBy members) Eq
        ({ pipeline with registry := registry }.runStages publish ahead pass) ∧
      ({ pipeline with registry := registry }.visits publish ahead pass).map Visit.entry =
        (pipeline.visits publish ahead pass).map Visit.entry := by
  induction ahead generalizing pass with
  | nil => exact ⟨.refl _, rfl⟩
  | cons stage rest ih =>
      have first := runStage_padded neutral isPadded publish pass stage
      constructor
      · refine (Reply.Beside.refl _).bind fun _ _ _ => first.bind ?_
        rintro outcome _ rfl
        cases outcome with
        | ok next => exact (ih next).1
        | error error => exact .refl _
      · unfold visits
        rw [List.map_cons, List.map_cons, first.ending_eq]
        refine congrArg₂ List.cons rfl ?_
        split
        · exact (ih _).2
        · rfl

theorem renderWith_padded (neutral : ∀ interceptor, members interceptor → interceptor.Neutral)
    (isPadded : ∀ hook,
      Padded members (pipeline.registry.interceptors hook) (registry.interceptors hook))
    (publish : Context → List Signal) (context : Context) :
    (pipeline.renderWith publish context).Beside (LeftBy members) Eq
      ({ pipeline with registry := registry }.renderWith publish context) := by
  refine (runStages_padded neutral isPadded publish stages _).1.bind ?_
  rintro outcome _ rfl
  cases outcome with
  | ok pass => exact .refl _
  | error error => exact .refl _

end Pipeline

/-- The interceptor that logs the hooks is neutral, and takes no measure. -/
theorem Interceptor.neutral_hookTrace : Interceptor.hookTrace.Neutral where
  answers _ _ := ⟨true, rfl⟩
  unchanged _ _ _ ended := by
    cases ended
    rfl

theorem not_leftBy_hookTrace (measure : Measure) :
    ¬LeftBy (· = Interceptor.hookTrace) (.measure measure) := by
  intro left
  cases left with
  | asked isMember hook context own =>
      subst isMember
      cases own
  | processed isMember hook context own =>
      subst isMember
      simp [Interceptor.hookTrace] at own
  | failed isMember hook context fails told =>
      subst isMember
      cases fails

/-- Logging the hooks changes neither what a render comes to nor any measure. -/
theorem PageSettings.renderWith_traceHooks (settings : PageSettings)
    (publish : Context → List Signal) (context : Context) :
    let traced := { settings with traceHooks := true }.assemble.2.renderWith publish context
    let plain := { settings with traceHooks := false }.assemble.2.renderWith publish context
    traced.ending = plain.ending ∧
      Signal.measures traced.signals = Signal.measures plain.signals := by
  have neutral : ∀ interceptor, interceptor = Interceptor.hookTrace → interceptor.Neutral := by
    rintro _ rfl
    exact Interceptor.neutral_hookTrace
  have isPadded : ∀ hook, Padded (· = Interceptor.hookTrace)
      ({ settings with traceHooks := false }.assemble.2.registry.interceptors hook)
      ((Registry.empty.register .hookTrace Hook.all).interceptors hook) :=
    fun hook => Registry.empty.padded_register (by rfl) Hook.all hook
  have beside := Pipeline.renderWith_padded neutral isPadded publish context
  refine ⟨beside.ending_eq, ?_⟩
  refine (beside.signals.filterMap _).eq_of_none ?_
  rintro measure ⟨signal, left, taken⟩
  split at taken
  · cases taken
    exact not_leftBy_hookTrace _ left
  · cases taken

theorem LeftBy.measure_inv {measure : Measure} (left : LeftBy members (.measure measure))
    (spares : ∀ interceptor, members interceptor → interceptor.Spares measure) :
    ∃ hook interceptor, measure = .interceptorFailure hook interceptor := by
  cases left with
  | asked isMember hook context own => exact absurd own (spares _ isMember hook context).1
  | processed isMember hook context own => exact absurd own (spares _ isMember hook context).2
  | failed isMember hook context fails told =>
      simp only [Registry.failureSignals, List.mem_cons, List.not_mem_nil, or_false,
        Signal.measure.injEq, reduceCtorEq, false_or] at told
      exact ⟨_, _, told⟩

/-- Neutral interceptors that are put in anywhere change neither what a render comes to nor the
contexts that the stages see. They add what they leave behind themselves, and of the measures only
the counts of their own failures. -/
theorem renderWith_unchanged_by_neutral
    (neutral : ∀ interceptor, members interceptor → interceptor.Neutral)
    {pipeline : Pipeline} {registry : Registry}
    (isPadded : ∀ hook,
      Padded members (pipeline.registry.interceptors hook) (registry.interceptors hook))
    (publish : Context → List Signal) (context : Context) :
    let padded := { pipeline with registry := registry }
    ((padded.renderWith publish context).ending = (pipeline.renderWith publish context).ending ∧
      (padded.journey publish context).map Visit.entry =
        (pipeline.journey publish context).map Visit.entry ∧
      Padded (LeftBy members) (pipeline.renderWith publish context).signals
        (padded.renderWith publish context).signals ∧
      ∀ measure, (∀ hook name, measure ≠ .interceptorFailure hook name) →
        (∀ interceptor, members interceptor → interceptor.Spares measure) →
        (Signal.measures (padded.renderWith publish context).signals).count measure =
          (Signal.measures (pipeline.renderWith publish context).signals).count measure) ∧
    ∀ settings : PageSettings,
      let traced := { settings with traceHooks := true }.assemble.2.renderWith publish context
      let plain := { settings with traceHooks := false }.assemble.2.renderWith publish context
      traced.ending = plain.ending ∧
        Signal.measures traced.signals = Signal.measures plain.signals := by
  have beside := Pipeline.renderWith_padded neutral isPadded publish context
  refine ⟨⟨beside.ending_eq, ?_, beside.signals, ?_⟩, ?_⟩
  · exact (Pipeline.runStages_padded neutral isPadded publish Pipeline.stages _).2
  · intro measure own spares
    refine (beside.signals.filterMap _).count_eq ?_
    rintro ⟨signal, left, taken⟩
    split at taken
    · cases taken
      rcases left.measure_inv spares with ⟨hook, interceptor, same⟩
      exact own hook interceptor same
    · cases taken
  · exact fun settings => settings.renderWith_traceHooks publish context

namespace Pipeline

def tagging : Interceptor :=
  Script.interceptor { name := "tagging", actions := [.tagHtml, .tagMarkdown] }

/-- Changes the markup and then fails, so that the change is dropped. -/
def giveUp : Interceptor :=
  Script.interceptor { name := "give-up", actions := [.setHtml "lost", .fail "no"] }

/-- Clears the markup and then breaks off. -/
def breakOff : Interceptor :=
  Script.interceptor { name := "break-off", actions := [.clearHtml, .panic none] }

def tagged : Pipeline where
  renderer := .echo {}
  registry := Registry.empty.registerAll [(tagging, [.postPreProcess, .preRenderHtml])]
  highlighter := { markerClass := "highlighted" }

def disturbed : Registry :=
  Registry.empty.registerAll
    [(giveUp, [.postPreProcess, .postRenderHtml]), (tagging, [.postPreProcess, .preRenderHtml]),
      (.hookTrace, Hook.all), (breakOff, [.preRenderHtml])]

/-- An interceptor that tags the page renders the same page among others that give up, break off
or only watch. -/
theorem renderWith_tagged_of_disturbed :
    (∀ interceptor ∈ [giveUp, breakOff, .hookTrace], interceptor.Neutral) ∧
      (∀ hook, Padded (· ∈ [giveUp, breakOff, .hookTrace]) (tagged.registry.interceptors hook)
        (disturbed.interceptors hook)) ∧
      ({ tagged with registry := disturbed }.renderWith (fun _ => [])
          { markdown := "x", pagePath := "y" }).ending =
        .returned (.ok
          { markdown := "x[postPreProcess][preRenderHtml]", pagePath := "y",
            parsedHtml := some "<p>x[postPreProcess]</p><!--preRenderHtml-->" }) := by
  have neutral : ∀ interceptor ∈ [giveUp, breakOff, .hookTrace], interceptor.Neutral := by
    intro interceptor member
    simp only [List.mem_cons, List.not_mem_nil, or_false] at member
    rcases member with rfl | rfl | rfl
    · exact ⟨Script.returns_isApplicable (by simp), fun hook context next ended => by cases ended⟩
    · exact ⟨Script.returns_isApplicable (by simp), fun hook context next ended => by cases ended⟩
    · exact Interceptor.neutral_hookTrace
  have isPadded : ∀ hook, Padded (· ∈ [giveUp, breakOff, .hookTrace])
      (tagged.registry.interceptors hook) (disturbed.interceptors hook) := by
    intro hook
    cases hook with
    | postPreProcess => exact .add (by simp) (.keep _ (.add (by simp) .nil))
    | preRenderHtml => exact .keep _ (.add (by simp) (.add (by simp) .nil))
    | postRenderHtml => exact .add (by simp) (.add (by simp) .nil)
    | _ => exact .add (by simp) .nil
  have same := (renderWith_unchanged_by_neutral neutral isPadded (fun _ => [])
    { markdown := "x", pagePath := "y" }).1.1
  exact ⟨neutral, isPadded, same.trans rfl⟩

end Pipeline

end PageRender
