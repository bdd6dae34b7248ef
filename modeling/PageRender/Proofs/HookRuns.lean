import PageRender.Proofs.NeutralInterceptors

/-!
# The run of a hook

At a hook every interceptor is asked once, in the order of registration and about the context that
comes in. Only then do those that apply have their turns, each with the context that the last success
left. The calls of a run are listed here in that order. What a run leaves behind is what its calls
leave: the signals of the interceptors themselves and, right behind each attempt that fails, one
warning and one count.
-/

namespace PageRender

namespace Interceptor

/-- Whether an interceptor answers that it applies. -/
def applies (hook : Hook) (context : Context) (interceptor : Interceptor) : Bool :=
  match (interceptor.isApplicable hook context).ending with
  | .returned answer => answer
  | .panicked _ => false

/-- The context after the turn of an interceptor: the one that it gives back if it succeeds, and else
the one that it was given. -/
def successor (hook : Hook) (context : Context) (interceptor : Interceptor) : Context :=
  match (interceptor.process hook context).ending with
  | .returned (.ok next) => next
  | _ => context

end Interceptor

/-- A call at a hook, with the context that the interceptor is given. -/
inductive HookCall where
  | asked (interceptor : Interceptor) (context : Context)
  | processed (interceptor : Interceptor) (context : Context)

/-- An attempt that failed: whose it was, on which page, and how it failed. -/
structure HookFailure where
  interceptor : String
  pagePath : String
  error : InterceptorError
  deriving DecidableEq

namespace HookFailure

/-- The entry in the log that tells of a failure. -/
def warning (hook : Hook) (failure : HookFailure) : Event :=
  .interceptorFailed hook failure.interceptor failure.pagePath failure.error

/-- What is left behind of a failure: one warning, and one count for the hook and the interceptor. -/
def signals (hook : Hook) (failure : HookFailure) : List Signal :=
  [.event (failure.warning hook), .measure (.interceptorFailure hook failure.interceptor)]

end HookFailure

namespace HookCall

/-- The failure of a call, if it is an attempt that fails or breaks off. -/
def failure? (hook : Hook) : HookCall → Option HookFailure
  | asked _ _ => none
  | processed interceptor context =>
      (interceptor.process hook context).ending.failure?.map
        (HookFailure.mk interceptor.name context.pagePath)

/-- The signals that the interceptor gives itself. -/
def ownSignals (hook : Hook) : HookCall → List Signal
  | asked interceptor context => (interceptor.isApplicable hook context).signals
  | processed interceptor context => (interceptor.process hook context).signals

/-- What is left behind of a call. -/
def record (hook : Hook) (call : HookCall) : List Signal :=
  call.ownSignals hook ++ (call.failure? hook).elim [] (HookFailure.signals hook)

end HookCall

namespace Signal

/-- The warnings among signals, in order. -/
def warnings (signals : List Signal) : List Event :=
  signals.filterMap fun signal =>
    match signal with
    | .event entry => if entry.level = .warn then some entry else none
    | _ => none

@[simp]
theorem warnings_append (front rest : List Signal) :
    warnings (front ++ rest) = warnings front ++ warnings rest :=
  List.filterMap_append

@[simp]
theorem measures_append (front rest : List Signal) :
    measures (front ++ rest) = measures front ++ measures rest :=
  List.filterMap_append

end Signal

namespace Registry

variable {hook : Hook} {context : Context}

/-- The attempts of interceptors one after another, each on the context that folding over those
before comes to. -/
def attempts (hook : Hook) (context : Context) (interceptors : List Interceptor) :
    List HookCall :=
  interceptors.zipWith HookCall.processed
    (interceptors.scanl (Interceptor.successor hook) context)

/-- The interceptors of a hook that apply to a context, in the order of registration. -/
def chosen (registry : Registry) (hook : Hook) (context : Context) : List Interceptor :=
  (registry.interceptors hook).filter (·.applies hook context)

/-- The calls of a run at a hook: all interceptors are asked about the context that comes in, and
then those that apply have their turns. -/
def calls (registry : Registry) (hook : Hook) (context : Context) : List HookCall :=
  (registry.interceptors hook).map (HookCall.asked · context) ++
    attempts hook context (registry.chosen hook context)

/-- The failures of a run at a hook, in order. -/
def failures (registry : Registry) (hook : Hook) (context : Context) : List HookFailure :=
  (registry.calls hook context).filterMap (HookCall.failure? hook)

/-! ## The run -/

theorem applicable_eq {interceptors : List Interceptor}
    (answers : ∀ interceptor ∈ interceptors, (interceptor.isApplicable hook context).Returns) :
    applicable hook context interceptors =
      ⟨(interceptors.map (HookCall.asked · context)).flatMap (HookCall.record hook),
        .returned (interceptors.filter (·.applies hook context))⟩ := by
  induction interceptors with
  | nil => rfl
  | cons interceptor rest ih =>
      rcases List.forall_mem_cons.mp answers with ⟨⟨answer, returned⟩, others⟩
      have applies : interceptor.applies hook context = answer := by
        rw [Interceptor.applies, returned]
      rw [applicable, Reply.bind_of_returned returned, ih others]
      cases answer <;>
        simp [Reply.bind, Reply.pure, applies, HookCall.record, HookCall.ownSignals,
          HookCall.failure?]

theorem attempt_eq_record (interceptor : Interceptor) :
    attempt hook interceptor context =
      ((HookCall.processed interceptor context).record hook,
        interceptor.successor hook context) := by
  refine Prod.ext ?_ ?_
  · rw [attempt_eq, HookCall.record, HookCall.ownSignals, HookCall.failure?]
    cases (interceptor.process hook context).ending.failure? <;> rfl
  · unfold attempt Interceptor.successor
    dsimp only
    split <;> rename_i ended <;> simp only [ended]

theorem attemptAll_eq (interceptors : List Interceptor) :
    attemptAll hook interceptors context =
      ((attempts hook context interceptors).flatMap (HookCall.record hook),
        interceptors.foldl (Interceptor.successor hook) context) := by
  induction interceptors generalizing context with
  | nil => rfl
  | cons interceptor rest ih => simp [attemptAll, attempt_eq_record, attempts, ih]

theorem warnings_flatMap_record {calls : List HookCall}
    (quiet : Signal.warnings (calls.flatMap (HookCall.ownSignals hook)) = []) :
    Signal.warnings (calls.flatMap (HookCall.record hook)) =
      (calls.filterMap (HookCall.failure? hook)).map (HookFailure.warning hook) := by
  induction calls with
  | nil => rfl
  | cons call calls ih =>
      rw [List.flatMap_cons, Signal.warnings_append, List.append_eq_nil_iff] at quiet
      rcases quiet with ⟨own, others⟩
      rw [List.flatMap_cons, Signal.warnings_append, HookCall.record, Signal.warnings_append, own,
        ih others, List.filterMap_cons]
      cases call.failure? hook <;> rfl

theorem count_flatMap_record (name : String) (calls : List HookCall) :
    (Signal.measures (calls.flatMap (HookCall.record hook))).count (.interceptorFailure hook name) =
      (Signal.measures (calls.flatMap (HookCall.ownSignals hook))).count
          (.interceptorFailure hook name) +
        (calls.filterMap (HookCall.failure? hook)).countP (·.interceptor = name) := by
  induction calls with
  | nil => rfl
  | cons call calls ih =>
      simp only [List.flatMap_cons, Signal.measures_append, HookCall.record, List.count_append, ih,
        List.filterMap_cons]
      cases call.failure? hook with
      | none => simp [Signal.measures]; omega
      | some failure =>
          by_cases own : failure.interceptor = name
          · simp [HookFailure.signals, Signal.measures, own]; omega
          · simp [HookFailure.signals, Signal.measures, own]; omega

/-- A run at a hook comes to the fold over the interceptors that apply to the context that comes in,
and leaves behind what its calls leave. So where no interceptor warns by itself, the warnings are
those of the failed attempts in order, and of the counts for the hook and a name there are as many
more as failed attempts of interceptors of that name. -/
theorem run_eq_fold (registry : Registry) {hook : Hook} {context : Context}
    (answers : ∀ interceptor ∈ registry.interceptors hook,
      (interceptor.isApplicable hook context).Returns) :
    registry.run hook context =
        ⟨(registry.calls hook context).flatMap (HookCall.record hook),
          .returned ((registry.chosen hook context).foldl (Interceptor.successor hook) context)⟩ ∧
      (Signal.warnings ((registry.calls hook context).flatMap (HookCall.ownSignals hook)) = [] →
        Signal.warnings (registry.run hook context).signals =
          (registry.failures hook context).map (HookFailure.warning hook)) ∧
      ∀ name, (Signal.measures (registry.run hook context).signals).count
          (.interceptorFailure hook name) =
        (Signal.measures ((registry.calls hook context).flatMap
            (HookCall.ownSignals hook))).count (.interceptorFailure hook name) +
          (registry.failures hook context).countP (·.interceptor = name) := by
  have ran : registry.run hook context =
      ⟨(registry.calls hook context).flatMap (HookCall.record hook),
        .returned ((registry.chosen hook context).foldl (Interceptor.successor hook) context)⟩ := by
    rw [run, applicable_eq answers, calls, List.flatMap_append]
    simp only [Reply.bind, attemptAll_eq, chosen]
  refine ⟨ran, fun quiet => ?_, fun name => ?_⟩
  · rw [ran]
    exact warnings_flatMap_record quiet
  · rw [ran]
    exact count_flatMap_record name _

/-- Interceptors of one hook, two of them of one name: one changes the page after the first failure,
and one does not apply to the context that comes in, although it would to a later one. -/
def quarrel : Registry :=
  Registry.empty.registerAll
    [(Script.interceptor { name := "twin", actions := [.setPath "lost", .fail "no"] },
        [.preRender]),
      (Script.interceptor { name := "mover", actions := [.setPath "moved"] },
        [.preRender, .preRender]),
      (Script.interceptor
        { name := "late", conditions := [.pagePath "moved"], actions := [.panic none] },
        [.preRender]),
      (Script.interceptor { name := "twin", actions := [.clearHtml, .panic (some "oh")] },
        [.preRender])]

/-- Both failures of the interceptors of one name are told and counted, each with the page of its
time, and the one that applies too late does not run. -/
theorem run_quarrel :
    (∀ interceptor ∈ quarrel.interceptors .preRender,
        (interceptor.isApplicable .preRender { markdown := "x", pagePath := "y" }).Returns) ∧
      (quarrel.run .preRender { markdown := "x", pagePath := "y" }).ending =
        .returned { markdown := "x", pagePath := "moved" } ∧
      Signal.warnings (quarrel.run .preRender { markdown := "x", pagePath := "y" }).signals =
        [.interceptorFailed .preRender "twin" "y" (.failed "no"),
          .interceptorFailed .preRender "twin" "moved" (.panicked "oh")] ∧
      (Signal.measures (quarrel.run .preRender { markdown := "x", pagePath := "y" }).signals).count
        (.interceptorFailure .preRender "twin") = 2 := by
  have answers : ∀ interceptor ∈ quarrel.interceptors .preRender,
      (interceptor.isApplicable .preRender { markdown := "x", pagePath := "y" }).Returns := by
    intro interceptor registered
    simp only [quarrel, mem_registerAll, List.mem_cons, List.not_mem_nil, or_false] at registered
    rcases registered with none | ⟨entry, rfl | rfl | rfl | rfl, rfl, -⟩
    · cases none
    all_goals exact Script.returns_isApplicable (by simp) _ _
  rcases run_eq_fold quarrel answers with ⟨ran, warned, counted⟩
  refine ⟨answers, ?_, ?_, ?_⟩
  · rw [ran]
    rfl
  · rw [warned rfl]
    rfl
  · rw [counted "twin"]
    rfl

end Registry

end PageRender
