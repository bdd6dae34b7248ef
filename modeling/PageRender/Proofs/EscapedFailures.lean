import PageRender.Proofs.HookRuns

/-!
# Failures that leave a hook

A hook calls its interceptors twice: all are asked whether they apply, and those that do are given the
context. Whatever goes wrong in the second call is contained. The first is not guarded: an interceptor
that breaks off when it is asked ends the run of its hook, and with it the render, before any
interceptor had its turn. So failures are contained exactly if every interceptor of the hook answers.
-/

namespace PageRender

/-- Whether an interceptor breaks off when it is asked whether it applies. -/
def Interceptor.breaksOff (hook : Hook) (context : Context) (interceptor : Interceptor) : Bool :=
  match (interceptor.isApplicable hook context).ending with
  | .returned _ => false
  | .panicked _ => true

theorem Interceptor.breaksOff_eq_false {hook : Hook} {context : Context} {interceptor : Interceptor}
    (answers : (interceptor.isApplicable hook context).Returns) :
    interceptor.breaksOff hook context = false := by
  rcases answers with ⟨answer, returned⟩
  rw [breaksOff, returned]

namespace Registry

variable {registry : Registry} {hook : Hook} {context : Context}

/-- Every failure at a hook is contained: the run gives the context that the interceptors come to that
neither fail nor break off, and one failure is counted for each that does, besides what the
interceptors count themselves. -/
structure Contains (registry : Registry) (hook : Hook) (context : Context) : Prop where
  ending : (registry.run hook context).ending =
    .returned ((registry.chosen hook context).foldl (Interceptor.successor hook) context)
  counted : ∀ name,
    (Signal.measures (registry.run hook context).signals).count (.interceptorFailure hook name) =
      (Signal.measures ((registry.calls hook context).flatMap (HookCall.ownSignals hook))).count
          (.interceptorFailure hook name) +
        (((registry.interceptors hook).filter (·.breaksOff hook context)).countP (·.name = name) +
          (registry.failures hook context).countP (·.interceptor = name))

/-- The first interceptor of a hook that breaks off when it is asked, behind those that answer. -/
structure BreaksAt (registry : Registry) (hook : Hook) (context : Context)
    (earlier : List Interceptor) (breaking : Interceptor) (payload : Option String) : Prop where
  registered : earlier ++ [breaking] <+: registry.interceptors hook
  answers : ∀ interceptor ∈ earlier, (interceptor.isApplicable hook context).Returns
  panicked : (breaking.isApplicable hook context).ending = .panicked payload

/-! ## Asking -/

/-- The questions before the one that breaks off are all that is left behind. -/
theorem applicable_of_panicked {earlier : List Interceptor}
    (answers : ∀ interceptor ∈ earlier, (interceptor.isApplicable hook context).Returns)
    {breaking : Interceptor} {payload : Option String}
    (panicked : (breaking.isApplicable hook context).ending = .panicked payload)
    (later : List Interceptor) :
    applicable hook context (earlier ++ breaking :: later) =
      ⟨(earlier ++ [breaking]).flatMap fun asked => (asked.isApplicable hook context).signals,
        .panicked payload⟩ := by
  induction earlier with
  | nil => simp [applicable, Reply.bind, panicked]
  | cons interceptor rest ih =>
      rcases List.forall_mem_cons.mp answers with ⟨⟨answer, returned⟩, others⟩
      rw [List.cons_append, applicable, Reply.bind_of_returned returned, ih others]
      rfl

theorem exists_first_panicked {interceptors : List Interceptor}
    (unanswered : ¬∀ interceptor ∈ interceptors, (interceptor.isApplicable hook context).Returns) :
    ∃ earlier breaking later payload, interceptors = earlier ++ breaking :: later ∧
      (∀ interceptor ∈ earlier, (interceptor.isApplicable hook context).Returns) ∧
      (breaking.isApplicable hook context).ending = .panicked payload := by
  induction interceptors with
  | nil => exact absurd (by simp) unanswered
  | cons interceptor rest ih =>
      -- The first that breaks off is this one, or it is the first of the rest and this one answers.
      cases asked : (interceptor.isApplicable hook context).ending with
      | panicked payload => exact ⟨[], interceptor, rest, payload, rfl, by simp, asked⟩
      | returned answer =>
          have restUnanswered : ¬∀ other ∈ rest, (other.isApplicable hook context).Returns :=
            fun others => unanswered (List.forall_mem_cons.mpr ⟨⟨answer, asked⟩, others⟩)
          rcases ih restUnanswered with ⟨earlier, breaking, later, payload, split, answers, panicked⟩
          exact ⟨interceptor :: earlier, breaking, later, payload, congrArg _ split,
            List.forall_mem_cons.mpr ⟨⟨answer, asked⟩, answers⟩, panicked⟩

theorem exists_breaksAt
    (unanswered : ¬∀ interceptor ∈ registry.interceptors hook,
      (interceptor.isApplicable hook context).Returns) :
    ∃ earlier breaking payload, registry.BreaksAt hook context earlier breaking payload := by
  rcases exists_first_panicked unanswered with
    ⟨earlier, breaking, later, payload, split, answers, panicked⟩
  exact ⟨earlier, breaking, payload, ⟨later, by simp [split]⟩, answers, panicked⟩

/-! ## The run -/

variable {earlier : List Interceptor} {breaking : Interceptor} {payload : Option String}

/-- The run ends where the question breaks off. No interceptor had its turn, and nothing is counted
or logged that the interceptors do not count or log themselves. -/
theorem BreaksAt.run_eq (breaks : registry.BreaksAt hook context earlier breaking payload) :
    registry.run hook context =
      ⟨(earlier ++ [breaking]).flatMap fun asked => (asked.isApplicable hook context).signals,
        .panicked payload⟩ := by
  rcases breaks.registered with ⟨later, split⟩
  rw [run, ← split, List.append_assoc, List.singleton_append,
    applicable_of_panicked breaks.answers breaks.panicked]
  rfl

theorem BreaksAt.not_contains (breaks : registry.BreaksAt hook context earlier breaking payload) :
    ¬registry.Contains hook context := by
  intro contains
  have ended := contains.ending
  rw [breaks.run_eq] at ended
  cases ended

theorem run_of_answers
    (answers : ∀ interceptor ∈ registry.interceptors hook,
      (interceptor.isApplicable hook context).Returns) :
    registry.run hook context =
      ⟨(registry.calls hook context).flatMap (HookCall.record hook),
        .returned ((registry.chosen hook context).foldl (Interceptor.successor hook) context)⟩ := by
  rw [run, applicable_eq answers, calls, List.flatMap_append]
  simp only [Reply.bind, attemptAll_eq, chosen]

theorem contains_of_answers
    (answers : ∀ interceptor ∈ registry.interceptors hook,
      (interceptor.isApplicable hook context).Returns) : registry.Contains hook context where
  ending := by rw [run_of_answers answers]
  counted name := by
    have unbroken : (registry.interceptors hook).filter (·.breaksOff hook context) = [] := by
      refine List.filter_eq_nil_iff.mpr fun interceptor registered => ?_
      simp [Interceptor.breaksOff_eq_false (answers interceptor registered)]
    rw [run_of_answers answers, unbroken, List.countP_nil, Nat.zero_add]
    exact count_flatMap_record name _

end Registry

namespace Pipeline

/-! ## The render -/

variable {pipeline : Pipeline} {publish : Context → List Signal} {hook : Hook}
  {payload : Option String}

/-- A hook whose run breaks off ends the stages that it stands among. -/
theorem runStages_of_panicked_run {ahead : List Stage} {pass : Pass} {visit : Visit}
    (entered : visit ∈ pipeline.visits publish ahead pass) (isHook : visit.stage = .hook hook)
    (panicked : (pipeline.registry.run hook visit.context).ending = .panicked payload) :
    (pipeline.runStages publish ahead pass).ending = .panicked payload := by
  induction ahead generalizing pass with
  | nil => cases entered
  | cons stage rest ih =>
      unfold visits at entered
      rcases List.mem_cons.mp entered with rfl | later
      · dsimp only at isHook panicked
        subst isHook
        simp [runStages, runStage, Reply.bind, Reply.tell, panicked]
      -- A later stage is entered only behind a stage that succeeded, so the render got that far.
      · cases ended : (pipeline.runStage publish pass stage).ending with
        | panicked _ => simp [ended] at later
        | returned outcome =>
            cases outcome with
            | error error => simp [ended] at later
            | ok next =>
                rw [ended] at later
                simpa [runStages, Reply.bind, Reply.tell, ended] using ih later

theorem renderWith_of_panicked_run {start : Context} {visit : Visit}
    (entered : visit ∈ pipeline.journey publish start) (isHook : visit.stage = .hook hook)
    (panicked : (pipeline.registry.run hook visit.context).ending = .panicked payload) :
    (pipeline.renderWith publish start).ending = .panicked payload := by
  have ended := runStages_of_panicked_run entered isHook panicked
  simp [renderWith, Reply.bind, ended]

end Pipeline

namespace Registry

/-- Failures at a hook are contained exactly if every interceptor of the hook answers whether it
applies to the context. Otherwise the first that breaks off instead ends the run and every render that
enters the hook with that context; no interceptor has its turn, and no failure is counted. -/
theorem contains_iff_answers (registry : Registry) (hook : Hook) (context : Context) :
    (registry.Contains hook context ↔ ∀ interceptor ∈ registry.interceptors hook,
      (interceptor.isApplicable hook context).Returns) ∧
    (¬registry.Contains hook context → ∃ earlier breaking payload,
      registry.BreaksAt hook context earlier breaking payload ∧
      registry.run hook context =
        ⟨(earlier ++ [breaking]).flatMap fun asked => (asked.isApplicable hook context).signals,
          .panicked payload⟩ ∧
      ∀ pipeline publish start, pipeline.registry = registry →
        (∃ visit ∈ Pipeline.journey pipeline publish start,
          visit.stage = .hook hook ∧ visit.context = context) →
        (pipeline.renderWith publish start).ending = .panicked payload) := by
  have contained : registry.Contains hook context ↔ ∀ interceptor ∈ registry.interceptors hook,
      (interceptor.isApplicable hook context).Returns := by
    refine ⟨fun contains => ?_, contains_of_answers⟩
    by_contra unanswered
    rcases exists_breaksAt unanswered with ⟨_, _, _, breaks⟩
    exact breaks.not_contains contains
  refine ⟨contained, fun escapes => ?_⟩
  rcases exists_breaksAt (mt contained.mpr escapes) with ⟨earlier, breaking, payload, breaks⟩
  refine ⟨earlier, breaking, payload, breaks, breaks.run_eq, ?_⟩
  rintro pipeline publish start rfl ⟨visit, entered, isHook, rfl⟩
  exact Pipeline.renderWith_of_panicked_run entered isHook (by rw [breaks.run_eq])

/-- Interceptors of one hook: one fails, one breaks off in its turn, and one breaks off when it is
asked, but only about the page that it minds. -/
def edgy : Registry :=
  Registry.empty.registerAll
    [(Script.interceptor { name := "fails", actions := [.setPath "lost", .fail "no"] },
        [.preRender]),
      (Script.interceptor
        { name := "minds", conditions := [.pagePath "deep", .panic "oh"] }, [.preRender]),
      (Script.interceptor { name := "breaks", actions := [.clearHtml, .panic none] },
        [.preRender]),
      (Script.interceptor { name := "adds", actions := [.appendMarkdown "y"] }, [.preRender])]

/-- On another page both failures are contained. On the page that it minds the question ends the run,
although one of the others would have done well, and it ends the render. -/
theorem contains_edgy_unminded :
    edgy.Contains .preRender { markdown := "x", pagePath := "flat" } ∧
      (edgy.run .preRender { markdown := "x", pagePath := "flat" }).ending =
        .returned { markdown := "xy", pagePath := "flat" } ∧
      ¬edgy.Contains .preRender { markdown := "x", pagePath := "deep" } ∧
      ∃ payload,
        (edgy.run .preRender { markdown := "x", pagePath := "deep" }).ending = .panicked payload ∧
        (({ renderer := .echo {}, registry := edgy, highlighter := {} } : Pipeline).renderWith
          (fun _ => []) { markdown := "x", pagePath := "deep" }).ending = .panicked payload := by
  have answers : ∀ interceptor ∈ edgy.interceptors .preRender,
      (interceptor.isApplicable .preRender { markdown := "x", pagePath := "flat" }).Returns := by
    intro interceptor registered
    simp only [edgy, mem_registerAll, List.mem_cons, List.not_mem_nil, or_false] at registered
    rcases registered with none | ⟨entry, rfl | rfl | rfl | rfl, rfl, -⟩
    · cases none
    all_goals exact ⟨_, rfl⟩
  have contains :=
    (contains_iff_answers edgy .preRender { markdown := "x", pagePath := "flat" }).1.mpr answers
  have escapes : ¬edgy.Contains .preRender { markdown := "x", pagePath := "deep" } := by
    intro contains
    cases contains.ending
  rcases (contains_iff_answers edgy .preRender { markdown := "x", pagePath := "deep" }).2 escapes with
    ⟨earlier, breaking, payload, -, ran, rendered⟩
  refine ⟨contains, ?_, escapes, payload, by rw [ran], ?_⟩
  · rw [contains.ending]
    rfl
  · exact rendered _ _ _ rfl ⟨_, List.mem_cons_self, rfl, rfl⟩

/-- A single interceptor that breaks off when it is asked is not passed over: the run gives no context,
and counts nothing. -/
theorem question_escapes_run :
    ((Registry.empty.register (Script.interceptor { name := "a", conditions := [.panic "oh"] })
        [.preRender]).run .preRender { markdown := "x", pagePath := "/" }).ending =
        .panicked (some "oh") ∧
      Signal.measures ((Registry.empty.register
        (Script.interceptor { name := "a", conditions := [.panic "oh"] })
        [.preRender]).run .preRender { markdown := "x", pagePath := "/" }).signals = [] ∧
      ¬(Registry.empty.register (Script.interceptor { name := "a", conditions := [.panic "oh"] })
        [.preRender]).Contains .preRender { markdown := "x", pagePath := "/" } := by
  refine ⟨rfl, rfl, fun contains => ?_⟩
  cases contains.ending

end Registry

end PageRender
