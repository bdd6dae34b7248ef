import PageRender.Proofs.RenderStages

/-!
# The order of registration

A registration names hooks in any order, some perhaps several times; the interceptor is put behind those
that each of these hooks already has, one hook after another and each of them once. After any
registrations a hook has the interceptors of exactly those that named it, once for each registration and
in the order of the registrations, and nothing that one hook has depends on what the others were given.
-/

namespace PageRender

theorem Hook.nodup_distinct (hooks : List Hook) : (Hook.distinct hooks).Nodup :=
  (by decide : Hook.all.Nodup).sublist List.filter_sublist

theorem Hook.count_distinct (hooks : List Hook) (hook : Hook) :
    (Hook.distinct hooks).count hook = if hook ∈ hooks then 1 else 0 := by
  rw [(Hook.nodup_distinct hooks).count]
  simp only [Hook.mem_distinct]

namespace Registry

/-- Puts an interceptor behind those of one hook. -/
def push (registry : Registry) (interceptor : Interceptor) (hook : Hook) : Registry :=
  ⟨Function.update registry.interceptors hook (registry.interceptors hook ++ [interceptor])⟩

/-- The interceptors of those registrations that name a hook, in the order of the registrations. -/
def registrants (entries : List (Interceptor × List Hook)) (hook : Hook) : List Interceptor :=
  (entries.filter fun entry => entry.2.contains hook).map Prod.fst

variable (registry : Registry) (interceptor : Interceptor)

/-! ## One registration -/

theorem interceptors_register (hooks : List Hook) (hook : Hook) :
    (registry.register interceptor hooks).interceptors hook =
      registry.interceptors hook ++ if hook ∈ hooks then [interceptor] else [] := by
  unfold register
  by_cases named : hook ∈ hooks <;> simp [named]

theorem interceptors_push (pushed hook : Hook) :
    (registry.push interceptor pushed).interceptors hook =
      registry.interceptors hook ++ if pushed = hook then [interceptor] else [] := by
  by_cases same : pushed = hook
  · subst same
    simp [push]
  · simp [push, Function.update_of_ne (Ne.symm same), same]

/-- Hook after hook, an interceptor is put to a hook as often as the hook comes up. -/
theorem interceptors_foldl_push (hooks : List Hook) (hook : Hook) :
    (hooks.foldl (push · interceptor ·) registry).interceptors hook =
      registry.interceptors hook ++ List.replicate (hooks.count hook) interceptor := by
  induction hooks generalizing registry with
  | nil => simp
  | cons first rest ih =>
      rw [List.foldl_cons, ih, interceptors_push, List.count_cons, List.append_assoc]
      refine congrArg _ ?_
      by_cases same : first = hook
      · simp [same, List.replicate_succ]
      · simp [same]

/-- A registration goes through its hooks in their order, each once. -/
theorem register_eq_foldl_push (hooks : List Hook) :
    registry.register interceptor hooks =
      (Hook.distinct hooks).foldl (push · interceptor ·) registry := by
  refine congrArg Registry.mk (funext fun hook => ?_)
  have registered := registry.interceptors_register interceptor hooks hook
  have pushed := registry.interceptors_foldl_push interceptor (Hook.distinct hooks) hook
  -- Without repetitions a hook comes up once or not at all.
  rw [Hook.count_distinct] at pushed
  refine registered.trans (Eq.trans ?_ pushed.symm)
  split <;> rfl

/-! ## Any registrations -/

theorem interceptors_registerAll (entries : List (Interceptor × List Hook)) (hook : Hook) :
    (registry.registerAll entries).interceptors hook =
      registry.interceptors hook ++ registrants entries hook := by
  induction entries generalizing registry with
  | nil => simp [registerAll, registrants]
  | cons entry rest ih =>
      have later := ih (registry.register entry.1 entry.2)
      rw [interceptors_register] at later
      refine later.trans ?_
      by_cases named : hook ∈ entry.2 <;> simp [registrants, named]

theorem registrants_eq_nil_iff {entries : List (Interceptor × List Hook)} {hook : Hook} :
    registrants entries hook = [] ↔ ∀ entry ∈ entries, hook ∉ entry.2 := by
  simp [registrants]

theorem isEmpty_iff : registry.isEmpty = true ↔ ∀ hook, registry.interceptors hook = [] := by
  simp [isEmpty, Hook.mem_all]

theorem isEmpty_registerAll_iff (entries : List (Interceptor × List Hook)) :
    (empty.registerAll entries).isEmpty = true ↔ ∀ entry ∈ entries, entry.2 = [] := by
  have lists : ∀ hook, (empty.registerAll entries).interceptors hook = registrants entries hook :=
    fun hook => (interceptors_registerAll empty entries hook).trans (List.nil_append _)
  simp only [isEmpty_iff, lists, registrants_eq_nil_iff]
  constructor
  · intro unnamed entry registered
    exact List.eq_nil_iff_forall_not_mem.mpr fun hook => unnamed hook entry registered
  · intro unnamed hook entry registered
    simp [unnamed entry registered]

/-- After any registrations a hook has the interceptors of exactly those that named it, once for each
and in their order. One more registration leaves what a hook has as it is and puts the interceptor
behind it, if it names the hook; it goes through its hooks in their order and through each once. The
registry is empty exactly if no registration named a hook. -/
theorem registerAll_in_order (entries : List (Interceptor × List Hook)) :
    (∀ hook, (empty.registerAll entries).interceptors hook = registrants entries hook) ∧
    (∀ interceptor hooks,
      empty.registerAll (entries ++ [(interceptor, hooks)]) =
          (Hook.distinct hooks).foldl (push · interceptor ·) (empty.registerAll entries) ∧
        ∀ hook, (empty.registerAll (entries ++ [(interceptor, hooks)])).interceptors hook =
          (empty.registerAll entries).interceptors hook ++
            if hook ∈ hooks then [interceptor] else []) ∧
    ((empty.registerAll entries).isEmpty = true ↔ ∀ entry ∈ entries, entry.2 = []) := by
  refine ⟨fun hook => ?_, fun interceptor hooks => ?_, isEmpty_registerAll_iff entries⟩
  · rw [interceptors_registerAll, empty, List.nil_append]
  · have last : empty.registerAll (entries ++ [(interceptor, hooks)]) =
        (empty.registerAll entries).register interceptor hooks := by
      rw [registerAll, List.foldl_append]
      rfl
    rw [last]
    exact ⟨register_eq_foldl_push _ _ _, interceptors_register _ _ _⟩

end Registry

end PageRender
