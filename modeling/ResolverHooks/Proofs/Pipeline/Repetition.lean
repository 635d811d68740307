import ResolverHooks.Proofs.Pipeline.Provision

/-!
A run that is repeated. What its entities share is there already and is left alone; the first of
their resolvers is gone, so that the run stops there, with nothing done.
-/
namespace ResolverHooks

namespace Graph

variable {g : Graph} {s : Settings} {i : Identity} {step : HookStep} {dataSourceId group : String}

theorem ensured_of_contains (hrole : g.contains (.str i.roleId) = true)
    (hds : g.contains (.str i.dataSourceId) = true) : g.ensured s i = g := by
  rw [ensured_eq, provide_of_contains hrole, provide_of_contains hds]

theorem withHookStep_of_contains (h : g.contains (.str step.id) = true) :
    g.withHookStep s step dataSourceId group = g := provide_of_contains h ..

end Graph

namespace Compilation

variable {s : Settings} {a a' b : Arena} {j : Job} {js pre rest : List Job} {f : CompileFault}
  {entities es : List Entity} {e : Entity} {ts completed : List Target}
    {results : List CompiledEntity}
  {d : Directive} {entity group : String} {stage : Stage}

/-- A stage that has all it needs changes nothing. -/
theorem run_perform_hook_of_contains
    (h : ∀ id ∈ d.provided entity stage, a.graph.contains (.str id) = true) :
    ((Job.hook d entity stage group).perform s).run a = .ok () a := by
  have hrole := h _ (Directive.mem_provided.mpr (Or.inl rfl))
  have hds := h _ (Directive.mem_provided.mpr (Or.inr (Or.inl rfl)))
  have hstep := h _ (Directive.mem_provided.mpr (Or.inr (Or.inr rfl)))
  rw [run_perform_hook, Graph.ensured_of_contains hrole hds, Graph.withHookStep_of_contains hstep]

theorem performs_self (h : ∀ j ∈ js, (j.perform s).run a = .ok () a) : Performs s js a a := by
  induction js with
  | nil => exact performs_nil.mpr rfl
  | cons j js ih =>
    exact performs_cons.mpr ⟨a, h j List.mem_cons_self,
      ih fun k hk => h k (List.mem_cons_of_mem _ hk)⟩

/-- The stages of an entity that a run has reached have all they need. -/
theorem performs_hookJobs_again (hf : Footprint (.ofExtent es completed) b a) (he : e ∈ es) :
    Performs s (e.hookJobs s) a a := by
  apply performs_self
  intro j hj
  obtain ⟨stage, hstage, rfl⟩ := List.mem_map.mp hj
  apply run_perform_hook_of_contains
  intro id hid
  exact hf.contains_of_provided (Change.mem_provided_ofExtent.mpr ⟨e, he, stage, hstage, hid⟩)

theorem run_forM_of_failing (hpre : Performs s pre a b) (hj : (j.perform s).run b = .error f a') :
    ((pre ++ j :: rest).forM (Job.perform s)).run a = .error f a' := by
  have hsplit : (pre ++ j :: rest).forM (Job.perform s) = pre.forM (Job.perform s) >>= fun _ =>
      j.perform s >>= fun _ => rest.forM (Job.perform s) := List.forM_append ..
  rw [hsplit, run_bind_of_ok hpre, run_bind_of_error hj]

/-- An entity whose operations have been completed is refused when its turn comes again, and nothing
is changed by then. -/
theorem run_jobs_again (hf : Footprint (.ofExtent es completed) b a) (he : e ∈ es)
    (hc : e.targets ⊆ completed) : ((e.jobs s ++ rest).forM (Job.perform s)).run a =
      .error (.absent (.str (Target.resolverIdFor .create e.name))) a := by
  let t := Target.forOperation e.name e.fieldNames .create
  have ht : t ∈ e.targets := List.mem_map_of_mem (Operation.mem_all .create)
  have hgone := (dropped_of_footprint (Entity.isConventional_targets ht) (hc ht) hf).1
  have hfails : ((e.operationJob s t).perform s).run a = .error (.absent (.str t.resolverId)) a :=
    run_bind_of_error (run_compileOperation_of_none hgone)
  rw [Entity.jobs, List.append_assoc]
  exact run_forM_of_failing (performs_hookJobs_again hf he) hfails

/-- A run that has succeeded is refused when it is repeated, for want of the first resolver, and
then changes nothing. -/
theorem transform_again (h : (transform s entities).run a = .ok results a')
    (he : entities.find? Entity.isHooked = some e) : (transform s entities).run a' =
      .error (.absent (.str (Target.resolverIdFor .create e.name))) a' := by
  obtain ⟨hv, _, hp⟩ := transform_ok h
  obtain ⟨later, hes⟩ : ∃ later, entities.filter Entity.isHooked = e :: later := by
    rw [← List.head?_filter] at he
    exact List.head?_eq_some_iff.mp he
  have hmem : e ∈ entities.filter Entity.isHooked := hes ▸ List.mem_cons_self
  have htargets : e.targets ⊆ (entities.filter Entity.isHooked).flatMap Entity.targets :=
    fun _ ht => List.mem_flatMap.mpr ⟨e, hmem, ht⟩
  have hplan : plan s entities = e.jobs s ++ later.flatMap (Entity.jobs s) := by
    rw [plan, hes, List.flatMap_cons]
  rw [run_transform hv, hplan,
    run_bind_of_error (run_jobs_again (footprint_plan hp) hmem htargets)]

theorem transform_again_audited : ∃ results a',
    (transform {} [.audited "Todo"]).run (.storing ["Todo"]) = .ok results a' ∧
      [Entity.audited "Todo"].find? Entity.isHooked = some (.audited "Todo") ∧
      (transform {} [.audited "Todo"]).run a' =
        .error (.absent (.str "CreateTodoResolver")) a' := by
  obtain ⟨a', h⟩ := @transform_succeeds {} (.storing ["Todo"]) [.audited "Todo"] (by decide +kernel)
    (by decide +kernel) (by decide +kernel)
  have he : [Entity.audited "Todo"].find? Entity.isHooked = some (.audited "Todo") := rfl
  exact ⟨_, a', h, he, transform_again h he⟩

end Compilation

end ResolverHooks
