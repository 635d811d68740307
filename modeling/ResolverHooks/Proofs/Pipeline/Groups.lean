import ResolverHooks.Proofs.Pipeline.Functions
import ResolverHooks.Proofs.Pipeline.Placement
import ResolverHooks.Proofs.Resource.Dependency

/-!
When compiling an entity keeps dependencies inside groups. Only two things can make one cross: a
pipeline that runs a hook step which was there before, in another group, and a resource of another
group which depends on an id at which the entity places a resource.
-/
namespace ResolverHooks

namespace Entity

variable (e : Entity) (s : Settings) (g : Graph)

/-- Hook steps that are there before, and run in pipelines of the entity, are in its group. Of the
operations that build one pipeline, the last one decides what runs in it. -/
def ReusesInGroup : Prop :=
  ∀ ts t us, e.targets = ts ++ t :: us → (∀ u ∈ us, t.pipelineId ∉ u.rebuilt) →
    ∀ stage id, e.directive.stepId? e.name stage t.operation = some id →
      g.contains (.str id) = true → g.groupOf (.str id) = .str (s.groupOr e.stack)

/-- Resources that are left alone, but depend on an id at which the entity places a resource, are in
the group where it is placed. -/
def KeepsDependents : Prop :=
  ∀ k r, (k, r) ∈ g.resources.entries → (Change.ofExtent [e] e.targets).spares g k = true →
    ∀ id placed, e.Places s g id placed → .str id ∈ r.dependsOn → g.groupOf k = .str placed

end Entity

namespace Compilation

variable {s : Settings} {e : Entity} {a a' : Arena} {k : Scalar} {r : Resource} {id : String}
  {reached : List Entity} {completed ts us : List Target} {t : Target}

/-- What is there in the end, but is not spared, has been built. -/
theorem built_of_not_spares (hf : Footprint (.ofExtent reached completed) a a')
    (hc : ∀ t ∈ completed, t.IsConventional) (hk : a'.graph.contains k = true)
    (hs : (Change.ofExtent reached completed).spares a.graph k = false) :
    ∃ id, k = .str id ∧ (id ∈ completed.flatMap Target.rebuilt ∨
      id ∈ (Change.ofExtent reached completed).provided ∧ a.graph.contains k = false) := by
  obtain ⟨id, rfl, hid | hid | hid⟩ :=
    ((Change.ofExtent reached completed).spares_or a.graph k).resolve_left (by simp [hs])
  · obtain ⟨t, ht, rfl⟩ := List.mem_map.mp hid
    obtain ⟨r, hr⟩ := Graph.contains_iff.mp hk
    rw [(dropped_of_footprint (hc t ht) ht hf).1] at hr
    cases hr
  · exact ⟨id, rfl, Or.inl hid⟩
  · exact ⟨id, rfl, Or.inr hid⟩

theorem places_of_not_spares (hf : Footprint (.ofExtent [e] e.targets) a a')
    (hk : a'.graph.contains k = true)
    (hs : (Change.ofExtent [e] e.targets).spares a.graph k = false) (s : Settings) :
    ∃ id placed, k = .str id ∧ e.Places s a.graph id placed := by
  obtain ⟨id, rfl, hid | ⟨hid, hfree⟩⟩ :=
    built_of_not_spares hf (fun _ => Entity.isConventional_targets) hk hs
  · obtain ⟨t, ht, hid⟩ := List.mem_flatMap.mp hid
    exact ⟨id, _, rfl, .rebuilt ht hid⟩
  · obtain ⟨e', he', stage, hm, hstage⟩ := Change.mem_provided_ofExtent.mp hid
    rw [List.mem_singleton.mp he'] at hm hstage
    obtain ⟨placed, hn⟩ := Directive.needs_of_mem_provided s (s.groupOr e.stack) hstage
    exact ⟨id, placed, rfl, .provided hm hn hfree⟩

section

variable (h : Performs s (e.jobs s) a a')

include h

/-- The dependencies of a resource that is left alone cross groups only towards what is placed. -/
theorem spared_crosses_iff (hg : a.graph.StaysInGroups) (hm : (k, r) ∈ a.graph.resources.entries)
    (hs : (Change.ofExtent [e] e.targets).spares a.graph k = true) :
    (∀ dep ∈ r.dependsOn, ¬ a'.graph.Crosses k dep) ↔
      ∀ id placed, e.Places s a.graph id placed → .str id ∈ r.dependsOn →
        a.graph.groupOf k = .str placed := by
  have hf := footprint_jobs h
  constructor
  · intro hcross id placed hp hid
    obtain ⟨hc, hgroup⟩ := groupOf_places h hp
    rw [← hf.groupOf_eq hs]
    exact (Graph.not_crosses_str_iff hc hgroup).mp (hcross _ hid)
  · rintro hplaced dep hdep ⟨hp, hdiff⟩
    obtain ⟨x, rfl, hx⟩ := Graph.isPresent_iff.mp hp
    cases hsx : (Change.ofExtent [e] e.targets).spares a.graph x with
    | true =>
      refine Graph.staysInGroups_iff.mp hg k r hm _ hdep ⟨(hf.contains_eq hsx).symm.trans hx, ?_⟩
      rw [← hf.groupOf_eq hs]
      change (a'.graph.groupOf k).differs (a.graph.groupOf x) = true
      rw [← hf.groupOf_eq hsx]
      exact hdiff
    | false =>
      obtain ⟨id, placed, rfl, hplace⟩ := places_of_not_spares hf hx hsx s
      obtain ⟨hc, hgroup⟩ := groupOf_places h hplace
      refine (Graph.not_crosses_str_iff hc hgroup).mpr ?_ ⟨hp, hdiff⟩
      rw [hf.groupOf_eq hs]
      exact hplaced id placed hplace hdep

/-- What is placed for hook steps depends only on resources of its group. -/
theorem provided_not_crosses {stage : Stage} {placed : String} (hm : stage ∈ e.directive.stages)
    (hn : e.directive.Needs s e.name (s.groupOr e.stack) stage id placed)
    (hfree : a.graph.contains (.str id) = false) :
    ∃ r, a'.graph.find? (.str id) = some r ∧
      ∀ dep ∈ r.dependsOn, ¬ a'.graph.Crosses (.str id) dep := by
  obtain ⟨_, r, hmakes, hr, hgroup⟩ := exists_makes_of_needs h hm hn hfree
  refine ⟨r, hr, fun dep hdep => ?_⟩
  obtain ⟨x, rfl, hx, hshared⟩ := hmakes.inside dep hdep
  refine Graph.not_crosses_of_eq hgroup fun hp => ?_
  rw [Graph.groupOfDependency_str, ← Graph.sharedGroup_of_contains hp, ← hshared]
  exact sharedGroup_performs (fun _ hj => Entity.isConventional_jobs hj) h hx

variable (hts : e.targets = ts ++ t :: us)

include hts

/-- A wrap step that is not built again depends only on resources of its group. -/
theorem wrapStep_not_crosses (hlast : ∀ u ∈ us, t.wrapStepId ∉ u.rebuilt) :
    ∃ w, a'.graph.find? (.str t.wrapStepId) = some w ∧
      ∀ dep ∈ w.dependsOn, ¬ a'.graph.Crosses (.str t.wrapStepId) dep := by
  have hrest : ∀ u ∈ t :: us, u ∈ e.targets := fun u hu => hts ▸ List.mem_append_right _ hu
  obtain ⟨_, later, b, r, properties, request, _, _, hf, _, hstep, hgroup⟩ :=
    exists_wrapStep (performs_singleton h) (turn_singleton hts) hlast
  refine ⟨_, hstep, fun dep hdep => Graph.not_crosses_of_eq hgroup fun hp => ?_⟩
  obtain ⟨_, rfl | ⟨k, rfl, hk, hkg⟩⟩ := mem_stepOf hdep
  · exact hgroup
  · change a'.graph.groupOf k = _
    cases hs : (Change.ofExtent later (t :: us)).spares b.graph k with
    | true => exact (hf.groupOf_eq hs).trans hkg
    | false =>
      -- What was there when the step was built has been built again behind it.
      obtain ⟨id, rfl, hm | ⟨_, hfree⟩⟩ := built_of_not_spares hf
        (fun u hu => Entity.isConventional_targets (hrest u hu)) hp hs
      · obtain ⟨u, hu, hm⟩ := List.mem_flatMap.mp hm
        exact (groupOf_places h (.rebuilt (hrest u hu) hm)).2
      · rw [hk] at hfree
        cases hfree

/-- A pipeline that is not built again crosses groups only towards a hook step that was there
before. -/
theorem pipeline_crosses_iff (hlast : ∀ u ∈ us, t.pipelineId ∉ u.rebuilt) :
    ∃ p, a'.graph.find? (.str t.pipelineId) = some p ∧
      ((∀ dep ∈ p.dependsOn, ¬ a'.graph.Crosses (.str t.pipelineId) dep) ↔
        ∀ stage id, e.directive.stepId? e.name stage t.operation = some id →
          a.graph.contains (.str id) = true →
          a.graph.groupOf (.str id) = .str (s.groupOr e.stack)) := by
  have ht : t ∈ e.targets := by simp [hts]
  obtain ⟨hpipeline, hgroup⟩ := find?_pipeline (performs_singleton h) (turn_singleton hts) hlast
  refine ⟨_, hpipeline, ?_⟩
  rw [Target.dependsOn_pipelineOn s t (Entity.nodup_functions ht), List.forall_mem_map]
  -- A hook step that was there before keeps its group.
  have hreused : ∀ stage id, e.directive.stepId? e.name stage t.operation = some id →
      a.graph.contains (.str id) = true → a'.graph.contains (.str id) = true ∧
        a'.graph.groupOf (.str id) = a.graph.groupOf (.str id) := by
    intro stage id hstep hc
    have hprov : id ∈ e.directive.provided e.name stage :=
      Directive.mem_provided.mpr (Or.inr (Or.inr (Directive.eq_of_stepId? hstep).2))
    have hf := footprint_run (fun _ hj => Entity.isConventional_jobs hj) h
    have hjobs : ∀ j ∈ e.jobs s, ∃ e' ∈ [e], j ∈ e'.jobs s :=
      fun _ hj => ⟨e, List.mem_singleton_self e, hj⟩
    have hs := spares_provided_of_jobs hjobs hprov hc
    exact ⟨(hf.contains_eq hs).trans hc, hf.groupOf_eq hs⟩
  constructor
  · intro hcross stage id hstep hc
    obtain ⟨hc', hg'⟩ := hreused stage id hstep hc
    have hnot := hcross id (Entity.mem_functions.mpr (Or.inr ⟨stage, hstep⟩))
    rw [Graph.Crosses, hgroup, Graph.isPresent_str, hc', Graph.groupOfDependency_str, hg'] at hnot
    exact Value.str_differs_iff.mp (by simpa using hnot)
  · intro hsteps id hid
    refine Graph.not_crosses_of_eq hgroup fun _ => ?_
    rcases Entity.mem_functions.mp hid with rfl | ⟨stage, hstep⟩
    · exact (groupOf_places h (.rebuilt ht (Target.mem_rebuilt.mpr (Or.inl rfl)))).2
    · obtain ⟨hm, hid'⟩ := Directive.eq_of_stepId? hstep
      cases hc : a.graph.contains (.str id) with
      | true => exact (hreused stage id hstep hc).2.trans (hsteps stage id hstep hc)
      | false => exact (groupOf_places h (.provided hm (Or.inr ⟨hid', rfl⟩) hc)).2

end

/-- Whether dependencies stay inside groups can be told from the graph before. -/
theorem staysInGroups_iff_of_performs (h : Performs s (e.jobs s) a a')
    (hg : a.graph.StaysInGroups) :
    a'.graph.StaysInGroups ↔ e.ReusesInGroup s a.graph ∧ e.KeepsDependents s a.graph := by
  have hf := footprint_jobs h
  rw [Graph.staysInGroups_iff]
  constructor
  · intro hstay
    refine ⟨fun ts t us hts hlast => ?_, fun k r hm hs => ?_⟩
    · obtain ⟨p, hp, hiff⟩ := pipeline_crosses_iff h hts hlast
      exact hiff.mp (hstay _ p (Table.mem_iff_find?.mpr hp))
    · exact (spared_crosses_iff h hg hm hs).mp (hstay k r ((hf.mem_entries_iff hs).mpr hm))
  · rintro ⟨hreuses, hkeeps⟩ k r hm
    cases hs : (Change.ofExtent [e] e.targets).spares a.graph k with
    | true =>
      have hm' := (hf.mem_entries_iff hs).mp hm
      exact (spared_crosses_iff h hg hm' hs).mpr (hkeeps k r hm' hs)
    | false =>
      have hfind : a'.graph.find? k = some r := Entries.find?_of_mem a'.graph.resources.nodup hm
      obtain ⟨id, placed, rfl, hplace⟩ :=
        places_of_not_spares hf (Graph.contains_iff.mpr ⟨r, hfind⟩) hs s
      cases hplace with
      | provided hstage hneeds hfree =>
        obtain ⟨r', hr', hcross⟩ := provided_not_crosses h hstage hneeds hfree
        obtain rfl : r' = r := Option.some.inj (hr'.symm.trans hfind)
        exact hcross
      | rebuilt ht hid =>
        obtain ⟨before, t, after, hts, hid', hlast⟩ := exists_last_rebuilt ⟨_, ht, hid⟩
        rcases Target.mem_rebuilt.mp hid' with rfl | rfl
        · obtain ⟨w, hw, hcross⟩ := wrapStep_not_crosses h hts hlast
          obtain rfl : w = r := Option.some.inj (hw.symm.trans hfind)
          exact hcross
        · obtain ⟨p, hp, hiff⟩ := pipeline_crosses_iff h hts hlast
          obtain rfl : p = r := Option.some.inj (hp.symm.trans hfind)
          exact hiff.mpr (hreuses before t after hts hlast)

end Compilation

/-- An arena in which a hook step of an entity is left over in a group of its own. -/
def Arena.withLeftOver (name : String) (h : HookStep) : Arena :=
  { Arena.storing [name] with
    graph := (Arena.storing [name]).graph.place "Earlier" h.id (h.resource {} "Source" false) }

namespace Compilation

variable {s : Settings} {e : Entity} {a a' : Arena}

/-- A hook step that is left over in another group is run by a pipeline, which depends on it. -/
theorem leftOver_crosses : ∃ result a',
    (compileEntity {} (.audited "Todo")).run
        (.withLeftOver "Todo" ⟨"before", "Todo", "audit", none⟩) = .ok result a' ∧
      (Arena.withLeftOver "Todo" ⟨"before", "Todo", "audit", none⟩).graph.StaysInGroups ∧
      ¬ a'.graph.StaysInGroups := by
  obtain ⟨result, a', h, hcross⟩ := exists_of_endsWith
    (show endsWith (fun _ a' => !decide a'.graph.StaysInGroups) (compileEntity {} (.audited "Todo"))
      (.withLeftOver "Todo" ⟨"before", "Todo", "audit", none⟩) = true by decide +kernel)
  exact ⟨result, a', h, by decide +kernel, by simpa using hcross⟩

/-- Compiling an entity keeps dependencies inside groups exactly if the hook steps that it reuses
are in its group, and resources that depend on what it places are in the groups where it is
placed. -/
theorem compileEntity_staysInGroups_iff {result : CompiledEntity}
    (h : (compileEntity s e).run a = .ok result a') (hg : a.graph.StaysInGroups) :
    a'.graph.StaysInGroups ↔ e.ReusesInGroup s a.graph ∧ e.KeepsDependents s a.graph :=
  staysInGroups_iff_of_performs (compileEntity_ok h).2.2 hg

/-- An entity whose hook steps are new and on whose resources nothing depends. -/
theorem compileEntity_staysInGroups_audited : ∃ result a',
    (compileEntity {} (.audited "Todo")).run (.storing ["Todo"]) = .ok result a' ∧
      (Arena.storing ["Todo"]).graph.StaysInGroups ∧
      (Entity.audited "Todo").ReusesInGroup {} (Arena.storing ["Todo"]).graph ∧
      (Entity.audited "Todo").KeepsDependents {} (Arena.storing ["Todo"]).graph ∧
      a'.graph.StaysInGroups := by
  obtain ⟨a', h⟩ := @compileEntity_succeeds {} (.storing ["Todo"]) (.audited "Todo") rfl
    (by decide +kernel) (by decide +kernel)
  have hg : (Arena.storing ["Todo"]).graph.StaysInGroups := by decide +kernel
  have hnew : ∀ stage ∈ Stage.all, ∀ o ∈ Operation.all,
      ∀ id ∈ (Entity.audited "Todo").directive.stepId? "Todo" stage o,
        (Arena.storing ["Todo"]).graph.contains (.str id) = false := by decide +kernel
  have hfree : ∀ p ∈ (Arena.storing ["Todo"]).graph.resources.entries,
      p.2.dependsOn = [] := by decide +kernel
  have hreuses : (Entity.audited "Todo").ReusesInGroup {} (Arena.storing ["Todo"]).graph := by
    intro ts t us _ _ stage id hid hc
    rw [hnew stage (Stage.mem_all stage) t.operation (Operation.mem_all _) id hid] at hc
    cases hc
  have hkeeps : (Entity.audited "Todo").KeepsDependents {} (Arena.storing ["Todo"]).graph := by
    intro k r hm _ id placed _ hid
    rw [hfree (k, r) hm] at hid
    cases hid
  exact ⟨_, a', h, hg, hreuses, hkeeps,
    (compileEntity_staysInGroups_iff h hg).mpr ⟨hreuses, hkeeps⟩⟩

end Compilation

end ResolverHooks
