import ResolverHooks.Proofs.Pipeline.Groups
import ResolverHooks.Proofs.Pipeline.Provision

/-!
When a run leaves no dependency on a missing id. It drops resolvers, but not the dependencies on
them: a resource that it leaves alone keeps those that it has, and a wrap step takes over those of
its resolver on resolvers that are still to be dropped.
-/
namespace ResolverHooks

/-- What is left alone does not depend on resolvers that are dropped. -/
def KeepsNoDropped (g : Graph) (hooked : List Entity) : Prop :=
  ∀ k r, (k, r) ∈ g.resources.entries →
    (Change.ofExtent hooked (hooked.flatMap Entity.targets)).spares g k = true →
    ∀ t ∈ hooked.flatMap Entity.targets, .str t.resolverId ∉ r.dependsOn

/-- A resolver whose wrap step is left does not depend, inside the group of its entity, on itself or
on a resolver that is dropped after it. -/
def InheritsNoDropped (s : Settings) (g : Graph) (hooked : List Entity) : Prop :=
  ∀ e t before after, Turn hooked e t before after → (∀ u ∈ after, t.wrapStepId ∉ u.rebuilt) →
    ∀ r, g.find? (.str t.resolverId) = some r → ∀ u ∈ t :: after,
      .str u.resolverId ∈ r.dependsOn →
      g.groupOf (.str u.resolverId) ≠ .str (s.groupOr e.stack)

namespace Compilation

variable {s : Settings} {entities hooked : List Entity} {a a' b : Arena} {e : Entity} {t u : Target}
  {reached : List Entity} {before after completed : List Target} {k : Scalar} {id : String}
  {r resolver : Resource} {properties : List (Scalar × Value)} {request : Value} {dep : Value}

/-- Only resolvers get lost. -/
theorem contains_or_dropped (hf : Footprint (.ofExtent reached completed) a a')
    (hk : a.graph.contains k = true) :
    a'.graph.contains k = true ∨ ∃ t ∈ completed, k = .str t.resolverId := by
  cases hd : (Change.ofExtent reached completed).drops k with
  | false => exact Or.inl ((hf.ids k).mpr (Or.inl ⟨hk, hd⟩))
  | true =>
    obtain ⟨id, hid, rfl⟩ := Change.exists_str_of_contains hd
    obtain ⟨t, ht, rfl⟩ := List.mem_map.mp hid
    exact Or.inr ⟨t, ht, rfl⟩

section

variable (h : Performs s (hooked.flatMap (Entity.jobs s)) a a')

include h

/-- A wrap step that is left depends on missing ids only where its resolver did on resolvers that
are dropped from then on. -/
theorem wrapStep_closed_iff (ht : Turn hooked e t before after)
    (hlast : ∀ u ∈ after, t.wrapStepId ∉ u.rebuilt) :
    ∃ w, a'.graph.find? (.str t.wrapStepId) = some w ∧
      ((∀ dep ∈ w.dependsOn, a'.graph.isPresent dep = true) ↔
        ∀ r, a.graph.find? (.str t.resolverId) = some r → ∀ u ∈ t :: after,
          .str u.resolverId ∈ r.dependsOn →
          a.graph.groupOf (.str u.resolverId) ≠ .str (s.groupOr e.stack)) := by
  obtain ⟨reached, later, b, r, properties, request, _, hf, hf', hw, hstep, _⟩ :=
    exists_wrapStep h ht hlast
  have hconv := ht.isConventional
  have hspared := fun u (hu : u ∈ t :: after) => spares_resolver_before h ht hu reached
  have hgone : ∀ u ∈ t :: after, a'.graph.contains (.str u.resolverId) = false := by
    intro u hu
    rw [Graph.contains_eq_isSome, (dropped_of_footprint (hconv u (List.mem_append_right _ hu))
      hu hf').1]
    rfl
  refine ⟨_, hstep, ?_⟩
  rw [hw.present]
  constructor
  · rintro hclosed r' ⟨⟩ u hu hdep hgroup
    have hu' : u ∈ before ++ t :: after := List.mem_append_right _ hu
    obtain ⟨r', _, _, hw'⟩ := canWrap_of_performs h (ht.targets_eq ▸ hu')
    have hpresent := hclosed _ (str_mem_stepOf hdep ((hconv u hu').ne_canonical _ _)
      (Graph.contains_iff.mpr ⟨r', (hf.find?_eq (hspared u hu)).trans hw'.present⟩)
      ((hf.groupOf_eq (hspared u hu)).trans hgroup))
    simp [hgone u hu] at hpresent
  · intro hnone dep hdep
    obtain ⟨hr, rfl | ⟨k, rfl, hk, hg⟩⟩ := mem_stepOf hdep
    · exact Graph.contains_iff.mpr ⟨_, hstep⟩
    · rcases contains_or_dropped hf' hk with hk' | ⟨u, hu, rfl⟩
      · exact hk'
      · exact absurd ((hf.groupOf_eq (hspared u hu)).symm.trans hg) (hnone r rfl u hu hr)

/-- A pipeline that is left depends on what it runs, which is there. -/
theorem pipeline_closed (ht : Turn hooked e t before after)
    (hlast : ∀ u ∈ after, t.pipelineId ∉ u.rebuilt) :
    ∃ p, a'.graph.find? (.str t.pipelineId) = some p ∧
      ∀ dep ∈ p.dependsOn, a'.graph.isPresent dep = true := by
  have hf := footprint_plan h
  refine ⟨_, (find?_pipeline h ht hlast).1, ?_⟩
  rw [Target.dependsOn_pipelineOn s t (Entity.nodup_functions ht.mem_targets), List.forall_mem_map]
  intro id hid
  rcases Entity.mem_functions.mp hid with rfl | ⟨stage, hstep⟩
  · exact hf.contains_of_rebuilt (List.mem_flatMap.mpr
      ⟨t, ht.targets_eq ▸ by simp, Target.mem_rebuilt.mpr (Or.inl rfl)⟩)
  · obtain ⟨hm, rfl⟩ := Directive.eq_of_stepId? hstep
    exact hf.contains_of_provided (Change.mem_provided_ofExtent.mpr
      ⟨e, ht.mem_hooked, stage, hm, Directive.mem_provided.mpr (Or.inr (Or.inr rfl))⟩)

/-- What is placed for hook steps depends on compute resources, which are there. -/
theorem provided_closed
    (hid : id ∈ (Change.ofExtent hooked (hooked.flatMap Entity.targets)).provided)
    (hfree : a.graph.contains (.str id) = false) :
    ∃ r, a'.graph.find? (.str id) = some r ∧
      ∀ dep ∈ r.dependsOn, a'.graph.isPresent dep = true := by
  obtain ⟨e, he, stage, hm, placed, r, hmakes, hr, _⟩ := (reaches_plan h).exists_makes hid hfree
  refine ⟨r, hr, fun dep hdep => ?_⟩
  obtain ⟨x, rfl, hx⟩ := hmakes.dependsOn dep hdep
  exact (footprint_plan h).contains_of_provided
    (Change.mem_provided_ofExtent.mpr ⟨e, he, stage, hm, hx⟩)

/-- A resource that is left alone depends on missing ids only where it did on resolvers. -/
theorem spared_closed_iff (hg : a.graph.IsClosed) (hm : (k, r) ∈ a.graph.resources.entries) :
    (∀ dep ∈ r.dependsOn, a'.graph.isPresent dep = true) ↔
      ∀ t ∈ hooked.flatMap Entity.targets, .str t.resolverId ∉ r.dependsOn := by
  have hf := footprint_plan h
  constructor
  · intro hclosed t ht hdep
    obtain ⟨x, hx⟩ := Graph.contains_iff.mp (hclosed _ hdep)
    rw [(dropped_of_footprint (Entity.isConventional_flatMap_targets ht) ht hf).1] at hx
    cases hx
  · intro hnone dep hdep
    obtain ⟨x, rfl, hx⟩ := Graph.isPresent_iff.mp (Graph.isClosed_iff.mp hg k r hm dep hdep)
    rcases contains_or_dropped hf hx with hx' | ⟨t, ht, rfl⟩
    · exact hx'
    · exact absurd hdep (hnone t ht)

theorem isClosed_iff_of_performs (hg : a.graph.IsClosed) :
    a'.graph.IsClosed ↔ KeepsNoDropped a.graph hooked ∧ InheritsNoDropped s a.graph hooked := by
  have hf := footprint_plan h
  rw [Graph.isClosed_iff]
  constructor
  · intro hclosed
    refine ⟨fun k r hm hs => ?_, fun e t before after ht hlast => ?_⟩
    · exact (spared_closed_iff h hg hm).mp (hclosed k r ((hf.mem_entries_iff hs).mpr hm))
    · obtain ⟨w, hw, hiff⟩ := wrapStep_closed_iff h ht hlast
      exact hiff.mp (hclosed _ w (Table.mem_iff_find?.mpr hw))
  · rintro ⟨hkeeps, hinherits⟩ k r hm
    cases hs : (Change.ofExtent hooked (hooked.flatMap Entity.targets)).spares a.graph k with
    | true =>
      have hm' := (hf.mem_entries_iff hs).mp hm
      exact (spared_closed_iff h hg hm').mpr (hkeeps k r hm' hs)
    | false =>
      have hfind : a'.graph.find? k = some r := Entries.find?_of_mem a'.graph.resources.nodup hm
      obtain ⟨id, rfl, hid | ⟨hid, hfree⟩⟩ :=
        built_of_not_spares hf (fun _ => Entity.isConventional_flatMap_targets)
          (Graph.contains_iff.mpr ⟨r, hfind⟩) hs
      · obtain ⟨e, t, before, after, ht, hid, hlast⟩ := Turn.exists_last hid
        rcases Target.mem_rebuilt.mp hid with rfl | rfl
        · obtain ⟨w, hw, hiff⟩ := wrapStep_closed_iff h ht hlast
          obtain rfl : w = r := Option.some.inj (hw.symm.trans hfind)
          exact hiff.mpr (hinherits e t before after ht hlast)
        · obtain ⟨p, hp, hclosed⟩ := pipeline_closed h ht hlast
          obtain rfl : p = r := Option.some.inj (hp.symm.trans hfind)
          exact hclosed
      · obtain ⟨r', hr', hclosed⟩ := provided_closed h hid hfree
        obtain rfl : r' = r := Option.some.inj (hr'.symm.trans hfind)
        exact hclosed

end

end Compilation

/-- An arena in which a resource depends on a resolver, and the resolver on one that is dropped
after it, which is in the group of the hooks. -/
def Arena.withDependents (name : String) : Arena :=
  let updating := Target.resolverIdFor .update name
  let creating := Target.resolverIdFor .create name
  { Arena.storing [name] with
    graph := (((Arena.storing [name]).graph.place
      (Settings.stackName {}) updating (.stored name)).place
      "Storage" creating ((Resource.stored name).dependingOn [.str updating])).place
      "Storage" "Report" ((Resource.stored name).dependingOn [.str creating]) }

namespace Compilation

variable {s : Settings} {entities : List Entity} {a a' : Arena} {results : List CompiledEntity}

/-- The resource keeps its dependency, and the wrap step takes over that of the resolver. -/
theorem dependents_dangle : ∃ results a',
    (transform {} [.audited "Todo"]).run (.withDependents "Todo") = .ok results a' ∧
      (Arena.withDependents "Todo").graph.IsClosed ∧ ¬ a'.graph.IsClosed ∧
      a'.graph.findDangling.map (List.map Finding.message) = .ok [
        "'Report' depends on missing resource 'CreateTodoResolver'",
        "'MutationCreateTodoFunction0DBA521B' depends on missing resource 'UpdateTodoResolver'"
      ] := by
  obtain ⟨results, a', h, hdangling⟩ := exists_of_endsWith
    (show endsWith (fun _ a' => !decide a'.graph.IsClosed &&
      decide (a'.graph.findDangling.map (List.map Finding.message) =
        .ok ["'Report' depends on missing resource 'CreateTodoResolver'",
          "'MutationCreateTodoFunction0DBA521B' depends on missing resource 'UpdateTodoResolver'"]))
      (transform {} [.audited "Todo"]) (.withDependents "Todo") = true by decide +kernel)
  obtain ⟨hopen, hfound⟩ : ¬ a'.graph.IsClosed ∧ _ := by simpa using hdangling
  exact ⟨results, a', h, by decide +kernel, hopen, hfound⟩

/-- A run leaves no dependency on a missing id exactly if no resource that it leaves alone depends
on a resolver that it drops, and no wrap step takes over a dependency on one. -/
theorem transform_isClosed_iff (h : (transform s entities).run a = .ok results a')
    (hg : a.graph.IsClosed) :
    a'.graph.IsClosed ↔ KeepsNoDropped a.graph (entities.filter Entity.isHooked) ∧
      InheritsNoDropped s a.graph (entities.filter Entity.isHooked) :=
  isClosed_iff_of_performs (transform_ok h).2.2 hg

/-- A run over resolvers on which nothing depends. -/
theorem transform_isClosed_audited : ∃ results a',
    (transform {} [.audited "Todo"]).run (.storing ["Todo"]) = .ok results a' ∧
      (Arena.storing ["Todo"]).graph.IsClosed ∧
      KeepsNoDropped (Arena.storing ["Todo"]).graph [.audited "Todo"] ∧
      InheritsNoDropped {} (Arena.storing ["Todo"]).graph [.audited "Todo"] ∧
      a'.graph.IsClosed := by
  obtain ⟨a', h⟩ := @transform_succeeds {} (.storing ["Todo"]) [.audited "Todo"] (by decide +kernel)
    (by decide +kernel) (by decide +kernel)
  have hg : (Arena.storing ["Todo"]).graph.IsClosed := by decide +kernel
  have hfree : ∀ p ∈ (Arena.storing ["Todo"]).graph.resources.entries,
      p.2.dependsOn = [] := by decide +kernel
  have hkeeps : KeepsNoDropped (Arena.storing ["Todo"]).graph [.audited "Todo"] := by
    intro k r hm _ t _ hdep
    rw [hfree (k, r) hm] at hdep
    cases hdep
  have hinherits : InheritsNoDropped {} (Arena.storing ["Todo"]).graph [.audited "Todo"] := by
    intro e t before after _ _ r hr u _ hdep
    rw [hfree (_, r) (Table.mem_iff_find?.mpr hr)] at hdep
    cases hdep
  exact ⟨_, a', h, hg, hkeeps, hinherits,
    (transform_isClosed_iff h hg).mpr ⟨hkeeps, hinherits⟩⟩

end Compilation

end ResolverHooks
