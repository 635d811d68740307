import ResolverHooks.Proofs.Pipeline.Turn

/-!
What a run provides. A compute resource or a hook step that was not there before is left to the end
as the first stage that needs it has placed it. What is placed does not depend on how far the run
has got: all that it takes from the graph are the groups of compute resources, and those do not
change any more.
-/
namespace ResolverHooks

namespace Identity

variable {i : Identity} {x : String} (hx : x = i.roleId ∨ x = i.dataSourceId)

include hx

theorem ne_hookStep_id (h : HookStep) : x ≠ h.id := by
  rcases hx with rfl | rfl
  · exact canonical_ne_of_kind_ne _ _ (by decide)
  · exact canonical_ne_of_kind_ne _ _ (by decide)

theorem not_mem_rebuilt (t : Target) : x ∉ t.rebuilt := by
  rw [Target.mem_rebuilt, not_or]
  rcases hx with rfl | rfl
  · exact ⟨canonical_ne_of_kind_ne _ _ (by decide), canonical_ne_of_kind_ne _ _ (by decide)⟩
  · exact ⟨canonical_ne_of_kind_ne _ _ (by decide), canonical_ne_of_kind_ne _ _ (by decide)⟩

theorem ne_resolverId {t : Target} (ht : t.IsConventional) : x ≠ t.resolverId := by
  rcases hx with rfl | rfl
  · exact (ht.ne_canonical _ _).symm
  · exact (ht.ne_canonical _ _).symm

end Identity

namespace Graph

/-- The group of a compute resource once it is needed: its own, or the shared one if it is new. -/
def sharedGroup (g : Graph) (s : Settings) (id : String) : Value :=
  if g.contains (.str id) then g.groupOf (.str id) else .str s.stackName

/-- A dependency on a compute resource, as a list, if that will be in a group. -/
def linkShared (g : Graph) (s : Settings) (group id : String) : List Value :=
  if (g.sharedGroup s id).same (.str group) then [.str id] else []

variable {g g' : Graph} {s : Settings} {i : Identity} {group id x : String}
    {r : Resource} {k : Scalar}

theorem sharedGroup_of_contains (h : g.contains (.str id) = true) :
    g.sharedGroup s id = g.groupOf (.str id) := by simp [sharedGroup, h]

theorem sharedGroup_congr (hc : g'.contains (.str x) = g.contains (.str x))
    (hg : g'.groupOf (.str x) = g.groupOf (.str x)) : g'.sharedGroup s x = g.sharedGroup s x := by
  rw [sharedGroup, sharedGroup, hc, hg]

theorem mem_linkShared {dep : Value} : dep ∈ g.linkShared s group id ↔
    dep = .str id ∧ g.sharedGroup s id = .str group := by
  rw [linkShared]
  split
  · rename_i h
    simp [Value.same_str_iff.mp h]
  · rename_i h
    simp [mt Value.same_str_iff.mpr h]

theorem provide_of_contains (h : g.contains (.str id) = true) (group : String) (r : Resource) :
    g.provide group id r = g := by simp [provide, h]

theorem provide_of_free (h : g.contains (.str id) = false) (group : String) (r : Resource) :
    g.provide group id r = g.place group id r := by simp [provide, h]

theorem find?_provide_of_ne (h : k ≠ .str id) : (g.provide group id r).find? k = g.find? k := by
  rw [provide]
  split
  · rfl
  · exact find?_place_of_ne h

theorem groupOf_provide_of_ne (h : k ≠ .str id) :
    (g.provide group id r).groupOf k = g.groupOf k := by
  rw [provide]
  split
  · rfl
  · exact groupOf_place_of_ne h

theorem contains_provide (g : Graph) (group id : String) (r : Resource) (k : Scalar) :
    (g.provide group id r).contains k = (g.contains k || k == .str id) := by
  rw [provide]
  split
  · rename_i hid
    by_cases hk : k = .str id <;> simp [hk, hid]
  · exact contains_place g group id r k

theorem contains_provide_of_ne (h : k ≠ .str id) :
    (g.provide group id r).contains k = g.contains k := by
  rw [contains_eq_isSome, find?_provide_of_ne h, contains_eq_isSome]

theorem sharedGroup_provide_of_ne (h : x ≠ id) :
    (g.provide group id r).sharedGroup s x = g.sharedGroup s x :=
  sharedGroup_congr (contains_provide_of_ne (by simpa using h))
    (groupOf_provide_of_ne (by simpa using h))

/-- A compute resource is provided in the group that it is expected in. -/
theorem sharedGroup_provide (g : Graph) (s : Settings) (id x : String) (r : Resource) :
    (g.provide s.stackName id r).sharedGroup s x = g.sharedGroup s x := by
  by_cases h : x = id
  · subst h
    cases hc : g.contains (.str x) with
    | true => rw [provide_of_contains hc]
    | false =>
      rw [provide_of_free hc, sharedGroup_of_contains (by simp [contains_place]),
        groupOf_place_self, sharedGroup, hc]
      rfl
  · exact sharedGroup_provide_of_ne h

theorem roleId_ne_dataSourceId (i i' : Identity) : i.roleId ≠ i'.dataSourceId :=
  canonical_ne_of_kind_ne _ _ (by decide)

/-- A data source that is new depends on its role, if that is in the shared group. -/
theorem ensured_eq (g : Graph) (s : Settings) (i : Identity) :
    g.ensured s i = (g.provide s.stackName i.roleId (i.role s)).provide s.stackName i.dataSourceId
      ((i.dataSource s).dependingOn (g.linkShared s s.stackName i.roleId)) := by
  have hgroup : ((g.provide s.stackName i.roleId (i.role s)).place s.stackName i.dataSourceId
      (i.dataSource s)).groupOf (.str i.roleId) = g.sharedGroup s i.roleId := by
    rw [groupOf_place_of_ne (by simpa using roleId_ne_dataSourceId i i),
      ← sharedGroup_of_contains (s := s) (by simp [contains_provide]), sharedGroup_provide]
  simp only [ensured, linkTo, linkShared, hgroup]

theorem contains_ensured_dataSource (g : Graph) (s : Settings) (i : Identity) :
    (g.ensured s i).contains (.str i.dataSourceId) = true := by
  simp [ensured, contains_provide]

theorem sharedGroup_ensured (g : Graph) (s : Settings) (i : Identity) (x : String) :
    (g.ensured s i).sharedGroup s x = g.sharedGroup s x := by
  rw [ensured_eq, sharedGroup_provide, sharedGroup_provide]

/-- A hook step that is new depends on its data source, if that is in its group. -/
theorem withHookStep_ensured (g : Graph) (s : Settings) (i : Identity) (h : HookStep)
    (group : String) : (g.ensured s i).withHookStep s h i.dataSourceId group =
      (g.ensured s i).provide group h.id ((h.resource s i.dataSourceId
        ((g.sharedGroup s i.dataSourceId).same (.str group))).dependingOn
          (g.linkShared s group i.dataSourceId)) := by
  have hgroup : (g.ensured s i).groupOf (.str i.dataSourceId) = g.sharedGroup s i.dataSourceId := by
    rw [← sharedGroup_of_contains (contains_ensured_dataSource g s i), sharedGroup_ensured]
  simp only [withHookStep, linkTo, linkShared, hgroup]

end Graph

/-- What a stage places at the ids that it needs, if they are free, and in which groups. -/
inductive Directive.Makes (d : Directive) (s : Settings) (g : Graph) (entity group : String)
    (stage : Stage) : String → String → Resource → Prop where
  | role : d.Makes s g entity group stage d.identity.roleId s.stackName (d.identity.role s)
  | dataSource : d.Makes s g entity group stage d.identity.dataSourceId s.stackName
      ((d.identity.dataSource s).dependingOn (g.linkShared s s.stackName d.identity.roleId))
  | hookStep : d.Makes s g entity group stage (d.hookStep entity stage).id group
      (((d.hookStep entity stage).resource s d.identity.dataSourceId
        ((g.sharedGroup s d.identity.dataSourceId).same (.str group))).dependingOn
          (g.linkShared s group d.identity.dataSourceId))

namespace Directive

variable {d : Directive} {s : Settings} {g g' : Graph} {entity group id placed : String}
  {stage : Stage} {r : Resource} {t : Target} {o : Operation}

/-- What hook steps need is of another kind than what operations build, or starts with another
letter. -/
theorem not_mem_rebuilt_of_mem_provided (h : id ∈ d.provided entity stage)
    (ht : t.typeName = o.rootType) : id ∉ t.rebuilt := by
  rcases mem_provided.mp h with h | h | rfl
  · exact Identity.not_mem_rebuilt (Or.inl h) t
  · exact Identity.not_mem_rebuilt (Or.inr h) t
  · rw [Target.mem_rebuilt, not_or]
    refine ⟨?_, canonical_ne_of_kind_ne _ _ (by decide)⟩
    rw [Target.wrapStepId, ht]
    exact hookStep_ne_wrapStep isDigest_fingerprint o t.fieldName

theorem Makes.mem_provided (h : d.Makes s g entity group stage id placed r) :
    id ∈ d.provided entity stage := by
  cases h <;> simp [provided]

/-- All that counts of a graph are the groups of the compute resources. -/
theorem Makes.congr (h : d.Makes s g entity group stage id placed r)
    (hg : ∀ x, x = d.identity.roleId ∨ x = d.identity.dataSourceId →
      g'.sharedGroup s x = g.sharedGroup s x) : d.Makes s g' entity group stage id placed r := by
  have hrole := hg _ (Or.inl rfl)
  have hds := hg _ (Or.inr rfl)
  cases h with
  | role => exact .role
  | dataSource =>
    rw [Graph.linkShared, ← hrole]
    exact .dataSource
  | hookStep =>
    rw [Graph.linkShared, ← hds]
    exact .hookStep

/-- What is placed depends only on compute resources that the stage needs. -/
theorem Makes.dependsOn (h : d.Makes s g entity group stage id placed r) :
    ∀ dep ∈ r.dependsOn, ∃ x, dep = .str x ∧ x ∈ d.provided entity stage := by
  intro dep hdep
  cases h with
  | role => simp [Identity.role] at hdep
  | dataSource =>
    rcases Resource.mem_recorded hdep with hdep | hdep
    · simp [Identity.dataSource] at hdep
    · exact ⟨_, (Graph.mem_linkShared.mp hdep).1, by simp [provided]⟩
  | hookStep =>
    rcases Resource.mem_recorded hdep with hdep | hdep
    · simp [HookStep.resource] at hdep
    · exact ⟨_, (Graph.mem_linkShared.mp hdep).1, by simp [provided]⟩

end Directive

namespace Compilation

variable {s : Settings} {a a' b : Arena} {j : Job} {js : List Job} {es : List Entity} {e : Entity}
  {d : Directive} {entity group id x : String} {stage : Stage} {i : Identity}

/-- A stage places at a free id what it makes of the graph before. -/
theorem makes_of_perform (h : ((Job.hook d entity stage group).perform s).run a = .ok () b)
    (hid : id ∈ d.provided entity stage) (hfree : a.graph.contains (.str id) = false) :
    ∃ placed r, d.Makes s a.graph entity (s.groupOr (some group)) stage id placed r ∧
      b.graph.find? (.str id) = some r ∧ b.graph.groupOf (.str id) = .str placed := by
  rw [run_perform_hook] at h
  cases h
  have hrole : d.identity.roleId ≠ (d.hookStep entity stage).id :=
    Identity.ne_hookStep_id (Or.inl rfl) _
  have hds : d.identity.dataSourceId ≠ (d.hookStep entity stage).id :=
    Identity.ne_hookStep_id (Or.inr rfl) _
  have hne := Graph.roleId_ne_dataSourceId d.identity d.identity
  rw [Graph.withHookStep_ensured]
  rcases Directive.mem_provided.mp hid with rfl | rfl | rfl
  · refine ⟨_, _, .role, ?_, ?_⟩
    · rw [Graph.find?_provide_of_ne (by simpa using hrole), Graph.ensured_eq,
        Graph.find?_provide_of_ne (by simpa using hne), Graph.provide_of_free hfree,
        Graph.find?_place_self]
    · rw [Graph.groupOf_provide_of_ne (by simpa using hrole), Graph.ensured_eq,
        Graph.groupOf_provide_of_ne (by simpa using hne), Graph.provide_of_free hfree,
        Graph.groupOf_place_self]
  · have hfree' : (a.graph.provide s.stackName d.identity.roleId (d.identity.role s)).contains
        (.str d.identity.dataSourceId) = false := by
      rwa [Graph.contains_provide_of_ne (by simpa using hne.symm)]
    refine ⟨_, _, .dataSource, ?_, ?_⟩
    · rw [Graph.find?_provide_of_ne (by simpa using hds), Graph.ensured_eq,
        Graph.provide_of_free hfree', Graph.find?_place_self]
    · rw [Graph.groupOf_provide_of_ne (by simpa using hds), Graph.ensured_eq,
        Graph.provide_of_free hfree', Graph.groupOf_place_self]
  · have hfree' : (a.graph.ensured s d.identity).contains
        (.str (d.hookStep entity stage).id) = false := by
      rwa [Graph.ensured_eq, Graph.contains_provide_of_ne (by simpa using hds.symm),
        Graph.contains_provide_of_ne (by simpa using hrole.symm)]
    refine ⟨_, _, .hookStep, ?_, ?_⟩
    · rw [Graph.provide_of_free hfree', Graph.find?_place_self]
    · rw [Graph.provide_of_free hfree', Graph.groupOf_place_self]

/-- No job moves a compute resource, nor provides it in another group than expected. -/
theorem sharedGroup_perform (hj : j.IsConventional) (h : (j.perform s).run a = .ok () b)
    (hx : x = i.roleId ∨ x = i.dataSourceId) :
    b.graph.sharedGroup s x = a.graph.sharedGroup s x := by
  cases j with
  | hook d entity stage group =>
    rw [run_perform_hook] at h
    cases h
    rw [Graph.withHookStep_ensured, Graph.sharedGroup_provide_of_ne (Identity.ne_hookStep_id hx _),
      Graph.sharedGroup_ensured]
  | operation t before after group =>
    have hf := footprint_step hj h
    have hs : (Job.operation t before after group).change.spares a.graph (.str x) = true := by
      simp [Change.spares_iff, Job.change, Identity.ne_resolverId hx (hj t rfl),
        Identity.not_mem_rebuilt hx t]
    exact Graph.sharedGroup_congr (hf.contains_eq hs) (hf.groupOf_eq hs)

theorem sharedGroup_performs (hj : ∀ j ∈ js, j.IsConventional) (h : Performs s js a a')
    (hx : x = i.roleId ∨ x = i.dataSourceId) :
    a'.graph.sharedGroup s x = a.graph.sharedGroup s x := by
  induction js generalizing a with
  | nil => rw [performs_nil.mp h]
  | cons j js ih =>
    obtain ⟨b, hstep, hrest⟩ := performs_cons.mp h
    rw [ih (fun k hk => hj k (List.mem_cons_of_mem _ hk)) hrest,
      sharedGroup_perform (hj j List.mem_cons_self) hstep hx]

/-- The jobs of an entity do not build anew what stages need. -/
theorem not_mem_rebuilt_of_job (hj : j ∈ e.jobs s) (hid : id ∈ d.provided entity stage) :
    id ∉ j.change.rebuilt := by
  rcases List.mem_append.mp hj with hj | hj
  · obtain ⟨_, _, rfl⟩ := List.mem_map.mp hj
    exact List.not_mem_nil
  · obtain ⟨t, ht, rfl⟩ := List.mem_map.mp hj
    obtain ⟨o, _, rfl⟩ := List.mem_map.mp ht
    exact Directive.not_mem_rebuilt_of_mem_provided hid rfl

/-- What stages need is no resolver, either. -/
theorem not_mem_dropped_of_job (hj : j.IsConventional) (hid : id ∈ d.provided entity stage) :
    id ∉ j.change.dropped := by
  intro hd
  obtain ⟨k, fs, rfl⟩ := Change.exists_canonical_of_mem_provided hid
  cases j with
  | hook d entity stage group => exact List.not_mem_nil hd
  | operation t before after group =>
    obtain ⟨o, entity, ho⟩ := hj t rfl
    exact canonical_ne_resolverIdFor k fs o entity (by simpa [Job.change, ho] using hd)

/-- Jobs of entities leave alone what stages need, once it is there. -/
theorem spares_provided_of_jobs (hj : ∀ j ∈ js, ∃ e ∈ es, j ∈ e.jobs s)
    (hid : id ∈ d.provided entity stage) (hc : b.graph.contains (.str id) = true) :
    (Change.ofJobs js).spares b.graph (.str id) = true := by
  rw [Change.spares_iff, Change.drops_str, Change.rebuilds_str, decide_eq_false_iff_not,
    decide_eq_false_iff_not]
  refine ⟨fun hd => ?_, fun hr => ?_, fun _ => hc⟩
  · obtain ⟨j, hjs, hd⟩ := List.mem_flatMap.mp hd
    obtain ⟨e, _, hje⟩ := hj j hjs
    exact not_mem_dropped_of_job (Entity.isConventional_jobs hje) hid hd
  · obtain ⟨j, hjs, hr⟩ := List.mem_flatMap.mp hr
    obtain ⟨e, _, hje⟩ := hj j hjs
    exact not_mem_rebuilt_of_job hje hid hr

/-- What a run leaves at an id that was free and that a stage needs: what some stage makes there of
the graph at the start. -/
theorem makes_of_performs (hj : ∀ j ∈ js, ∃ e ∈ es, j ∈ e.jobs s) (h : Performs s js a a')
    (hid : id ∈ (Change.ofJobs js).provided) (hfree : a.graph.contains (.str id) = false) :
    ∃ e ∈ es, ∃ stage ∈ e.directive.stages, ∃ placed r,
      e.directive.Makes s a.graph e.name (s.groupOr e.stack) stage id placed r ∧
      a'.graph.find? (.str id) = some r ∧ a'.graph.groupOf (.str id) = .str placed := by
  induction js generalizing a with
  | nil => simp [Change.ofJobs] at hid
  | cons j js ih =>
    obtain ⟨b, hstep, hrest⟩ := performs_cons.mp h
    obtain ⟨e, he, hje⟩ := hj j List.mem_cons_self
    have hj' : ∀ k ∈ js, ∃ e ∈ es, k ∈ e.jobs s := fun k hk => hj k (List.mem_cons_of_mem _ hk)
    have hconv := Entity.isConventional_jobs hje
    have hf := footprint_step hconv hstep
    by_cases hmem : id ∈ j.change.provided
    · rcases List.mem_append.mp hje with hje | hje
      · -- The first stage that needs the id.
        obtain ⟨stage, hstage, rfl⟩ := List.mem_map.mp hje
        obtain ⟨placed, r, hmakes, hr, hgroup⟩ := makes_of_perform hstep hmem hfree
        rw [s.groupOr_some_groupOr] at hmakes
        have hs := spares_provided_of_jobs hj' hmem (Graph.contains_iff.mpr ⟨r, hr⟩)
        have hf' := footprint_run (fun k hk => (hj' k hk).elim fun _ hk' =>
          Entity.isConventional_jobs hk'.2) hrest
        exact ⟨e, he, stage, hstage, placed, r, hmakes, (hf'.find?_eq hs).trans hr,
          (hf'.groupOf_eq hs).trans hgroup⟩
      · obtain ⟨t, _, rfl⟩ := List.mem_map.mp hje
        simp [Entity.operationJob, Job.change] at hmem
    · have hid' : id ∈ (Change.ofJobs js).provided := by
        have hor : id ∈ j.change.provided ++ (Change.ofJobs js).provided := hid
        exact (List.mem_append.mp hor).resolve_left hmem
      obtain ⟨d, entity, stage, hprov⟩ : ∃ d : Directive, ∃ entity stage,
          id ∈ d.provided entity stage := by
        obtain ⟨k, _, hk⟩ := List.mem_flatMap.mp hid'
        cases k with
        | hook d entity stage group => exact ⟨d, entity, stage, hk⟩
        | operation t before after group => simp [Job.change] at hk
      have hfree' : b.graph.contains (.str id) = false := by
        rw [← Bool.not_eq_true, hf.ids]
        simp [hfree, hmem, not_mem_rebuilt_of_job hje hprov]
      obtain ⟨e', he', stage', hstage', placed, r, hmakes, hr, hgroup⟩ := ih hj' hrest hid' hfree'
      exact ⟨e', he', stage', hstage', placed, r,
        hmakes.congr fun x hx => (sharedGroup_perform hconv hstep hx).symm, hr, hgroup⟩

theorem Reaches.exists_makes {reached : List Entity} {completed : List Target}
    (h : Reaches s reached completed a a') (hid : id ∈ (Change.ofExtent reached completed).provided)
    (hfree : a.graph.contains (.str id) = false) :
    ∃ e ∈ reached, ∃ stage ∈ e.directive.stages, ∃ placed r,
      e.directive.Makes s a.graph e.name (s.groupOr e.stack) stage id placed r ∧
      a'.graph.find? (.str id) = some r ∧ a'.graph.groupOf (.str id) = .str placed := by
  obtain ⟨js, hjobs, hc, hp⟩ := h
  exact makes_of_performs hjobs hp (hc ▸ hid) hfree

end Compilation

end ResolverHooks
