import ResolverHooks.Proofs.Pipeline.Closed
import ResolverHooks.Proofs.Pipeline.Compiled
import ResolverHooks.Proofs.Pipeline.Layers

/-!
Deploying what a run leaves. Where it closes no cycle there is an order, and that respects what the
run has linked: roles and data sources, data sources and the hook steps of their group, steps and
the pipelines that run them. A pipeline also comes after what its resolver depended on in its group,
because the wrap step has taken those dependencies over.
-/
namespace ResolverHooks

/-- What a deployment order puts before what, of the things that a run has made. -/
structure InOrder (s : Settings) (hooked : List Entity) (a a' : Arena) (order : List Scalar) :
    Prop where
  /-- A data source comes after its role. -/
  dataSource : ∀ e ∈ hooked, ∀ stage ∈ e.directive.stages, ∃ r roleId,
    a'.graph.find? (.str e.directive.identity.dataSourceId) = some r ∧
      propertyOf "ServiceRoleArn" r.stepProperties = Intrinsic.attributeOf roleId "Arn" ∧
      Precedes order (.str roleId) (.str e.directive.identity.dataSourceId)
  /-- A hook step of the shared group comes after the data source that it calls. -/
  hookStep : ∀ e ∈ hooked, ∀ stage ∈ e.directive.stages,
    a'.graph.groupOf (.str (e.directive.hookStep e.name stage).id) = .str s.stackName →
      ∃ r dataSourceId, a'.graph.find? (.str (e.directive.hookStep e.name stage).id) = some r ∧
        propertyOf "DataSourceName" r.stepProperties = .str dataSourceId ∧
        Precedes order (.str dataSourceId) (.str (e.directive.hookStep e.name stage).id)
  /-- A pipeline comes after all that it runs. -/
  functions : ∀ e ∈ hooked, ∀ t ∈ e.targets, ∀ id ∈ e.functions t,
    Precedes order (.str id) (.str t.pipelineId)
  /-- It comes after what its resolver depended on, as far as that is left in its group. -/
  inherited : ∀ e ∈ hooked, ∀ t ∈ e.targets, ∀ r,
    a.graph.find? (.str t.resolverId) = some r → ∀ k, .scalar k ∈ r.dependsOn →
      a'.graph.contains k = true → a'.graph.groupOf k = a'.graph.groupOf (.str t.pipelineId) →
      Precedes order k (.str t.pipelineId)

namespace Graph

variable {g : Graph} {ids : List String} {id : String}

/-- A compute resource that is new comes into the shared group. -/
theorem Fresh.sharedGroup (hf : g.Fresh ids) (hid : id ∈ ids) (s : Settings) :
    g.sharedGroup s id = .str s.stackName := by simp [Graph.sharedGroup, hf.absent id hid]

theorem Fresh.linkShared (hf : g.Fresh ids) (hid : id ∈ ids) (s : Settings) :
    g.linkShared s s.stackName id = [.str id] := by
  rw [Graph.linkShared, hf.sharedGroup hid, if_pos (Value.same_str_iff.mpr rfl)]

/-- Nothing is built that is depended on. -/
theorem Fresh.not_built {c : Change} {k d : Scalar} {r : Resource} (hf : g.Fresh c.built)
    (hr : g.find? k = some r) (hd : .scalar d ∈ r.dependsOn) :
    c.rebuilds d = false ∧ c.provides d = false := by
  have hnot : ∀ ids : List String, (∀ id ∈ ids, id ∈ c.built) →
      (ids.map Scalar.str).contains d = false := by
    intro ids hids
    rw [← Bool.not_eq_true]
    intro hmem
    obtain ⟨id, hid, rfl⟩ := Change.exists_str_of_contains hmem
    exact hf.unnamed k r hr id (hids id hid) hd
  exact ⟨hnot _ fun _ => List.mem_append_left _, hnot _ fun _ => List.mem_append_right _⟩

end Graph

namespace Directive.Makes

variable {d : Directive} {s : Settings} {g : Graph} {entity group id placed : String}
    {stage : Stage}
  {r : Resource}

/-- What is made at the id of a data source. -/
theorem of_dataSource {i : Identity}
    (h : d.Makes s g entity group stage i.dataSourceId placed r) :
    r = (d.identity.dataSource s).dependingOn (g.linkShared s s.stackName d.identity.roleId) := by
  generalize hid : i.dataSourceId = id at h
  cases h with
  | role => exact absurd hid.symm (Graph.roleId_ne_dataSourceId _ _)
  | dataSource => rfl
  | hookStep => exact absurd hid (canonical_ne_of_kind_ne _ _ (by decide))

/-- What is made at the id of a hook step, and where. -/
theorem of_hookStep {h : HookStep} (hm : d.Makes s g entity group stage h.id placed r) :
    placed = group ∧ r = ((d.hookStep entity stage).resource s d.identity.dataSourceId
      ((g.sharedGroup s d.identity.dataSourceId).same (.str group))).dependingOn
        (g.linkShared s group d.identity.dataSourceId) := by
  generalize hid : h.id = id at hm
  cases hm with
  | role => exact absurd hid (canonical_ne_of_kind_ne _ _ (by decide))
  | dataSource => exact absurd hid (canonical_ne_of_kind_ne _ _ (by decide))
  | hookStep => exact ⟨rfl, rfl⟩

end Directive.Makes

namespace Compilation

variable {s : Settings} {a a' : Arena} {hooked : List Entity} {e : Entity} {t : Target}
  {stage : Stage} {r : Resource} {before after : List Target} {k : Scalar} {id : String}

section

variable (h : Performs s (hooked.flatMap (Entity.jobs s)) a a')
  (hf : a.graph.Fresh (Change.ofExtent hooked (hooked.flatMap Entity.targets)).built)

include h hf

/-- What a run has left at an id that its stages need. -/
theorem exists_provided (he : e ∈ hooked) (hstage : stage ∈ e.directive.stages)
    (hid : id ∈ e.directive.provided e.name stage) :
    ∃ e' ∈ hooked, ∃ stage' ∈ e'.directive.stages, ∃ placed r,
      e'.directive.Makes s a.graph e'.name (s.groupOr e'.stack) stage' id placed r ∧
      a'.graph.find? (.str id) = some r ∧ a'.graph.groupOf (.str id) = .str placed :=
  (reaches_plan h).exists_makes (Change.mem_provided_ofExtent.mpr ⟨e, he, stage, hstage, hid⟩)
    (hf.absent id (Change.mem_built_of_stage he hstage hid))

omit hf in
theorem contains_provided (he : e ∈ hooked) (hstage : stage ∈ e.directive.stages)
    (hid : id ∈ e.directive.provided e.name stage) : a'.graph.contains (.str id) = true :=
  (footprint_plan h).contains_of_provided
    (Change.mem_provided_ofExtent.mpr ⟨e, he, stage, hstage, hid⟩)

theorem dataSource_dependsOn (he : e ∈ hooked) (hstage : stage ∈ e.directive.stages) :
    ∃ r roleId, a'.graph.find? (.str e.directive.identity.dataSourceId) = some r ∧
      propertyOf "ServiceRoleArn" r.stepProperties = Intrinsic.attributeOf roleId "Arn" ∧
      a'.graph.DependsOn (.str e.directive.identity.dataSourceId) (.str roleId) := by
  obtain ⟨e', he', stage', hstage', placed, r, hmakes, hr, _⟩ := exists_provided h hf he hstage
    (Directive.mem_provided.mpr (Or.inr (Or.inl rfl)))
  obtain rfl := hmakes.of_dataSource
  have hrole : e'.directive.identity.roleId ∈ e'.directive.provided e'.name stage' :=
    Directive.mem_provided.mpr (Or.inl rfl)
  refine ⟨_, _, hr, rfl, ⟨_, hr, ?_⟩, contains_provided h he' hstage' hrole⟩
  rw [hf.linkShared (Change.mem_built_of_stage he' hstage' hrole)]
  exact Resource.str_mem_recorded_iff.mpr (Or.inr (List.mem_singleton_self _))

theorem hookStep_dependsOn (he : e ∈ hooked) (hstage : stage ∈ e.directive.stages)
    (hgroup : a'.graph.groupOf (.str (e.directive.hookStep e.name stage).id) = .str s.stackName) :
    ∃ r dataSourceId, a'.graph.find? (.str (e.directive.hookStep e.name stage).id) = some r ∧
      propertyOf "DataSourceName" r.stepProperties = .str dataSourceId ∧
      a'.graph.DependsOn (.str (e.directive.hookStep e.name stage).id) (.str dataSourceId) := by
  obtain ⟨e', he', stage', hstage', placed, r, hmakes, hr, hplaced⟩ :=
    exists_provided h hf he hstage (Directive.mem_provided.mpr (Or.inr (Or.inr rfl)))
  obtain ⟨rfl, rfl⟩ := hmakes.of_hookStep
  have hds : e'.directive.identity.dataSourceId ∈ e'.directive.provided e'.name stage' :=
    Directive.mem_provided.mpr (Or.inr (Or.inl rfl))
  have hfresh : e'.directive.identity.dataSourceId ∈
      (Change.ofExtent hooked (hooked.flatMap Entity.targets)).built :=
    Change.mem_built_of_stage he' hstage' hds
  have hshared : s.groupOr e'.stack = s.stackName := by simpa using hplaced.symm.trans hgroup
  rw [hshared, hf.linkShared hfresh, hf.sharedGroup hfresh] at hr
  refine ⟨_, e'.directive.identity.dataSourceId, hr, ?_, ⟨_, hr, ?_⟩,
    contains_provided h he' hstage' hds⟩
  · have hsame : (Value.str s.stackName).same (.str s.stackName) = true :=
      Value.same_str_iff.mpr rfl
    rw [hsame]
    rfl
  · exact Resource.str_mem_recorded_iff.mpr (Or.inr (List.mem_singleton_self _))

omit hf in
theorem pipeline_dependsOn (ht : Turn hooked e t before after)
    (hlast : ∀ u ∈ after, t.pipelineId ∉ u.rebuilt) (hid : id ∈ e.functions t) :
    a'.graph.DependsOn (.str t.pipelineId) (.str id) := by
  obtain ⟨p, hp, hclosed⟩ := pipeline_closed h ht hlast
  obtain rfl := Option.some.inj ((find?_pipeline h ht hlast).1.symm.trans hp)
  have hdep : .str id ∈ (t.pipelineOn s (e.functions t)).dependsOn := by
    rw [Target.dependsOn_pipelineOn s t (Entity.nodup_functions ht.mem_targets)]
    exact List.mem_map_of_mem hid
  exact ⟨⟨_, hp, hdep⟩, hclosed _ hdep⟩

/-- What was depended on at the start is as it was, if it is left. -/
theorem spares_of_named {x : Scalar} (hr : a.graph.find? x = some r) (hk : .scalar k ∈ r.dependsOn)
    (hc : a'.graph.contains k = true) :
    (Change.ofExtent hooked (hooked.flatMap Entity.targets)).spares a.graph k = true := by
  obtain ⟨hrebuilt, hprovided⟩ := hf.not_built hr hk
  rcases ((footprint_plan h).ids k).mp hc with ⟨hk', hd⟩ | hr' | hp
  · exact Change.spares_iff.mpr ⟨hd, hrebuilt, fun _ => hk'⟩
  · rw [hrebuilt] at hr'
    cases hr'
  · rw [hprovided] at hp
    cases hp

/-- A wrap step depends on what is left in its group of what its resolver depended on. -/
theorem wrapStep_dependsOn (ht : Turn hooked e t before after)
    (hlast : ∀ u ∈ after, t.wrapStepId ∉ u.rebuilt)
    (hr : a.graph.find? (.str t.resolverId) = some r) (hk : .scalar k ∈ r.dependsOn)
    (hc : a'.graph.contains k = true) (hg : a'.graph.groupOf k = .str (s.groupOr e.stack)) :
    ∃ k', k'.key = k.key ∧ a'.graph.DependsOn (.str t.wrapStepId) k' := by
  obtain ⟨reached, later, b, r', properties, request, hes, hbefore, _, hw, hstep, _⟩ :=
    exists_wrapStep h ht hlast
  obtain rfl := Option.some.inj (hw.present.symm.trans hr)
  -- Neither before the turn nor behind it does the run touch what the resolver depends on.
  have hs := spares_of_named h hf hr hk hc
  have hsplit : Change.ofExtent hooked (hooked.flatMap Entity.targets) =
      .ofExtent reached before ++ .ofExtent later (t :: after) := by
    rw [Change.ofExtent_append, hes, ht.targets_eq]
  have hs' : (Change.ofExtent reached before).spares a.graph k = true :=
    Footprint.spares_left (hsplit ▸ hs)
  have hgroup : b.graph.groupOf k = .str (s.groupOr e.stack) := by
    rw [hbefore.groupOf_eq hs', ← (footprint_plan h).groupOf_eq hs, hg]
  have hcontains : b.graph.contains k = true := by
    rw [hbefore.contains_eq hs', ← (footprint_plan h).contains_eq hs, hc]
  have hne : k ≠ .str t.wrapStepId := by
    rintro rfl
    refine hf.unnamed _ _ hr t.wrapStepId (List.mem_append_left _ ?_) hk
    exact List.mem_flatMap.mpr ⟨t, ht.targets_eq ▸ by simp, Target.mem_rebuilt.mpr (Or.inl rfl)⟩
  obtain ⟨k', hk', hm⟩ := exists_mem_stepOf hk hne hcontains hgroup
  refine ⟨k', hk', ⟨_, hstep, hm⟩, ?_⟩
  rw [Graph.contains_eq_isSome, Graph.find?, Table.find?, Entries.find?_congr hk']
  exact hc

/-- Whatever order has a resource after those that it depends on has what a run has made in
order. -/
theorem inOrder_of_performs {order : List Scalar}
    (horder : ∀ k d, a'.graph.DependsOn k d → Precedes order d k)
    (hfields : ((hooked.flatMap Entity.targets).map Target.field).Nodup)
    (hnames : TellApart ((hooked.flatMap Entity.targets).flatMap Target.names)) :
    InOrder s hooked a a' order where
  dataSource e he stage hstage := by
    obtain ⟨r, roleId, hr, hp, hdep⟩ := dataSource_dependsOn h hf he hstage
    exact ⟨r, roleId, hr, hp, horder _ _ hdep⟩
  hookStep e he stage hstage hgroup := by
    obtain ⟨r, dataSourceId, hr, hp, hdep⟩ := hookStep_dependsOn h hf he hstage hgroup
    exact ⟨r, dataSourceId, hr, hp, horder _ _ hdep⟩
  functions e he t ht id hid := by
    obtain ⟨before, after, hturn⟩ := Turn.exists_of_mem he ht
    have hlast := hturn.not_mem_rebuilt hfields hnames
    exact horder _ _ (pipeline_dependsOn h hturn
      (hlast _ (Target.mem_rebuilt.mpr (Or.inr rfl))) hid)
  inherited e he t ht r hr k hk hc hg := by
    obtain ⟨before, after, hturn⟩ := Turn.exists_of_mem he ht
    have hlast := hturn.not_mem_rebuilt hfields hnames
    have hpipeline := hlast _ (Target.mem_rebuilt.mpr (Or.inr rfl))
    rw [(find?_pipeline h hturn hpipeline).2] at hg
    obtain ⟨k', hk', hdep⟩ := wrapStep_dependsOn h hf hturn
      (hlast _ (Target.mem_rebuilt.mpr (Or.inl rfl))) hr hk hc hg
    have hfirst : Precedes order k (.str t.wrapStepId) := by
      have hfirst := horder _ _ hdep
      rwa [Precedes, hk'] at hfirst
    exact hfirst.trans (horder _ _ (pipeline_dependsOn h hturn hpipeline
      (Entity.mem_functions.mpr (Or.inl rfl))))

end

/-- What a run has left at some point can be deployed, each resource after those it depends on. -/
theorem Reaches.exists_deploymentOrder {reached : List Entity} {completed : List Target}
    (h : Reaches s reached completed a a') (hl : a.graph.canLookUpAll = true)
    (ha : a.graph.Acyclic) (hf : a.graph.Fresh (Change.ofExtent reached completed).built) :
    ∃ order, a'.graph.deploymentOrder = .ok order ∧
      ∀ k d, a'.graph.DependsOn k d → Precedes order d k := by
  have hlayered := h.layered hf
  obtain ⟨order, horder, _, _, hbefore⟩ :=
    Graph.exists_deploymentOrder (hlayered.canLookUpAll hl) (hlayered.acyclic hf ha)
  exact ⟨order, horder, hbefore⟩

/-- However a run ends, unless in a fault of a directive or of shape, there is a deployment order of
what it leaves, if dependencies could be looked up and had no cycle before, and what it builds has
been new. After a run that succeeds, whose operations have fields and ids of their own, that order
respects all that the run has linked. -/
theorem transform_deployable (s : Settings) (entities : List Entity) (a : Arena)
    (hl : a.graph.canLookUpAll = true) (ha : a.graph.Acyclic) :
    match (transform s entities).run a with
    | .ok _ a' => a.graph.Fresh (Change.ofExtent (entities.filter Entity.isHooked)
          ((entities.filter Entity.isHooked).flatMap Entity.targets)).built →
        ∃ order, a'.graph.deploymentOrder = .ok order ∧
          ((((entities.filter Entity.isHooked).flatMap Entity.targets).map Target.field).Nodup →
            TellApart (((entities.filter Entity.isHooked).flatMap Entity.targets).flatMap
              Target.names) →
            InOrder s (entities.filter Entity.isHooked) a a' order)
    | .error (.absent _) a' | .error (.malformed _) a' => ∃ t reached completed,
        Extent (entities.filter Entity.isHooked) (some t) reached completed ∧
          Leaves reached completed a a' ∧
          (a.graph.Fresh (Change.ofExtent reached completed).built →
            ∃ order, a'.graph.deploymentOrder = .ok order)
    | .error _ _ => True := by
  have hstop : ∀ f a', (transform s entities).run a = .error f a' → (∀ d, f ≠ .directive d) →
      (∀ sf, f ≠ .shape sf) → ∃ t reached completed,
        Extent (entities.filter Entity.isHooked) (some t) reached completed ∧
          Leaves reached completed a a' ∧
          (a.graph.Fresh (Change.ofExtent reached completed).built →
            ∃ order, a'.graph.deploymentOrder = .ok order) := by
    intro f a' h hd hs
    obtain ⟨t, reached, completed, hextent, hleaves, hreach, _⟩ := leaves_of_error h hd hs
    refine ⟨t, reached, completed, hextent, hleaves, fun hf => ?_⟩
    obtain ⟨order, horder, _⟩ := hreach.exists_deploymentOrder hl ha hf
    exact ⟨order, horder⟩
  cases h : (transform s entities).run a with
  | ok results a' =>
    intro hf
    obtain ⟨_, _, hp⟩ := transform_ok h
    obtain ⟨order, horder, hbefore⟩ := (reaches_plan hp).exists_deploymentOrder hl ha hf
    exact ⟨order, horder, inOrder_of_performs hp hf hbefore⟩
  | error f a' =>
    cases f with
    | directive d => trivial
    | shape sf => trivial
    | absent id => exact hstop _ a' h (fun _ => nofun) (fun _ => nofun)
    | malformed id => exact hstop _ a' h (fun _ => nofun) (fun _ => nofun)

end Compilation

/-- A graph has no cycle if what is depended on depends on nothing. -/
theorem Graph.acyclic_of_flat {g : Graph}
    (h : ∀ k d, g.DependsOn k d → ∀ d', ¬ g.DependsOn d d') : g.Acyclic := by
  intro k hcycle
  obtain ⟨d, hfirst, _⟩ := Relation.TransGen.head'_iff.mp hcycle
  obtain ⟨last, _, hlast⟩ := Relation.TransGen.tail'_iff.mp hcycle
  exact h last k hlast d hfirst

/-- An arena in which a resolver depends on its table, which is in the group of the hooks. -/
def Arena.withTable (name : String) : Arena where
  graph := ((Arena.storing [name]).graph.place (Settings.stackName {}) (name ++ "Table")
    ⟨.str "AWS::DynamoDB::Table", .null, []⟩).place "Storage" (Target.resolverIdFor .create name)
      ((Resource.stored name).dependingOn [.str (name ++ "Table")])
  hoisted := (Arena.storing [name]).hoisted

namespace Arena

variable {name : String} {k : Scalar} {r : Resource}

/-- Nothing depends on anything else than the table. -/
theorem dependsOn_withTable (h : (withTable name).graph.find? k = some r) :
    k = .str (Target.resolverIdFor .create name) ∧ r.dependsOn = [.str (name ++ "Table")] ∨
      r.dependsOn = [] := by
  simp only [withTable, Graph.find?_place] at h
  split at h
  · cases h
    exact Or.inl ⟨‹_›, rfl⟩
  · split at h
    · cases h
      exact Or.inr rfl
    · obtain ⟨_, rfl⟩ := exists_of_find?_storing h
      exact Or.inr rfl

theorem acyclic_withTable (name : String) : (withTable name).graph.Acyclic := by
  apply Graph.acyclic_of_flat
  rintro k d ⟨⟨r, hr, hd⟩, _⟩ d' ⟨⟨r', hr', hd'⟩, _⟩
  rcases dependsOn_withTable hr with ⟨_, hdeps⟩ | hdeps
  · obtain rfl : d = .str (name ++ "Table") := by simpa [hdeps] using hd
    rcases dependsOn_withTable hr' with ⟨heq, _⟩ | hdeps'
    · have hlast := getLast?_resolverIdFor .create name
      rw [← Scalar.str.inj heq] at hlast
      simp at hlast
    · simp [hdeps'] at hd'
  · simp [hdeps] at hd

/-- Nothing is named that is not there. -/
theorem fresh_withTable {ids : List String}
    (h : ∀ id ∈ ids, (withTable name).graph.contains (.str id) = false) :
    (withTable name).graph.Fresh ids where
  absent := h
  unnamed k r hr id hid hdep := by
    rcases dependsOn_withTable hr with ⟨_, hdeps⟩ | hdeps
    · obtain rfl : id = name ++ "Table" := by simpa [hdeps] using hdep
      have htable := h _ hid
      simp [withTable, Graph.contains_place] at htable
    · simp [hdeps] at hdep

end Arena

namespace Compilation

/-- A run over a resolver that depends on its table, which comes before the pipeline. -/
theorem transform_deployable_audited : ∃ results a' order,
    (transform {} [.audited "Todo"]).run (.withTable "Todo") = .ok results a' ∧
      a'.graph.deploymentOrder = .ok order ∧
      InOrder {} [.audited "Todo"] (.withTable "Todo") a' order ∧
      Precedes order (.str "TodoTable") (.str (LogicalId.pipeline "Mutation" "createTodo")) := by
  obtain ⟨results, a', h, hleft⟩ := exists_of_endsWith
    (show endsWith (fun _ a' => a'.graph.contains (.str "TodoTable") &&
      (a'.graph.groupOf (.str "TodoTable")).same (.str (Settings.stackName {})) &&
      (a'.graph.groupOf (.str (LogicalId.pipeline "Mutation" "createTodo"))).same
        (.str (Settings.stackName {})))
      (transform {} [.audited "Todo"]) (.withTable "Todo") = true by decide +kernel)
  simp only [Bool.and_eq_true, Value.same_str_iff] at hleft
  obtain ⟨⟨hc, htable⟩, hpipeline⟩ := hleft
  have hdeployable := transform_deployable {} [.audited "Todo"] (.withTable "Todo")
    (by decide +kernel) (Arena.acyclic_withTable "Todo")
  rw [h] at hdeployable
  obtain ⟨order, horder, hin⟩ := hdeployable (Arena.fresh_withTable (by decide +kernel))
  have hinOrder := hin (by decide +kernel) (tellApart_of_nodup (by decide +kernel))
  have htarget : Target.forOperation "Todo" [] .create ∈ (Entity.audited "Todo").targets :=
    Entity.mem_targets_iff.mpr ⟨.create, rfl⟩
  exact ⟨results, a', order, h, horder, hinOrder, hinOrder.inherited (.audited "Todo")
    (List.mem_filter.mpr ⟨List.mem_singleton_self _, by decide⟩) _ htarget _
    (Graph.find?_place_self ..) _ (List.mem_singleton_self _) hc (htable.trans hpipeline.symm)⟩

end Compilation

end ResolverHooks
