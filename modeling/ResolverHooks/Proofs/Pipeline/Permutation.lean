import ResolverHooks.Proofs.Pipeline.Distinct
import ResolverHooks.Proofs.Pipeline.Provision

/-!
When the order of entities does not matter. What a run leaves at an id can then be told from the
arena at its start: wrap steps take over dependencies on what the run does not change, and what
stages provide is the same for each of the stages that need it.
-/
namespace ResolverHooks

theorem TellApart.mono {names names' : List (ResourceKind × List (Option String))}
    (h : TellApart names) (hsub : ∀ n ∈ names', n ∈ names) : TellApart names' :=
  fun m hm n hn => h m (hsub m hm) n (hsub n hn)

/-- The names of what a stage needs. -/
def Directive.names (d : Directive) (entity : String) (stage : Stage) :
    List (ResourceKind × List (Option String)) :=
  [(.role, [some d.identity.name, d.identity.region]),
    (.dataSource, [some d.identity.name, d.identity.region]),
    (.hookStep, [some stage.word, some entity, some d.name, d.identity.region])]

/-- The names of what is built for an entity. -/
def Entity.names (e : Entity) : List (ResourceKind × List (Option String)) :=
  e.directive.stages.flatMap (e.directive.names e.name) ++ e.targets.flatMap Target.names

/-- Ids that tell apart all that is built for entities tell their operations apart. -/
theorem TellApart.targets {hooked : List Entity} (h : TellApart (hooked.flatMap Entity.names)) :
    TellApart ((hooked.flatMap Entity.targets).flatMap Target.names) := by
  refine h.mono fun n hn => ?_
  obtain ⟨t, ht, hn⟩ := List.mem_flatMap.mp hn
  obtain ⟨e, he, ht⟩ := List.mem_flatMap.mp ht
  exact List.mem_flatMap.mpr ⟨e, he, List.mem_append_right _ (List.mem_flatMap.mpr ⟨t, ht, hn⟩)⟩

namespace Directive

theorem identity_eq_of_fragments_eq {i i' : Identity} {k : ResourceKind}
    (h : (k, [some i.name, i.region]) = (k, [some i'.name, i'.region])) : i = i' := by
  simp only [Prod.mk.injEq, List.cons.injEq, Option.some.injEq, and_true, true_and] at h
  exact congrArg₂ Identity.mk h.1 h.2

variable {d d' : Directive} {s : Settings} {g : Graph} {entity entity' group group' id id' placed
  placed' : String} {stage stage' : Stage} {r r' : Resource}

/-- What is made at an id is the same for all stages that need the id, if ids tell names apart. -/
theorem Makes.unique {known : List (ResourceKind × List (Option String))} (hn : TellApart known)
    (hd : ∀ n ∈ d.names entity stage, n ∈ known) (hd' : ∀ n ∈ d'.names entity' stage', n ∈ known)
    (hgroup : entity = entity' → group = group') (h : d.Makes s g entity group stage id placed r)
    (h' : d'.Makes s g entity' group' stage' id' placed' r') (heq : id = id') :
    placed = placed' ∧ r = r' := by
  cases h with
  | role =>
    cases h' with
    | role =>
      have hi := identity_eq_of_fragments_eq (hn _ (hd (.role, _) (by simp [names])) _
        (hd' (.role, _) (by simp [names])) heq)
      rw [hi]
      exact ⟨rfl, rfl⟩
    | dataSource => exact absurd heq (canonical_ne_of_kind_ne _ _ (by decide))
    | hookStep => exact absurd heq (canonical_ne_of_kind_ne _ _ (by decide))
  | dataSource =>
    cases h' with
    | role => exact absurd heq (canonical_ne_of_kind_ne _ _ (by decide))
    | dataSource =>
      have hi := identity_eq_of_fragments_eq (hn _ (hd (.dataSource, _) (by simp [names])) _
        (hd' (.dataSource, _) (by simp [names])) heq)
      rw [hi]
      exact ⟨rfl, rfl⟩
    | hookStep => exact absurd heq (canonical_ne_of_kind_ne _ _ (by decide))
  | hookStep =>
    cases h' with
    | role => exact absurd heq (canonical_ne_of_kind_ne _ _ (by decide))
    | dataSource => exact absurd heq (canonical_ne_of_kind_ne _ _ (by decide))
    | hookStep =>
      have hname := hn _ (hd (.hookStep, _) (by simp [names, Directive.hookStep])) _
        (hd' (.hookStep, _) (by simp [names, Directive.hookStep])) heq
      obtain ⟨hstage, hentity, hhook, hregion⟩ : stage.word = stage'.word ∧ entity = entity' ∧
          d.name = d'.name ∧ d.identity.region = d'.identity.region := by
        simpa [Directive.hookStep] using hname
      have hi : d.identity = d'.identity := congrArg₂ Identity.mk hhook hregion
      have hs : d.hookStep entity stage = d'.hookStep entity' stage' := by
        rw [Directive.hookStep, Directive.hookStep, hstage, hentity, hhook, hregion]
      rw [hs, hi, hgroup hentity]
      exact ⟨rfl, rfl⟩

end Directive

namespace Change

variable {c d : Change} {g : Graph} {k : Scalar} {hooked hooked' : List Entity}

theorem contains_congr {ids ids' : List String} (h : ids.Perm ids') (k : Scalar) :
    (ids.map Scalar.str).contains k = (ids'.map Scalar.str).contains k := by
  rw [Bool.eq_iff_iff, List.contains_iff_mem, List.contains_iff_mem, (h.map _).mem_iff]

/-- What a run changes does not depend on the order of its entities. -/
theorem spares_perm (h : hooked.Perm hooked') (g : Graph) (k : Scalar) :
    (ofExtent hooked (hooked.flatMap Entity.targets)).spares g k =
      (ofExtent hooked' (hooked'.flatMap Entity.targets)).spares g k := by
  have ht := h.flatMap_right Entity.targets
  simp only [spares, drops, rebuilds, provides, ofExtent]
  rw [contains_congr (ht.map _), contains_congr (ht.flatMap_right _),
    contains_congr (h.flatMap_right _)]

end Change

/-- Resolvers that are dropped depend, but for themselves, only on what a run leaves alone. -/
def DependsOnUnchanged (g : Graph) (hooked : List Entity) : Prop :=
  ∀ t ∈ hooked.flatMap Entity.targets, ∀ r, g.find? (.str t.resolverId) = some r →
    ∀ k, .scalar k ∈ r.dependsOn → k = .str t.resolverId ∨
      (Change.ofExtent hooked (hooked.flatMap Entity.targets)).spares g k = true

theorem DependsOnUnchanged.perm {g : Graph} {hooked hooked' : List Entity}
    (hd : DependsOnUnchanged g hooked) (h : hooked.Perm hooked') :
    DependsOnUnchanged g hooked' := by
  intro t ht r hr k hk
  rw [← Change.spares_perm h]
  exact hd t ((h.flatMap_right _).mem_iff.mpr ht) r hr k hk

namespace Compilation

variable {s : Settings} {a a' b : Arena} {hooked hooked' : List Entity} {e : Entity} {t : Target}
  {before after : List Target} {r r' : Resource} {properties properties' : List (Scalar × Value)}
  {request request' : Value} {k : Scalar} {id : String}

theorem Wrappable.unique (h : Wrappable a t r properties request)
    (h' : Wrappable a t r' properties' request') :
    r = r' ∧ properties = properties' ∧ request = request' := by
  obtain rfl := Option.some.inj (h.present.symm.trans h'.present)
  obtain rfl := Except.ok.inj (h.entries_eq.symm.trans h'.entries_eq)
  exact ⟨rfl, rfl, Except.ok.inj (h.request_eq.symm.trans h'.request_eq)⟩

/-- A step takes over the same dependencies in two graphs if those are the same in both. -/
theorem carriedDependencies_congr {g g' : Graph} {group : String}
    (h : ∀ k, .scalar k ∈ r.dependsOn →
      g'.contains k = g.contains k ∧ g'.groupOf k = g.groupOf k) :
    t.carriedDependencies g' group r = t.carriedDependencies g group r := by
  apply List.filter_congr
  intro dep hdep
  rw [Bool.eq_iff_iff, Graph.carries_iff, Graph.carries_iff]
  apply exists_congr
  intro k
  rw [Graph.contains_place, Graph.contains_place, Graph.groupOf_place, Graph.groupOf_place]
  refine and_congr_right fun hk => ?_
  obtain ⟨hc, hg⟩ := h k (hk ▸ hdep)
  rw [hc, hg]

section

variable (h : Performs s (hooked.flatMap (Entity.jobs s)) a a')

include h

theorem nodup_names : (hooked.map Entity.name).Nodup :=
  Entity.nodup_resolverIds_iff.mp (nodup_resolverIds h)

/-- What a wrap step becomes, said of the arena at the start. -/
theorem find?_wrapStep_of_performs (hd : DependsOnUnchanged a.graph hooked)
    (ht : Turn hooked e t before after) (hlast : ∀ u ∈ after, t.wrapStepId ∉ u.rebuilt)
    (hw : Wrappable a t r properties request) :
    a'.graph.find? (.str t.wrapStepId) =
        some (stepOf s t a.graph (s.groupOr e.stack) r properties request) ∧
      a'.graph.groupOf (.str t.wrapStepId) = .str (s.groupOr e.stack) := by
  obtain ⟨reached, later, b, r', properties', request', hes, hf, _, hw', hstep, hgroup⟩ :=
    exists_wrapStep h ht hlast
  obtain ⟨rfl, rfl, rfl⟩ := hw'.unique hw
  refine ⟨?_, hgroup⟩
  rw [hstep, stepOf, stepOf, carriedDependencies_congr fun k hk => ?_]
  have hs : (Change.ofExtent reached before).spares a.graph k = true := by
    rcases hd t (ht.targets_eq ▸ by simp) r' hw.present k hk with rfl | hs
    · exact spares_resolver_before h ht List.mem_cons_self reached
    · rw [ht.targets_eq, ← hes, ← Change.ofExtent_append] at hs
      exact Footprint.spares_left hs
  exact ⟨hf.contains_eq hs, hf.groupOf_eq hs⟩

variable (hfields : ((hooked.flatMap Entity.targets).map Target.field).Nodup)
  (hnames : TellApart (hooked.flatMap Entity.names))

include hfields hnames

/-- What a run leaves of an operation, said of the arena at the start. -/
theorem left_of_operation (hd : DependsOnUnchanged a.graph hooked) (he : e ∈ hooked)
    (ht : t ∈ e.targets) (hw : Wrappable a t r properties request) :
    (a'.graph.find? (.str t.wrapStepId) =
        some (stepOf s t a.graph (s.groupOr e.stack) r properties request) ∧
      a'.graph.groupOf (.str t.wrapStepId) = .str (s.groupOr e.stack)) ∧
    a'.graph.find? (.str t.pipelineId) = some (t.pipelineOn s (e.functions t)) ∧
      a'.graph.groupOf (.str t.pipelineId) = .str (s.groupOr e.stack) := by
  obtain ⟨before, after, hturn⟩ := Turn.exists_of_mem he ht
  have hlast := hturn.not_mem_rebuilt hfields hnames.targets
  exact ⟨find?_wrapStep_of_performs h hd hturn (hlast _ (Target.mem_rebuilt.mpr (Or.inl rfl))) hw,
    find?_pipeline h hturn (hlast _ (Target.mem_rebuilt.mpr (Or.inr rfl)))⟩

omit hfields in
/-- What a run leaves at an id that was free and that stages need is what any of them makes
there. -/
theorem left_of_stage {stage : Stage} {placed : String} (he : e ∈ hooked)
    (hm : stage ∈ e.directive.stages) (hfree : a.graph.contains (.str id) = false)
    (hmakes : e.directive.Makes s a.graph e.name (s.groupOr e.stack) stage id placed r) :
    a'.graph.find? (.str id) = some r ∧ a'.graph.groupOf (.str id) = .str placed := by
  obtain ⟨e', he', stage', hm', placed', r', hmakes', hr', hg'⟩ := (reaches_plan h).exists_makes
    (Change.mem_provided_ofExtent.mpr ⟨e, he, stage, hm, hmakes.mem_provided⟩) hfree
  have hknown : ∀ e ∈ hooked, ∀ stage ∈ e.directive.stages,
      ∀ n ∈ e.directive.names e.name stage, n ∈ hooked.flatMap Entity.names :=
    fun e he stage hm n hn => List.mem_flatMap.mpr
      ⟨e, he, List.mem_append_left _ (List.mem_flatMap.mpr ⟨stage, hm, hn⟩)⟩
  obtain ⟨rfl, rfl⟩ := Directive.Makes.unique hnames (hknown e' he' stage' hm')
    (hknown e he stage hm)
    (fun hname => by rw [List.inj_on_of_nodup_map (nodup_names h) he' he hname]) hmakes' hmakes rfl
  exact ⟨hr', hg'⟩

end

/-- Two runs over the same entities leave the same at every id. -/
theorem agree_of_perm (h : Performs s (hooked.flatMap (Entity.jobs s)) a a')
    (h' : Performs s (hooked'.flatMap (Entity.jobs s)) a b) (hperm : hooked.Perm hooked')
    (hfields : ((hooked.flatMap Entity.targets).map Target.field).Nodup)
    (hnames : TellApart (hooked.flatMap Entity.names))
    (hd : DependsOnUnchanged a.graph hooked) (k : Scalar) :
    b.graph.find? k = a'.graph.find? k ∧ b.graph.groupOf k = a'.graph.groupOf k := by
  have htargets := hperm.flatMap_right Entity.targets
  have hfields' : ((hooked'.flatMap Entity.targets).map Target.field).Nodup :=
    (htargets.map _).nodup_iff.mp hfields
  have hnames' : TellApart (hooked'.flatMap Entity.names) :=
    hnames.mono fun n hn => (hperm.flatMap_right _).mem_iff.mpr hn
  have hf := footprint_plan h
  have hf' := footprint_plan h'
  obtain hs | ⟨id, rfl, hid | hid | ⟨hid, hfree⟩⟩ :=
    (Change.ofExtent hooked (hooked.flatMap Entity.targets)).spares_or a.graph k
  · have hs' := (Change.spares_perm hperm a.graph k).symm.trans hs
    exact ⟨(hf'.find?_eq hs').trans (hf.find?_eq hs).symm,
      (hf'.groupOf_eq hs').trans (hf.groupOf_eq hs).symm⟩
  · obtain ⟨t, ht, rfl⟩ := List.mem_map.mp hid
    have ht' := htargets.mem_iff.mp ht
    have hconv := Entity.isConventional_flatMap_targets ht
    rw [(dropped_of_footprint hconv ht' hf').1, (dropped_of_footprint hconv ht hf).1,
      groupOf_resolver h' ht', groupOf_resolver h ht]
    exact ⟨rfl, rfl⟩
  · obtain ⟨t, ht, hid⟩ := List.mem_flatMap.mp hid
    obtain ⟨r, properties, request, hw⟩ := canWrap_of_performs h ht
    obtain ⟨e, he, hte⟩ := List.mem_flatMap.mp ht
    obtain ⟨⟨hstep, hstepGroup⟩, hpipeline, hpipelineGroup⟩ :=
      left_of_operation h hfields hnames hd he hte hw
    obtain ⟨⟨hstep', hstepGroup'⟩, hpipeline', hpipelineGroup'⟩ :=
      left_of_operation h' hfields' hnames' (hd.perm hperm) (hperm.mem_iff.mp he) hte hw
    rcases Target.mem_rebuilt.mp hid with rfl | rfl
    · exact ⟨hstep'.trans hstep.symm, hstepGroup'.trans hstepGroup.symm⟩
    · exact ⟨hpipeline'.trans hpipeline.symm, hpipelineGroup'.trans hpipelineGroup.symm⟩
  · obtain ⟨e, he, stage, hm, placed, r, hmakes, hr, hg⟩ :=
      (reaches_plan h).exists_makes hid hfree
    obtain ⟨hr', hg'⟩ := left_of_stage h' hnames' (hperm.mem_iff.mp he) hm hfree hmakes
    exact ⟨hr'.trans hr.symm, hg'.trans hg.symm⟩

variable {entities entities' : List Entity} {results : List CompiledEntity}

/-- The order of entities does not matter to a run that succeeds, if their operations have different
fields, ids tell names apart, and the resolvers that are dropped depend only on themselves and on
what is left alone. -/
theorem transform_perm (h : (transform s entities).run a = .ok results a')
    (hperm : entities.Perm entities')
    (hfields : (((entities.filter Entity.isHooked).flatMap Entity.targets).map Target.field).Nodup)
    (hnames : TellApart ((entities.filter Entity.isHooked).flatMap Entity.names))
    (hd : DependsOnUnchanged a.graph (entities.filter Entity.isHooked)) :
    results = (entities.filter Entity.isHooked).map (Entity.summary s) ∧
      ∃ b, (transform s entities').run a =
          .ok ((entities'.filter Entity.isHooked).map (Entity.summary s)) b ∧
        (∀ k, b.graph.find? k = a'.graph.find? k ∧ b.graph.groupOf k = a'.graph.groupOf k) ∧
        b.hoisted = a'.hoisted := by
  obtain ⟨hv, hresults, hp⟩ := transform_ok h
  have hhooked := hperm.filter Entity.isHooked
  have htargets := hhooked.flatMap_right Entity.targets
  obtain ⟨b, hb⟩ := @transform_succeeds s a entities' (fun e he => hv e (hhooked.mem_iff.mpr he))
    (fun t ht => canWrap_of_performs hp (htargets.mem_iff.mpr ht))
    ((htargets.map _).nodup_iff.mp (nodup_resolverIds hp))
  obtain ⟨_, _, hp'⟩ := transform_ok hb
  refine ⟨hresults, b, hb, agree_of_perm hp hp' hhooked hfields hnames hd, ?_⟩
  have hcontents : b.hoisted.contents = a'.hoisted.contents := by
    apply Table.ext_entries
    rw [(footprint_plan hp').hoisted, (footprint_plan hp).hoisted]
    congr 1
    funext entry
    rw [Change.drops, Change.drops, Change.ofExtent, Change.ofExtent,
      Change.contains_congr (htargets.map _)]
  exact congrArg Hoisted.mk hcontents

/-- A run over two entities, in both orders. -/
theorem transform_perm_audited : ∃ results a' b,
    (transform {} [.audited "Todo", .idle "Note"]).run (.storing ["Todo", "Note"]) =
        .ok results a' ∧
      (transform {} [.idle "Note", .audited "Todo"]).run (.storing ["Todo", "Note"]) =
        .ok results.reverse b ∧
      (∀ k, b.graph.find? k = a'.graph.find? k ∧ b.graph.groupOf k = a'.graph.groupOf k) ∧
      b.hoisted = a'.hoisted := by
  obtain ⟨a', h⟩ := @transform_succeeds {} (.storing ["Todo", "Note"])
    [.audited "Todo", .idle "Note"] (by decide +kernel) (by decide +kernel) (by decide +kernel)
  have hnames : TellApart (([Entity.audited "Todo", .idle "Note"].filter Entity.isHooked).flatMap
    Entity.names) := tellApart_of_nodup (by decide +kernel)
  have hfree : ∀ p ∈ (Arena.storing ["Todo", "Note"]).graph.resources.entries,
      p.2.dependsOn = [] := by decide +kernel
  have hd : DependsOnUnchanged (Arena.storing ["Todo", "Note"]).graph
      ([Entity.audited "Todo", .idle "Note"].filter Entity.isHooked) := by
    intro t _ r hr k hk
    rw [hfree (_, r) (Table.mem_iff_find?.mpr hr)] at hk
    cases hk
  obtain ⟨_, b, hb, hagree⟩ := transform_perm h (.swap _ _ []) (by decide +kernel) hnames hd
  exact ⟨_, a', b, h, hb, hagree⟩

end Compilation

end ResolverHooks
