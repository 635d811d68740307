import ResolverHooks.Proofs.Pipeline.Provision
import ResolverHooks.Proofs.Resource.Order

/-!
A run closes no cycle of dependencies. What it builds lies in layers above what was there before, by
its kind: a role below its data source, that below the hook steps, and those with the wrap steps
below the pipelines. Whatever is built, or built again at the same id, depends only on what lies
below it.
-/
namespace ResolverHooks

open Relation

/-- How late a kind of resource comes in a deployment. -/
def ResourceKind.rank : ResourceKind → Nat
  | role => 1
  | dataSource => 2
  | hookStep | wrapStep => 3
  | pipeline => 4

/-- Kinds that their ids do not tell apart have one rank. -/
theorem rank_eq_of_canonical_eq {kind kind' : ResourceKind} {fs fs' : List (Option String)}
    (h : LogicalId.canonical kind fs = LogicalId.canonical kind' fs') : kind.rank = kind'.rank := by
  rcases kind_of_canonicalWith_eq isDigest_fingerprint h with rfl | ⟨rfl, rfl⟩ | ⟨rfl, rfl⟩
  · rfl
  · rfl
  · rfl

namespace Change

/-- What a change builds. -/
def built (c : Change) : List String := c.rebuilt ++ c.provided

theorem mem_built_of_stage {reached : List Entity} {completed : List Target} {e : Entity}
    {stage : Stage} {id : String} (he : e ∈ reached) (hstage : stage ∈ e.directive.stages)
    (hid : id ∈ e.directive.provided e.name stage) : id ∈ (ofExtent reached completed).built :=
  List.mem_append_right _ (mem_provided_ofExtent.mpr ⟨e, he, stage, hstage, hid⟩)

end Change

namespace Graph

/-- No resource has one of the ids, or depends on it. -/
structure Fresh (g : Graph) (ids : List String) : Prop where
  absent : ∀ id ∈ ids, g.contains (.str id) = false
  unnamed : ∀ k r, g.find? k = some r → ∀ id ∈ ids, .str id ∉ r.dependsOn

/-- The layer of an id, over a graph at the bottom. -/
inductive Layer (g : Graph) (built : List String) : Scalar → Nat → Prop where
  | old {k : Scalar} : g.contains k = true → Layer g built k 0
  | built {kind : ResourceKind} {fs : List (Option String)} {id : String} : id ∈ built →
      id = LogicalId.canonical kind fs → Layer g built (.str id) kind.rank

/-- A resource depends only on lower layers. -/
def LiesOn (g : Graph) (built : List String) (n : Nat) (r : Resource) : Prop :=
  ∀ dep ∈ r.dependsOn, ∃ d m, dep = .scalar d ∧ g.Layer built d m ∧ m < n

/-- Whatever is not as it was at the bottom depends only on lower layers. -/
def Layered (g₀ : Graph) (built : List String) (g : Graph) : Prop :=
  ∀ k r, g.find? k = some r →
    g₀.find? k = some r ∨ ∃ n, g₀.Layer built k n ∧ g₀.LiesOn built n r

variable {g₀ g : Graph} {built : List String} {k d : Scalar} {r : Resource} {m n : Nat}
  {id group : String}

theorem Layer.unique (hf : g₀.Fresh built) (h : g₀.Layer built k m) (h' : g₀.Layer built k n) :
    m = n := by
  cases h with
  | old hc =>
    cases h' with
    | old => rfl
    | built hid _ => simp [hf.absent _ hid] at hc
  | built hid heq =>
    cases h' with
    | old hc => simp [hf.absent _ hid] at hc
    | built _ heq' => exact rank_eq_of_canonical_eq (heq.symm.trans heq')

/-- What was depended on at the bottom has not been built. -/
theorem Layer.of_named (hf : g₀.Fresh built) (hr : g₀.find? k = some r)
    (hd : .scalar d ∈ r.dependsOn) (h : g₀.Layer built d n) : g₀.contains d = true ∧ n = 0 := by
  cases h with
  | old hc => exact ⟨hc, rfl⟩
  | built hid _ => exact absurd hd (hf.unnamed k r hr _ hid)

namespace Layered

theorem refl (g : Graph) (built : List String) : g.Layered built g := fun _ _ hr => Or.inl hr

theorem exists_layer (h : g₀.Layered built g) (hk : g.contains k = true) :
    ∃ n, g₀.Layer built k n := by
  obtain ⟨r, hr⟩ := contains_iff.mp hk
  rcases h k r hr with hold | ⟨n, hn, _⟩
  · exact ⟨0, .old (contains_iff.mpr ⟨r, hold⟩)⟩
  · exact ⟨n, hn⟩

theorem place (h : g₀.Layered built g) (hid : g₀.Layer built (.str id) n)
    (hr : g₀.LiesOn built n r) : g₀.Layered built (g.place group id r) := by
  intro k r' hk
  rw [find?_place] at hk
  split at hk
  · rename_i heq
    cases hk
    exact Or.inr ⟨n, heq ▸ hid, hr⟩
  · exact h k r' hk

theorem provide (h : g₀.Layered built g) (hid : g₀.Layer built (.str id) n)
    (hr : g₀.LiesOn built n r) : g₀.Layered built (g.provide group id r) := by
  rw [Graph.provide]
  split
  · exact h
  · exact h.place hid hr

theorem erase (h : g₀.Layered built g) (id : String) :
    g₀.Layered built (g.erase (.str id)) := by
  intro k r hk
  rw [find?_erase_str] at hk
  split at hk
  · cases hk
  · exact h k r hk

/-- A dependency leads down, or stays at the bottom. -/
theorem dependsOn (hf : g₀.Fresh built) (h : g₀.Layered built g) (hn : g₀.Layer built k n)
    (hdep : g.DependsOn k d) :
    ∃ m, g₀.Layer built d m ∧ (m < n ∨ n = 0 ∧ m = 0 ∧ g₀.DependsOn k d) := by
  obtain ⟨⟨r, hr, hd⟩, hc⟩ := hdep
  obtain ⟨m, hm⟩ := h.exists_layer hc
  refine ⟨m, hm, ?_⟩
  rcases h k r hr with hold | ⟨n', hn', hlies⟩
  · obtain ⟨hc', hzero⟩ := hm.of_named hf hold hd
    have hbottom : g₀.Layer built k 0 := .old (contains_iff.mpr ⟨r, hold⟩)
    exact Or.inr ⟨hn.unique hf hbottom, hzero, ⟨r, hold, hd⟩, hc'⟩
  · obtain ⟨d', m', hd', hm', hlt⟩ := hlies _ hd
    cases hd'
    rw [hm.unique hf hm', hn.unique hf hn']
    exact Or.inl hlt

/-- So does a chain of dependencies. -/
theorem transGen (hf : g₀.Fresh built) (h : g₀.Layered built g) (hn : g₀.Layer built k n)
    (hdep : TransGen g.DependsOn k d) :
    ∃ m, g₀.Layer built d m ∧ (m < n ∨ n = 0 ∧ m = 0 ∧ TransGen g₀.DependsOn k d) := by
  induction hdep with
  | single hdep =>
    obtain ⟨m, hm, hlt | ⟨hn', hm', hold⟩⟩ := h.dependsOn hf hn hdep
    · exact ⟨m, hm, Or.inl hlt⟩
    · exact ⟨m, hm, Or.inr ⟨hn', hm', .single hold⟩⟩
  | tail _ hdep ih =>
    obtain ⟨m, hm, hbefore⟩ := ih
    obtain ⟨m', hm', hlast⟩ := h.dependsOn hf hm hdep
    refine ⟨m', hm', ?_⟩
    rcases hbefore with hlt | ⟨hn', hzero, hchain⟩
    · left
      omega
    · rcases hlast with hlt | ⟨_, hzero', hold⟩
      · omega
      · exact Or.inr ⟨hn', hzero', hchain.tail hold⟩

/-- There is no cycle in layers over a graph without cycles. -/
theorem acyclic (hf : g₀.Fresh built) (ha : g₀.Acyclic) (h : g₀.Layered built g) : g.Acyclic := by
  intro k hcycle
  obtain ⟨_, ⟨⟨r, hr, _⟩, _⟩, _⟩ := TransGen.head'_iff.mp hcycle
  obtain ⟨n, hn⟩ := h.exists_layer (contains_iff.mpr ⟨r, hr⟩)
  obtain ⟨m, hm, hlt | ⟨_, _, hold⟩⟩ := h.transGen hf hn hcycle
  · have heq := hm.unique hf hn
    omega
  · exact ha k hold

theorem canLookUpAll (hl : g₀.canLookUpAll = true) (h : g₀.Layered built g) :
    g.canLookUpAll = true := by
  simp only [Graph.canLookUpAll, List.all_eq_true] at hl ⊢
  rintro ⟨k, r⟩ hm dep hdep
  have hr : g.find? k = some r := Entries.find?_of_mem g.resources.nodup hm
  rcases h k r hr with hold | ⟨_, _, hlies⟩
  · obtain ⟨k', _, hm'⟩ := Entries.mem_of_find? hold
    exact hl _ hm' dep hdep
  · obtain ⟨d, _, rfl, _⟩ := hlies dep hdep
    rfl

end Layered

end Graph

/-- What a stage makes depends only on lower layers. -/
theorem Directive.Makes.exists_layer {d : Directive} {s : Settings} {g g₀ : Graph}
    {entity group id placed : String} {stage : Stage} {r : Resource} {built : List String}
    (h : d.Makes s g entity group stage id placed r)
    (hbuilt : ∀ x ∈ d.provided entity stage, x ∈ built) :
    ∃ n, g₀.Layer built (.str id) n ∧ g₀.LiesOn built n r := by
  have hid := hbuilt id h.mem_provided
  cases h with
  | role => exact ⟨_, .built hid rfl, fun dep hdep => by cases hdep⟩
  | dataSource =>
    refine ⟨_, .built hid rfl, fun dep hdep => ?_⟩
    rcases Resource.mem_recorded hdep with hdep | hdep
    · cases hdep
    · obtain rfl := (Graph.mem_linkShared.mp hdep).1
      have hrole := hbuilt _ (Directive.mem_provided.mpr (Or.inl rfl))
      exact ⟨_, _, rfl, .built hrole rfl, by decide⟩
  | hookStep =>
    refine ⟨_, .built hid rfl, fun dep hdep => ?_⟩
    rcases Resource.mem_recorded hdep with hdep | hdep
    · cases hdep
    · obtain rfl := (Graph.mem_linkShared.mp hdep).1
      have hds := hbuilt _ (Directive.mem_provided.mpr (Or.inr (Or.inl rfl)))
      exact ⟨_, _, rfl, .built hds rfl, by decide⟩

namespace Compilation

variable {s : Settings} {a a' b : Arena} {g₀ : Graph} {built : List String} {d : Directive}
  {entity group : String} {stage : Stage} {e : Entity} {t : Target} {j : Job} {js : List Job}
  {es reached : List Entity} {completed : List Target}

theorem layered_hook (hbuilt : ∀ x ∈ d.provided entity stage, x ∈ built)
    (h : g₀.Layered built a.graph)
    (hj : ((Job.hook d entity stage group).perform s).run a = .ok () b) :
    g₀.Layered built b.graph := by
  rw [run_perform_hook] at hj
  cases hj
  have hlayer : ∀ {id placed r},
      d.Makes s a.graph entity (s.groupOr (some group)) stage id placed r →
      ∃ n, g₀.Layer built (.str id) n ∧ g₀.LiesOn built n r := fun hm => hm.exists_layer hbuilt
  obtain ⟨_, hrole, hroleLies⟩ := hlayer .role
  obtain ⟨_, hds, hdsLies⟩ := hlayer .dataSource
  obtain ⟨_, hstep, hstepLies⟩ := hlayer .hookStep
  rw [Graph.withHookStep_ensured, Graph.ensured_eq]
  exact ((h.provide hrole hroleLies).provide hds hdsLies).provide hstep hstepLies

/-- A wrap step takes over dependencies on what was there before, and a pipeline depends on
steps. -/
theorem layered_operation (hf : g₀.Fresh built) (ht : t ∈ e.targets)
    (hbuilt : ∀ x ∈ t.rebuilt, x ∈ built)
    (hsteps : ∀ stage ∈ e.directive.stages, (e.directive.hookStep e.name stage).id ∈ built)
    (h : g₀.Layered built a.graph) (hj : ((e.operationJob s t).perform s).run a = .ok () b) :
    g₀.Layered built b.graph := by
  obtain ⟨r, properties, request, hw, rfl⟩ := run_perform_operation hj
  have hwrap := hbuilt _ (Target.mem_rebuilt.mpr (Or.inl rfl))
  have hpipeline := hbuilt _ (Target.mem_rebuilt.mpr (Or.inr rfl))
  -- A resolver that depends on anything is as it was, because nothing is built at its id.
  have hresolver : ∀ dep ∈ r.dependsOn, g₀.find? (.str t.resolverId) = some r := by
    intro dep hdep
    rcases h _ r hw.present with hold | ⟨n, hn, hlies⟩
    · exact hold
    · obtain ⟨_, _, _, _, hlt⟩ := hlies dep hdep
      cases hn with
      | old => omega
      | built _ heq =>
        exact absurd heq ((Entity.isConventional_targets ht).ne_canonical _ _)
  refine ((h.place (.built hwrap rfl) fun dep hdep => ?_).erase _).place (.built hpipeline rfl)
    fun dep hdep => ?_
  · obtain ⟨hdep, rfl | ⟨k, rfl, hk, _⟩⟩ := mem_stepOf hdep
    · exact absurd hdep (hf.unnamed _ r (hresolver _ hdep) _ hwrap)
    · obtain ⟨n, hn⟩ := h.exists_layer hk
      obtain ⟨_, rfl⟩ := hn.of_named hf (hresolver _ hdep) hdep
      exact ⟨k, _, rfl, hn, by decide⟩
  · rcases Resource.mem_recorded hdep with hdep | hdep
    · cases hdep
    · obtain ⟨id, hid, rfl⟩ := List.mem_map.mp hdep
      rcases Entity.mem_functions.mp hid with rfl | ⟨stage, hstage⟩
      · exact ⟨_, _, rfl, .built hwrap rfl, by decide⟩
      · obtain ⟨hmem, rfl⟩ := Directive.eq_of_stepId? hstage
        exact ⟨_, _, rfl, .built (hsteps stage hmem) rfl, by decide⟩

/-- A run over entities keeps to the layers, if all that it builds is accounted for. -/
theorem layered_performs (hf : g₀.Fresh built) (hjobs : ∀ j ∈ js, ∃ e ∈ es, j ∈ e.jobs s)
    (hrebuilt : ∀ x ∈ (Change.ofJobs js).rebuilt, x ∈ built)
    (hprovided : ∀ e ∈ es, ∀ stage ∈ e.directive.stages,
      ∀ x ∈ e.directive.provided e.name stage, x ∈ built)
    (h : g₀.Layered built a.graph) (hp : Performs s js a a') : g₀.Layered built a'.graph := by
  induction js generalizing a with
  | nil => rwa [performs_nil.mp hp]
  | cons j js ih =>
    obtain ⟨b, hstep, hrest⟩ := performs_cons.mp hp
    obtain ⟨e, he, hje⟩ := hjobs j List.mem_cons_self
    refine ih (fun k hk => hjobs k (List.mem_cons_of_mem _ hk)) (fun x hx => hrebuilt x ?_) ?_ hrest
    · exact List.mem_append_right _ hx
    · rcases List.mem_append.mp hje with hje | hje
      · obtain ⟨stage, hstage, rfl⟩ := List.mem_map.mp hje
        exact layered_hook (hprovided e he stage hstage) h hstep
      · obtain ⟨t, ht, rfl⟩ := List.mem_map.mp hje
        refine layered_operation hf ht (fun x hx => hrebuilt x ?_) (fun stage hstage => ?_) h hstep
        · exact List.mem_append_left _ hx
        · exact hprovided e he stage hstage _ (Directive.mem_provided.mpr (Or.inr (Or.inr rfl)))

theorem Reaches.layered (h : Reaches s reached completed a a')
    (hf : a.graph.Fresh (Change.ofExtent reached completed).built) :
    a.graph.Layered (Change.ofExtent reached completed).built a'.graph := by
  obtain ⟨js, hjobs, hc, hp⟩ := h
  refine layered_performs hf hjobs (fun x hx => ?_) (fun e he stage hstage x hx => ?_)
    (.refl _ _) hp
  · rw [hc] at hx
    exact List.mem_append_left _ hx
  · exact Change.mem_built_of_stage he hstage hx

end Compilation

end ResolverHooks
