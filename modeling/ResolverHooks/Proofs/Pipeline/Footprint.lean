import ResolverHooks.Proofs.Naming.LogicalId
import ResolverHooks.Proofs.Pipeline.Progress

/-!
The footprint of a run: which ids it drops, rebuilds and provides, and that it leaves everything
else as it was. Footprints of jobs that follow one another compose, because a resolver that is
dropped later is never a resource that was built earlier.
-/
namespace ResolverHooks

/-- Ids that a change drops, ids that it writes, and ids that it fills if they are free. -/
structure Change where
  dropped : List String
  rebuilt : List String
  provided : List String

namespace Change

instance : Append Change :=
  ⟨fun c d => ⟨c.dropped ++ d.dropped, c.rebuilt ++ d.rebuilt, c.provided ++ d.provided⟩⟩

def drops (c : Change) (k : Scalar) : Bool := (c.dropped.map Scalar.str).contains k

def rebuilds (c : Change) (k : Scalar) : Bool := (c.rebuilt.map Scalar.str).contains k

def provides (c : Change) (k : Scalar) : Bool := (c.provided.map Scalar.str).contains k

/-- Whether a change leaves an id of the graph alone. -/
def spares (c : Change) (g : Graph) (k : Scalar) : Bool :=
  !c.drops k && !c.rebuilds k && (!c.provides k || g.contains k)

variable {c d : Change} {g : Graph} {k : Scalar} {id : String}

@[simp] theorem drops_append : (c ++ d).drops k = (c.drops k || d.drops k) := by
  change ((c.dropped ++ d.dropped).map Scalar.str).contains k = _
  simp [drops]

@[simp] theorem rebuilds_append : (c ++ d).rebuilds k = (c.rebuilds k || d.rebuilds k) := by
  change ((c.rebuilt ++ d.rebuilt).map Scalar.str).contains k = _
  simp [rebuilds]

@[simp] theorem provides_append : (c ++ d).provides k = (c.provides k || d.provides k) := by
  change ((c.provided ++ d.provided).map Scalar.str).contains k = _
  simp [provides]

@[simp] theorem drops_str : c.drops (.str id) = decide (id ∈ c.dropped) := by
  simp [drops, List.contains_eq_mem]

@[simp] theorem rebuilds_str : c.rebuilds (.str id) = decide (id ∈ c.rebuilt) := by
  simp [rebuilds, List.contains_eq_mem]

@[simp] theorem provides_str : c.provides (.str id) = decide (id ∈ c.provided) := by
  simp [provides, List.contains_eq_mem]

/-- Nothing is picked out where nothing is dropped. -/
theorem filter_not_drops_nil {α : Type} (rebuilt provided : List String) (es : List (Scalar × α)) :
    es.filter (fun e => !drops ⟨[], rebuilt, provided⟩ e.1) = es := by
  rw [List.filter_eq_self]
  intro e _
  rfl

theorem exists_str_of_contains {ids : List String} (h : (ids.map Scalar.str).contains k = true) :
    ∃ id ∈ ids, k = .str id := by
  obtain ⟨id, hid, rfl⟩ := List.mem_map.mp (List.contains_iff_mem.mp h)
  exact ⟨id, hid, rfl⟩

theorem spares_iff : c.spares g k = true ↔
    c.drops k = false ∧ c.rebuilds k = false ∧ (c.provides k = true → g.contains k = true) := by
  simp only [spares, Bool.and_eq_true, Bool.not_eq_true', Bool.or_eq_true, and_assoc]
  cases c.provides k <;> simp

/-- What is not spared is dropped, built anew, or provided at an id that was free. -/
theorem spares_or (c : Change) (g : Graph) (k : Scalar) : c.spares g k = true ∨
    ∃ id, k = .str id ∧ (id ∈ c.dropped ∨ id ∈ c.rebuilt ∨
      id ∈ c.provided ∧ g.contains (.str id) = false) := by
  cases hd : c.drops k with
  | true =>
    obtain ⟨id, hid, rfl⟩ := exists_str_of_contains hd
    exact Or.inr ⟨id, rfl, Or.inl hid⟩
  | false =>
    cases hr : c.rebuilds k with
    | true =>
      obtain ⟨id, hid, rfl⟩ := exists_str_of_contains hr
      exact Or.inr ⟨id, rfl, Or.inr (Or.inl hid)⟩
    | false =>
      cases hs : c.spares g k with
      | true => exact Or.inl rfl
      | false =>
        obtain ⟨hp, hc⟩ : c.provides k = true ∧ g.contains k = false := by
          simpa [spares, hd, hr] using hs
        obtain ⟨id, hid, rfl⟩ := exists_str_of_contains hp
        exact Or.inr ⟨id, rfl, Or.inr (Or.inr ⟨hid, hc⟩)⟩

/-- Only texts are changed, and only a text is the same as a text. -/
theorem spares_of_same {k k' : Scalar} (hk : k'.same k = true) (hs : c.spares g k = true) :
    c.spares g k' = true := by
  by_cases hstr : ∃ id, k' = .str id
  · obtain ⟨id, rfl⟩ := hstr
    rwa [Scalar.str_same.mp hk] at hs
  · have hne : ∀ id, .str id ≠ k' := fun id h => hstr ⟨id, h.symm⟩
    simp [spares, drops, rebuilds, provides, hne]

end Change

/-- What a change does to an arena. -/
structure Footprint (c : Change) (a a' : Arena) : Prop where
  /-- Exactly the ids that are not dropped, or that are built. -/
  ids : ∀ k, a'.graph.contains k = true ↔
    a.graph.contains k = true ∧ c.drops k = false ∨ c.rebuilds k = true ∨ c.provides k = true
  resources : a'.graph.resources.entries.filter (fun e => c.spares a.graph e.1) =
    a.graph.resources.entries.filter fun e => c.spares a.graph e.1
  groups : a'.graph.groups.entries.filter (fun e => c.spares a.graph e.1) =
    a.graph.groups.entries.filter fun e => c.spares a.graph e.1
  hoisted : a'.hoisted.contents.entries = a.hoisted.contents.entries.filter fun e => !c.drops e.1

namespace Footprint

variable {c d : Change} {a b a' : Arena} {g : Graph} {h : Hoisted} {id : String} {k : Scalar}

/-- Picking twice picks what is picked last, if that is picked the first time. -/
theorem filter_eq_of_imp {α : Type} {p q : α → Bool} {xs ys : List α}
    (himp : ∀ x, p x = true → q x = true) (hq : xs.filter q = ys.filter q) :
    xs.filter p = ys.filter p := by
  have hpq : ∀ zs : List α, (zs.filter q).filter p = zs.filter p := by
    intro zs
    rw [List.filter_filter]
    congr 1
    funext x
    cases hp : p x with
    | false => rfl
    | true => simp [himp x hp]
  rw [← hpq xs, ← hpq ys, hq]

theorem spares_left (hk : (c ++ d).spares g k = true) : c.spares g k = true := by
  simp only [Change.spares_iff, Change.drops_append, Change.rebuilds_append,
    Change.provides_append, Bool.or_eq_false_iff, Bool.or_eq_true] at hk ⊢
  exact ⟨hk.1.1, hk.2.1.1, fun hp => hk.2.2 (Or.inl hp)⟩

theorem spares_right (h : Footprint c a b)
    (hk : (c ++ d).spares a.graph k = true) : d.spares b.graph k = true := by
  simp only [Change.spares_iff, Change.drops_append, Change.rebuilds_append,
    Change.provides_append, Bool.or_eq_false_iff, Bool.or_eq_true] at hk ⊢
  refine ⟨hk.1.2, hk.2.1.2, fun hp => ?_⟩
  exact (h.ids k).mpr (Or.inl ⟨hk.2.2 (Or.inr hp), hk.1.1⟩)

/-- Footprints compose, as long as nothing is dropped that was built before. -/
theorem trans (h : Footprint c a b) (h' : Footprint d b a')
    (hd : ∀ id ∈ d.dropped, id ∉ c.rebuilt ∧ id ∉ c.provided) : Footprint (c ++ d) a a' where
  ids k := by
    have hbuilt : d.drops k = true → c.rebuilds k = false ∧ c.provides k = false := by
      intro hk
      obtain ⟨id, hid, rfl⟩ := Change.exists_str_of_contains hk
      obtain ⟨hr, hp⟩ := hd id hid
      exact ⟨by simpa using hr, by simpa using hp⟩
    rw [h'.ids k, h.ids k, Change.drops_append, Change.rebuilds_append, Change.provides_append]
    cases hdk : d.drops k with
    | false =>
      simp only [Bool.or_false, and_true, Bool.or_eq_true]
      grind
    | true =>
      obtain ⟨hr, hp⟩ := hbuilt hdk
      simp [hr, hp]
  resources :=
    calc _ = b.graph.resources.entries.filter (fun e => (c ++ d).spares a.graph e.1) :=
          filter_eq_of_imp (fun _ he => h.spares_right he) h'.resources
      _ = _ := filter_eq_of_imp (fun _ he => spares_left he) h.resources
  groups :=
    calc _ = b.graph.groups.entries.filter (fun e => (c ++ d).spares a.graph e.1) :=
          filter_eq_of_imp (fun _ he => h.spares_right he) h'.groups
      _ = _ := filter_eq_of_imp (fun _ he => spares_left he) h.groups
  hoisted := by
    rw [h'.hoisted, h.hoisted, List.filter_filter]
    congr 1
    funext e
    rw [Change.drops_append, Bool.not_or, Bool.and_comm]

theorem refl (a : Arena) : Footprint ⟨[], [], []⟩ a a where
  ids k := by simp [Change.drops, Change.rebuilds, Change.provides]
  resources := rfl
  groups := rfl
  hoisted := (Change.filter_not_drops_nil ..).symm

theorem place (g : Graph) (h : Hoisted) (group id : String) (r : Resource) :
    Footprint ⟨[], [id], []⟩ ⟨g, h⟩ ⟨g.place group id r, h⟩ where
  ids k := by simp [Graph.contains_place, Change.drops, Change.rebuilds, Change.provides]
  resources := Entries.filter_insert fun k hk => by
    rw [Scalar.same_str.mp hk]
    simp [Change.spares, Change.rebuilds]
  groups := Entries.filter_insert fun k hk => by
    rw [Scalar.same_str.mp hk]
    simp [Change.spares, Change.rebuilds]
  hoisted := (Change.filter_not_drops_nil ..).symm

theorem provide (g : Graph) (h : Hoisted) (group id : String) (r : Resource) :
    Footprint ⟨[], [], [id]⟩ ⟨g, h⟩ ⟨g.provide group id r, h⟩ := by
  cases hc : g.contains (.str id) with
  | true =>
    have hk : ∀ k, k = .str id → g.contains k = true := fun k hk => hk ▸ hc
    simp only [Graph.provide, hc, if_true]
    exact {
      ids := fun k => by
        simp only [Change.drops, Change.rebuilds, Change.provides, List.map_cons, List.map_nil,
          List.contains_nil, List.contains_cons, Bool.or_false, beq_iff_eq, and_true, false_or,
          Bool.false_eq_true]
        exact ⟨Or.inl, fun hor => hor.elim (fun hg => hg) (hk k)⟩
      resources := rfl
      groups := rfl
      hoisted := (Change.filter_not_drops_nil ..).symm }
  | false =>
    simp only [Graph.provide, hc, Bool.false_eq_true, if_false]
    have hfree : ∀ k, k.same (.str id) = true → Change.spares ⟨[], [], [id]⟩ g k = false := by
      intro k hk
      rw [Scalar.same_str.mp hk]
      simp [Change.spares, Change.provides, hc]
    exact {
      ids := fun k => by simp [Graph.contains_place, Change.drops, Change.rebuilds, Change.provides]
      resources := Entries.filter_insert hfree
      groups := Entries.filter_insert hfree
      hoisted := (Change.filter_not_drops_nil ..).symm }

theorem drop (g : Graph) (h : Hoisted) (id : String) :
    Footprint ⟨[id], [], []⟩ ⟨g, h⟩ ⟨g.erase (.str id), h.discard id⟩ where
  ids k := by
    simp [Graph.contains_erase_str, Change.drops, Change.rebuilds, Change.provides, bne]
  resources := Entries.filter_erase fun k hk => by
    rw [Scalar.same_str.mp hk]
    simp [Change.spares, Change.drops]
  groups := Entries.filter_erase fun k hk => by
    rw [Scalar.same_str.mp hk]
    simp [Change.spares, Change.drops]
  hoisted := by
    change Entries.erase (.str id) h.contents.entries = _
    rw [Entries.erase_eq_filter]
    congr 1
    funext e
    rw [Bool.eq_iff_iff]
    simp [Change.drops, Bool.eq_false_iff]

/-- What a spared id holds. -/
theorem find?_eq (hf : Footprint c a a') (hs : c.spares a.graph k = true) :
    a'.graph.find? k = a.graph.find? k := by
  have hk : ∀ k', k'.same k = true → c.spares a.graph k' = true :=
    fun k' hk => Change.spares_of_same hk hs
  calc Entries.find? k a'.graph.resources.entries
      = Entries.find? k (a'.graph.resources.entries.filter fun e => c.spares a.graph e.1) :=
        (Entries.find?_filter hk).symm
    _ = Entries.find? k a.graph.resources.entries := by
        rw [hf.resources, Entries.find?_filter hk]

theorem groupOf_eq (hf : Footprint c a a') (hs : c.spares a.graph k = true) :
    a'.graph.groupOf k = a.graph.groupOf k := by
  have hk : ∀ k', k'.same k = true → c.spares a.graph k' = true :=
    fun k' hk => Change.spares_of_same hk hs
  have hfind : Entries.find? k a'.graph.groups.entries =
      Entries.find? k a.graph.groups.entries := by
    rw [← Entries.find?_filter hk, hf.groups, Entries.find?_filter hk]
  simp only [Graph.groupOf, Table.find?, hfind]

theorem contains_eq (hf : Footprint c a a') (hs : c.spares a.graph k = true) :
    a'.graph.contains k = a.graph.contains k := by
  rw [Graph.contains_eq_isSome, hf.find?_eq hs, Graph.contains_eq_isSome]

theorem contains_of_rebuilt (hf : Footprint c a a') (hid : id ∈ c.rebuilt) :
    a'.graph.contains (.str id) = true :=
  (hf.ids _).mpr (Or.inr (Or.inl (by simpa using hid)))

theorem contains_of_provided (hf : Footprint c a a') (hid : id ∈ c.provided) :
    a'.graph.contains (.str id) = true :=
  (hf.ids _).mpr (Or.inr (Or.inr (by simpa using hid)))

/-- The entries of spared ids are those that were there. -/
theorem mem_entries_iff (hf : Footprint c a a') {r : Resource} (hs : c.spares a.graph k = true) :
    (k, r) ∈ a'.graph.resources.entries ↔ (k, r) ∈ a.graph.resources.entries := by
  have hm : ∀ es : List (Scalar × Resource),
      (k, r) ∈ es.filter (fun e => c.spares a.graph e.1) ↔ (k, r) ∈ es := by
    intro es
    simp [hs]
  rw [← hm, hf.resources, hm]

theorem content?_eq (hf : Footprint c a a') (hd : id ∉ c.dropped) :
    a'.hoisted.content? id = a.hoisted.content? id := by
  have hk : ∀ k, k.same (.str id) = true → (!c.drops k) = true := fun k hk => by
    rw [Scalar.same_str.mp hk]
    simpa using hd
  simp only [Hoisted.content?, Table.find?, hf.hoisted]
  rw [Entries.find?_filter hk]

/-- A resolver that is dropped takes what was hoisted for it along. -/
theorem not_contains_of_dropped (hf : Footprint c a a') (hd : id ∈ c.dropped) :
    a'.hoisted.contains id = false := by
  have hk : ∀ k, k.same (.str id) = true → (!c.drops k) = false := fun k hk => by
    rw [Scalar.same_str.mp hk]
    simpa using hd
  simp only [Hoisted.contains, Table.contains, Table.find?, hf.hoisted]
  rw [Entries.find?_filter_of_not hk]
  rfl

end Footprint

namespace Target

/-- The ids that compiling an operation writes. -/
def rebuilt (t : Target) : List String := [t.wrapStepId, t.pipelineId]

theorem mem_rebuilt {t : Target} {id : String} :
    id ∈ t.rebuilt ↔ id = t.wrapStepId ∨ id = t.pipelineId := by simp [rebuilt]

/-- Whether the resolver has the name that the storage layer gives it. -/
def IsConventional (t : Target) : Prop := ∃ o entity, t.resolverId = resolverIdFor o entity

theorem wrapStepId_ne_pipelineId (t : Target) : t.wrapStepId ≠ t.pipelineId :=
  canonical_ne_of_kind_ne _ _ (by decide)

theorem IsConventional.ne_canonical {t : Target} (ht : t.IsConventional) (k : ResourceKind)
    (fs : List (Option String)) : t.resolverId ≠ LogicalId.canonical k fs := by
  obtain ⟨o, entity, ho⟩ := ht
  rw [ho]
  exact (canonical_ne_resolverIdFor k fs o entity).symm

theorem ne_resolverId {t : Target} {id : String} (ht : t.IsConventional) (h : id ∈ t.rebuilt) :
    id ≠ t.resolverId := by
  rcases mem_rebuilt.mp h with rfl | rfl
  · exact (ht.ne_canonical _ _).symm
  · exact (ht.ne_canonical _ _).symm

end Target

namespace Directive

/-- The ids that a stage of a hook needs: its compute resources and its step. -/
def provided (d : Directive) (entity : String) (stage : Stage) : List String :=
  [d.identity.roleId, d.identity.dataSourceId, (d.hookStep entity stage).id]

theorem mem_provided {d : Directive} {entity : String} {stage : Stage} {id : String} :
    id ∈ d.provided entity stage ↔
      id = d.identity.roleId ∨ id = d.identity.dataSourceId ∨
        id = (d.hookStep entity stage).id := by
  simp [provided]

end Directive

namespace Job

def change : Job → Change
  | hook d entity stage _ => ⟨[], [], d.provided entity stage⟩
  | operation t _ _ _ => ⟨[t.resolverId], t.rebuilt, []⟩

def IsConventional (j : Job) : Prop := ∀ t, j.target? = some t → t.IsConventional

end Job

namespace Change

variable {id : String}

/-- What jobs change, one after another. -/
def ofJobs (jobs : List Job) : Change where
  dropped := jobs.flatMap fun j => j.change.dropped
  rebuilt := jobs.flatMap fun j => j.change.rebuilt
  provided := jobs.flatMap fun j => j.change.provided

theorem ofJobs_cons (j : Job) (js : List Job) : ofJobs (j :: js) = j.change ++ ofJobs js := rfl

theorem ofJobs_append (js ks : List Job) : ofJobs (js ++ ks) = ofJobs js ++ ofJobs ks := by
  simp only [ofJobs, List.flatMap_append]
  rfl

/-- What is built has an id of its own kind. -/
def IsCanonical (c : Change) : Prop :=
  ∀ id, id ∈ c.rebuilt ∨ id ∈ c.provided → ∃ k fs, id = LogicalId.canonical k fs

theorem exists_canonical_of_mem_rebuilt {t : Target} (h : id ∈ t.rebuilt) :
    ∃ k fs, id = LogicalId.canonical k fs := by
  rcases Target.mem_rebuilt.mp h with rfl | rfl
  · exact ⟨_, _, rfl⟩
  · exact ⟨_, _, rfl⟩

theorem exists_canonical_of_mem_provided {d : Directive} {entity : String} {stage : Stage}
    (h : id ∈ d.provided entity stage) : ∃ k fs, id = LogicalId.canonical k fs := by
  rcases Directive.mem_provided.mp h with rfl | rfl | rfl
  · exact ⟨_, _, rfl⟩
  · exact ⟨_, _, rfl⟩
  · exact ⟨_, _, rfl⟩

theorem isCanonical_job (j : Job) : j.change.IsCanonical := by
  intro id hid
  cases j with
  | hook d entity stage group =>
    exact exists_canonical_of_mem_provided (hid.resolve_left List.not_mem_nil)
  | operation t before after group =>
    exact exists_canonical_of_mem_rebuilt (hid.resolve_right List.not_mem_nil)

/-- What is built is no resolver of the storage layer. -/
theorem not_mem_of_isCanonical {c : Change} (hc : c.IsCanonical) (o : Operation) (entity : String) :
    Target.resolverIdFor o entity ∉ c.rebuilt ∧ Target.resolverIdFor o entity ∉ c.provided := by
  have hne : ∀ k fs, Target.resolverIdFor o entity ≠ LogicalId.canonical k fs :=
    fun k fs => (canonical_ne_resolverIdFor k fs o entity).symm
  constructor
  · intro hr
    obtain ⟨k, fs, h⟩ := hc _ (Or.inl hr)
    exact hne k fs h
  · intro hp
    obtain ⟨k, fs, h⟩ := hc _ (Or.inr hp)
    exact hne k fs h

end Change

namespace Compilation

variable {s : Settings} {a a' : Arena} {j : Job} {js : List Job}

theorem footprint_hook (s : Settings) (d : Directive) (entity : String) (stage : Stage)
    (group : String) (g : Graph) (h : Hoisted) :
    Footprint ⟨[], [], d.provided entity stage⟩ ⟨g, h⟩
      ⟨(g.ensured s d.identity).withHookStep s (d.hookStep entity stage)
        d.identity.dataSourceId group, h⟩ :=
  ((Footprint.provide g h ..).trans (Footprint.provide _ h ..) (by simp)).trans
    (Footprint.provide _ h ..) (by simp)

/-- The wrap step is built before the resolver is dropped, and the pipeline after it. -/
theorem footprint_operation {t : Target} (ht : t.IsConventional) (g : Graph) (h : Hoisted)
    (stepGroup group : String) (step pipeline : Resource) :
    Footprint ⟨[t.resolverId], t.rebuilt, []⟩ ⟨g, h⟩
      ⟨g.replaced t stepGroup group step pipeline, h.discard t.resolverId⟩ := by
  have hne : t.resolverId ≠ t.wrapStepId :=
    (Target.ne_resolverId ht (Target.mem_rebuilt.mpr (Or.inl rfl))).symm
  exact ((Footprint.place g h ..).trans (Footprint.drop _ h t.resolverId)
    (by simpa using hne)).trans
    (Footprint.place _ _ ..) (by simp)

theorem footprint_step (hj : j.IsConventional) (h : (j.perform s).run a = .ok () a') :
    Footprint j.change a a' := by
  cases j with
  | hook d entity stage group =>
    rw [run_perform_hook] at h
    cases h
    exact footprint_hook s d entity stage _ a.graph a.hoisted
  | operation t before after group =>
    obtain ⟨r, properties, request, _, rfl⟩ := run_perform_operation h
    exact footprint_operation (hj t rfl) a.graph a.hoisted ..

/-- Jobs change no more than each of them does. -/
theorem footprint_run (hj : ∀ j ∈ js, j.IsConventional) (h : Performs s js a a') :
    Footprint (Change.ofJobs js) a a' := by
  induction js generalizing a with
  | nil =>
    rw [performs_nil.mp h]
    exact Footprint.refl a
  | cons j js ih =>
    obtain ⟨b, hb, hjs⟩ := performs_cons.mp h
    rw [Change.ofJobs_cons]
    refine (footprint_step (hj j List.mem_cons_self) hb).trans
      (ih (fun k hk => hj k (List.mem_cons_of_mem _ hk)) hjs) fun id hid => ?_
    obtain ⟨k, hk, hid⟩ := List.mem_flatMap.mp hid
    cases k with
    | hook d entity stage group => simp [Job.change] at hid
    | operation t before after group =>
      obtain rfl : id = t.resolverId := by simpa [Job.change] using hid
      obtain ⟨o, entity, he⟩ := hj _ (List.mem_cons_of_mem _ hk) t rfl
      rw [he]
      exact Change.not_mem_of_isCanonical (Change.isCanonical_job j) o entity

end Compilation

end ResolverHooks
