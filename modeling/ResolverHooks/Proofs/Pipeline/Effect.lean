import ResolverHooks.Pipeline.Transform
import ResolverHooks.Proofs.Resource.Graph

/-!
What the steps of a compilation do to the arena, as one change of the graph each: shared resources
and hook steps are provided unless their ids are taken, and a wrap step takes over the dependencies
that stay inside its group.
-/
namespace ResolverHooks

namespace Settings

theorem groupOr_some (s : Settings) (group : String) :
    s.groupOr (some group) = if group = "" then s.stackName else group := by
  by_cases h : group = "" <;> simp [groupOr, Option.filter, h]

/-- The group that is chosen for an entity is chosen again for its resources. -/
theorem groupOr_some_groupOr (s : Settings) (group : Option String) :
    s.groupOr (some (s.groupOr group)) = s.groupOr group := by
  rw [groupOr_some]
  split
  · rename_i h
    cases group with
    | none => rfl
    | some group =>
      rw [groupOr_some] at h ⊢
      split at h
      · rw [if_pos ‹_›]
      · exact absurd h ‹_›
  · rfl

end Settings

namespace Graph

/-- Places a resource, unless its id is taken. -/
def provide (g : Graph) (group id : String) (r : Resource) : Graph :=
  if g.contains (.str id) then g else g.place group id r

/-- A dependency, as a list, if it is in a group. -/
def linkTo (g : Graph) (group id : String) : List Value :=
  if (g.groupOf (.str id)).same (.str group) then [.str id] else []

/-- The graph with the compute resources of a function. -/
def ensured (g : Graph) (s : Settings) (i : Identity) : Graph :=
  let g₁ := g.provide s.stackName i.roleId (i.role s)
  g₁.provide s.stackName i.dataSourceId ((i.dataSource s).dependingOn
    ((g₁.place s.stackName i.dataSourceId (i.dataSource s)).linkTo s.stackName i.roleId))

/-- The graph with a hook step that calls a data source. -/
def withHookStep (g : Graph) (s : Settings) (h : HookStep) (dataSourceId group : String) : Graph :=
  g.provide group h.id ((h.resource s dataSourceId
    ((g.groupOf (.str dataSourceId)).same (.str group))).dependingOn (g.linkTo group dataSourceId))

end Graph

namespace Compilation

variable {α β : Type} {x : Compilation α} {f : α → Compilation β} {a a' : Arena}
  {g : Graph} {h : Hoisted}

theorem run_bind_of_ok {v : α} (hx : x.run a = .ok v a') : (x >>= f).run a = (f v).run a' := by
  simp only [EStateM.run] at hx ⊢
  simp [bind, EStateM.bind, hx]

theorem run_bind_of_error {e : CompileFault} (hx : x.run a = .error e a') :
    (x >>= f).run a = .error e a' := by
  simp only [EStateM.run] at hx ⊢
  simp [bind, EStateM.bind, hx]

/-- A step that succeeds consists of two that do. -/
theorem run_bind_eq_ok {w : β} (hx : (x >>= f).run a = .ok w a') :
    ∃ v b, x.run a = .ok v b ∧ (f v).run b = .ok w a' := by
  cases hv : x.run a with
  | ok v b => exact ⟨v, b, rfl, by rwa [run_bind_of_ok hv] at hx⟩
  | error e b => rw [run_bind_of_error hv] at hx; cases hx

/-- A step that fails does so in its first part or behind it. -/
theorem run_bind_eq_error {e : CompileFault} (hx : (x >>= f).run a = .error e a') :
    x.run a = .error e a' ∨ ∃ v b, x.run a = .ok v b ∧ (f v).run b = .error e a' := by
  cases hv : x.run a with
  | ok v b => exact Or.inr ⟨v, b, rfl, by rwa [run_bind_of_ok hv] at hx⟩
  | error e' b =>
    rw [run_bind_of_error hv] at hx
    cases hx
    exact Or.inl rfl

theorem run_pure (v : α) (a : Arena) : (pure v : Compilation α).run a = .ok v a := rfl

theorem run_graph (a : Arena) : graph.run a = .ok a.graph a := rfl

theorem run_isIn (group : String) (dep : Value) (a : Arena) :
    (isIn group dep).run a = .ok ((a.graph.groupOfDependency dep).same (.str group)) a := rfl

theorem run_place (group id : String) (r : Resource) (a : Arena) :
    (place group id r).run a = .ok () ⟨a.graph.place group id r, a.hoisted⟩ := rfl

theorem run_depend {id : String} {r : Resource} (dep : Value)
    (hr : a.graph.find? (.str id) = some r) : (depend id dep).run a =
      .ok () ⟨a.graph.insert (.str id) (r.dependingOn [dep]), a.hoisted⟩ := by
  have hg : a.graph.addDependency? (.str id) dep =
      some (a.graph.insert (.str id) (r.dependingOn [dep])) := by
    rw [Graph.addDependency?_eq, hr, Option.map_some]
  rw [depend, run_bind_of_ok (run_graph a), hg]
  rfl

theorem run_resource {id : String} {r : Resource} (hr : a.graph.find? (.str id) = some r) :
    (resource id).run a = .ok r a := by
  rw [resource, run_bind_of_ok (run_graph a), hr]
  rfl

theorem run_resource_of_none {id : String} (hr : a.graph.find? (.str id) = none) :
    (resource id).run a = .error (.absent (.str id)) a := by
  rw [resource, run_bind_of_ok (run_graph a), hr]
  rfl

/-- A dependency recorded right after placing is a dependency placed. -/
theorem run_depend_place (group id : String) (r : Resource) (dep : Value) :
    (depend id dep).run ⟨g.place group id r, h⟩ =
      .ok () ⟨g.place group id (r.dependingOn [dep]), h⟩ := by
  rw [run_depend dep (Graph.find?_place_self g group id r), Graph.insert_place]

theorem run_placeShared (s : Settings) (id : String) (r : Resource) (a : Arena) :
    (placeShared s id r).run a =
      .ok (!a.graph.contains (.str id)) ⟨a.graph.provide s.stackName id r, a.hoisted⟩ := by
  rw [placeShared, run_bind_of_ok (run_graph a)]
  cases hc : a.graph.contains (.str id) with
  | true => simp [Graph.provide, hc]
  | false =>
    rw [if_neg Bool.false_ne_true, run_bind_of_ok (run_place ..)]
    simp [Graph.provide, hc]

theorem run_ensure (s : Settings) (i : Identity) (a : Arena) :
    (ensure s i).run a = .ok i.dataSourceId ⟨a.graph.ensured s i, a.hoisted⟩ := by
  rw [ensure, run_bind_of_ok (run_placeShared ..), run_bind_of_ok (run_placeShared ..)]
  simp only [Graph.ensured]
  generalize a.graph.provide s.stackName i.roleId (i.role s) = g₁
  cases hc : g₁.contains (.str i.dataSourceId) with
  | true => simp [Graph.provide, hc]
  | false =>
    simp only [Bool.not_false, if_true, Graph.provide, hc, Bool.false_eq_true, if_false,
      Graph.linkTo]
    rw [run_bind_of_ok (run_isIn ..), Graph.groupOfDependency_str]
    cases ((g₁.place s.stackName i.dataSourceId (i.dataSource s)).groupOf (.str i.roleId)).same
      (.str s.stackName) with
    | true =>
      rw [if_pos rfl, run_bind_of_ok (run_depend_place ..)]
      rfl
    | false => rfl

theorem run_buildHookStep (s : Settings) (step : HookStep) (dataSourceId : String)
    (group : Option String) (a : Arena) : (buildHookStep s step dataSourceId group).run a =
      .ok step.id ⟨a.graph.withHookStep s step dataSourceId (s.groupOr group), a.hoisted⟩ := by
  rw [buildHookStep, run_bind_of_ok (run_graph a)]
  cases hc : a.graph.contains (.str step.id) with
  | true => simp [Graph.withHookStep, Graph.provide, hc]
  | false =>
    simp only [Bool.false_eq_true, if_false, Graph.withHookStep, Graph.provide, hc, Graph.linkTo]
    rw [run_bind_of_ok (run_isIn ..), run_bind_of_ok (run_place ..), Graph.groupOfDependency_str]
    cases (a.graph.groupOf (.str dataSourceId)).same (.str (s.groupOr group)) with
    | true =>
      rw [if_pos rfl, run_bind_of_ok (run_depend_place ..)]
      rfl
    | false => rfl

theorem run_inherit {group id : String} {dep : Value} {r : Resource}
    (hr : a.graph.find? (.str id) = some r) (hd : dep.isHashable = true) :
    (inherit group id dep).run a = .ok () ⟨a.graph.insert (.str id)
      (r.dependingOn ([dep].filter (a.graph.carries group))), a.hoisted⟩ := by
  have hsame : a.graph.insert (.str id) r = a.graph := Graph.insert_of_find? hr
  simp only [inherit, hd, Bool.not_true, Bool.false_eq_true, if_false]
  rw [run_bind_of_ok (run_graph a)]
  cases hp : a.graph.isPresent dep with
  | false => simp [Graph.carries, hp, hsame]
  | true =>
    rw [if_pos rfl, run_bind_of_ok (run_isIn ..)]
    cases hg : (a.graph.groupOfDependency dep).same (.str group) with
    | false => simp [Graph.carries, hp, hg, hsame]
    | true => simp [Graph.carries, hp, hg, run_depend dep hr]

/-- Handing dependencies on records those that stay inside the group. -/
theorem run_forM_inherit (group : String) {id : String} {deps : List Value} {r : Resource}
    (hr : a.graph.find? (.str id) = some r) (hd : deps.all Value.isHashable = true) :
    (deps.forM (inherit group id)).run a = .ok () ⟨a.graph.insert (.str id)
      (r.dependingOn (deps.filter (a.graph.carries group))), a.hoisted⟩ := by
  induction deps generalizing r a with
  | nil => simp [List.forM, Graph.insert_of_find? hr]
  | cons dep deps ih =>
    obtain ⟨hdep, hdeps⟩ : dep.isHashable = true ∧ deps.all Value.isHashable = true := by
      simpa using hd
    have hc := Graph.carries_insert group
      (r.dependingOn ([dep].filter (a.graph.carries group))) (Graph.contains_iff.mpr ⟨r, hr⟩)
    change (inherit group id dep >>= fun _ => deps.forM (inherit group id)).run a = _
    rw [run_bind_of_ok (run_inherit hr hdep), ih (Graph.find?_insert_self ..) hdeps, hc,
      Graph.insert_insert, ← Resource.dependingOn_append, ← List.filter_append,
      List.singleton_append]

/-- Handing on stops at a dependency that cannot be looked up; those before it have been
recorded. -/
theorem run_forM_inherit_error (group : String) {id : String} {deps : List Value} {r : Resource}
    (hr : a.graph.find? (.str id) = some r) (hd : deps.all Value.isHashable = false) :
    (deps.forM (inherit group id)).run a = .error (.shape .unhashable) ⟨a.graph.insert (.str id)
      (r.dependingOn ((deps.takeWhile Value.isHashable).filter (a.graph.carries group))),
      a.hoisted⟩ := by
  induction deps generalizing r a with
  | nil => simp at hd
  | cons dep deps ih =>
    change (inherit group id dep >>= fun _ => deps.forM (inherit group id)).run a = _
    cases hdep : dep.isHashable with
    | false =>
      have hstep : (inherit group id dep).run a = .error (.shape .unhashable) a := by
        simp only [inherit, hdep, Bool.not_false, if_true]
        rfl
      rw [run_bind_of_error hstep]
      simp [hdep, Graph.insert_of_find? hr]
    | true =>
      have hc := Graph.carries_insert group
        (r.dependingOn ([dep].filter (a.graph.carries group))) (Graph.contains_iff.mpr ⟨r, hr⟩)
      rw [run_bind_of_ok (run_inherit hr hdep),
        ih (Graph.find?_insert_self ..) (by simpa [hdep] using hd), hc, Graph.insert_insert,
        ← Resource.dependingOn_append, ← List.filter_append, List.singleton_append,
        List.takeWhile_cons_of_pos hdep]

end Compilation

end ResolverHooks
