import ResolverHooks.Proofs.Pipeline.Progress

/-!
What an operation leaves that fails. A resolver that is missing or cannot be read leaves nothing
behind; but its dependencies are looked up when the wrap step is already there, and its request
template when the hoisted content is already taken.
-/
namespace ResolverHooks

namespace Compilation

variable {a a' : Arena} {s : Settings} {t : Target} {before after : Option String} {group : String}
  {f : CompileFault}

theorem run_compileOperation_eq_error_iff :
    (compileOperation s t before after group).run a = .error f a' ↔ Fails s t group a f a' := by
  refine ⟨fun h => ?_, run_compileOperation_of_fails⟩
  rcases wrappable_or_fails s t group a with ⟨r, properties, request, hw⟩ | ⟨f', b, hf⟩
  · rw [run_compileOperation hw] at h
    cases h
  · rw [run_compileOperation_of_fails hf] at h
    cases h
    exact hf

/-- Content that does not fit is gone when that is found out. -/
theorem discard_ne_of_requestTemplate {h : Hoisted} {id : String}
    {properties : List (Scalar × Value)} {f : ShapeFault}
    (hq : Target.requestTemplate (h.content? id) properties = .error f) : h.discard id ≠ h := by
  intro heq
  have hnone : h.content? id = none := by
    rw [← heq, Hoisted.content?, Hoisted.discard, Table.find?_erase]
    simp
  rw [hnone, Target.requestTemplate] at hq
  cases hq

/-- The resolver of an operation is there, and has these properties. -/
structure HasProperties (a : Arena) (t : Target) (resolver : Resource)
    (properties : List (Scalar × Value)) : Prop where
  present : a.graph.find? (.str t.resolverId) = some resolver
  entries_eq : resolver.properties.entries = .ok properties

theorem HasProperties.forall_iff {r : Resource} {properties : List (Scalar × Value)}
    {p : Resource → List (Scalar × Value) → Prop} (h : HasProperties a t r properties) :
    (∀ r properties, HasProperties a t r properties → p r properties) ↔ p r properties := by
  refine ⟨fun hall => hall r properties h, fun hp r' properties' h' => ?_⟩
  obtain rfl : r = r' := Option.some.inj (h.present.symm.trans h'.present)
  obtain rfl : properties = properties' := Except.ok.inj (h.entries_eq.symm.trans h'.entries_eq)
  exact hp

theorem not_hasProperties_of_isNull {r r' : Resource} {properties : List (Scalar × Value)}
    (hr : a.graph.find? (.str t.resolverId) = some r) (hn : r.properties.isNull = true) :
    ¬ HasProperties a t r' properties := by
  intro h
  obtain rfl : r = r' := Option.some.inj (hr.symm.trans h.present)
  have hp := h.entries_eq
  cases hv : r.properties with
  | map es => rw [hv] at hn; cases hn
  | _ => rw [hv] at hp; cases hp

theorem not_hasProperties_of_error {r r' : Resource} {properties : List (Scalar × Value)}
    {f : ShapeFault} (hr : a.graph.find? (.str t.resolverId) = some r)
    (hp : r.properties.entries = .error f) : ¬ HasProperties a t r' properties := by
  intro h
  obtain rfl : r = r' := Option.some.inj (hr.symm.trans h.present)
  cases hp.symm.trans h.entries_eq

/-- What an operation that fails has changed by then: nothing before its resolver has been read;
after that the graph, unless the step that is begun is there already, and the hoisted contents,
unless it is a dependency that cannot be looked up. -/
theorem compileOperation_untouched_iff
    (h : (compileOperation s t before after group).run a = .error f a') :
    (a'.graph = a.graph ↔ ∀ r properties, HasProperties a t r properties →
      a.graph.find? (.str t.wrapStepId) =
          some (t.begunStep s a.graph (s.groupOr (some group)) r properties) ∧
        a.graph.groupOf (.str t.wrapStepId) = .str (s.groupOr (some group))) ∧
    (a'.hoisted = a.hoisted ↔ ∀ r properties, HasProperties a t r properties →
      r.dependsOn.all Value.isHashable = false) := by
  cases run_compileOperation_eq_error_iff.mp h with
  | absent hr =>
    have hnot : ∀ r properties, ¬ HasProperties a t r properties := by
      intro r properties hp
      cases hr.symm.trans hp.present
    simp [hnot]
  | malformed hr hn =>
    have hnot : ∀ r properties, ¬ HasProperties a t r properties :=
      fun _ _ => not_hasProperties_of_isNull hr hn
    simp [hnot]
  | unreadable hr _ hp =>
    have hnot : ∀ r properties, ¬ HasProperties a t r properties :=
      fun _ _ => not_hasProperties_of_error hr hp
    simp [hnot]
  | unhashable hr _ hp hd =>
    have hhas : HasProperties a t _ _ := ⟨hr, hp⟩
    rw [hhas.forall_iff, hhas.forall_iff]
    exact ⟨Graph.place_eq_self_iff, by simp [hd]⟩
  | template hr _ hp hd hq =>
    have hhas : HasProperties a t _ _ := ⟨hr, hp⟩
    rw [hhas.forall_iff, hhas.forall_iff]
    exact ⟨Graph.place_eq_self_iff, by simp [hd, discard_ne_of_requestTemplate hq]⟩

end Compilation

/-- What the storage layer leaves for new items, with an intrinsic in place of the request
template. -/
def Arena.withIntrinsic : Arena where
  graph := Graph.empty.place "Storage" (Target.resolverIdFor .create "Todo")
    { Resource.stored "Todo" with properties := .object [("DataSourceName", .str "TodoTable"),
      (requestKey, .object [("Fn::Sub", .str "request")]),
      ("ResponseMappingTemplate", .str "response")] }
  hoisted := .ofList [(Target.resolverIdFor .create "Todo", some "defaults")]

namespace Compilation

/-- The content hoisted for an intrinsic is lost, and a wrap step stays without it. -/
theorem intrinsic_touched : ∃ a',
    (compileOperation {} (.forOperation "Todo" [] .create) none none "Storage").run .withIntrinsic =
      .error (.shape .notText) a' ∧
    Arena.withIntrinsic.graph.contains (.str (LogicalId.wrapStep "Mutation" "createTodo")) = false ∧
    a'.graph.contains (.str (LogicalId.wrapStep "Mutation" "createTodo")) = true ∧
    a'.graph.contains (.str "CreateTodoResolver") = true ∧
    Arena.withIntrinsic.hoisted.contains "CreateTodoResolver" = true ∧
    a'.hoisted.contains "CreateTodoResolver" = false := by
  refine ⟨_, run_compileOperation_of_fails (.template rfl rfl rfl rfl rfl), ?_⟩
  decide +kernel

theorem compileOperation_untouched_intrinsic : ∃ a',
    (compileOperation {} (.forOperation "Todo" [] .create) none none "Storage").run .withIntrinsic =
      .error (.shape .notText) a' ∧
    a'.graph ≠ Arena.withIntrinsic.graph ∧ a'.hoisted ≠ Arena.withIntrinsic.hoisted := by
  let t := Target.forOperation "Todo" [] .create
  have h : (compileOperation {} t none none "Storage").run .withIntrinsic =
      .error (.shape .notText) _ :=
    run_compileOperation_of_fails (.template rfl rfl rfl rfl rfl)
  obtain ⟨hgraph, hhoisted⟩ := compileOperation_untouched_iff h
  have hhas : HasProperties .withIntrinsic t _ _ := ⟨rfl, rfl⟩
  refine ⟨_, h, fun heq => ?_, fun heq => ?_⟩
  · have hfree : Arena.withIntrinsic.graph.contains (.str t.wrapStepId) = false := by decide +kernel
    have hthere := Graph.contains_iff.mpr ⟨_, (hgraph.mp heq _ _ hhas).1⟩
    cases hfree.symm.trans hthere
  · cases hhoisted.mp heq _ _ hhas

end Compilation

end ResolverHooks
