import ResolverHooks.Pipeline.Request
import ResolverHooks.Proofs.Pipeline.Closed
import ResolverHooks.Proofs.Resource.Template

/-!
A whole compilation, from the template of a request to the output document. A resource that is
neither a resolver that is wrapped nor overwritten by what is built passes through with its type,
its properties and its dependencies, which is all that a resource keeps.
-/
namespace ResolverHooks

/-- Whether an id is none of those that the operations of entities drop or write. -/
def Untouched (hooked : List Entity) (k : Scalar) : Prop :=
  ∀ t ∈ hooked.flatMap Entity.targets, ∀ id ∈ t.resolverId :: t.rebuilt, k ≠ .str id

namespace Change

variable {hooked : List Entity} {g : Graph} {k : Scalar}

/-- A resource that is there and untouched is left alone. -/
theorem spares_of_untouched (hk : Untouched hooked k) (hc : g.contains k = true) :
    (ofExtent hooked (hooked.flatMap Entity.targets)).spares g k = true := by
  cases hs : (ofExtent hooked (hooked.flatMap Entity.targets)).spares g k with
  | true => rfl
  | false =>
    obtain ⟨id, rfl, hid | hid | ⟨_, hfree⟩⟩ :=
      ((ofExtent hooked (hooked.flatMap Entity.targets)).spares_or g k).resolve_left (by simp [hs])
    · obtain ⟨t, ht, rfl⟩ := List.mem_map.mp hid
      exact absurd rfl (hk t ht _ List.mem_cons_self)
    · obtain ⟨t, ht, hid⟩ := List.mem_flatMap.mp hid
      exact absurd rfl (hk t ht id (List.mem_cons_of_mem _ hid))
    · rw [hc] at hfree
      cases hfree

end Change

namespace Request

/-- The graph of a request's arena is that of its template. -/
theorem ofTemplate_of_arena {request : Request} {a : Arena} (h : request.arena = .ok a) :
    Graph.ofTemplate request.template (.object (request.groups.map fun g => (g.1, .str g.2))) =
      .ok a.graph := by
  rw [arena] at h
  cases hg : Graph.ofTemplate request.template
      (.object (request.groups.map fun g => (g.1, .str g.2))) with
  | error f =>
    rw [hg] at h
    cases h
  | ok g =>
    rw [hg] at h
    obtain rfl := Except.ok.inj h
    rfl

/-- A table that is to be kept when its stack is deleted. -/
def retainedTable : Value :=
  .object [("Type", .str "AWS::DynamoDB::Table"), ("DeletionPolicy", .str "Retain"),
    ("DependsOn", .str "TodoKey")]

/-- The resolvers of an entity, and its table. -/
def retainedResources : List (Scalar × Value) :=
  (Operation.all.map fun o => (.str (Target.resolverIdFor o "Todo"),
    (Resource.stored "Todo").toValue)) ++ [(.str "TodoTable", retainedTable)]

def retaining : Request where
  template := [(.str "Resources", .map retainedResources)]
  groups := []
  hoisted := []
  entities := [.audited "Todo"]

end Request

namespace Compilation

variable {s : Settings} {request : Request} {a a' : Arena} {results : List CompiledEntity}
  {es : List (Scalar × Value)} {k : Scalar} {v : Value}

/-- The run over the table succeeds, and does not touch it. -/
theorem exists_retaining : ∃ a results a', Request.retaining.arena = .ok a ∧
    (transform {} Request.retaining.entities).run a = .ok results a' ∧
    Untouched (Request.retaining.entities.filter Entity.isHooked) (.str "TodoTable") ∧
    a'.graph.contains (.str "TodoTable") = true := by
  have hrun : (match Request.retaining.arena with
      | .ok a => endsWith (fun _ a' => a'.graph.contains (.str "TodoTable"))
          (transform {} Request.retaining.entities) a
      | .error _ => false) = true := by decide +kernel
  split at hrun
  · rename_i a ha
    obtain ⟨results, a', h, hc⟩ := exists_of_endsWith hrun
    refine ⟨a, results, a', ha, h, fun t ht id hid heq => ?_, hc⟩
    have hall : ∀ t ∈ (Request.retaining.entities.filter Entity.isHooked).flatMap Entity.targets,
        ∀ id ∈ t.resolverId :: t.rebuilt, "TodoTable" ≠ id := by decide +kernel
    exact hall t ht id hid (Scalar.str.inj heq)
  · cases hrun

/-- The table is written without its deletion policy. -/
theorem policy_lost : ∃ a results a' input output, Request.retaining.arena = .ok a ∧
    (transform {} Request.retaining.entities).run a = .ok results a' ∧
    Untouched (Request.retaining.entities.filter Entity.isHooked) (.str "TodoTable") ∧
    Graph.written? (.map Request.retaining.template) (.str "TodoTable") = some (.map input) ∧
    Entries.find? (.str "DeletionPolicy") input = some (.str "Retain") ∧
    Graph.written? a'.graph.toValue (.str "TodoTable") = some (.map output) ∧
    Entries.find? (.str "DeletionPolicy") output = none := by
  obtain ⟨a, results, a', ha, h, hk, hc⟩ := exists_retaining
  obtain ⟨r, hr⟩ := Graph.contains_iff.mp hc
  refine ⟨a, results, a', _, r.attributes, ha, h, hk, by rfl, by rfl, ?_, ?_⟩
  · rw [Graph.written?_toValue, hr]
    rfl
  · exact Resource.find?_attributes_other (by decide) (by decide) (by decide) r

/-- Every resource of the template that is untouched is in the output document, with its type, its
properties and its dependencies as they were read, and with nothing else. -/
theorem transform_untouched (ha : request.arena = .ok a)
    (h : (transform s request.entities).run a = .ok results a')
    (hes : Graph.templateResources request.template = .ok es) (hn : (Entries.keyList es).Nodup)
    (hm : (k, v) ∈ es) (hk : Untouched (request.entities.filter Entity.isHooked) k) :
    ∃ input output, v.entries = .ok input ∧
      Graph.written? a'.graph.toValue k = some (.map output) ∧ Resource.Keeps input output := by
  obtain ⟨r, hread, hr⟩ := Graph.find?_ofTemplate (Request.ofTemplate_of_arena ha) hes hn hm
  obtain ⟨_, _, hp⟩ := transform_ok h
  have hs := Change.spares_of_untouched hk (Graph.contains_iff.mpr ⟨r, hr⟩)
  obtain ⟨input, hinput, hkeeps⟩ := Resource.keeps_of_ofValue hread
  refine ⟨input, r.attributes, hinput, ?_, hkeeps⟩
  rw [Graph.written?_toValue, (footprint_plan hp).find?_eq hs, hr]
  rfl

/-- The table is written with its type, and with its one dependency as a list. -/
theorem transform_untouched_retaining : ∃ a results a' output,
    Request.retaining.arena = .ok a ∧
      (transform {} Request.retaining.entities).run a = .ok results a' ∧
      Graph.written? a'.graph.toValue (.str "TodoTable") = some (.map output) ∧
      Entries.find? (.str "Type") output = some (.str "AWS::DynamoDB::Table") ∧
      Entries.find? (.str "Properties") output = none ∧
      Entries.find? (.str "DependsOn") output = some (.seq [.str "TodoKey"]) := by
  obtain ⟨a, results, a', ha, h, hk, _⟩ := exists_retaining
  have hm : (Scalar.str "TodoTable", Request.retainedTable) ∈ Request.retainedResources :=
    List.mem_append_right _ (List.mem_singleton_self _)
  obtain ⟨input, output, hinput, hwritten, hkeeps⟩ :=
    transform_untouched ha h (by rfl) (by decide +kernel) hm hk
  obtain rfl := Except.ok.inj hinput
  obtain ⟨deps, hdeps, hwrittenDeps⟩ := hkeeps.dependencies
  obtain rfl := Except.ok.inj hdeps
  exact ⟨a, results, a', output, ha, h, hwritten, hkeeps.kind, hkeeps.properties, hwrittenDeps⟩

end Compilation

end ResolverHooks
