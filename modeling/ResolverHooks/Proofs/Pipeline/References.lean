import ResolverHooks.Proofs.Pipeline.Deployment
import ResolverHooks.Proofs.Resource.Reference

/-!
What the resources of a run refer to: the API, the parameter of the environment, and each other. Of
a wrap step it is also whatever its resolver referred to, of which nothing is known.
-/
namespace ResolverHooks

open Intrinsic

namespace Settings

variable {s : Settings} {id : String}

/-- What is defined outside the graph: the API, and the parameter that names the environment. -/
def external (s : Settings) : List String := [s.apiLogicalId, s.envParameter]

theorem mem_external_of_apiId (h : RefersTo s.apiId id) : id ∈ s.external := by
  rw [refersTo_attributeOf.mp h]
  exact List.mem_cons_self

theorem mem_external_of_env (h : RefersTo (ref (.str s.envParameter)) id) : id ∈ s.external := by
  rw [eq_of_refersTo_ref h]
  exact List.mem_cons_of_mem _ List.mem_cons_self

/-- The resource name of a function needs nothing but the environment. -/
theorem mem_external_of_function {name : String} {region : Option String}
    (h : RefersTo (FunctionArn.value name region s) id) : id ∈ s.external := by
  rcases refersTo_ifElse.mp h with h | h
  · rw [refersTo_sub, FunctionArn.bindings] at h
    split at h
    · rw [refersTo_map (by simp)] at h
      obtain ⟨e, he, hid⟩ := h
      rw [List.mem_singleton.mp he] at hid
      exact mem_external_of_env hid
    · simp [refersTo_map] at h
  · simp [refersTo_sub, refersTo_map] at h

end Settings

namespace Identity

variable {i : Identity} {s : Settings} {id : String}

theorem roleName_refersTo (h : RefersTo (i.roleName s) id) : id ∈ s.external := by
  have hjoin : ∀ {values : List Value}, (∀ v ∈ values, (∃ text, v = .str text) ∨ v = s.apiId ∨
      v = ref (.str s.envParameter)) → RefersTo (join (.str "-") values) id → id ∈ s.external := by
    intro values hvalues hid
    obtain ⟨v, hv, hid⟩ := refersTo_join.mp hid
    rcases hvalues v hv with ⟨text, rfl⟩ | rfl | rfl
    · exact absurd hid (refersTo_scalar _ _)
    · exact Settings.mem_external_of_apiId hid
    · exact Settings.mem_external_of_env hid
  rcases refersTo_ifElse.mp h with h | h
  · exact hjoin (by simp) h
  · exact hjoin (by simp) h

theorem not_refersTo_trust (s : Settings) (id : String) : ¬ RefersTo (trust s) id := by
  simp [trust, refersTo_object, refersTo_seq]

theorem invokePolicy_refersTo (h : RefersTo (i.invokePolicy s) id) : id ∈ s.external := by
  apply Settings.mem_external_of_function
  simpa [invokePolicy, refersTo_object, refersTo_seq] using h

/-- A role refers to the API and the environment, to be unique for them. -/
theorem role_refersTo (h : RefersTo (i.role s).properties id) : id ∈ s.external := by
  rw [role, refersTo_object (by simp)] at h
  obtain ⟨f, hf, hid⟩ := h
  simp only [List.mem_cons, List.not_mem_nil, or_false] at hf
  rcases hf with rfl | rfl | rfl
  · exact roleName_refersTo hid
  · exact absurd hid (not_refersTo_trust _ _)
  · obtain ⟨v, hv, hid⟩ := refersTo_seq.mp hid
    rw [List.mem_singleton.mp hv] at hid
    exact invokePolicy_refersTo hid

/-- A data source refers to its role, too. -/
theorem dataSource_refersTo (h : RefersTo (i.dataSource s).properties id) :
    id ∈ s.external ∨ id = i.roleId := by
  rw [dataSource, refersTo_object (by simp)] at h
  obtain ⟨f, hf, hid⟩ := h
  simp only [List.mem_cons, List.not_mem_nil, or_false] at hf
  rcases hf with rfl | rfl | rfl | rfl | rfl
  · exact Or.inl (Settings.mem_external_of_apiId hid)
  · exact absurd hid (refersTo_scalar _ _)
  · exact absurd hid (refersTo_scalar _ _)
  · exact Or.inr (refersTo_attributeOf.mp hid)
  · rw [refersTo_object (by simp)] at hid
    obtain ⟨f, hf, hid⟩ := hid
    rw [List.mem_singleton.mp hf] at hid
    exact Or.inl (Settings.mem_external_of_function hid)

theorem dataSource_refersTo_role (i : Identity) (s : Settings) :
    RefersTo (i.dataSource s).properties i.roleId := by
  rw [dataSource, refersTo_object (by simp)]
  exact ⟨("ServiceRoleArn", attributeOf i.roleId "Arn"), by simp, refersTo_attributeOf.mpr rfl⟩

end Identity

namespace HookStep

variable {h : HookStep} {s : Settings} {dataSourceId id : String} {sameGroup : Bool}

/-- A hook step refers to a data source of another group; one of its own group it only names. -/
theorem resource_refersTo (hr : RefersTo (h.resource s dataSourceId sameGroup).properties id) :
    id ∈ s.external ∨ id = dataSourceId := by
  rw [resource, refersTo_object (by simp)] at hr
  obtain ⟨f, hf, hid⟩ := hr
  simp only [List.mem_cons, List.not_mem_nil, or_false] at hf
  rcases hf with rfl | rfl | rfl | rfl | rfl | rfl
  · exact Or.inl (Settings.mem_external_of_apiId hid)
  · exact absurd hid (refersTo_scalar _ _)
  · cases sameGroup with
    | true => exact absurd hid (refersTo_scalar _ _)
    | false => exact Or.inr (refersTo_attributeOf.mp hid)
  · exact absurd hid (refersTo_scalar _ _)
  · exact absurd hid (refersTo_scalar _ _)
  · exact absurd hid (refersTo_scalar _ _)

theorem resource_refersTo_dataSource (h : HookStep) (s : Settings) (dataSourceId : String) :
    RefersTo (h.resource s dataSourceId false).properties dataSourceId := by
  rw [resource, refersTo_object (by simp)]
  exact ⟨("DataSourceName", attributeOf dataSourceId "Name"), by simp, refersTo_attributeOf.mpr rfl⟩

end HookStep

namespace Target

variable {t : Target} {s : Settings} {functions : List String} {id : String}
  {properties : List (Scalar × Value)} {request : Value} {content : Option String}

/-- A pipeline refers to the functions that it runs. -/
theorem pipeline_refersTo (h : RefersTo (t.pipeline s functions).properties id) :
    id ∈ s.external ∨ id ∈ functions := by
  rw [pipeline, refersTo_object (by simp [requestKey])] at h
  obtain ⟨f, hf, hid⟩ := h
  simp only [List.mem_cons, List.not_mem_nil, or_false] at hf
  rcases hf with rfl | rfl | rfl | rfl | rfl | rfl | rfl
  · exact Or.inl (Settings.mem_external_of_apiId hid)
  · exact absurd hid (refersTo_scalar _ _)
  · exact absurd hid (refersTo_scalar _ _)
  · exact absurd hid (refersTo_scalar _ _)
  · rw [refersTo_object (by simp)] at hid
    obtain ⟨f, hf, hid⟩ := hid
    rw [List.mem_singleton.mp hf] at hid
    obtain ⟨v, hv, hid⟩ := refersTo_seq.mp hid
    obtain ⟨function, hfunction, rfl⟩ := List.mem_map.mp hv
    rw [refersTo_attributeOf.mp hid]
    exact Or.inr hfunction
  · exact absurd hid (refersTo_scalar _ _)
  · exact absurd hid (refersTo_scalar _ _)

/-- The properties that a wrap step takes over from its resolver. -/
def inheritedNames : List String := ["DataSourceName", requestKey, "ResponseMappingTemplate"]

theorem properties_wrapStepWith (t : Target) (s : Settings) (properties : List (Scalar × Value))
    (request : Value) : (t.wrapStepWith s properties request).properties =
      .object [("ApiId", s.apiId), ("DataSourceName", propertyOf "DataSourceName" properties),
        ("FunctionVersion", .str s.functionVersion), ("Name", .str t.wrapStepId),
        (requestKey, request),
        ("ResponseMappingTemplate", propertyOf "ResponseMappingTemplate" properties)] := by
  simp [wrapStepWith, wrapStep, Resource.stepProperties, Value.object, requestKey, Entries.insert,
    Scalar.same]

/-- Hoisted content adds no references: a template behind it is a text. -/
theorem requestTemplate_refersTo (hq : requestTemplate content properties = .ok request)
    (h : RefersTo request id) : RefersTo (propertyOf requestKey properties) id := by
  have hrequest := isRequest_of_requestTemplate hq
  rw [IsRequest] at hrequest
  split at hrequest
  · rwa [hrequest] at h
  · obtain ⟨text, _, rfl⟩ := hrequest
    exact absurd h (refersTo_scalar _ _)

/-- A wrap step refers to the API and to what its resolver referred to. -/
theorem wrapStepWith_refersTo (hq : requestTemplate content properties = .ok request)
    (h : RefersTo (t.wrapStepWith s properties request).properties id) :
    id ∈ s.external ∨ ∃ name ∈ inheritedNames, RefersTo (propertyOf name properties) id := by
  rw [properties_wrapStepWith, refersTo_object (by simp [requestKey])] at h
  obtain ⟨f, hf, hid⟩ := h
  simp only [List.mem_cons, List.not_mem_nil, or_false] at hf
  rcases hf with rfl | rfl | rfl | rfl | rfl | rfl
  · exact Or.inl (Settings.mem_external_of_apiId hid)
  · exact Or.inr ⟨"DataSourceName", by simp [inheritedNames], hid⟩
  · exact absurd hid (refersTo_scalar _ _)
  · exact absurd hid (refersTo_scalar _ _)
  · exact Or.inr ⟨requestKey, by simp [inheritedNames], requestTemplate_refersTo hq hid⟩
  · exact Or.inr ⟨"ResponseMappingTemplate", by simp [inheritedNames], hid⟩

end Target

/-- Whether a change makes the resource of an id, and does not find it there. -/
def Change.Creates (c : Change) (g : Graph) (id : String) : Prop :=
  id ∈ c.rebuilt ∨ id ∈ c.provided ∧ g.contains (.str id) = false

/-- Whether a resolver that is wrapped under an id refers to another id, in one of the properties
that its step takes over. -/
def Inherits (a : Arena) (hooked : List Entity) (id target : String) : Prop :=
  ∃ t ∈ hooked.flatMap Entity.targets, id = t.wrapStepId ∧ ∃ r properties,
    a.graph.find? (.str t.resolverId) = some r ∧ r.properties.entries = .ok properties ∧
      ∃ name ∈ Target.inheritedNames, RefersTo (propertyOf name properties) target

namespace Compilation

variable {s : Settings} {entities hooked : List Entity} {a a' : Arena} {e : Entity} {t : Target}
  {before after : List Target} {k : Scalar} {id target : String} {r : Resource}
  {results : List CompiledEntity}

/-- Whether a reference is to something that is there or defined elsewhere, or else inherited. -/
def Resolves (s : Settings) (hooked : List Entity) (a a' : Arena) (id target : String) : Prop :=
  a'.graph.contains (.str target) = true ∨ target ∈ s.external ∨ Inherits a hooked id target

section

variable (h : Performs s (hooked.flatMap (Entity.jobs s)) a a')

include h

theorem wrapStep_resolves (ht : Turn hooked e t before after)
    (hlast : ∀ u ∈ after, t.wrapStepId ∉ u.rebuilt) :
    ∃ w, a'.graph.find? (.str t.wrapStepId) = some w ∧
      ∀ target, RefersTo w.properties target → Resolves s hooked a a' t.wrapStepId target := by
  obtain ⟨_, _, b, r, properties, request, _, _, _, hw, hstep, _⟩ := exists_wrapStep h ht hlast
  refine ⟨_, hstep, fun target htarget => ?_⟩
  rcases Target.wrapStepWith_refersTo hw.request_eq htarget with hext | ⟨name, hname, hid⟩
  · exact Or.inr (Or.inl hext)
  · have hmem : t ∈ hooked.flatMap Entity.targets := by simp [ht.targets_eq]
    exact Or.inr (Or.inr
      ⟨t, hmem, rfl, r, properties, hw.present, hw.entries_eq, name, hname, hid⟩)

theorem pipeline_resolves (ht : Turn hooked e t before after)
    (hlast : ∀ u ∈ after, t.pipelineId ∉ u.rebuilt) :
    ∃ p, a'.graph.find? (.str t.pipelineId) = some p ∧
      ∀ target, RefersTo p.properties target → Resolves s hooked a a' t.pipelineId target := by
  obtain ⟨p, hp, hclosed⟩ := pipeline_closed h ht hlast
  obtain rfl := Option.some.inj ((find?_pipeline h ht hlast).1.symm.trans hp)
  refine ⟨_, hp, fun target htarget => ?_⟩
  rcases Target.pipeline_refersTo htarget with hext | hfunction
  · exact Or.inr (Or.inl hext)
  · -- A pipeline depends on what it runs, and leaves no dependency open.
    have hdep : .str target ∈ (t.pipelineOn s (e.functions t)).dependsOn := by
      rw [Target.dependsOn_pipelineOn s t (Entity.nodup_functions ht.mem_targets)]
      exact List.mem_map_of_mem hfunction
    exact Or.inl (hclosed _ hdep)

theorem provided_resolves
    (hid : id ∈ (Change.ofExtent hooked (hooked.flatMap Entity.targets)).provided)
    (hfree : a.graph.contains (.str id) = false) :
    ∃ r, a'.graph.find? (.str id) = some r ∧
      ∀ target, RefersTo r.properties target → Resolves s hooked a a' id target := by
  obtain ⟨e, he, stage, hm, placed, r, hmakes, hr, _⟩ := (reaches_plan h).exists_makes hid hfree
  refine ⟨r, hr, fun target htarget => ?_⟩
  have hneeded : ∀ x ∈ e.directive.provided e.name stage, a'.graph.contains (.str x) = true :=
    fun x hx => contains_provided h he hm hx
  cases hmakes with
  | role => exact Or.inr (Or.inl (Identity.role_refersTo htarget))
  | dataSource =>
    rcases Identity.dataSource_refersTo htarget with hext | rfl
    · exact Or.inr (Or.inl hext)
    · exact Or.inl (hneeded _ (Directive.mem_provided.mpr (Or.inl rfl)))
  | hookStep =>
    rcases HookStep.resource_refersTo htarget with hext | rfl
    · exact Or.inr (Or.inl hext)
    · exact Or.inl (hneeded _ (Directive.mem_provided.mpr (Or.inr (Or.inl rfl))))

/-- Every reference of what a run makes resolves. -/
theorem created_resolves
    (hid : (Change.ofExtent hooked (hooked.flatMap Entity.targets)).Creates a.graph id) :
    ∃ r, a'.graph.find? (.str id) = some r ∧
      ∀ target, RefersTo r.properties target → Resolves s hooked a a' id target := by
  rcases hid with hid | ⟨hid, hfree⟩
  · obtain ⟨e, t, before, after, ht, hid, hlast⟩ := Turn.exists_last hid
    rcases Target.mem_rebuilt.mp hid with rfl | rfl
    · exact wrapStep_resolves h ht hlast
    · exact pipeline_resolves h ht hlast
  · exact provided_resolves h hid hfree

/-- What a run has not made has been there before. -/
theorem created_or_found (hr : a'.graph.find? k = some r) :
    (∃ id, k = .str id ∧
      (Change.ofExtent hooked (hooked.flatMap Entity.targets)).Creates a.graph id) ∨
      a.graph.find? k = some r := by
  have hf := footprint_plan h
  cases hs : (Change.ofExtent hooked (hooked.flatMap Entity.targets)).spares a.graph k with
  | true => exact Or.inr ((hf.find?_eq hs).symm.trans hr)
  | false =>
    obtain ⟨id, rfl, hid⟩ := built_of_not_spares hf (fun _ => Entity.isConventional_flatMap_targets)
      (Graph.contains_iff.mpr ⟨r, hr⟩) hs
    exact Or.inl ⟨id, rfl, hid⟩

end

/-- Every reference that a run makes is to a resource that it leaves, or to one of the two things
that are defined outside the graph, unless it stood in a resolver that the run has wrapped. So only
such a reference is ever reported of a resource that the run has made. -/
theorem transform_references (h : (transform s entities).run a = .ok results a') :
    let hooked := entities.filter Entity.isHooked
    let change := Change.ofExtent hooked (hooked.flatMap Entity.targets)
    (∀ id, change.Creates a.graph id → ∃ r, a'.graph.find? (.str id) = some r ∧
      ∀ ids, referencedIds r.properties = .ok ids → ∀ target ∈ ids,
        a'.graph.contains (.str target) = true ∨ target = s.apiLogicalId ∨
          target = s.envParameter ∨ Inherits a hooked id target) ∧
    (∀ k r, a'.graph.find? k = some r →
      (∃ id, k = .str id ∧ change.Creates a.graph id) ∨ a.graph.find? k = some r) ∧
    ∀ found, a'.graph.findUnresolved [s.apiLogicalId, s.envParameter] = .ok found →
      ∀ id target, Finding.unresolved (.str id) target ∈ found → change.Creates a.graph id →
        Inherits a hooked id target := by
  obtain ⟨_, _, hp⟩ := transform_ok h
  refine ⟨fun id hid => ?_, fun k r hr => created_or_found hp hr,
    fun found hfound id target hf hid => ?_⟩
  · obtain ⟨r, hr, hresolves⟩ := created_resolves hp hid
    refine ⟨r, hr, fun ids hids target htarget => ?_⟩
    rcases hresolves target ((mem_referencedIds hids).mp htarget) with hc | hext | hinherits
    · exact Or.inl hc
    · rcases List.mem_cons.mp hext with hapi | henv
      · exact Or.inr (Or.inl hapi)
      · exact Or.inr (Or.inr (Or.inl (List.mem_singleton.mp henv)))
    · exact Or.inr (Or.inr (Or.inr hinherits))
  · obtain ⟨k, r, ids, target', hr, hids, hmem, hf, hopen, hext⟩ :=
      Graph.exists_of_findUnresolved hfound hf
    cases hf
    obtain ⟨r', hr', hresolves⟩ := created_resolves hp hid
    obtain rfl := Option.some.inj (hr'.symm.trans hr)
    rcases hresolves target ((mem_referencedIds hids).mp hmem) with hc | hext' | hinherits
    · rw [hopen] at hc
      cases hc
    · exact absurd hext' hext
    · exact hinherits

end Compilation

/-- An arena in which the data source of a resolver is that of a table which is not there. -/
def Arena.referring (name : String) : Arena :=
  { Arena.storing [name] with
    graph := (Arena.storing [name]).graph.place "Storage" (Target.resolverIdFor .create name)
      { Resource.stored name with
        properties := .object [("DataSourceName", attributeOf (name ++ "Table") "Name"),
          (requestKey, .str "request"), ("ResponseMappingTemplate", .str "response")] } }

namespace Compilation

/-- The wrap step refers to the table, as its resolver did. -/
theorem transform_references_referring : ∃ results a' w ids,
    (transform {} [.audited "Todo"]).run (.referring "Todo") = .ok results a' ∧
      a'.graph.find? (.str (LogicalId.wrapStep "Mutation" "createTodo")) = some w ∧
      referencedIds w.properties = .ok ids ∧ "TodoTable" ∈ ids ∧
      a'.graph.contains (.str "TodoTable") = false ∧
      Inherits (.referring "Todo") [.audited "Todo"] (LogicalId.wrapStep "Mutation" "createTodo")
        "TodoTable" := by
  obtain ⟨results, a', h, hleft⟩ := exists_of_endsWith
    (show endsWith (fun _ a' => !a'.graph.contains (.str "TodoTable") &&
      ((a'.graph.find? (.str (LogicalId.wrapStep "Mutation" "createTodo"))).any fun w =>
        (references w.properties).all Value.hasText &&
          (references w.properties).any fun x => x.same (.str "TodoTable")))
      (transform {} [.audited "Todo"]) (.referring "Todo") = true by decide +kernel)
  simp only [Bool.and_eq_true, Bool.not_eq_true', Option.any_eq_true] at hleft
  obtain ⟨hopen, w, hw, htext, hany⟩ := hleft
  obtain ⟨x, hx, hsame⟩ := List.any_eq_true.mp hany
  obtain ⟨ids, hids⟩ := exists_referencedIds htext
  have htable : "TodoTable" ∈ ids :=
    (mem_referencedIds hids).mpr ⟨x, hx, by rw [Value.same_str_iff.mp hsame]; rfl⟩
  have hmem : Target.forOperation "Todo" [] .create ∈ [Entity.audited "Todo"].flatMap
      Entity.targets := by decide
  obtain ⟨w', hw', hresolves⟩ := (transform_references h).1 _
    (Or.inl (List.mem_flatMap.mpr ⟨_, hmem, Target.mem_rebuilt.mpr (Or.inl rfl)⟩))
  obtain rfl := Option.some.inj (hw.symm.trans hw')
  refine ⟨results, a', w, ids, h, hw, hids, htable, hopen, ?_⟩
  rcases hresolves ids hids "TodoTable" htable with hc | hapi | henv | hinherits
  · rw [hopen] at hc
    cases hc
  · exact absurd hapi (by decide)
  · exact absurd henv (by decide)
  · exact hinherits

end Compilation

end ResolverHooks
