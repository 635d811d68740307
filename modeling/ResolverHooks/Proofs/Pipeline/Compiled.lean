import Mathlib.Data.List.Dedup
import Mathlib.Data.List.Forall2
import ResolverHooks.Proofs.Naming.Field
import ResolverHooks.Proofs.Pipeline.Turn

/-!
What a whole run makes of each operation, and what it reports. What an operation builds stays as it
is to the end of the run, as long as no other operation has the same field and ids tell their names
apart.
-/
namespace ResolverHooks

namespace Target

def fragments (t : Target) : List (Option String) := [some t.typeName, some t.fieldName]

/-- The names of what is built for an operation. -/
def names (t : Target) : List (ResourceKind × List (Option String)) :=
  [(.wrapStep, t.fragments), (.pipeline, t.fragments)]

theorem rebuilt_eq (t : Target) :
    t.rebuilt = t.names.map fun n => LogicalId.canonical n.1 n.2 := rfl

theorem mem_names {t : Target} {n : ResourceKind × List (Option String)} (h : n ∈ t.names) :
    (n.1 = .wrapStep ∨ n.1 = .pipeline) ∧ n.2 = t.fragments := by
  simp only [names, List.mem_cons, List.not_mem_nil, or_false] at h
  rcases h with rfl | rfl
  · exact ⟨Or.inl rfl, rfl⟩
  · exact ⟨Or.inr rfl, rfl⟩

theorem field_eq_of_fragments_eq {t t' : Target} (h : t.fragments = t'.fragments) :
    t.field = t'.field := by simpa [fragments, field] using h

end Target

/-- Names that their ids tell apart. -/
def TellApart (names : List (ResourceKind × List (Option String))) : Prop :=
  ∀ m ∈ names, ∀ n ∈ names,
    LogicalId.canonical m.1 m.2 = LogicalId.canonical n.1 n.2 → m = n

/-- What a request template becomes behind hoisted content; no content leaves it as it is. -/
def IsRequest (content : Option String) (template request : Value) : Prop :=
  match content.filter (· != "") with
  | none => request = template
  | some c => ∃ text, (template = .str text ∨ template.isTruthy = false ∧ text = "") ∧
      request = .str (c ++ "\n" ++ text)

/-- What a run makes of an operation of an entity. -/
structure Compiled (s : Settings) (e : Entity) (t : Target) (a a' : Arena) : Prop where
  valid : e.hookOfModel = .ok e.directive
  functions_eq : e.functions t = (e.directive.stepId? e.name .before t.operation).toList ++
    t.wrapStepId :: (e.directive.stepId? e.name .after t.operation).toList
  /-- The pipeline runs these functions and depends on them. -/
  pipeline : ∃ p, a'.graph.find? (.str t.pipelineId) = some p ∧ p.kind = .str resolverKind ∧
    propertyOf "Kind" p.stepProperties = .str "PIPELINE" ∧
    propertyOf "TypeName" p.stepProperties = .str t.typeName ∧
    propertyOf "FieldName" p.stepProperties = .str t.fieldName ∧
    propertyOf "PipelineConfig" p.stepProperties = .object [("Functions",
      .seq ((e.functions t).map fun id => Intrinsic.attributeOf id "FunctionId"))] ∧
    p.dependsOn = (e.functions t).map Value.str
  /-- The wrap step carries out what the resolver did. -/
  step : ∃ resolver properties w, a.graph.find? (.str t.resolverId) = some resolver ∧
    resolver.properties.entries = .ok properties ∧
    a'.graph.find? (.str t.wrapStepId) = some w ∧ w.kind = .str functionKind ∧
    propertyOf "DataSourceName" w.stepProperties = propertyOf "DataSourceName" properties ∧
    propertyOf "ResponseMappingTemplate" w.stepProperties =
      propertyOf "ResponseMappingTemplate" properties ∧
    IsRequest (a.hoisted.content? t.resolverId) (propertyOf requestKey properties)
      (propertyOf requestKey w.stepProperties)
  groups : a'.graph.groupOf (.str t.pipelineId) = .str (s.groupOr e.stack) ∧
    a'.graph.groupOf (.str t.wrapStepId) = .str (s.groupOr e.stack)
  /-- Nothing is left of the resolver. -/
  dropped : a'.graph.find? (.str t.resolverId) = none ∧
    a'.hoisted.contains t.resolverId = false

/-- What a run reports of an entity. -/
structure Reported (s : Settings) (e : Entity) (r : CompiledEntity) : Prop where
  entity_eq : r.entity = e.name
  group_eq : r.group = s.groupOr e.stack
  /-- A stage has a hook step if its hook runs for some operation. -/
  mem_hookSteps_iff : ∀ stage id, (stage, id) ∈ r.hookSteps ↔
    (∃ o, (e.directive.stage stage).enabled o = true) ∧ id = (e.directive.hookStep e.name stage).id
  operations_eq : r.pipelines.map CompiledOperation.operation =
    [.create, .update, .delete, .get, .list]
  /-- Each operation has one pipeline, whose functions are the hook steps that run for the operation
  and its wrap step between them. -/
  pipelines_eq : ∀ o, r.pipelines.filter (·.operation = o) =
    [⟨o, (Target.forOperation e.name e.fieldNames o).pipelineId,
      (e.directive.stepId? e.name .before o).toList ++
        (Target.forOperation e.name e.fieldNames o).wrapStepId ::
          (e.directive.stepId? e.name .after o).toList⟩]

namespace Entity

variable {s : Settings}

theorem reported_summary (e : Entity) : Reported s e (e.summary s) where
  entity_eq := rfl
  group_eq := rfl
  mem_hookSteps_iff stage id := by
    rw [← Flags.anyEnabled_iff]
    simp only [summary, Directive.steps, List.mem_map, Prod.mk.injEq, Directive.mem_stages]
    constructor
    · rintro ⟨_, henabled, rfl, rfl⟩
      exact ⟨henabled, rfl⟩
    · rintro ⟨henabled, rfl⟩
      exact ⟨stage, henabled, rfl, rfl⟩
  operations_eq := rfl
  pipelines_eq o := by
    have hone : (e.summary s).pipelines.filter (·.operation = o) =
        [⟨o, (Target.forOperation e.name e.fieldNames o).pipelineId,
          e.functions (Target.forOperation e.name e.fieldNames o)⟩] := by
      cases o <;> rfl
    rw [hone, e.functions_eq]
    rfl

/-- The reports of a run are those of its entities, one by one. -/
theorem forall₂_reported_summaries (es : List Entity) :
    List.Forall₂ (Reported s) es (es.map (summary s)) :=
  List.forall₂_map_right_iff.mpr (List.forall₂_same.mpr fun e _ => e.reported_summary)

end Entity

namespace Target

variable {t : Target} {s : Settings} {properties : List (Scalar × Value)} {request : Value}

/-- A request template that was found can be said without reference to how it was found. -/
theorem isRequest_of_requestTemplate {content : Option String}
    (h : requestTemplate content properties = .ok request) :
    IsRequest content (propertyOf requestKey properties) request := by
  cases content with
  | none => exact (Except.ok.inj h).symm
  | some c =>
    by_cases hc : (c != "") = true
    · simp only [requestTemplate, hc, if_true, hoistedTemplate] at h
      simp only [IsRequest, Option.filter, hc, if_true]
      generalize propertyOf requestKey properties = template at h ⊢
      cases htruth : template.isTruthy with
      | false =>
        simp only [htruth, Bool.false_eq_true, if_false] at h
        exact ⟨"", Or.inr ⟨rfl, rfl⟩, (Except.ok.inj h).symm⟩
      | true =>
        simp only [htruth, if_true] at h
        split at h
        · exact ⟨_, Or.inl rfl, (Except.ok.inj h).symm⟩
        · cases h
    · simp only [requestTemplate, hc] at h
      simp only [IsRequest, Option.filter, hc]
      exact (Except.ok.inj h).symm

end Target

/-- What is built at a turn is not built again, if no other operation has the field. -/
theorem Turn.not_mem_rebuilt {hooked : List Entity} {e : Entity} {t : Target}
    {before after : List Target} (ht : Turn hooked e t before after)
    (hfields : ((hooked.flatMap Entity.targets).map Target.field).Nodup)
    (hnames : TellApart ((hooked.flatMap Entity.targets).flatMap Target.names)) :
    ∀ id ∈ t.rebuilt, ∀ u ∈ after, id ∉ u.rebuilt := by
  intro id hid u hu hid'
  rw [ht.targets_eq] at hfields hnames
  rw [List.map_append, List.map_cons] at hfields
  obtain ⟨n, hn, rfl⟩ := List.mem_map.mp (Target.rebuilt_eq t ▸ hid)
  obtain ⟨n', hn', heq⟩ := List.mem_map.mp (Target.rebuilt_eq u ▸ hid')
  have hsame : n = n' := hnames n (List.mem_flatMap.mpr ⟨t, by simp, hn⟩) n'
    (List.mem_flatMap.mpr ⟨u, by simp [hu], hn'⟩) heq.symm
  have hfield : u.field = t.field := by
    apply Target.field_eq_of_fragments_eq
    rw [← (Target.mem_names hn).2, ← (Target.mem_names hn').2, hsame]
  exact (List.nodup_cons.mp (List.nodup_append.mp hfields).2.1).1
    (hfield ▸ List.mem_map_of_mem hu)

namespace Compilation

variable {s : Settings} {a a' : Arena} {entities : List Entity} {e : Entity} {t : Target}

/-- What has been built for an operation is not changed by the jobs that follow, if those are for
other fields. -/
theorem compiled_of_performs
    (hv : ∀ e ∈ entities.filter Entity.isHooked, e.hookOfModel = .ok e.directive)
    (hp : Performs s (plan s entities) a a')
    (hfields : (((entities.filter Entity.isHooked).flatMap Entity.targets).map Target.field).Nodup)
    (hnames : TellApart
      (((entities.filter Entity.isHooked).flatMap Entity.targets).flatMap Target.names))
    (he : e ∈ entities.filter Entity.isHooked) (ht : t ∈ e.targets) : Compiled s e t a a' := by
  obtain ⟨before, after, hturn⟩ := Turn.exists_of_mem he ht
  have hlast := hturn.not_mem_rebuilt hfields hnames
  obtain ⟨_, _, b, r, properties, request, _, _, _, hw, hstep, hstepGroup⟩ :=
    exists_wrapStep hp hturn (hlast _ (Target.mem_rebuilt.mpr (Or.inl rfl)))
  obtain ⟨hpipeline, hpipelineGroup⟩ :=
    find?_pipeline hp hturn (hlast _ (Target.mem_rebuilt.mpr (Or.inr rfl)))
  exact {
    valid := hv e he
    functions_eq := e.functions_eq t
    pipeline := ⟨_, hpipeline, rfl, rfl, rfl, rfl, rfl,
      Target.dependsOn_pipelineOn s t (Entity.nodup_functions ht)⟩
    step := ⟨r, properties, _, hw.present, hw.entries_eq, hstep, rfl, rfl, rfl,
      Target.isRequest_of_requestTemplate hw.request_eq⟩
    groups := ⟨hpipelineGroup, hstepGroup⟩
    dropped := dropped_of_footprint (Entity.isConventional_targets ht)
      (List.mem_flatMap.mpr ⟨e, he, ht⟩) (footprint_plan hp) }

/-- What a run that succeeds makes and reports of all operations on every hooked entity, if no two
operations have the same field. -/
theorem transform_compiled {results : List CompiledEntity}
    (h : (transform s entities).run a = .ok results a')
    (hfields : (((entities.filter Entity.isHooked).flatMap Entity.targets).map Target.field).Nodup)
    (hnames : TellApart
      (((entities.filter Entity.isHooked).flatMap Entity.targets).flatMap Target.names)) :
    List.Forall₂ (Reported s) (entities.filter Entity.isHooked) results ∧
      ∀ e ∈ entities.filter Entity.isHooked, ∀ o : Operation,
        Compiled s e (Target.forOperation e.name e.fieldNames o) a a' := by
  obtain ⟨hv, rfl, hp⟩ := transform_ok h
  refine ⟨Entity.forall₂_reported_summaries _, fun e he o => ?_⟩
  exact compiled_of_performs hv hp hfields hnames he (Entity.mem_targets_iff.mpr ⟨o, rfl⟩)

/-- Names are told apart if the ids of their different ones are all different. -/
theorem tellApart_of_nodup {names : List (ResourceKind × List (Option String))}
    (h : (names.dedup.map fun n => LogicalId.canonical n.1 n.2).Nodup) : TellApart names := by
  intro m hm n hn
  exact List.inj_on_of_nodup_map h (List.mem_dedup.mpr hm) (List.mem_dedup.mpr hn)

/-- A run over one entity with two hook steps, of which the first operation has hoisted content. -/
theorem transform_compiled_audited : ∃ results a',
    (transform {} [.audited "Todo"]).run (.storing ["Todo"]) = .ok results a' ∧
      List.Forall₂ (Reported {}) [.audited "Todo"] results ∧
      ∀ o : Operation,
        Compiled {} (.audited "Todo") (.forOperation "Todo" [] o) (.storing ["Todo"]) a' := by
  obtain ⟨a', h⟩ := @transform_succeeds {} (.storing ["Todo"]) [.audited "Todo"] (by decide +kernel)
    (by decide +kernel) (by decide +kernel)
  obtain ⟨hr, hc⟩ := transform_compiled h (by decide +kernel)
    (tellApart_of_nodup (by decide +kernel))
  exact ⟨_, a', h, hr, hc _ (List.mem_filter.mpr ⟨List.mem_singleton_self _, by decide⟩)⟩

end Compilation

end ResolverHooks
