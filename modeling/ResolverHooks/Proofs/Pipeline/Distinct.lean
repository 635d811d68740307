import ResolverHooks.Proofs.Pipeline.Compiled

/-!
When a run overwrites nothing that it has built itself. Wrap steps and pipelines are named by
fields, and the only fields that two entities can share are those of their lists, whose names are
plurals.
-/
namespace ResolverHooks

open LogicalId

/-- The texts whose digests the ids of a wrap step and a pipeline end in. -/
def Target.materials (t : Target) : List String := t.names.map fun n => material n.1 n.2

/-- Texts that their digests tell apart. -/
def DigestsApart (texts : List String) : Prop :=
  ∀ m ∈ texts, ∀ n ∈ texts, fingerprint m = fingerprint n → m = n

theorem digestsApart_of_nodup {texts : List String}
    (h : (texts.dedup.map fingerprint).Nodup) : DigestsApart texts := by
  intro m hm n hn
  exact List.inj_on_of_nodup_map h (List.mem_dedup.mpr hm) (List.mem_dedup.mpr hn)

namespace Target

variable {ts : List Target} {t : Target}

/-- Ids tell names apart if digests do, since endings tell the kinds apart and materials the
fields. -/
theorem tellApart_of_digestsApart (hroot : ∀ t ∈ ts, ∃ o : Operation, t.typeName = o.rootType)
    (hd : DigestsApart (ts.flatMap materials)) : TellApart (ts.flatMap names) := by
  intro m hm n hn heq
  obtain ⟨t, ht, hm⟩ := List.mem_flatMap.mp hm
  obtain ⟨t', ht', hn⟩ := List.mem_flatMap.mp hn
  obtain ⟨hmk, hmf⟩ := mem_names hm
  obtain ⟨hnk, hnf⟩ := mem_names hn
  have hkind : m.1 = n.1 := by
    rcases kind_of_canonicalWith_eq isDigest_fingerprint heq with hk | ⟨_, hk⟩ | ⟨hk, _⟩
    · exact hk
    · simp [hk] at hnk
    · simp [hk] at hmk
  have hmat : material m.1 m.2 = material n.1 n.2 :=
    hd _ (List.mem_flatMap.mpr ⟨t, ht, List.mem_map_of_mem hm⟩) _
      (List.mem_flatMap.mpr ⟨t', ht', List.mem_map_of_mem hn⟩)
      (body_eq_of_canonicalWith_eq isDigest_fingerprint heq).2
  obtain ⟨o, ho⟩ := hroot t ht
  obtain ⟨o', ho'⟩ := hroot t' ht'
  have hfield : (o.rootType, t.fieldName) = (o'.rootType, t'.fieldName) := by
    rw [hkind, hmf, hnf, fragments, fragments, ho, ho'] at hmat
    exact field_of_material_eq hmat
  obtain ⟨htype, hname⟩ := Prod.mk.inj hfield
  apply Prod.ext hkind
  rw [hmf, hnf, fragments, fragments, ho, ho', htype, hname]

/-- Ids of one kind are all different if and only if the fields are. -/
theorem nodup_ids_iff {names : List (ResourceKind × List (Option String))} {k : ResourceKind}
    (hn : TellApart names) (hk : ∀ t ∈ ts, (k, t.fragments) ∈ names) :
    (ts.map fun t => canonical k t.fragments).Nodup ↔ (ts.map field).Nodup := by
  constructor
  · intro h
    have hcomp : (ts.map fun t => canonical k t.fragments) =
        (ts.map field).map fun f => canonical k [some f.1, some f.2] := by
      rw [List.map_map]
      rfl
    exact List.Nodup.of_map _ (hcomp ▸ h)
  · intro h
    have hts := List.Nodup.of_map _ h
    apply List.Nodup.map_on _ hts
    intro t ht t' ht' heq
    have hf := (Prod.mk.inj (hn _ (hk t ht) _ (hk t' ht') heq)).2
    exact List.inj_on_of_nodup_map h ht ht' (field_eq_of_fragments_eq hf)

end Target

/-- An entity with a hook that never runs. -/
def Entity.idle (name : String) : Entity where
  name := name
  directives := [("model", none), ("hook", some [(.str "name", .str "audit")])]
  stack := none
  fieldNames := []

namespace Compilation

variable {s : Settings} {entities : List Entity} {a a' : Arena} {results : List CompiledEntity}

theorem rootType_of_mem {es : List Entity} {t : Target} (h : t ∈ es.flatMap Entity.targets) :
    ∃ o : Operation, t.typeName = o.rootType := by
  obtain ⟨e, _, ht⟩ := List.mem_flatMap.mp h
  obtain ⟨o, _, rfl⟩ := List.mem_map.mp ht
  exact ⟨o, rfl⟩

/-- The pipelines that are reported. -/
def pipelineIds (results : List CompiledEntity) : List String :=
  results.flatMap fun r => r.pipelines.map CompiledOperation.pipelineId

theorem pipelineIds_summaries (s : Settings) (es : List Entity) :
    pipelineIds (es.map (Entity.summary s)) =
      (es.flatMap Entity.targets).map Target.pipelineId := by
  rw [List.map_flatMap, pipelineIds, List.flatMap_map]
  simp [Entity.summary, Entity.pipelines, Function.comp_def]

section

variable {es : List Entity} (ho : ∀ e ∈ es, e.fieldNames = [])
  (hd : DigestsApart ((es.flatMap Entity.targets).flatMap Target.materials))

include ho hd

/-- Only the fields of lists can make two ids of one kind the same. -/
theorem nodup_canonical_iff {k : ResourceKind} (hk : ∀ t : Target, (k, t.fragments) ∈ t.names) :
    ((es.flatMap Entity.targets).map fun t => canonical k t.fragments).Nodup ↔
      (es.map Entity.listField).Nodup := by
  rw [← Entity.nodup_fields_iff ho]
  exact Target.nodup_ids_iff (Target.tellApart_of_digestsApart (fun _ => rootType_of_mem) hd)
    fun t ht => List.mem_flatMap.mpr ⟨t, ht, hk t⟩

theorem nodup_pipelineIds_iff :
    ((es.flatMap Entity.targets).map Target.pipelineId).Nodup ↔
      (es.map Entity.listField).Nodup :=
  nodup_canonical_iff ho hd fun t => by simp [Target.names]

theorem nodup_wrapStepIds_iff :
    ((es.flatMap Entity.targets).map Target.wrapStepId).Nodup ↔
      (es.map Entity.listField).Nodup :=
  nodup_canonical_iff ho hd fun t => by simp [Target.names]

end

/-- Two entities of different names whose lists have one name share a pipeline, and a wrap step. -/
theorem listField_shared : ∃ results a',
    (transform {} [.idle "Todo", .idle "Todos"]).run (.storing ["Todo", "Todos"]) =
        .ok results a' ∧
      ([Entity.idle "Todo", .idle "Todos"].map Entity.name).Nodup ∧
      (∀ e ∈ [Entity.idle "Todo", .idle "Todos"], e.fieldNames = []) ∧
      DigestsApart (([Entity.idle "Todo", .idle "Todos"].flatMap Entity.targets).flatMap
        Target.materials) ∧
      ¬ (pipelineIds results).Nodup ∧
      ¬ (([Entity.idle "Todo", .idle "Todos"].flatMap Entity.targets).map
        Target.wrapStepId).Nodup := by
  obtain ⟨a', h⟩ := @transform_succeeds {} (.storing ["Todo", "Todos"])
    [.idle "Todo", .idle "Todos"] (by decide +kernel) (by decide +kernel) (by decide +kernel)
  have ho : ∀ e ∈ [Entity.idle "Todo", .idle "Todos"], e.fieldNames = [] := by
    simp [Entity.idle]
  have hd : DigestsApart (([Entity.idle "Todo", .idle "Todos"].flatMap Entity.targets).flatMap
    Target.materials) := digestsApart_of_nodup (by decide +kernel)
  have hl : ¬ ([Entity.idle "Todo", .idle "Todos"].map Entity.listField).Nodup := by decide
  refine ⟨_, a', h, by decide, ho, hd, ?_, ?_⟩
  · change ¬ (pipelineIds ([Entity.idle "Todo", .idle "Todos"].map (Entity.summary {}))).Nodup
    rwa [pipelineIds_summaries, nodup_pipelineIds_iff ho hd]
  · rwa [nodup_wrapStepIds_iff ho hd]

/-- A run overwrites nothing that it has built exactly if the lists of its entities have different
names; then every resolver has a wrap step and a pipeline of its own. -/
theorem transform_keeps_apart (h : (transform s entities).run a = .ok results a')
    (ho : ∀ e ∈ entities.filter Entity.isHooked, e.fieldNames = [])
    (hd : DigestsApart
      (((entities.filter Entity.isHooked).flatMap Entity.targets).flatMap Target.materials)) :
    ((pipelineIds results).Nodup ↔
      ((entities.filter Entity.isHooked).map Entity.listField).Nodup) ∧
    ((((entities.filter Entity.isHooked).flatMap Entity.targets).map Target.wrapStepId).Nodup ↔
      ((entities.filter Entity.isHooked).map Entity.listField).Nodup) ∧
    (((entities.filter Entity.isHooked).map Entity.listField).Nodup →
      ∀ e ∈ entities.filter Entity.isHooked, ∀ t ∈ e.targets, Compiled s e t a a') := by
  obtain ⟨hv, rfl, hp⟩ := transform_ok h
  rw [pipelineIds_summaries]
  refine ⟨nodup_pipelineIds_iff ho hd, nodup_wrapStepIds_iff ho hd, fun hl e he t ht => ?_⟩
  exact compiled_of_performs hv hp ((Entity.nodup_fields_iff ho).mpr hl)
    (Target.tellApart_of_digestsApart (fun _ => rootType_of_mem) hd) he ht

/-- A run over two entities whose lists have different names. -/
theorem transform_keeps_apart_idle : ∃ results a',
    (transform {} [.idle "Todo", .idle "Note"]).run (.storing ["Todo", "Note"]) =
        .ok results a' ∧
      (pipelineIds results).Nodup ∧
      (([Entity.idle "Todo", .idle "Note"].flatMap Entity.targets).map Target.wrapStepId).Nodup ∧
      ∀ e ∈ [Entity.idle "Todo", .idle "Note"], ∀ t ∈ e.targets,
        Compiled {} e t (.storing ["Todo", "Note"]) a' := by
  obtain ⟨a', h⟩ := @transform_succeeds {} (.storing ["Todo", "Note"]) [.idle "Todo", .idle "Note"]
    (by decide +kernel) (by decide +kernel) (by decide +kernel)
  have ho : ∀ e ∈ [Entity.idle "Todo", .idle "Note"].filter Entity.isHooked, e.fieldNames = [] := by
    intro e he
    have he' := (List.mem_filter.mp he).1
    simp only [List.mem_cons, List.not_mem_nil, or_false] at he'
    rcases he' with rfl | rfl
    · rfl
    · rfl
  obtain ⟨hp, hw, hc⟩ := transform_keeps_apart h ho (digestsApart_of_nodup (by decide +kernel))
  have hl : (([Entity.idle "Todo", .idle "Note"].filter Entity.isHooked).map
    Entity.listField).Nodup := by decide
  exact ⟨_, a', h, hp.mpr hl, hw.mpr hl, hc hl⟩

end Compilation

end ResolverHooks
