import ResolverHooks.Proofs.Naming.LogicalId
import ResolverHooks.Proofs.Pipeline.Run

/-!
The functions of a pipeline: the hook step before, if it runs, the wrap step, and the hook step
after. They are all different, so that the pipeline depends on each of them in their order.
-/
namespace ResolverHooks

theorem LogicalId.canonical_ne_empty (k : ResourceKind) (fs : List (Option String)) :
    canonical k fs ≠ "" := by
  intro h
  have hl := congrArg (fun id : String => id.toList.length) h
  have hd := (isDigest_fingerprint (material k fs)).length_eq
  simp only [canonical, toList_canonicalWith, List.length_append, hd] at hl
  simp at hl

namespace Target

/-- A pipeline depends on its functions as they are listed, if no two are the same. -/
theorem dependsOn_pipelineOn (s : Settings) (t : Target) {functions : List String}
    (h : functions.Nodup) : (t.pipelineOn s functions).dependsOn = functions.map Value.str :=
  @Resource.recorded_texts [] functions h

theorem functions_some (t : Target) {before after : Option String} (hb : before ≠ some "")
    (ha : after ≠ some "") :
    t.functions before after = before.toList ++ t.wrapStepId :: after.toList := by
  have hw : t.wrapStepId ≠ "" := LogicalId.canonical_ne_empty _ _
  cases before <;> cases after <;> simp_all [functions]

end Target

namespace Directive

variable {d : Directive} {entity id : String} {stage : Stage} {o : Operation}

/-- A hook step that runs is one of those that are built. -/
theorem eq_of_stepId? (h : d.stepId? entity stage o = some id) :
    stage ∈ d.stages ∧ id = (d.hookStep entity stage).id := by
  by_cases he : (d.stage stage).enabled o = true
  · exact ⟨mem_stages.mpr (anyEnabled_of_enabled he), by simpa [stepId?, he] using h.symm⟩
  · simp [stepId?, he] at h

theorem stepId?_ne_empty (d : Directive) (entity : String) (stage : Stage) (o : Operation) :
    d.stepId? entity stage o ≠ some "" := by
  intro h
  exact LogicalId.canonical_ne_empty _ _ (eq_of_stepId? h).2.symm

end Directive

namespace Entity

variable {e : Entity} {t : Target} {id : String}

theorem functions_eq (e : Entity) (t : Target) :
    e.functions t = (e.directive.stepId? e.name .before t.operation).toList ++
      t.wrapStepId :: (e.directive.stepId? e.name .after t.operation).toList :=
  t.functions_some (e.directive.stepId?_ne_empty _ _ _) (e.directive.stepId?_ne_empty _ _ _)

theorem mem_functions : id ∈ e.functions t ↔
    id = t.wrapStepId ∨ ∃ stage, e.directive.stepId? e.name stage t.operation = some id := by
  simp only [functions_eq, List.mem_append, List.mem_cons, Option.mem_toList]
  constructor
  · rintro (h | h | h)
    · exact Or.inr ⟨.before, h⟩
    · exact Or.inl h
    · exact Or.inr ⟨.after, h⟩
  · rintro (h | ⟨stage, h⟩)
    · exact Or.inr (Or.inl h)
    · cases stage with
      | before => exact Or.inl h
      | after => exact Or.inr (Or.inr h)

/-- The functions of a pipeline are all different, whatever the digests are. -/
theorem nodup_functions (ht : t ∈ e.targets) : (e.functions t).Nodup := by
  obtain ⟨o, _, rfl⟩ := List.mem_map.mp ht
  have hstep : ∀ stage id, e.directive.stepId? e.name stage o = some id →
      id ≠ (Target.forOperation e.name e.fieldNames o).wrapStepId := by
    intro stage id hid
    rw [(Directive.eq_of_stepId? hid).2]
    exact hookStep_ne_wrapStep isDigest_fingerprint o _
  have hsteps : ∀ id id', e.directive.stepId? e.name .before o = some id →
      e.directive.stepId? e.name .after o = some id' → id ≠ id' := by
    intro id id' hid hid'
    rw [(Directive.eq_of_stepId? hid).2, (Directive.eq_of_stepId? hid').2]
    exact hookStep_ne_of_stage isDigest_fingerprint _ _
  rw [functions_eq]
  cases hb : e.directive.stepId? e.name .before o with
  | none =>
    cases ha : e.directive.stepId? e.name .after o with
    | none => simp [Target.forOperation, hb, ha]
    | some id' => simpa [Target.forOperation, hb, ha] using (hstep _ _ ha).symm
  | some id =>
    cases ha : e.directive.stepId? e.name .after o with
    | none => simpa [Target.forOperation, hb, ha] using hstep _ _ hb
    | some id' =>
      have hba := hsteps id id' hb ha
      have hbw := hstep _ _ hb
      have haw := (hstep _ _ ha).symm
      simp_all [Target.forOperation]

end Entity

end ResolverHooks
