import Mathlib.Data.List.Induction
import ResolverHooks.Proofs.Pipeline.Extent
import ResolverHooks.Proofs.Pipeline.Functions

/-!
A run at the turn of one of its operations, with what has come before and what is still to come. An
id that several operations build is left to the end by the last turn that builds it.
-/
namespace ResolverHooks

namespace Compilation

/-- Of the operations that build an id, the last one leaves it. -/
theorem exists_last_rebuilt {ts : List Target} {id : String} (h : ∃ t ∈ ts, id ∈ t.rebuilt) :
    ∃ before t after, ts = before ++ t :: after ∧ id ∈ t.rebuilt ∧ ∀ u ∈ after, id ∉ u.rebuilt := by
  induction ts with
  | nil => simp at h
  | cons first ts ih =>
    by_cases hlater : ∃ t ∈ ts, id ∈ t.rebuilt
    · obtain ⟨before, t, after, rfl, hid, hlast⟩ := ih hlater
      exact ⟨first :: before, t, after, rfl, hid, hlast⟩
    · obtain ⟨t, ht, hid⟩ := h
      rcases List.mem_cons.mp ht with rfl | ht
      · exact ⟨[], t, ts, rfl, hid, fun u hu hid' => hlater ⟨u, hu, hid'⟩⟩
      · exact absurd ⟨t, ht, hid⟩ hlater

end Compilation

/-- The turn of an operation of an entity, between the operations before it and those after it. -/
inductive Turn (hooked : List Entity) (e : Entity) (t : Target) :
    List Target → List Target → Prop where
  | mk {earlier later : List Entity} {ts us : List Target} :
      hooked = earlier ++ e :: later → e.targets = ts ++ t :: us →
      Turn hooked e t (earlier.flatMap Entity.targets ++ ts) (us ++ later.flatMap Entity.targets)

namespace Turn

variable {hooked : List Entity} {e : Entity} {t : Target} {before after : List Target} {id : String}

theorem targets_eq (h : Turn hooked e t before after) :
    hooked.flatMap Entity.targets = before ++ t :: after := by
  obtain ⟨rfl, hts⟩ := h
  simp [hts]

theorem mem_hooked (h : Turn hooked e t before after) : e ∈ hooked := by
  obtain ⟨rfl, _⟩ := h
  simp

theorem mem_targets (h : Turn hooked e t before after) : t ∈ e.targets := by
  obtain ⟨_, hts⟩ := h
  simp [hts]

theorem isConventional (h : Turn hooked e t before after) :
    ∀ u ∈ before ++ t :: after, u.IsConventional := by
  intro u hu
  rw [← h.targets_eq] at hu
  exact Entity.isConventional_flatMap_targets hu

/-- Every operation of an entity has its turn. -/
theorem exists_of_mem (he : e ∈ hooked) (ht : t ∈ e.targets) :
    ∃ before after, Turn hooked e t before after := by
  obtain ⟨earlier, later, rfl⟩ := List.append_of_mem he
  obtain ⟨ts, us, hts⟩ := List.append_of_mem ht
  exact ⟨_, _, .mk rfl hts⟩

theorem cons (first : Entity) (h : Turn hooked e t before after) :
    Turn (first :: hooked) e t (first.targets ++ before) after := by
  obtain @⟨earlier, later, ts, us, rfl, hts⟩ := h
  have hcut : Turn (first :: (earlier ++ e :: later)) e t _ _ :=
    @Turn.mk _ e t (first :: earlier) later ts us rfl hts
  simpa using hcut

theorem exists_of_targets_eq (h : hooked.flatMap Entity.targets = before ++ t :: after) :
    ∃ e, Turn hooked e t before after := by
  induction hooked generalizing before with
  | nil => simp at h
  | cons first hooked ih =>
    rw [List.flatMap_cons] at h
    rcases List.append_eq_append_iff.mp h with ⟨before', rfl, hrest⟩ | ⟨mid, hfirst, hmid⟩
    · obtain ⟨e, hturn⟩ := ih hrest
      exact ⟨e, hturn.cons first⟩
    · cases mid with
      | nil =>
        obtain ⟨e, hturn⟩ := @ih [] hmid.symm
        refine ⟨e, ?_⟩
        simpa [hfirst] using hturn.cons first
      | cons u mid =>
        obtain ⟨rfl, rfl⟩ := List.cons.inj hmid
        exact ⟨first, by simpa using @Turn.mk _ first t [] hooked before mid rfl hfirst⟩

/-- An id that is built is left by the last turn that builds it. -/
theorem exists_last (h : id ∈ (hooked.flatMap Entity.targets).flatMap Target.rebuilt) :
    ∃ e t before after, Turn hooked e t before after ∧ id ∈ t.rebuilt ∧
      ∀ u ∈ after, id ∉ u.rebuilt := by
  obtain ⟨before, t, after, hts, hid, hlast⟩ :=
    Compilation.exists_last_rebuilt (List.mem_flatMap.mp h)
  obtain ⟨e, hturn⟩ := exists_of_targets_eq hts
  exact ⟨e, t, before, after, hturn, hid, hlast⟩

end Turn

namespace Compilation

variable {s : Settings} {a a' : Arena} {hooked : List Entity} {e : Entity} {t : Target}
  {before after : List Target}

section

variable (h : Performs s (hooked.flatMap (Entity.jobs s)) a a') (ht : Turn hooked e t before after)

include h ht

/-- A run stops at every turn, where the operation can be wrapped, and goes on from what it has then
built. -/
theorem performs_turn : ∃ reached later b b' r properties request, reached ++ later = hooked ∧
    Footprint (.ofExtent reached before) a b ∧ Wrappable b t r properties request ∧
      b'.graph = b.graph.replaced t (s.groupOr e.stack) (s.groupOr e.stack)
        (stepOf s t b.graph (s.groupOr e.stack) r properties request)
        (t.pipelineOn s (e.functions t)) ∧
      Footprint (.ofExtent later after) b' a' ∧ Footprint (.ofExtent later (t :: after)) b a' := by
  obtain @⟨earlier, later, ts, us, rfl, hts⟩ := ht
  obtain ⟨b, b', r, properties, request, hsplit⟩ := performs_split h hts
  exact ⟨earlier ++ [e], later, b, b', r, properties, request, by simp, hsplit⟩

/-- What the last operation to build a wrap step has left there. -/
theorem exists_wrapStep (hlast : ∀ u ∈ after, t.wrapStepId ∉ u.rebuilt) :
    ∃ reached later b r properties request, reached ++ later = hooked ∧
      Footprint (.ofExtent reached before) a b ∧ Footprint (.ofExtent later (t :: after)) b a' ∧
      Wrappable a t r properties request ∧
      a'.graph.find? (.str t.wrapStepId) =
        some (stepOf s t b.graph (s.groupOr e.stack) r properties request) ∧
      a'.graph.groupOf (.str t.wrapStepId) = .str (s.groupOr e.stack) := by
  obtain ⟨reached, later, b, b', r, properties, request, hes, hf, hw, hb', hf', hf''⟩ :=
    performs_turn h ht
  have hconv := ht.isConventional
  have htc : t.IsConventional := hconv t (by simp)
  have hne := Target.ne_resolverId htc (Target.mem_rebuilt.mpr (Or.inl rfl))
  have hstep : b'.graph.find? (.str t.wrapStepId) =
      some (stepOf s t b.graph (s.groupOr e.stack) r properties request) :=
    hb' ▸ Graph.find?_replaced_wrapStep t.wrapStepId_ne_pipelineId hne
  have hgroup : b'.graph.groupOf (.str t.wrapStepId) = .str (s.groupOr e.stack) :=
    hb' ▸ Graph.groupOf_replaced_wrapStep t.wrapStepId_ne_pipelineId hne
  have hs : (Change.ofExtent later after).spares b'.graph (.str t.wrapStepId) = true := by
    apply Change.spares_canonical (fun u hu => hconv u (by simp [hu])) _
      (Graph.contains_iff.mpr ⟨_, hstep⟩)
    intro hm
    obtain ⟨u, hu, hid⟩ := List.mem_flatMap.mp hm
    exact hlast u hu hid
  exact ⟨reached, later, b, r, properties, request, hes, hf, hf'', wrappable_of_footprint htc hf hw,
    (hf'.find?_eq hs).trans hstep, (hf'.groupOf_eq hs).trans hgroup⟩

/-- What the last operation to build a pipeline has left there. -/
theorem find?_pipeline (hlast : ∀ u ∈ after, t.pipelineId ∉ u.rebuilt) :
    a'.graph.find? (.str t.pipelineId) = some (t.pipelineOn s (e.functions t)) ∧
      a'.graph.groupOf (.str t.pipelineId) = .str (s.groupOr e.stack) := by
  obtain ⟨reached, later, b, b', r, properties, request, _, _, _, hb', hf', _⟩ :=
    performs_turn h ht
  have hpipeline : b'.graph.find? (.str t.pipelineId) = some (t.pipelineOn s (e.functions t)) :=
    hb' ▸ Graph.find?_replaced_pipeline
  have hgroup : b'.graph.groupOf (.str t.pipelineId) = .str (s.groupOr e.stack) :=
    hb' ▸ Graph.groupOf_replaced_pipeline
  have hs : (Change.ofExtent later after).spares b'.graph (.str t.pipelineId) = true := by
    apply Change.spares_canonical (fun u hu => ht.isConventional u (by simp [hu])) _
      (Graph.contains_iff.mpr ⟨_, hpipeline⟩)
    intro hm
    obtain ⟨u, hu, hid⟩ := List.mem_flatMap.mp hm
    exact hlast u hu hid
  exact ⟨(hf'.find?_eq hs).trans hpipeline, (hf'.groupOf_eq hs).trans hgroup⟩

end

section

variable (h : Performs s (hooked.flatMap (Entity.jobs s)) a a')

include h

/-- A run that succeeds could have wrapped every resolver at the start. -/
theorem canWrap_of_performs (hu : t ∈ hooked.flatMap Entity.targets) : CanWrap a t := by
  obtain ⟨before, after, hts⟩ := List.append_of_mem hu
  obtain ⟨e, ht⟩ := Turn.exists_of_targets_eq hts
  obtain ⟨_, _, b, _, r, properties, request, _, hf, hw, _⟩ := performs_turn h ht
  exact ⟨r, properties, request, wrappable_of_footprint (ht.isConventional t (by simp)) hf hw⟩

/-- A run that succeeds drops every resolver once. -/
theorem nodup_resolverIds : ((hooked.flatMap Entity.targets).map Target.resolverId).Nodup := by
  have hcut : ∀ before t after, hooked.flatMap Entity.targets = before ++ t :: after →
      t.resolverId ∉ before.map Target.resolverId := by
    intro before t after hts
    obtain ⟨e, ht⟩ := Turn.exists_of_targets_eq hts
    obtain ⟨_, _, b, _, r, properties, request, _, hf, hw, _⟩ := performs_turn h ht
    exact not_mem_of_wrappable (ht.isConventional t (by simp)) hf hw
  generalize hooked.flatMap Entity.targets = ts at hcut
  induction ts using List.reverseRecOn with
  | nil => exact List.nodup_nil
  | append_singleton ts t ih =>
    rw [List.map_append, List.map_singleton, List.nodup_append]
    refine ⟨ih fun before u after hts => hcut before u (after ++ [t]) (by simp [hts]),
      by simp, fun id hid id' hid' => ?_⟩
    rw [List.mem_singleton.mp hid']
    rintro rfl
    exact hcut ts t [] rfl hid

/-- Up to a turn, the resolvers that are dropped from then on are left alone. -/
theorem spares_resolver_before (ht : Turn hooked e t before after) {u : Target}
    (hu : u ∈ t :: after)
    (reached : List Entity) :
    (Change.ofExtent reached before).spares a.graph (.str u.resolverId) = true := by
  have hd := nodup_resolverIds h
  rw [ht.targets_eq, List.map_append] at hd
  apply Change.spares_resolver a.graph reached (ht.isConventional u (List.mem_append_right _ hu))
  exact fun hm => (List.nodup_append.mp hd).2.2 _ hm _ (List.mem_map_of_mem hu) rfl

/-- A resolver that is dropped is in no group any more. -/
theorem groupOf_resolver (ht : t ∈ hooked.flatMap Entity.targets) :
    a'.graph.groupOf (.str t.resolverId) = .null := by
  obtain ⟨before, after, hts⟩ := List.append_of_mem ht
  obtain ⟨e, hturn⟩ := Turn.exists_of_targets_eq hts
  obtain ⟨reached, later, b, b', r, properties, request, _, _, _, hb', hf', _⟩ :=
    performs_turn h hturn
  have hconv : t.IsConventional := hturn.isConventional t (by simp)
  have hnull : b'.graph.groupOf (.str t.resolverId) = .null :=
    hb' ▸ Graph.groupOf_replaced_resolver (hconv.ne_canonical _ _)
  have hd := nodup_resolverIds h
  rw [hts, List.map_append, List.map_cons] at hd
  have hnot : t.resolverId ∉ after.map Target.resolverId :=
    (List.nodup_cons.mp (List.nodup_append.mp hd).2.1).1
  exact (hf'.groupOf_eq (Change.spares_resolver b'.graph later hconv hnot)).trans hnull

end

end Compilation

end ResolverHooks
