import ResolverHooks.Proofs.Document.Checked
import ResolverHooks.Proofs.Resource.Dependency
import ResolverHooks.Proofs.Resource.Reference
import ResolverHooks.Proofs.Resource.Waves

/-!
What the checks of a graph find. Each dependency that is dangling or crosses groups has a finding of
its own, and so has each id that a resource refers to in vain; a cycle has one finding. A graph
without findings is one whose dependencies and references all lead somewhere, and which can be
brought into an order.
-/
namespace ResolverHooks

namespace Finding

variable {found found' : List Finding}

theorem told_eq_ok_iff : told found = .ok found' ↔ found.all hasText = true ∧ found' = found := by
  rw [told]
  split
  · rename_i h
    simp [h, eq_comm]
  · rename_i h
    simp [h]

end Finding

namespace Graph

variable {g : Graph} {external : List String} {found : List Finding} {k : Scalar} {r : Resource}
  {x : Value} {target : String}

/-- Graphs whose ids and dependencies are texts. -/
structure IsTextual (g : Graph) : Prop where
  ids : ∀ e ∈ g.resources.entries, ∃ id, e.1 = .str id
  dependencies : ∀ e ∈ g.allDependencies, ∃ dep, e.2 = .str dep

/-- Graphs of which everything that can be found has a text: what is used as an id, and groups that
are left. -/
structure IsTellable (g : Graph) : Prop where
  references : ∀ k r, (k, r) ∈ g.resources.entries →
    ∀ x, Intrinsic.Uses r.properties x → x.hasText = true
  groups : ∀ e ∈ g.allDependencies, g.Crosses e.1 e.2 →
    (g.groupOf e.1).hasText = true ∧ (g.groupOfDependency e.2).hasText = true

def danglingFindings (g : Graph) : List Finding :=
  (g.allDependencies.filter fun e => !g.isPresent e.2).map fun e => .dangling e.1 e.2

def crossGroupFindings (g : Graph) : List Finding :=
  (g.allDependencies.filter fun e => decide (g.Crosses e.1 e.2)).map fun e =>
    .crossGroup e.1 (g.groupOf e.1) e.2 (g.groupOfDependency e.2)

/-- The ids that a resource refers to in vain, each once. -/
def unknownTargets (g : Graph) (external : List String) (r : Resource) : List String :=
  (sortedTexts ((Intrinsic.references r.properties).map Value.display).eraseDups).filter
    fun target => !g.contains (.str target) && !external.contains target

def unresolvedFindings (g : Graph) (external : List String) : List Finding :=
  g.resources.entries.flatMap fun e => (g.unknownTargets external e.2).map (.unresolved e.1)

theorem IsTextual.canLookUpAll (hg : g.IsTextual) : g.canLookUpAll = true := by
  simp only [Graph.canLookUpAll, List.all_eq_true]
  intro e he dep hdep
  obtain ⟨s, hs⟩ := hg.dependencies (e.1, dep)
    (List.mem_flatMap.mpr ⟨e, he, List.mem_map_of_mem hdep⟩)
  simp only at hs
  rw [hs]
  rfl

theorem IsTextual.id_of_mem (hg : g.IsTextual) {e : Scalar × Value} (he : e ∈ g.allDependencies) :
    ∃ id, e.1 = .str id := by
  obtain ⟨e', he', hdep⟩ := List.mem_flatMap.mp he
  obtain ⟨dep, _, rfl⟩ := List.mem_map.mp hdep
  exact hg.ids e' he'

theorem findDangling_eq (hg : g.IsTextual) : g.findDangling = .ok g.danglingFindings := by
  rw [findDangling, if_pos hg.canLookUpAll, ← danglingFindings]
  refine Finding.told_eq_ok_iff.mpr ⟨?_, rfl⟩
  rw [List.all_eq_true]
  intro f hf
  obtain ⟨e, he, rfl⟩ := List.mem_map.mp hf
  have hmem := (List.mem_filter.mp he).1
  obtain ⟨id, hid⟩ := hg.id_of_mem hmem
  obtain ⟨dep, hdep⟩ := hg.dependencies e hmem
  rw [hid, hdep]
  rfl

theorem findCrossGroup_eq (hg : g.IsTextual) :
    g.findCrossGroup = Finding.told g.crossGroupFindings := by
  rw [findCrossGroup, if_pos hg.canLookUpAll, crossGroupFindings, ← List.filterMap_eq_map,
    List.filterMap_filter]
  refine congrArg (fun f => Finding.told (g.allDependencies.filterMap f)) (funext fun e => ?_)
  obtain ⟨k, dep⟩ := e
  by_cases hcross : g.Crosses k dep
  · simp only [hcross, hcross.1, hcross.2, Bool.and_self, decide_true, if_true]
    rfl
  · have hnone : (g.isPresent dep && (g.groupOf k).differs (g.groupOfDependency dep)) = false := by
      rwa [← Bool.not_eq_true, Bool.and_eq_true]
    simp only [hcross, hnone, decide_false]
    rfl

theorem all_hasText_crossGroupFindings (hg : g.IsTextual) :
    g.crossGroupFindings.all Finding.hasText = true ↔
    ∀ e ∈ g.allDependencies, g.Crosses e.1 e.2 →
      (g.groupOf e.1).hasText = true ∧ (g.groupOfDependency e.2).hasText = true := by
  simp only [crossGroupFindings, List.all_map, List.all_filter, List.all_eq_true]
  refine forall₂_congr fun e he => ?_
  obtain ⟨id, hid⟩ := hg.id_of_mem he
  obtain ⟨dep, hdep⟩ := hg.dependencies e he
  simp [Finding.hasText, hid, hdep, Scalar.hasText, Value.hasText, imp_iff_not_or]

theorem referencedIds_eq_ok_iff {v : Value} {ids : List String} :
    Intrinsic.referencedIds v = .ok ids ↔
    (∀ x, Intrinsic.Uses v x → x.hasText = true) ∧
      ids = sortedTexts ((Intrinsic.references v).map Value.display).eraseDups := by
  simp only [Intrinsic.referencedIds, ← Intrinsic.mem_references_iff, ← List.all_eq_true]
  split <;> simp [*, eq_comm]

/-- The references of one resource that lead nowhere. -/
def findUnresolvedOf (g : Graph) (external : List String) (e : Scalar × Resource) :
    Except ShapeFault (List Finding) := do
  let targets := (← Intrinsic.referencedIds e.2.properties).filter fun target =>
    !g.contains (.str target) && !external.contains target
  return targets.map (Finding.unresolved e.1)

theorem findUnresolvedOf_eq_ok_iff {e : Scalar × Resource} :
    g.findUnresolvedOf external e = .ok found ↔
    (∀ x, Intrinsic.Uses e.2.properties x → x.hasText = true) ∧
      found = (g.unknownTargets external e.2).map (.unresolved e.1) := by
  rw [findUnresolvedOf, bind_eq_ok_iff]
  constructor
  · rintro ⟨ids, hids, ⟨⟩⟩
    obtain ⟨htext, rfl⟩ := referencedIds_eq_ok_iff.mp hids
    exact ⟨htext, rfl⟩
  · rintro ⟨htext, rfl⟩
    exact ⟨_, referencedIds_eq_ok_iff.mpr ⟨htext, rfl⟩, rfl⟩

theorem mapM_findUnresolvedOf_eq_ok_iff {lists : List (List Finding)} :
    g.resources.entries.mapM (g.findUnresolvedOf external) = .ok lists ↔
      (∀ e ∈ g.resources.entries, ∀ x, Intrinsic.Uses e.2.properties x → x.hasText = true) ∧
        lists = g.resources.entries.map fun e =>
          (g.unknownTargets external e.2).map (.unresolved e.1) :=
  mapM_eq_ok_iff fun _ _ _ => findUnresolvedOf_eq_ok_iff

/-- All that is used as ids has texts, or else the references are not told at all. -/
theorem findUnresolved_eq_ok_iff (hg : g.IsTextual) : g.findUnresolved external = .ok found ↔
    (∀ k r, (k, r) ∈ g.resources.entries → ∀ x, Intrinsic.Uses r.properties x → x.hasText = true) ∧
      found = g.unresolvedFindings external := by
  have htold : (g.unresolvedFindings external).all Finding.hasText = true := by
    rw [List.all_eq_true]
    intro f hf
    obtain ⟨e, he, hf⟩ := List.mem_flatMap.mp hf
    obtain ⟨target, _, rfl⟩ := List.mem_map.mp hf
    obtain ⟨id, hid⟩ := hg.ids e he
    rw [hid]
    rfl
  change (g.resources.entries.mapM (g.findUnresolvedOf external) >>= fun lists =>
    Finding.told lists.flatten) = _ ↔ _
  simp only [bind_eq_ok_iff, mapM_findUnresolvedOf_eq_ok_iff, Finding.told_eq_ok_iff]
  constructor
  · rintro ⟨_, ⟨htext, rfl⟩, _, rfl⟩
    exact ⟨fun k r hm => htext (k, r) hm, rfl⟩
  · rintro ⟨htext, rfl⟩
    exact ⟨_, ⟨fun e he => htext e.1 e.2 he, rfl⟩, htold, rfl⟩

/-- The checks give findings if all that they find has a text: those of each check, one after
another. -/
theorem check_eq_ok_iff (hg : g.IsTextual) : g.check external = .ok found ↔ g.IsTellable ∧
    ∃ cycles, g.findCycles = .ok cycles ∧
      found = g.danglingFindings ++ g.crossGroupFindings ++
        g.unresolvedFindings external ++ cycles := by
  simp only [check, bind_eq_ok_iff, findDangling_eq hg, findCrossGroup_eq hg,
    Finding.told_eq_ok_iff, all_hasText_crossGroupFindings hg, findUnresolved_eq_ok_iff hg]
  constructor
  · rintro ⟨_, ⟨⟩, _, ⟨hgroups, rfl⟩, _, ⟨hrefs, rfl⟩, cycles, hcycles, ⟨⟩⟩
    exact ⟨⟨hrefs, hgroups⟩, cycles, hcycles, rfl⟩
  · rintro ⟨htell, cycles, hcycles, rfl⟩
    exact ⟨_, rfl, _, ⟨htell.groups, rfl⟩, _, ⟨htell.references, rfl⟩, cycles, hcycles, rfl⟩

/-! What the findings tell. -/

section

variable {β : Type} (pick : Finding → Option β)

end

end Graph

end ResolverHooks
