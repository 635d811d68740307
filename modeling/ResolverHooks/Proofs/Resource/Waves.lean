import Mathlib.Order.Bounds.Defs
import ResolverHooks.Proofs.Resource.Cycle

/-!
The waves of a deployment. A resource is deployed in the wave whose number is the length of the
longest chain of dependencies below it, so what it depends on is deployed in earlier ones. Where the
dependencies form a cycle there are no waves, and the cycle is told instead.
-/
namespace ResolverHooks

open Relation

section

variable {α : Type} {r : α → α → Prop} {a : α} {n : Nat}

/-- Whether a chain of so many steps leads away from something. -/
def HasChain (r : α → α → Prop) (a : α) (n : Nat) : Prop :=
  ∃ bs : List α, bs.length = n ∧ (a :: bs).IsChain r

theorem hasChain_zero (r : α → α → Prop) (a : α) : HasChain r a 0 :=
  ⟨[], rfl, List.isChain_singleton a⟩

theorem hasChain_succ_iff : HasChain r a (n + 1) ↔ ∃ b, r a b ∧ HasChain r b n := by
  constructor
  · rintro ⟨bs, hlength, hchain⟩
    cases bs with
    | nil => cases hlength
    | cons b bs =>
      obtain ⟨hab, hrest⟩ := List.isChain_cons_cons.mp hchain
      exact ⟨b, hab, bs, Nat.succ.inj hlength, hrest⟩
  · rintro ⟨b, hab, bs, rfl, hchain⟩
    exact ⟨b :: bs, rfl, .cons_cons hab hchain⟩

/-- A chain can be cut off before its end. -/
theorem HasChain.of_succ (h : HasChain r a (n + 1)) : HasChain r a n := by
  induction n generalizing a with
  | zero => exact hasChain_zero r a
  | succ n ih =>
    obtain ⟨b, hab, hb⟩ := hasChain_succ_iff.mp h
    exact hasChain_succ_iff.mpr ⟨b, hab, ih hb⟩

theorem HasChain.of_le {m : Nat} (h : HasChain r a n) (hm : m ≤ n) : HasChain r a m := by
  induction n, hm using Nat.le_induction with
  | base => exact h
  | succ n _ ih => exact ih h.of_succ

/-- The longest chain is the one that cannot be longer by one step. -/
theorem isGreatest_hasChain_iff :
    IsGreatest {n | HasChain r a n} n ↔ HasChain r a n ∧ ¬ HasChain r a (n + 1) := by
  constructor
  · rintro ⟨hn, hbound⟩
    exact ⟨hn, fun h => Nat.not_succ_le_self n (hbound h)⟩
  · rintro ⟨hn, hlonger⟩
    refine ⟨hn, fun m hm => ?_⟩
    by_contra hlt
    exact hlonger (HasChain.of_le hm (Nat.lt_of_not_le hlt))

end

namespace Edges

variable {es : Edges} {x : Key} {done wave : List Scalar} {fuel n i : Nat}

/-- In the middle of a deployment, when so many waves are deployed: what is done is what has no
longer chain. -/
structure DeployedTo (es : Edges) (n : Nat) (done wave : List Scalar) : Prop where
  deploying : es.Deploying done wave
  mem_done : ∀ x ∈ Entries.keyList es, x ∈ keysOf done ↔ ¬ HasChain es.Needs x n

theorem deployedTo_start (hc : es.IsClosed) :
    es.DeployedTo 0 [] (es.mentioned.filter fun id => (es.dependenciesOf id).isEmpty) := by
  refine ⟨deploying_start hc, fun x _ => ⟨fun hx => ?_, fun hx => ?_⟩⟩
  · cases hx
  · exact absurd (hasChain_zero es.Needs x) hx

/-- The next wave is what has a chain of as many steps as there were waves, and none that is
longer. -/
theorem DeployedTo.mem_wave_iff (hc : es.IsClosed) (h : es.DeployedTo n done wave) :
    x ∈ keysOf wave ↔
      x ∈ Entries.keyList es ∧ HasChain es.Needs x n ∧ ¬ HasChain es.Needs x (n + 1) := by
  rw [h.deploying.mem_pending, hasChain_succ_iff]
  refine and_congr_right fun hx => ?_
  rw [h.mem_done x hx, not_not]
  refine and_congr_right fun _ => ?_
  constructor
  · rintro hdeps ⟨y, hneeds, hy⟩
    exact (h.mem_done y (hc.mem_of_needs hneeds).2).mp (hdeps y hneeds) hy
  · intro hnone y hneeds
    exact (h.mem_done y (hc.mem_of_needs hneeds).2).mpr fun hy => hnone ⟨y, hneeds, hy⟩

theorem DeployedTo.deploy (hc : es.IsClosed) (h : es.DeployedTo n done wave) :
    ∃ next, es.deploy done wave = (wave.reverse ++ done, next) ∧
      es.DeployedTo (n + 1) (wave.reverse ++ done) next := by
  obtain ⟨next, hdeploy, hnext⟩ := Deploying.deploy hc h.deploying
  refine ⟨next, hdeploy, hnext, fun x hx => ?_⟩
  have hwave := @mem_wave_iff es x done wave n hc h
  rw [keysOf, List.map_append, List.map_reverse, List.mem_append, List.mem_reverse, ← keysOf, hwave,
    ← keysOf, h.mem_done x hx]
  constructor
  · rintro (⟨_, _, hlonger⟩ | hshort)
    · exact hlonger
    · exact mt HasChain.of_succ hshort
  · intro hlonger
    by_cases hn : HasChain es.Needs x n
    · exact Or.inl ⟨hx, hn, hlonger⟩
    · exact Or.inr hn

/-- What is in a wave, counted from one that is about to be deployed. -/
theorem DeployedTo.mem_getElem?_iff (hc : es.IsClosed) (h : es.DeployedTo n done wave)
    {later : List Scalar} (hi : (es.wavesFrom fuel done wave)[i]? = some later) :
    x ∈ keysOf later ↔
      x ∈ Entries.keyList es ∧ HasChain es.Needs x (n + i) ∧ ¬ HasChain es.Needs x (n + i + 1) := by
  induction fuel generalizing n done wave i with
  | zero => cases hi
  | succ fuel ih =>
    rw [wavesFrom] at hi
    split at hi
    · cases hi
    · obtain ⟨next, hdeploy, hnext⟩ := DeployedTo.deploy hc h
      rw [hdeploy] at hi
      cases i with
      | zero =>
        obtain rfl := Option.some.inj hi
        exact DeployedTo.mem_wave_iff hc h
      | succ i =>
        rw [← Nat.add_assoc, Nat.add_right_comm n i 1]
        exact ih hnext hi

theorem ne_nil_of_mem_wavesFrom (h : wave ∈ es.wavesFrom fuel done ids) : wave ≠ [] := by
  induction fuel generalizing done ids with
  | zero => cases h
  | succ fuel ih =>
    rw [wavesFrom] at h
    split at h
    · cases h
    · rename_i hsome
      rcases List.mem_cons.mp h with rfl | h
      · exact fun hnil => hsome (List.isEmpty_iff.mpr hnil)
      · exact ih h

end Edges

namespace Graph

variable {g : Graph} {k d : Scalar} {x : Key} {n : Nat}

/-- Waves in which all resources can be deployed. -/
structure DeployedBy (g : Graph) (waves : List (List Scalar)) : Prop where
  nonempty : ∀ wave ∈ waves, wave ≠ []
  disjoint : waves.Pairwise fun v w => List.Disjoint (keysOf v) (keysOf w)
  order : g.IsOrder waves.flatten
  /-- The number of a wave is the length of the longest chain of dependencies below each member. -/
  depth : ∀ k n, (∃ wave, waves[n]? = some wave ∧ k.key ∈ keysOf wave) ↔
    g.contains k = true ∧ IsGreatest {n | HasChain g.DependsOn k n} n

/-- A way along dependencies from a resource back to itself, each id before one that depends on
it. -/
structure IsCycle (g : Graph) (ids : List Scalar) : Prop where
  length : 2 ≤ ids.length
  closes : ids.head?.map Scalar.key = ids.getLast?.map Scalar.key
  present : ∀ id ∈ ids, g.contains id = true
  joined : ids.IsChain fun a b => ∃ d, d.key = a.key ∧ g.DependsOn b d

/-- Chains of dependencies are as long as those of edges. -/
theorem hasChain_edges_iff : HasChain g.edges.Needs k.key n ↔ HasChain g.DependsOn k n := by
  induction n generalizing k with
  | zero => exact iff_of_true (hasChain_zero _ _) (hasChain_zero _ _)
  | succ n ih =>
    rw [hasChain_succ_iff, hasChain_succ_iff]
    constructor
    · rintro ⟨y, hneeds, hy⟩
      obtain ⟨d, rfl, hkd⟩ := needs_edges_iff.mp hneeds
      exact ⟨d, hkd, ih.mp hy⟩
    · rintro ⟨d, hkd, hd⟩
      exact ⟨d.key, needs_edges_iff.mpr ⟨d, rfl, hkd⟩, ih.mpr hd⟩

/-- A chain of edges back to its start is one of dependencies. -/
theorem acyclic_edges_iff : g.edges.Acyclic ↔ g.Acyclic := by
  refine ⟨fun h k hk => ?_, Acyclic.edges⟩
  have hedges : ∀ d, TransGen g.DependsOn k d → TransGen g.edges.Needs k.key d.key := by
    intro d hkd
    induction hkd with
    | single h => exact .single (needs_edges_iff.mpr ⟨_, rfl, h⟩)
    | tail _ h ih => exact ih.tail (needs_edges_iff.mpr ⟨_, rfl, h⟩)
  exact h k.key (hedges k hk)

theorem isCycle_of_edges {ids : List Scalar} (h : g.edges.IsCycle ids) : g.IsCycle ids := by
  refine ⟨h.length, h.closes, fun id hid => ?_, h.joined.imp fun a b hab => needs_edges_iff.mp hab⟩
  rw [← mem_keyList_iff, ← keyList_edges]
  exact h.mem_keyList (isClosed_edges g) id hid

/-- What is in a wave of a graph. -/
theorem mem_waves_getElem? {wave : List Scalar} (h : g.edges.waves[n]? = some wave) :
    k.key ∈ keysOf wave ↔
      g.contains k = true ∧ IsGreatest {n | HasChain g.DependsOn k n} n := by
  have hc := isClosed_edges g
  have hmem := Edges.DeployedTo.mem_getElem?_iff (x := k.key) hc (Edges.deployedTo_start hc) h
  rw [hmem, Nat.zero_add, keyList_edges, mem_keyList_iff, hasChain_edges_iff, hasChain_edges_iff,
    isGreatest_hasChain_iff]

theorem deployedBy_waves (ha : g.Acyclic) : g.DeployedBy g.edges.waves := by
  have horder := isOrder_waves ha
  have hflat : keysOf g.edges.waves.flatten = (g.edges.waves.map keysOf).flatten := List.map_flatten
  refine ⟨fun wave => Edges.ne_nil_of_mem_wavesFrom, ?_, horder, fun k n => ⟨?_, ?_⟩⟩
  · have hnodup := horder.nodup
    rw [hflat] at hnodup
    exact List.pairwise_map.mp (List.nodup_flatten.mp hnodup).2
  · rintro ⟨wave, hget, hk⟩
    exact (mem_waves_getElem? hget).mp hk
  · rintro ⟨hk, hgreatest⟩
    obtain ⟨keys, hkeys, hmem⟩ := List.mem_flatten.mp (hflat ▸ (horder.covers k).mpr hk)
    obtain ⟨wave, hw, rfl⟩ := List.mem_map.mp hkeys
    obtain ⟨m, hget⟩ := List.getElem?_of_mem hw
    obtain rfl := ((mem_waves_getElem? hget).mp hmem).2.unique hgreatest
    exact ⟨wave, hget, hmem⟩

theorem waves_of_acyclic (hl : g.canLookUpAll = true) (ha : g.Acyclic) :
    g.waves = .ok g.edges.waves := by
  rw [waves, if_pos hl, Edges.findCycle_eq_none ha.edges]

/-- In place of the waves, a cycle is told. -/
theorem waves_of_not_acyclic (hl : g.canLookUpAll = true) (ha : ¬ g.Acyclic) :
    ∃ ids, g.waves = .error (.cycle ids) ∧ g.IsCycle ids := by
  cases hcycle : g.edges.findCycle with
  | none =>
    exact absurd
      (acyclic_edges_iff.mp ((Edges.findCycle_eq_none_iff (isClosed_edges g)).mp hcycle)) ha
  | some ids =>
    exact ⟨ids, by rw [waves, if_pos hl, hcycle],
      isCycle_of_edges (Edges.isCycle_of_findCycle hcycle)⟩

theorem waves_of_unhashable (hl : g.canLookUpAll = false) :
    g.waves = .error (.shape .unhashable) := by
  simp [waves, hl]

/-- A graph is deployed in waves, one after another, or it has a cycle, which is told; unless there
are dependencies that cannot be looked up. -/
theorem deployment_outcome (g : Graph) :
    (g.canLookUpAll = true ∧ g.Acyclic ∧ ∃ waves, g.waves = .ok waves ∧
      g.deploymentOrder = .ok waves.flatten ∧ g.DeployedBy waves) ∨
    (g.canLookUpAll = true ∧ ¬ g.Acyclic ∧ ∃ ids, g.waves = .error (.cycle ids) ∧
      g.deploymentOrder = .error (.cycle ids) ∧ g.IsCycle ids) ∨
    (g.canLookUpAll = false ∧ g.waves = .error (.shape .unhashable) ∧
      g.deploymentOrder = .error (.shape .unhashable)) := by
  rw [deploymentOrder]
  cases hl : g.canLookUpAll with
  | false =>
    rw [waves_of_unhashable hl]
    exact Or.inr (Or.inr ⟨rfl, rfl, rfl⟩)
  | true =>
    by_cases ha : g.Acyclic
    · rw [waves_of_acyclic hl ha]
      exact Or.inl ⟨rfl, ha, _, rfl, rfl, deployedBy_waves ha⟩
    · obtain ⟨ids, hwaves, hids⟩ := waves_of_not_acyclic hl ha
      rw [hwaves]
      exact Or.inr (Or.inl ⟨rfl, ha, ids, rfl, rfl, hids⟩)

end Graph

end ResolverHooks
