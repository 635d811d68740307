import Mathlib.Data.Fintype.Card
import Mathlib.Data.List.Perm.Subperm
import Mathlib.Data.Set.Finite.List
import Mathlib.Logic.Relation
import ResolverHooks.Proofs.Resource.Graph
import ResolverHooks.Resource.Order

/-!
Deployment without cycles. Whoever searches along dependencies and comes back has found a cycle;
where there is none, each wave deploys what has become ready, until nothing is left.
-/
namespace ResolverHooks

open Relation

/-- What a mapping tells ids apart by. -/
def keysOf (ids : List Scalar) : List Key := ids.map Scalar.key

section

variable {ids seen : List Scalar} {id : Scalar} {x : Key}

theorem any_same_iff : ids.any id.same = true ↔ id.key ∈ keysOf ids := by
  simp only [List.any_eq_true, Scalar.same_iff, keysOf, List.mem_map]
  exact exists_congr fun _ => and_congr_right fun _ => eq_comm

theorem firstMentions_aux (ids seen : List Scalar) (hn : (keysOf seen).Nodup) :
    let mentioned := ids.foldl (fun seen id => if seen.any id.same then seen else seen ++ [id]) seen
    (keysOf mentioned).Nodup ∧ ∀ x, x ∈ keysOf mentioned ↔ x ∈ keysOf seen ∨ x ∈ keysOf ids := by
  induction ids generalizing seen with
  | nil => exact ⟨hn, fun x => by simp [keysOf]⟩
  | cons id ids ih =>
    simp only [List.foldl_cons]
    split
    · rename_i hany
      obtain ⟨hnodup, hmem⟩ := ih seen hn
      have hid := any_same_iff.mp hany
      refine ⟨hnodup, fun x => ?_⟩
      rw [hmem]
      simp only [keysOf, List.map_cons, List.mem_cons] at hid ⊢
      grind
    · rename_i hany
      have hid := mt any_same_iff.mpr hany
      have hn' : (keysOf (seen ++ [id])).Nodup := by
        rw [keysOf, List.map_append, List.nodup_append]
        refine ⟨hn, by simp, fun x hx y hy => ?_⟩
        rw [List.mem_singleton.mp hy]
        rintro rfl
        exact hid hx
      obtain ⟨hnodup, hmem⟩ := ih (seen ++ [id]) hn'
      refine ⟨hnodup, fun x => ?_⟩
      rw [hmem]
      simp [keysOf, or_assoc, eq_comm]

theorem nodup_firstMentions (ids : List Scalar) : (keysOf (firstMentions ids)).Nodup :=
  (firstMentions_aux ids [] List.nodup_nil).1

theorem mem_keysOf_firstMentions : x ∈ keysOf (firstMentions ids) ↔ x ∈ keysOf ids := by
  rw [firstMentions, (firstMentions_aux ids [] List.nodup_nil).2]
  simp [keysOf]

end

namespace Edges

variable {es : Edges} {id : Scalar} {x y : Key}

/-- Whether a resource needs another one. -/
def Needs (es : Edges) (x y : Key) : Prop := ∃ e ∈ es, e.1.key = x ∧ y ∈ keysOf e.2

/-- Nothing needs itself, however indirectly. -/
def Acyclic (es : Edges) : Prop := ∀ x, ¬ TransGen es.Needs x x

/-- Edges of different resources that need nothing but each other. -/
structure IsClosed (es : Edges) : Prop where
  nodup : (Entries.keyList es).Nodup
  closed : ∀ e ∈ es, ∀ y ∈ keysOf e.2, y ∈ Entries.keyList es

theorem mem_successors_iff : x ∈ keysOf (es.successors id) ↔ es.Needs x id.key := by
  simp only [keysOf, successors, List.map_map, List.mem_map, List.mem_filter, any_same_iff,
    Function.comp_apply, Needs]
  constructor
  · rintro ⟨e, ⟨he, hid⟩, rfl⟩
    exact ⟨e, he, rfl, hid⟩
  · rintro ⟨e, he, rfl, hid⟩
    exact ⟨e, ⟨he, hid⟩, rfl⟩

theorem IsClosed.mem_of_needs (h : es.IsClosed) (hxy : es.Needs x y) :
    x ∈ Entries.keyList es ∧ y ∈ Entries.keyList es := by
  obtain ⟨e, he, rfl, hy⟩ := hxy
  exact ⟨List.mem_map_of_mem he, h.closed e he y hy⟩

theorem IsClosed.nodup_successors (h : es.IsClosed) (id : Scalar) :
    (keysOf (es.successors id)).Nodup := by
  rw [keysOf, successors, List.map_map]
  exact h.nodup.sublist (List.filter_sublist.map _)

theorem IsClosed.needs_iff (h : es.IsClosed) :
    es.Needs id.key y ↔ y ∈ keysOf (es.dependenciesOf id) := by
  rw [dependenciesOf]
  constructor
  · rintro ⟨e, he, hid, hy⟩
    rw [← Entries.find?_congr hid, Entries.find?_of_mem h.nodup he]
    exact hy
  · intro hy
    cases hfind : Entries.find? id es with
    | none => simp [hfind, keysOf] at hy
    | some deps =>
      obtain ⟨k, hk, he⟩ := Entries.mem_of_find? hfind
      exact ⟨(k, deps), he, Scalar.same_iff.mp hk, by simpa [hfind] using hy⟩

/-- Everything is mentioned, and nothing else. -/
theorem IsClosed.mem_mentioned_iff (h : es.IsClosed) :
    x ∈ keysOf es.mentioned ↔ x ∈ Entries.keyList es := by
  rw [mentioned, mem_keysOf_firstMentions]
  simp only [keysOf, List.map_flatMap, List.mem_flatMap, List.map_cons, List.mem_cons]
  constructor
  · rintro ⟨e, he, rfl | hx⟩
    · exact List.mem_map_of_mem he
    · exact h.closed e he x hx
  · intro hx
    obtain ⟨e, he, rfl⟩ := List.mem_map.mp hx
    exact ⟨e, he, Or.inl rfl⟩

theorem IsClosed.length_le_mentioned (h : es.IsClosed) :
    (Entries.keyList es).length ≤ es.mentioned.length := by
  have hsub : Entries.keyList es ⊆ keysOf es.mentioned := fun x hx => h.mem_mentioned_iff.mpr hx
  have hle := (List.subperm_of_subset h.nodup hsub).length_le
  rwa [keysOf, List.length_map] at hle

/-! Cycles. -/

theorem exists_of_foldlM_error {ε σ α : Type} {f : σ → α → Except ε σ} {xs : List α} {init : σ}
    {e : ε} (h : xs.foldlM f init = .error e) : ∃ x ∈ xs, ∃ acc, f acc x = .error e := by
  induction xs generalizing init with
  | nil => cases h
  | cons x xs ih =>
    rw [List.foldlM_cons] at h
    cases hx : f init x with
    | error e' =>
      rw [hx] at h
      cases h
      exact ⟨x, List.mem_cons_self, init, hx⟩
    | ok acc =>
      rw [hx] at h
      obtain ⟨x', hx', acc', h'⟩ := ih h
      exact ⟨x', List.mem_cons_of_mem _ hx', acc', h'⟩

/-- A search that comes back to its path has found something that needs itself. -/
theorem exists_cycle_of_searchFrom {fuel : Nat} {path seen cycle : List Scalar}
    (h : es.searchFrom fuel path seen id = .error cycle)
    (hpath : ∀ p ∈ path, TransGen es.Needs id.key p.key) : ∃ x, TransGen es.Needs x x := by
  induction fuel generalizing path seen id with
  | zero => cases h
  | succ fuel ih =>
    rw [searchFrom] at h
    split at h
    · rename_i hany
      obtain ⟨p, hp, hsame⟩ := List.any_eq_true.mp hany
      exact ⟨id.key, Scalar.same_iff.mp hsame ▸ hpath p hp⟩
    · split at h
      · cases h
      · obtain ⟨next, hnext, acc, hsearch⟩ := exists_of_foldlM_error h
        have hneeds : es.Needs next.key id.key := mem_successors_iff.mp (List.mem_map_of_mem hnext)
        refine ih hsearch fun p hp => ?_
        rcases List.mem_cons.mp hp with rfl | hp
        · exact .single hneeds
        · exact .head hneeds (hpath p hp)

theorem findCycle_eq_none (ha : es.Acyclic) : es.findCycle = none := by
  rw [findCycle]
  split
  · rfl
  · rename_i cycle h
    obtain ⟨id, _, seen, hsearch⟩ := exists_of_foldlM_error h
    obtain ⟨x, hx⟩ := exists_cycle_of_searchFrom hsearch (by simp)
    exact absurd hx (ha x)

/-! Waves. -/

/-- What is deployed, latest first, with all that each resource needs before it. -/
def Follows (es : Edges) : List Scalar → Prop
  | [] => True
  | id :: earlier => (∀ y, es.Needs id.key y → y ∈ keysOf earlier) ∧ es.Follows earlier

theorem Follows.mem_of_needs {done : List Scalar} (h : es.Follows done) (hx : x ∈ keysOf done)
    (hxy : es.Needs x y) : y ∈ keysOf done := by
  induction done with
  | nil => cases hx
  | cons id earlier ih =>
    rcases List.mem_cons.mp hx with rfl | hx
    · exact List.mem_cons_of_mem _ (h.1 y hxy)
    · exact List.mem_cons_of_mem _ (ih h.2 hx)

/-- In the middle of a deployment: what is pending are the resources that can be deployed now. -/
structure Deploying (es : Edges) (done pending : List Scalar) : Prop where
  nodup : (keysOf (done ++ pending)).Nodup
  follows : es.Follows done
  mem_pending : ∀ x, x ∈ keysOf pending ↔ x ∈ Entries.keyList es ∧ x ∉ keysOf done ∧
    ∀ y, es.Needs x y → y ∈ keysOf done
  mem_done : ∀ x ∈ keysOf done, x ∈ Entries.keyList es

section

variable {done pending rest next wave : List Scalar} (hc : es.IsClosed)

include hc

theorem mem_released : x ∈ keysOf (es.released done id) ↔
    es.Needs x id.key ∧ ∀ y, es.Needs x y → y ∈ keysOf (id :: done) := by
  have hall : ∀ k : Scalar, ((es.dependenciesOf k).all fun d => (id :: done).any d.same) = true ↔
      ∀ y, es.Needs k.key y → y ∈ keysOf (id :: done) := by
    intro k
    simp only [List.all_eq_true, any_same_iff, hc.needs_iff]
    exact List.forall_mem_map.symm
  constructor
  · intro hx
    obtain ⟨k, hk, rfl⟩ := List.mem_map.mp hx
    obtain ⟨hk, hdeps⟩ := List.mem_filter.mp hk
    exact ⟨mem_successors_iff.mp (List.mem_map_of_mem hk), (hall k).mp hdeps⟩
  · rintro ⟨hneeds, hdeps⟩
    obtain ⟨k, hk, rfl⟩ := List.mem_map.mp (mem_successors_iff.mpr hneeds)
    exact List.mem_map_of_mem (List.mem_filter.mpr ⟨hk, (hall k).mpr hdeps⟩)

/-- What is released has needed the resource that is deployed, so it has not been ready before. -/
theorem Deploying.not_mem_of_released (h : es.Deploying done (id :: rest))
    (hx : x ∈ keysOf (es.released done id)) : x ∉ keysOf (id :: done ++ rest) := by
  have hready := (h.mem_pending id.key).mp List.mem_cons_self
  have hneeds := ((mem_released hc).mp hx).1
  intro hin
  rw [keysOf, List.map_append, List.mem_append] at hin
  rcases hin with hin | hin
  · rcases List.mem_cons.mp hin with rfl | hin
    · exact hready.2.1 (hready.2.2 _ hneeds)
    · exact hready.2.1 (h.follows.mem_of_needs hin hneeds)
  · exact hready.2.1 (((h.mem_pending x).mp (List.mem_cons_of_mem _ hin)).2.2 _ hneeds)

/-- What is pending behind a resource, or is released by it, is what can be deployed after it. -/
theorem Deploying.mem_pending_step (h : es.Deploying done (id :: rest)) (x : Key) :
    x ∈ keysOf (rest ++ es.released done id) ↔ x ∈ Entries.keyList es ∧ x ∉ keysOf (id :: done) ∧
      ∀ y, es.Needs x y → y ∈ keysOf (id :: done) := by
  rw [keysOf, List.map_append, List.mem_append]
  constructor
  · rintro (hx | hx)
    · obtain ⟨hmem, hdone, hdeps⟩ := (h.mem_pending x).mp (List.mem_cons_of_mem _ hx)
      refine ⟨hmem, fun hd => ?_, fun y hy => List.mem_cons_of_mem _ (hdeps y hy)⟩
      rcases List.mem_cons.mp hd with rfl | hd
      · have hn := h.nodup
        rw [keysOf, List.map_append] at hn
        exact (List.nodup_cons.mp (List.nodup_append.mp hn).2.1).1 hx
      · exact hdone hd
    · obtain ⟨hneeds, hdeps⟩ := (mem_released hc).mp hx
      refine ⟨(hc.mem_of_needs hneeds).1, fun hd => ?_, hdeps⟩
      refine Deploying.not_mem_of_released hc h hx ?_
      rw [keysOf, List.map_append]
      exact List.mem_append_left _ hd
  · rintro ⟨hmem, hdone, hdeps⟩
    by_cases hneeds : es.Needs x id.key
    · exact Or.inr ((mem_released hc).mpr ⟨hneeds, hdeps⟩)
    · left
      have hx : x ∈ keysOf (id :: rest) := by
        refine (h.mem_pending x).mpr ⟨hmem, fun hd => hdone (List.mem_cons_of_mem _ hd), ?_⟩
        intro y hy
        rcases List.mem_cons.mp (hdeps y hy) with rfl | hd
        · exact absurd hy hneeds
        · exact hd
      rcases List.mem_cons.mp hx with rfl | hx
      · exact absurd List.mem_cons_self hdone
      · exact hx

/-- Deploying one resource releases those that have waited for nothing else. -/
theorem Deploying.step (h : es.Deploying done (id :: rest)) :
    es.Deploying (id :: done) (rest ++ es.released done id) := by
  have hready := (h.mem_pending id.key).mp List.mem_cons_self
  refine ⟨?_, ⟨hready.2.2, h.follows⟩, Deploying.mem_pending_step hc h, fun x hx => ?_⟩
  · have hnodup : (keysOf (id :: done ++ rest)).Nodup := by
      refine (List.Perm.nodup_iff ?_).mp h.nodup
      exact List.Perm.map _ List.perm_middle
    rw [← List.append_assoc, keysOf, List.map_append, List.nodup_append]
    refine ⟨hnodup, (hc.nodup_successors id).sublist (List.filter_sublist.map _), ?_⟩
    exact fun x hx y hy hxy => Deploying.not_mem_of_released hc h hy (hxy ▸ hx)
  · rcases List.mem_cons.mp hx with rfl | hx
    · exact hready.1
    · exact h.mem_done x hx

/-- Deploying a wave leads to the next one. -/
theorem Deploying.deploy (h : es.Deploying done wave) :
    ∃ next, es.deploy done wave = (wave.reverse ++ done, next) ∧
      es.Deploying (wave.reverse ++ done) next := by
  have hfold : ∀ wave done next, es.Deploying done (wave ++ next) →
      ∃ next', wave.foldl (fun acc id => (id :: acc.1, acc.2 ++ es.released acc.1 id))
        (done, next) = (wave.reverse ++ done, next') ∧
          es.Deploying (wave.reverse ++ done) next' := by
    intro wave
    induction wave with
    | nil => exact fun done next h => ⟨next, rfl, h⟩
    | cons id wave ih =>
      intro done next h
      have hstep : es.Deploying (id :: done) (wave ++ next ++ es.released done id) :=
        Deploying.step hc h
      rw [List.append_assoc] at hstep
      simpa using ih (id :: done) _ hstep
  exact hfold wave done [] (by simpa using h)

/-- With fuel for every resource that is not deployed yet, waves end when nothing is pending. -/
theorem Deploying.wavesFrom {fuel : Nat} (h : es.Deploying done wave)
    (hfuel : (Entries.keyList es).length < done.length + fuel) :
    es.Deploying ((es.wavesFrom fuel done wave).flatten.reverse ++ done) [] := by
  induction fuel generalizing done wave with
  | zero =>
    have hdone : (keysOf done).Nodup := by
      have hn := h.nodup
      rw [keysOf, List.map_append] at hn
      exact (List.nodup_append.mp hn).1
    have hle := (List.subperm_of_subset hdone h.mem_done).length_le
    rw [keysOf, List.length_map] at hle
    omega
  | succ fuel ih =>
    rw [Edges.wavesFrom]
    split
    · rename_i hempty
      rw [List.isEmpty_iff.mp hempty] at h
      simpa using h
    · rename_i hsome
      have hpos : 0 < wave.length := by
        cases wave with
        | nil => simp at hsome
        | cons => simp
      obtain ⟨next, hdeploy, hnext⟩ := Deploying.deploy hc h
      rw [hdeploy]
      have hlength : (Entries.keyList es).length < (wave.reverse ++ done).length + fuel := by
        simp only [List.length_append, List.length_reverse]
        omega
      simpa using ih hnext hlength

/-- At the start, the resources that need nothing are pending. -/
theorem deploying_start :
    es.Deploying [] (es.mentioned.filter fun id => (es.dependenciesOf id).isEmpty) := by
  have hready : ∀ id, (es.dependenciesOf id).isEmpty = true ↔ ∀ y, ¬ es.Needs id.key y := by
    intro id
    simp only [hc.needs_iff, List.isEmpty_iff]
    constructor
    · intro h y hy
      simp [h, keysOf] at hy
    · intro h
      rw [List.eq_nil_iff_forall_not_mem]
      exact fun d hd => h d.key (List.mem_map_of_mem hd)
  refine ⟨?_, trivial, fun x => ?_, fun x hx => by cases hx⟩
  · exact (nodup_firstMentions _).sublist (List.filter_sublist.map _)
  · constructor
    · intro hx
      obtain ⟨id, hid, rfl⟩ := List.mem_map.mp hx
      obtain ⟨hid, hempty⟩ := List.mem_filter.mp hid
      refine ⟨hc.mem_mentioned_iff.mp (List.mem_map_of_mem hid), by simp [keysOf], fun y hy => ?_⟩
      exact absurd hy ((hready id).mp hempty y)
    · rintro ⟨hmem, _, hdeps⟩
      obtain ⟨id, hid, rfl⟩ := List.mem_map.mp (hc.mem_mentioned_iff.mpr hmem)
      refine List.mem_map_of_mem (List.mem_filter.mpr ⟨hid, (hready id).mpr fun y hy => ?_⟩)
      cases hdeps y hy

/-- When nothing is pending, a resource that is left would need others that are left, without
end. -/
theorem Deploying.complete (ha : es.Acyclic) (h : es.Deploying done []) :
    ∀ x ∈ Entries.keyList es, x ∈ keysOf done := by
  -- Chains of needs end, because there are finitely many resources and no cycle.
  let Earlier : {x // x ∈ Entries.keyList es} → {x // x ∈ Entries.keyList es} → Prop :=
    fun x y => TransGen es.Needs y.1 x.1
  have hfinite : Finite {x // x ∈ Entries.keyList es} := List.finite_toSet (Entries.keyList es)
  have htrans : IsTrans _ Earlier := ⟨fun _ _ _ hxy hyz => hyz.trans hxy⟩
  have hirrefl : Std.Irrefl Earlier := ⟨fun x hx => ha x.1 hx⟩
  have hwf := Finite.wellFounded_of_trans_of_irrefl Earlier
  intro x hx
  refine hwf.induction (C := fun x => x.1 ∈ keysOf done) ⟨x, hx⟩ fun x ih => ?_
  by_contra hleft
  have hdeps : ∀ y, es.Needs x.1 y → y ∈ keysOf done :=
    fun y hy => ih ⟨y, (hc.mem_of_needs hy).2⟩ (.single hy)
  cases (h.mem_pending x.1).mpr ⟨x.2, hleft, hdeps⟩

/-- Waves deploy every resource once, behind all that it needs. -/
theorem deploying_waves (ha : es.Acyclic) : es.Deploying es.waves.flatten.reverse [] ∧
    ∀ x ∈ Entries.keyList es, x ∈ keysOf es.waves.flatten := by
  have hfuel : (Entries.keyList es).length < ([] : List Scalar).length +
      (es.mentioned.length + 1) := by
    have hle := hc.length_le_mentioned
    simp only [List.length_nil]
    omega
  have hend := Deploying.wavesFrom hc (deploying_start hc) hfuel
  rw [List.append_nil] at hend
  refine ⟨hend, fun x hx => ?_⟩
  have hx' := Deploying.complete hc ha hend x hx
  rw [keysOf, List.map_reverse, List.mem_reverse] at hx'
  exact hx'

end

/-- Whoever needs another one comes behind it in the end. -/
theorem Follows.idxOf_lt {done : List Scalar} (h : es.Follows done) (hn : (keysOf done).Nodup)
    (hx : x ∈ keysOf done) (hxy : es.Needs x y) :
    (keysOf done.reverse).idxOf y < (keysOf done.reverse).idxOf x := by
  induction done with
  | nil => cases hx
  | cons id earlier ih =>
    obtain ⟨hid, hn'⟩ := List.nodup_cons.mp hn
    have hmem : ∀ z, z ∈ keysOf earlier.reverse ↔ z ∈ keysOf earlier := fun z => by
      rw [keysOf, List.map_reverse, List.mem_reverse, keysOf]
    have hlast : keysOf (id :: earlier).reverse = keysOf earlier.reverse ++ [id.key] := by
      simp [keysOf]
    rw [hlast]
    rcases List.mem_cons.mp hx with rfl | hx
    · have hy := (hmem y).mpr (h.1 y hxy)
      have hid' : id.key ∉ keysOf earlier.reverse := mt (hmem _).mp hid
      rw [List.idxOf_append_of_mem hy, List.idxOf_append_of_notMem hid']
      exact Nat.lt_add_right _ (List.idxOf_lt_length_of_mem hy)
    · have hy := h.2.mem_of_needs hx hxy
      rw [List.idxOf_append_of_mem ((hmem y).mpr hy), List.idxOf_append_of_mem ((hmem x).mpr hx)]
      exact ih h.2 hn' hx

end Edges

/-- Whether an id comes before another one in an order. -/
def Precedes (order : List Scalar) (k l : Scalar) : Prop :=
  l.key ∈ keysOf order ∧ (keysOf order).idxOf k.key < (keysOf order).idxOf l.key

theorem Precedes.trans {order : List Scalar} {k l m : Scalar} (h : Precedes order k l)
    (h' : Precedes order l m) : Precedes order k m := ⟨h'.1, h.2.trans h'.2⟩

namespace Graph

variable {g : Graph} {k d : Scalar} {x y : Key}

/-- Whether a resource depends on another one of the graph. -/
def DependsOn (g : Graph) (k d : Scalar) : Prop :=
  (∃ r, g.find? k = some r ∧ .scalar d ∈ r.dependsOn) ∧ g.contains d = true

/-- No resource depends on itself, however indirectly. -/
def Acyclic (g : Graph) : Prop := ∀ k, ¬ TransGen g.DependsOn k k

theorem keyList_edges (g : Graph) :
    Entries.keyList g.edges = Entries.keyList g.resources.entries := by
  simp [Entries.keyList, edges]

theorem mem_keyList_iff : k.key ∈ Entries.keyList g.resources.entries ↔ g.contains k = true := by
  rw [contains_iff]
  constructor
  · intro h
    obtain ⟨e, he, hk⟩ := List.mem_map.mp h
    refine ⟨e.2, ?_⟩
    have hfind : g.find? e.1 = some e.2 := Entries.find?_of_mem g.resources.nodup he
    exact (Entries.find?_congr hk).symm.trans hfind
  · rintro ⟨r, hr⟩
    obtain ⟨k', hk, hm⟩ := Entries.mem_of_find? hr
    exact Scalar.same_iff.mp hk ▸ List.mem_map_of_mem hm

theorem mem_presentDependencies {r : Resource} : y ∈ keysOf (g.presentDependencies r) ↔
    ∃ d, d.key = y ∧ .scalar d ∈ r.dependsOn ∧ g.contains d = true := by
  rw [presentDependencies, mem_keysOf_firstMentions]
  simp only [keysOf, List.mem_map, List.mem_filter, List.mem_filterMap]
  constructor
  · rintro ⟨d, ⟨⟨v, hv, hd⟩, hc⟩, rfl⟩
    cases v <;> simp only [Value.scalar?, reduceCtorEq, Option.some.injEq] at hd
    subst hd
    exact ⟨_, rfl, hv, hc⟩
  · rintro ⟨d, rfl, hd, hc⟩
    exact ⟨d, ⟨⟨_, hd, rfl⟩, hc⟩, rfl⟩

theorem needs_edges_iff : g.edges.Needs k.key y ↔ ∃ d, d.key = y ∧ g.DependsOn k d := by
  constructor
  · rintro ⟨e, he, hk, hy⟩
    obtain ⟨⟨k', r⟩, hm, rfl⟩ := List.mem_map.mp he
    obtain ⟨d, rfl, hd, hc⟩ := mem_presentDependencies.mp hy
    have hfind : g.find? k' = some r := Entries.find?_of_mem g.resources.nodup hm
    exact ⟨d, rfl, ⟨r, (Entries.find?_congr hk).symm.trans hfind, hd⟩, hc⟩
  · rintro ⟨d, rfl, ⟨r, hr, hd⟩, hc⟩
    obtain ⟨k', hk, hm⟩ := Entries.mem_of_find? hr
    exact ⟨_, List.mem_map_of_mem hm, Scalar.same_iff.mp hk,
      mem_presentDependencies.mpr ⟨d, rfl, hd, hc⟩⟩

theorem isClosed_edges (g : Graph) : g.edges.IsClosed where
  nodup := by
    rw [keyList_edges]
    exact g.resources.nodup
  closed e he y hy := by
    obtain ⟨⟨k, r⟩, _, rfl⟩ := List.mem_map.mp he
    obtain ⟨d, rfl, _, hc⟩ := mem_presentDependencies.mp hy
    rw [keyList_edges]
    exact mem_keyList_iff.mpr hc

/-- A chain of edges is one of dependencies, up to the form of its last id. -/
theorem exists_of_transGen_needs (h : TransGen g.edges.Needs k.key y) :
    ∃ d, d.key = y ∧ TransGen g.DependsOn k d := by
  induction h with
  | single h =>
    obtain ⟨d, hd, hdep⟩ := needs_edges_iff.mp h
    exact ⟨d, hd, .single hdep⟩
  | tail _ h ih =>
    obtain ⟨d, rfl, hdep⟩ := ih
    obtain ⟨d', hd', hdep'⟩ := needs_edges_iff.mp h
    exact ⟨d', hd', hdep.tail hdep'⟩

theorem Acyclic.edges (h : g.Acyclic) : g.edges.Acyclic := by
  intro x hx
  obtain ⟨y, ⟨e, he, hk, _⟩, _⟩ := TransGen.head'_iff.mp hx
  obtain ⟨d, hd, hdep⟩ := exists_of_transGen_needs (hk ▸ hx)
  -- What the last id of the chain depends on first, it depends on as well.
  obtain ⟨first, hfirst, hrest⟩ := TransGen.head'_iff.mp hdep
  obtain ⟨⟨r, hr, hm⟩, hc⟩ := hfirst
  have hlast : g.DependsOn d first := ⟨⟨r, (Entries.find?_congr hd).trans hr, hm⟩, hc⟩
  exact h first (TransGen.tail' hrest hlast)

/-- An order of all resources in which each comes behind those it depends on. -/
structure IsOrder (g : Graph) (order : List Scalar) : Prop where
  nodup : (keysOf order).Nodup
  covers : ∀ k, k.key ∈ keysOf order ↔ g.contains k = true
  inOrder : ∀ k d, g.DependsOn k d → Precedes order d k

/-- Without cycles, the waves one after another are an order. -/
theorem isOrder_waves (ha : g.Acyclic) : g.IsOrder g.edges.waves.flatten := by
  obtain ⟨hend, hall⟩ := Edges.deploying_waves (isClosed_edges g) ha.edges
  have hn := hend.nodup
  rw [List.append_nil] at hn
  refine ⟨?_, fun k => ?_, fun k d hkd => ?_⟩
  · rwa [keysOf, List.map_reverse, List.nodup_reverse] at hn
  · rw [← mem_keyList_iff, ← keyList_edges]
    refine ⟨fun h => hend.mem_done _ ?_, hall _⟩
    rw [keysOf, List.map_reverse, List.mem_reverse]
    exact h
  · have hneeds := needs_edges_iff.mpr ⟨d, rfl, hkd⟩
    have hk := hall _ ((isClosed_edges g).mem_of_needs hneeds).1
    have hk' : k.key ∈ keysOf g.edges.waves.flatten.reverse := by
      rw [keysOf, List.map_reverse, List.mem_reverse]
      exact hk
    have hlt := hend.follows.idxOf_lt hn hk' hneeds
    rw [List.reverse_reverse] at hlt
    exact ⟨hk, hlt⟩

/-- Without cycles there is an order, in which every resource comes once, behind those it depends
on. -/
theorem exists_deploymentOrder (hl : g.canLookUpAll = true) (ha : g.Acyclic) :
    ∃ order, g.deploymentOrder = .ok order ∧ (keysOf order).Nodup ∧
      (∀ k, k.key ∈ keysOf order ↔ g.contains k = true) ∧
      ∀ k d, g.DependsOn k d → Precedes order d k := by
  have horder := isOrder_waves ha
  refine ⟨g.edges.waves.flatten, ?_, horder.nodup, horder.covers, horder.inOrder⟩
  rw [deploymentOrder, waves, if_pos hl, Edges.findCycle_eq_none ha.edges]
  rfl

end Graph

end ResolverHooks
