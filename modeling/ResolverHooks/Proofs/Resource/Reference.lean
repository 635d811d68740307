import Mathlib.Logic.Relation
import ResolverHooks.Proofs.Resource.Order
import ResolverHooks.Resource.Check

/-!
What a resource refers to. A value refers to what its items or its entries refer to, and an id that
is referred to is found however deep inside the properties it stands. Along dependencies and
references together one resource leads to another.
-/
namespace ResolverHooks

namespace Intrinsic

variable {v x : Value} {items : List Value} {entries : List (Scalar × Value)} {id : String}
  {ids : List String}

/-- Whether a value refers to an id. -/
def RefersTo (v : Value) (id : String) : Prop := ∃ x ∈ references v, x.display = id

/-- The ids that are found are those referred to. -/
theorem mem_referencedIds (h : referencedIds v = .ok ids) : id ∈ ids ↔ RefersTo v id := by
  simp only [referencedIds] at h
  split at h
  · obtain rfl := Except.ok.inj h
    rw [sortedTexts, List.mem_mergeSort, List.mem_eraseDups, List.mem_map]
    rfl
  · cases h

/-- What a value refers to is found if all of it has a text. -/
theorem exists_referencedIds (h : (references v).all Value.hasText = true) :
    ∃ ids, referencedIds v = .ok ids := by
  simp only [referencedIds, h, if_true]
  exact ⟨_, rfl⟩

theorem mem_itemReferences : x ∈ itemReferences items ↔ ∃ v ∈ items, x ∈ references v := by
  induction items with
  | nil => simp [itemReferences]
  | cons v items ih => simp [itemReferences, ih]

/-- What an entry refers to: a reference to its id, and any other entry to all that is in its
value. -/
def referencesAt (k : Scalar) (v : Value) : List Value := (entryReference k v).getD (references v)

theorem mem_entryReferences :
    x ∈ entryReferences entries ↔ ∃ e ∈ entries, x ∈ referencesAt e.1 e.2 := by
  induction entries with
  | nil => simp [entryReferences]
  | cons e entries ih => simp [entryReferences, referencesAt, ih]

/-- Whether an entry asks for an attribute of a resource: a non-empty list under `Fn::GetAtt`. -/
def IsAttribute (k : Scalar) (v : Value) : Prop :=
  k = .str "Fn::GetAtt" ∧ ∃ first rest, v = .seq (first :: rest)

/-- What a value uses as an id, at any depth, but for what else stands in the list of an
attribute. -/
inductive Uses : Value → Value → Prop where
  | ref {entries : List (Scalar × Value)} {id : String} : (.str "Ref", .str id) ∈ entries →
      isPseudoParameter id = false → Uses (.map entries) (.str id)
  | head {entries : List (Scalar × Value)} {items : List Value} {x : Value} :
      (.str "Fn::GetAtt", .seq items) ∈ entries → (Value.itemsOf items).head? = some x →
      Uses (.map entries) x
  | entry {entries : List (Scalar × Value)} {k : Scalar} {v x : Value} : (k, v) ∈ entries →
      ¬ IsAttribute k v → Uses v x → Uses (.map entries) x
  | item {items : List Value} {v x : Value} : v ∈ items → Uses v x → Uses (.seq items) x

theorem mem_take_one {α : Type} {xs : List α} {x : α} : x ∈ xs.take 1 ↔ xs.head? = some x := by
  cases xs <;> simp [eq_comm]

/-- What one entry refers to: a text under `Ref`, the head of an attribute, or what is used in its
value. -/
theorem mem_referencesAt_iff {k : Scalar} : x ∈ referencesAt k v ↔
    (∃ id, k = .str "Ref" ∧ v = .str id ∧ isPseudoParameter id = false ∧ x = .str id) ∨
    (∃ items, k = .str "Fn::GetAtt" ∧ v = .seq items ∧ (Value.itemsOf items).head? = some x) ∨
    ¬ IsAttribute k v ∧ x ∈ references v := by
  unfold referencesAt entryReference
  split
  · rename_i id
    cases hp : isPseudoParameter id <;> simp [IsAttribute, references, hp]
  · rename_i first rest
    simp [IsAttribute, mem_take_one]
  · rename_i href hatt
    have hnot : ¬ IsAttribute k v := by
      rintro ⟨rfl, first, rest, rfl⟩
      exact hatt first rest rfl rfl
    refine ⟨fun hx => Or.inr (Or.inr ⟨hnot, hx⟩), ?_⟩
    rintro (⟨id, rfl, rfl, _⟩ | ⟨items, rfl, rfl, hx⟩ | ⟨_, hx⟩)
    · exact absurd rfl (href id rfl)
    · cases items with
      | nil => cases hx
      | cons first rest => exact absurd rfl (hatt first rest rfl)
    · exact hx

/-- What a value refers to is found exactly where it is used. -/
theorem mem_references_of_uses (h : Uses v x) : x ∈ references v := by
  induction h with
  | ref hmem hp =>
    rw [references, mem_entryReferences]
    exact ⟨_, hmem, mem_referencesAt_iff.mpr (Or.inl ⟨_, rfl, rfl, hp, rfl⟩)⟩
  | head hmem hx =>
    rw [references, mem_entryReferences]
    exact ⟨_, hmem, mem_referencesAt_iff.mpr (Or.inr (Or.inl ⟨_, rfl, rfl, hx⟩))⟩
  | entry hmem hnot _ ih =>
    rw [references, mem_entryReferences]
    exact ⟨_, hmem, mem_referencesAt_iff.mpr (Or.inr (Or.inr ⟨hnot, ih⟩))⟩
  | item hmem _ ih =>
    rw [references, mem_itemReferences]
    exact ⟨_, hmem, ih⟩

theorem uses_of_mem_references (v : Value) {x : Value} (h : x ∈ references v) : Uses v x := by
  match v with
  | .seq items =>
    rw [references, mem_itemReferences] at h
    obtain ⟨item, hitem, hx⟩ := h
    have hsize := List.sizeOf_lt_of_mem hitem
    exact .item hitem (uses_of_mem_references _ hx)
  | .map entries =>
    rw [references, mem_entryReferences] at h
    obtain ⟨⟨k, v⟩, he, hx⟩ := h
    have hsize : sizeOf v < sizeOf entries := by
      have hlt := List.sizeOf_lt_of_mem he
      rw [Prod.mk.sizeOf_spec] at hlt
      omega
    rcases mem_referencesAt_iff.mp hx
      with ⟨id, rfl, rfl, hp, rfl⟩ | ⟨items, rfl, rfl, hhead⟩ | ⟨hnot, hin⟩
    · exact .ref he hp
    · exact .head he hhead
    · exact .entry he hnot (uses_of_mem_references v hin)
  | .scalar _ | .set _ | .pair _ _ | .enclosing _ => simp [references] at h
termination_by sizeOf v

theorem mem_references_iff : x ∈ references v ↔ Uses v x :=
  ⟨uses_of_mem_references v, mem_references_of_uses⟩

/-- Only two keys can make an entry a reference. -/
theorem referencesAt_of_ne {name : String} (href : name ≠ "Ref") (hatt : name ≠ "Fn::GetAtt")
    (v : Value) : referencesAt (.str name) v = references v := by
  rw [referencesAt, entryReference]
  · rfl
  · intro _ hname _
    exact href (Scalar.str.inj hname)
  · intro _ _ hname _
    exact hatt (Scalar.str.inj hname)

@[simp] theorem refersTo_scalar (k : Scalar) (id : String) : ¬ RefersTo (.scalar k) id := by
  simp [RefersTo, references]

theorem refersTo_seq : RefersTo (.seq items) id ↔ ∃ v ∈ items, RefersTo v id := by
  simp only [RefersTo, references, mem_itemReferences]
  constructor
  · rintro ⟨x, ⟨v, hv, hx⟩, hid⟩
    exact ⟨v, hv, x, hx, hid⟩
  · rintro ⟨v, hv, x, hx, hid⟩
    exact ⟨x, ⟨v, hv, hx⟩, hid⟩

/-- Entries none of which is a reference refer to what their values refer to. -/
theorem refersTo_map (hn : ∀ e ∈ entries, ∃ name, e.1 = .str name ∧ name ≠ "Ref" ∧
    name ≠ "Fn::GetAtt") : RefersTo (.map entries) id ↔ ∃ e ∈ entries, RefersTo e.2 id := by
  have hat : ∀ e ∈ entries, referencesAt e.1 e.2 = references e.2 := by
    intro e he
    obtain ⟨name, hname, href, hatt⟩ := hn e he
    rw [hname, referencesAt_of_ne href hatt]
  simp only [RefersTo, references, mem_entryReferences]
  constructor
  · rintro ⟨x, ⟨e, he, hx⟩, hid⟩
    exact ⟨e, he, x, hat e he ▸ hx, hid⟩
  · rintro ⟨e, he, x, hx, hid⟩
    exact ⟨x, ⟨e, he, (hat e he).symm ▸ hx⟩, hid⟩

theorem refersTo_object {fields : List (String × Value)}
    (hn : ∀ f ∈ fields, f.1 ≠ "Ref" ∧ f.1 ≠ "Fn::GetAtt") :
    RefersTo (.object fields) id ↔ ∃ f ∈ fields, RefersTo f.2 id := by
  rw [Value.object, refersTo_map]
  · simp only [List.mem_map, exists_exists_and_eq_and]
  · intro e he
    obtain ⟨f, hf, rfl⟩ := List.mem_map.mp he
    exact ⟨f.1, rfl, hn f hf⟩

theorem refersTo_attributeOf {target field : String} :
    RefersTo (attributeOf target field) id ↔ id = target := by
  have hrefs : references (attributeOf target field) = [.str target] := rfl
  rw [RefersTo, hrefs]
  simp [Value.display, Scalar.display, eq_comm]

/-- A reference to a pseudo parameter does not count. -/
theorem eq_of_refersTo_ref {target : String} (h : RefersTo (ref (.str target)) id) :
    id = target := by
  have hrefs : references (ref (.str target)) =
      if isPseudoParameter target then [] else [.str target] := by
    simp [ref, Value.object, references, entryReferences, entryReference]
  obtain ⟨x, hx, rfl⟩ := h
  rw [hrefs] at hx
  split at hx
  · cases hx
  · rw [List.mem_singleton.mp hx]
    rfl

theorem refersTo_join {delimiter : String} {values : List Value} :
    RefersTo (join (.str delimiter) values) id ↔ ∃ v ∈ values, RefersTo v id := by
  rw [join, refersTo_object (by simp)]
  simp [refersTo_seq]

theorem refersTo_ifElse {condition : String} {whenTrue whenFalse : Value} :
    RefersTo (ifElse (.str condition) whenTrue whenFalse) id ↔
      RefersTo whenTrue id ∨ RefersTo whenFalse id := by
  rw [ifElse, refersTo_object (by simp)]
  simp [refersTo_seq]

/-- A text with placeholders refers to what is bound to their names. -/
theorem refersTo_sub {template : String} {bound : List (Scalar × Value)} :
    RefersTo (sub (.str template) bound) id ↔ RefersTo (.map bound) id := by
  rw [sub, refersTo_object (by simp)]
  simp [refersTo_seq]

end Intrinsic

namespace Graph

variable {g : Graph} {k d : Scalar} {r : Resource} {id : String}

/-- Whether a resource leads to another one: it depends on it, or its properties refer to it. -/
inductive LeadsTo (g : Graph) : Scalar → Scalar → Prop where
  | dependency {k d : Scalar} : g.DependsOn k d → g.LeadsTo k d
  | reference {k : Scalar} {r : Resource} {id : String} : g.find? k = some r →
      Intrinsic.RefersTo r.properties id → g.contains (.str id) = true → g.LeadsTo k (.str id)

/-- What a step gives for a list it gives for a member of the list. -/
theorem exists_of_mapM_ok {α β ε : Type} {f : α → Except ε β} {xs : List α} {ys : List β} {y : β}
    (h : xs.mapM f = .ok ys) (hy : y ∈ ys) : ∃ x ∈ xs, f x = .ok y := by
  induction xs generalizing ys with
  | nil =>
    obtain rfl : [] = ys := Except.ok.inj h
    cases hy
  | cons x xs ih =>
    rw [List.mapM_cons] at h
    cases hx : f x with
    | error e =>
      rw [hx] at h
      cases h
    | ok y' =>
      cases hxs : xs.mapM f with
      | error e =>
        rw [hx, hxs] at h
        cases h
      | ok ys' =>
        rw [hx, hxs] at h
        obtain rfl : y' :: ys' = ys := Except.ok.inj h
        rcases List.mem_cons.mp hy with rfl | hy
        · exact ⟨x, List.mem_cons_self, hx⟩
        · obtain ⟨x', hx', hfx'⟩ := ih hxs hy
          exact ⟨x', List.mem_cons_of_mem _ hx', hfx'⟩

/-- A reference that is reported stands in the properties of a resource, and its id is neither there
nor among those that are defined elsewhere. -/
theorem exists_of_findUnresolved {external : List String} {found : List Finding} {f : Finding}
    (h : g.findUnresolved external = .ok found) (hf : f ∈ found) :
    ∃ k r ids target, g.find? k = some r ∧ Intrinsic.referencedIds r.properties = .ok ids ∧
      target ∈ ids ∧ f = .unresolved k target ∧ g.contains (.str target) = false ∧
      target ∉ external := by
  rw [findUnresolved] at h
  let step : Scalar × Resource → Except ShapeFault (List Finding) := fun e => do
    let targets := (← Intrinsic.referencedIds e.2.properties).filter fun target =>
      !g.contains (.str target) && !external.contains target
    return targets.map (Finding.unresolved e.1)
  change (g.resources.entries.mapM step >>= fun found => Finding.told found.flatten) = _ at h
  cases hm : g.resources.entries.mapM step with
  | error fault =>
    rw [hm] at h
    cases h
  | ok lists =>
    rw [hm] at h
    change Finding.told lists.flatten = _ at h
    rw [Finding.told] at h
    split at h
    · obtain rfl := Except.ok.inj h
      obtain ⟨list, hlist, hf⟩ := List.mem_flatten.mp hf
      obtain ⟨⟨k, r⟩, hkr, hstep⟩ := exists_of_mapM_ok hm hlist
      cases hids : Intrinsic.referencedIds r.properties with
      | error fault =>
        simp only [step, hids] at hstep
        cases hstep
      | ok ids =>
        simp only [step, hids] at hstep
        obtain rfl := Except.ok.inj hstep
        obtain ⟨target, htarget, rfl⟩ := List.mem_map.mp hf
        obtain ⟨hmem, hopen⟩ := List.mem_filter.mp htarget
        simp only [Bool.and_eq_true, Bool.not_eq_true', List.contains_eq_mem,
          decide_eq_false_iff_not] at hopen
        exact ⟨k, r, ids, target, Entries.find?_of_mem g.resources.nodup hkr, hids, hmem, rfl,
          hopen.1, hopen.2⟩
    · cases h

end Graph

end ResolverHooks
