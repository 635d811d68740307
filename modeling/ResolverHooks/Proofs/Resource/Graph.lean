import ResolverHooks.Proofs.Document.Table
import ResolverHooks.Resource.Graph

/-!
Changes to a graph, seen through what it holds under an id and through the group of an id. Resources
are placed, which is to say written together with their group, and dependencies are recorded once.
-/
namespace ResolverHooks

namespace Value

/-- Only a text is the same as a text. -/
theorem same_str_iff {v : Value} {s : String} : v.same (.str s) = true ↔ v = .str s := by
  cases v <;> simp [same]

end Value

namespace Resource

/-- Dependencies with more of them recorded behind, each once. -/
def recorded (deps more : List Value) : List Value :=
  more.foldl (fun ds d => if ds.any fun x => x.same d then ds else ds ++ [d]) deps

def dependingOn (r : Resource) (more : List Value) : Resource :=
  { r with dependsOn := recorded r.dependsOn more }

@[simp] theorem dependingOn_nil (r : Resource) : r.dependingOn [] = r := rfl

theorem dependingOn_append (r : Resource) (xs ys : List Value) :
    r.dependingOn (xs ++ ys) = (r.dependingOn xs).dependingOn ys := by
  simp [dependingOn, recorded]

theorem mem_recorded {deps more : List Value} {d : Value} (h : d ∈ recorded deps more) :
    d ∈ deps ∨ d ∈ more := by
  induction more generalizing deps with
  | nil => exact Or.inl h
  | cons m more ih =>
    rcases @ih (if deps.any fun x => x.same m then deps else deps ++ [m]) h with h | h
    · split at h
      · exact Or.inl h
      · rcases List.mem_append.mp h with h | h
        · exact Or.inl h
        · exact Or.inr (by simp_all)
    · exact Or.inr (List.mem_cons_of_mem _ h)

/-- A scalar is recorded, or one that is the same key has been recorded before. -/
theorem exists_mem_recorded {deps more : List Value} {k : Scalar}
    (h : .scalar k ∈ deps ∨ .scalar k ∈ more) :
    ∃ k', k'.key = k.key ∧ .scalar k' ∈ recorded deps more := by
  induction more generalizing deps k with
  | nil => exact ⟨k, rfl, by simpa [recorded] using h⟩
  | cons m more ih =>
    have hkept : ∀ k' : Scalar, k'.key = k.key →
        .scalar k' ∈ (if deps.any fun x => x.same m then deps else deps ++ [m]) →
        ∃ k', k'.key = k.key ∧ .scalar k' ∈ recorded deps (m :: more) := by
      intro k' hk' hm
      obtain ⟨k'', hk'', hm''⟩ := @ih _ k' (Or.inl hm)
      exact ⟨k'', hk''.trans hk', hm''⟩
    rcases h with h | h
    · refine hkept k rfl ?_
      split
      · exact h
      · exact List.mem_append_left _ h
    · rcases List.mem_cons.mp h with rfl | h
      · by_cases hany : (deps.any fun x => x.same (.scalar k)) = true
        · obtain ⟨x, hx, hsame⟩ := List.any_eq_true.mp hany
          cases x <;> simp only [Value.same, Bool.false_eq_true] at hsame
          exact hkept _ (Scalar.same_iff.mp hsame) (by rwa [if_pos hany])
        · exact hkept k rfl (by simp [hany])
      · exact @ih (if deps.any fun x => x.same m then deps else deps ++ [m]) k (Or.inr h)

theorem str_mem_recorded_iff {deps more : List Value} {id : String} :
    .str id ∈ recorded deps more ↔ .str id ∈ deps ∨ .str id ∈ more := by
  refine ⟨mem_recorded, fun h => ?_⟩
  obtain ⟨k, hk, hm⟩ := exists_mem_recorded h
  rwa [Scalar.same_str.mp (Scalar.same_iff.mpr hk)] at hm

/-- Texts that are all different are recorded as they are listed. -/
theorem recorded_texts {xs ys : List String} (h : (xs ++ ys).Nodup) :
    recorded (xs.map Value.str) (ys.map Value.str) = (xs ++ ys).map Value.str := by
  induction ys generalizing xs with
  | nil => simp [recorded]
  | cons y ys ih =>
    have hy : y ∉ xs := by
      intro hm
      exact (List.nodup_append.mp h).2.2 y hm y List.mem_cons_self rfl
    have hany : (xs.map Value.str).any (fun x => x.same (.str y)) = false := by
      rw [List.any_eq_false]
      intro v hv
      obtain ⟨x, hx, rfl⟩ := List.mem_map.mp hv
      rw [Value.same_str_iff]
      rintro ⟨⟩
      exact hy hx
    have hstep := @ih (xs ++ [y]) (by simpa using h)
    calc recorded (xs.map Value.str) ((y :: ys).map Value.str)
        = recorded ((xs ++ [y]).map Value.str) (ys.map Value.str) := by
          simp only [recorded, List.map_cons, List.foldl_cons, hany, List.map_append, List.map_nil]
          rfl
      _ = (xs ++ y :: ys).map Value.str := by rw [hstep, List.append_assoc, List.singleton_append]

end Resource

namespace Graph

variable {g : Graph} {id : String} {group : String} {r : Resource} {k : Scalar} {dep : Value}

/-- Writes a resource and puts it into a group. -/
def place (g : Graph) (group id : String) (r : Resource) : Graph :=
  (g.insert (.str id) r).assign (.str group) (.str id)

@[simp] theorem find?_insert (g : Graph) (k' : Scalar) (r : Resource) :
    (g.insert k' r).find? k = if k'.same k then some r else g.find? k := Table.find?_insert

theorem find?_insert_self (g : Graph) (k : Scalar) (r : Resource) :
    (g.insert k r).find? k = some r := by simp

@[simp] theorem groupOf_insert (g : Graph) (k' : Scalar) (r : Resource) :
    (g.insert k' r).groupOf k = g.groupOf k := rfl

theorem find?_place (g : Graph) (group id : String) (r : Resource) (k : Scalar) :
    (g.place group id r).find? k = if k = .str id then some r else g.find? k := by
  have h : (g.place group id r).find? k = if (Scalar.str id).same k then some r else g.find? k :=
    Table.find?_insert
  simpa only [Scalar.str_same] using h

@[simp] theorem find?_place_self (g : Graph) (group id : String) (r : Resource) :
    (g.place group id r).find? (.str id) = some r := by simp [find?_place]

theorem find?_place_of_ne (h : k ≠ .str id) : (g.place group id r).find? k = g.find? k := by
  simp [find?_place, h]

theorem groupOf_place (g : Graph) (group id : String) (r : Resource) (k : Scalar) :
    (g.place group id r).groupOf k = if k = .str id then .str group else g.groupOf k := by
  have h : (g.place group id r).groups.find? k =
      if (Scalar.str id).same k then some (.str group) else g.groups.find? k := Table.find?_insert
  rw [groupOf, h]
  by_cases hk : k = .str id <;> simp [Scalar.str_same, hk, groupOf]

@[simp] theorem groupOf_place_self (g : Graph) (group id : String) (r : Resource) :
    (g.place group id r).groupOf (.str id) = .str group := by simp [groupOf_place]

theorem groupOf_place_of_ne (h : k ≠ .str id) :
    (g.place group id r).groupOf k = g.groupOf k := by simp [groupOf_place, h]

theorem find?_erase_str (g : Graph) (id : String) (k : Scalar) :
    (g.erase (.str id)).find? k = if k = .str id then none else g.find? k := by
  have h : (g.erase (.str id)).find? k = if (Scalar.str id).same k then none else g.find? k :=
    Table.find?_erase
  simpa only [Scalar.str_same] using h

theorem groupOf_erase_of_ne (h : k ≠ .str id) : (g.erase (.str id)).groupOf k = g.groupOf k := by
  have hg : (g.erase (.str id)).groups.find? k =
      if (Scalar.str id).same k then none else g.groups.find? k := Table.find?_erase
  rw [groupOf, hg]
  simp [Scalar.str_same, h, groupOf]

theorem groupOf_erase_self (g : Graph) (id : String) :
    (g.erase (.str id)).groupOf (.str id) = .null := by
  have hg : (g.erase (.str id)).groups.find? (.str id) =
      if (Scalar.str id).same (.str id) then none else g.groups.find? (.str id) := Table.find?_erase
  rw [groupOf, hg]
  simp

theorem contains_iff : g.contains k = true ↔ ∃ r, g.find? k = some r := by
  simp [contains, find?, Table.contains, Option.isSome_iff_exists]

theorem contains_eq_isSome (g : Graph) (k : Scalar) : g.contains k = (g.find? k).isSome := rfl

theorem contains_place (g : Graph) (group id : String) (r : Resource) (k : Scalar) :
    (g.place group id r).contains k = (g.contains k || k == .str id) := by
  simp only [contains_eq_isSome, find?_place]
  by_cases hk : k = .str id <;> simp [hk]

theorem contains_erase_str (g : Graph) (id : String) (k : Scalar) :
    (g.erase (.str id)).contains k = (g.contains k && k != .str id) := by
  simp only [contains_eq_isSome, find?_erase_str]
  by_cases hk : k = .str id <;> simp [hk]

@[simp] theorem isPresent_str (g : Graph) (id : String) :
    g.isPresent (.str id) = g.contains (.str id) := rfl

@[simp] theorem groupOfDependency_str (g : Graph) (id : String) :
    g.groupOfDependency (.str id) = g.groupOf (.str id) := rfl

theorem isPresent_iff : g.isPresent dep = true ↔ ∃ k, dep = .scalar k ∧ g.contains k = true := by
  cases dep <;> simp [isPresent, Value.scalar?]

/-- Writing a resource that is there already changes nothing. -/
theorem insert_of_find? (h : g.find? k = some r) : g.insert k r = g := by
  have ht : g.resources.insert k r = g.resources := Table.insert_of_find? h
  cases g
  simp only [insert] at ht ⊢
  rw [ht]

theorem insert_insert (g : Graph) (k : Scalar) (r r' : Resource) :
    (g.insert k r).insert k r' = g.insert k r' := by
  simp [insert, Table.insert_insert]

theorem insert_place (g : Graph) (group id : String) (r r' : Resource) :
    (g.place group id r).insert (.str id) r' = g.place group id r' := by
  simp [place, insert, assign, Table.insert_insert]

/-- Placing changes nothing exactly if the resource is there already, and in this group. -/
theorem place_eq_self_iff : g.place group id r = g ↔
    g.find? (.str id) = some r ∧ g.groupOf (.str id) = .str group := by
  constructor
  · intro h
    rw [← h]
    exact ⟨find?_place_self .., groupOf_place_self ..⟩
  · rintro ⟨hr, hg⟩
    have hgroups : g.groups.find? (.str id) = some (.str group) := by
      cases hfind : g.groups.find? (.str id) with
      | none => simp [groupOf, hfind] at hg
      | some v => simpa [groupOf, hfind] using hg
    have hassign : g.groups.insert (.str id) (.str group) = g.groups :=
      Table.insert_of_find? hgroups
    rw [place, insert_of_find? hr, assign, hassign]

theorem addDependency?_eq (g : Graph) (k : Scalar) (dep : Value) :
    g.addDependency? k dep = (g.find? k).map fun r => g.insert k (r.dependingOn [dep]) := by
  cases h : g.find? k with
  | none => simp [addDependency?, h]
  | some r =>
    simp only [addDependency?, h, Option.map_some, Resource.dependingOn, Resource.recorded,
      List.foldl_cons, List.foldl_nil]
    split
    · rw [insert_of_find? h]
    · rfl

/-- Whether a dependency stays inside a group. -/
def carries (g : Graph) (group : String) (dep : Value) : Bool :=
  g.isPresent dep && (g.groupOfDependency dep).same (.str group)

theorem carries_iff : g.carries group dep = true ↔
    ∃ k, dep = .scalar k ∧ g.contains k = true ∧ g.groupOf k = .str group := by
  cases dep <;> simp [carries, isPresent, groupOfDependency, Value.scalar?, Value.same_str_iff]

/-- What is carried depends only on which ids are there, and in which groups. -/
theorem carries_insert (group : String) (r : Resource) (h : g.contains (.str id) = true) :
    (g.insert (.str id) r).carries group = g.carries group := by
  obtain ⟨r', hr⟩ := contains_iff.mp h
  have hc : ∀ k, (g.insert (.str id) r).contains k = g.contains k := by
    intro k
    rw [contains_eq_isSome, contains_eq_isSome, find?_insert]
    by_cases hk : k = .str id
    · simp [hk, hr]
    · simp [Scalar.str_same, hk]
  funext dep
  cases dep <;> simp [carries, isPresent, groupOfDependency, Value.scalar?, hc]

end Graph

end ResolverHooks
