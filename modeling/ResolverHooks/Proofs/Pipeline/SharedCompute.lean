import ResolverHooks.Proofs.Naming.Material
import ResolverHooks.Proofs.Pipeline.Provision

/-!
The compute resources that functions share. However often and in whatever order functions are asked
for, a graph ends up with the resources that it had, and with the role and the data source of each
function as far as it had none: what is added depends on the graph at the start only, not on what
was added before.
-/
namespace ResolverHooks

namespace Graph

variable {g g' : Graph} {s : Settings} {group id : String} {r : Resource} {k : Scalar}
  {rs rs' : List (String × Resource)}

/-- Provides resources one after another. -/
def provideAll (g : Graph) (group : String) (rs : List (String × Resource)) : Graph :=
  rs.foldl (fun g e => g.provide group e.1 e.2) g

theorem provideAll_append (g : Graph) (group : String) (rs rs' : List (String × Resource)) :
    g.provideAll group (rs ++ rs') = (g.provideAll group rs).provideAll group rs' :=
  List.foldl_append

/-- The first resource of a list that has an id. -/
def resourceFor? (rs : List (String × Resource)) (k : Scalar) : Option Resource :=
  (rs.find? fun e => k == .str e.1).map Prod.snd

theorem resourceFor?_cons (e : String × Resource) (rs : List (String × Resource)) (k : Scalar) :
    resourceFor? (e :: rs) k = if k = .str e.1 then some e.2 else resourceFor? rs k := by
  by_cases hk : k = .str e.1
  · simp [resourceFor?, hk]
  · have hbeq : (k == .str e.1) = false := by simpa using hk
    simp [resourceFor?, hbeq, hk]

theorem provideAll_cons (g : Graph) (group : String) (e : String × Resource)
    (rs : List (String × Resource)) :
    g.provideAll group (e :: rs) = (g.provide group e.1 e.2).provideAll group rs := rfl

theorem find?_provide (g : Graph) (group id : String) (r : Resource) (k : Scalar) :
    (g.provide group id r).find? k = (g.find? k).or (if k = .str id then some r else none) := by
  cases hc : g.contains (.str id) with
  | true =>
    rw [provide_of_contains hc]
    by_cases hk : k = .str id
    · obtain ⟨r', hr'⟩ := contains_iff.mp hc
      simp [hk, hr']
    · simp [hk]
  | false =>
    rw [provide_of_free hc, find?_place]
    by_cases hk : k = .str id
    · have hnone : g.find? (.str id) = none := by
        simpa [contains_eq_isSome] using hc
      simp [hk, hnone]
    · simp [hk]

theorem find?_provideAll (g : Graph) (group : String) (rs : List (String × Resource)) (k : Scalar) :
    (g.provideAll group rs).find? k = (g.find? k).or (resourceFor? rs k) := by
  induction rs generalizing g with
  | nil => simp [provideAll, resourceFor?]
  | cons e rs ih =>
    rw [provideAll_cons, ih, find?_provide, Option.or_assoc, resourceFor?_cons]
    by_cases hk : k = .str e.1 <;> simp [hk]

theorem groups_provide (g : Graph) (group id : String) (r : Resource) (k : Scalar) :
    (g.provide group id r).groups.find? k =
      if g.contains k = false ∧ k = .str id then some (.str group) else g.groups.find? k := by
  cases hc : g.contains (.str id) with
  | true =>
    rw [provide_of_contains hc]
    by_cases hk : k = .str id <;> simp [hk, hc]
  | false =>
    have hplace : (g.place group id r).groups.find? k =
        if (Scalar.str id).same k then some (.str group) else g.groups.find? k := Table.find?_insert
    rw [provide_of_free hc, hplace]
    by_cases hk : k = .str id <;> simp [hk, hc, Scalar.str_same]

theorem groups_provideAll (g : Graph) (group : String) (rs : List (String × Resource))
    (k : Scalar) :
    (g.provideAll group rs).groups.find? k =
      if g.contains k = false ∧ (resourceFor? rs k).isSome then some (.str group)
      else g.groups.find? k := by
  induction rs generalizing g with
  | nil => simp [provideAll, resourceFor?]
  | cons e rs ih =>
    rw [provideAll_cons, ih, groups_provide, contains_provide, resourceFor?_cons]
    by_cases hk : k = .str e.1
    · simp [hk]
    · have hbeq : (k == .str e.1) = false := by simpa using hk
      simp [hk, hbeq]

/-- What is provided stands behind what was there. -/
theorem exists_entries_provideAll (g : Graph) (group : String) (rs : List (String × Resource)) :
    ∃ new : List (String × Resource), (g.provideAll group rs).resources.entries =
      g.resources.entries ++ new.map fun e => (.str e.1, e.2) := by
  induction rs generalizing g with
  | nil => exact ⟨[], by simp [provideAll]⟩
  | cons e rs ih =>
    obtain ⟨new, hnew⟩ := ih (g.provide group e.1 e.2)
    rw [provideAll_cons, hnew]
    cases hc : g.contains (.str e.1) with
    | true => exact ⟨new, by rw [provide_of_contains hc]⟩
    | false =>
      have hfree : Entries.find? (.str e.1) g.resources.entries = none := by
        simpa [contains, Table.contains, Table.find?] using hc
      have hplace : (g.place group e.1 e.2).resources.entries =
          g.resources.entries ++ [(.str e.1, e.2)] := Entries.insert_of_find?_none hfree
      exact ⟨e :: new, by rw [provide_of_free hc, hplace]; simp⟩

/-- Resources that their ids tell apart. -/
def Distinct (rs : List (String × Resource)) : Prop := ∀ e ∈ rs, ∀ e' ∈ rs, e.1 = e'.1 → e = e'

theorem resourceFor?_eq_some_iff (hd : Distinct rs) :
    resourceFor? rs k = some r ↔ ∃ id, k = .str id ∧ (id, r) ∈ rs := by
  rw [resourceFor?, Option.map_eq_some_iff]
  constructor
  · rintro ⟨e, he, rfl⟩
    exact ⟨e.1, by simpa using List.find?_some he, List.mem_of_find?_eq_some he⟩
  · rintro ⟨id, rfl, hmem⟩
    cases hfind : rs.find? fun e => Scalar.str id == .str e.1 with
    | none => simpa using List.find?_eq_none.mp hfind _ hmem
    | some e =>
      have hid : id = e.1 := by simpa using List.find?_some hfind
      exact ⟨e, rfl, by rw [hd e (List.mem_of_find?_eq_some hfind) _ hmem hid.symm]⟩

theorem resourceFor?_eq_none_iff : resourceFor? rs k = none ↔ ∀ e ∈ rs, k ≠ .str e.1 := by
  simp [resourceFor?]

/-- All that counts of resources to provide is which they are. -/
theorem resourceFor?_congr (hd : Distinct rs) (hmem : ∀ e, e ∈ rs ↔ e ∈ rs') :
    resourceFor? rs = resourceFor? rs' := by
  have hd' : Distinct rs' := fun e he e' he' => hd e ((hmem e).mpr he) e' ((hmem e').mpr he')
  funext k
  apply Option.ext
  intro r
  rw [resourceFor?_eq_some_iff hd, resourceFor?_eq_some_iff hd']
  simp only [hmem]

/-- Exactly the resources with free ids are added. -/
theorem entries_provideAll (g : Graph) (group : String) (hd : Distinct rs) :
    ∃ new : List (String × Resource), (g.provideAll group rs).resources.entries =
        g.resources.entries ++ new.map (fun e => (.str e.1, e.2)) ∧
      ∀ e, e ∈ new ↔ e ∈ rs ∧ g.contains (.str e.1) = false := by
  obtain ⟨new, hnew⟩ := exists_entries_provideAll g group rs
  refine ⟨new, hnew, fun e => ?_⟩
  have hnew' : e ∈ new ↔ g.find? (.str e.1) = none ∧
      (g.provideAll group rs).find? (.str e.1) = some e.2 := Table.mem_appended_iff hnew
  have hfree : g.contains (.str e.1) = false ↔ g.find? (.str e.1) = none := by
    simp [contains_eq_isSome]
  have hprovided : resourceFor? rs (.str e.1) = some e.2 ↔ e ∈ rs := by
    rw [resourceFor?_eq_some_iff hd]
    simp
  rw [hnew', hfree, ← hprovided, find?_provideAll]
  constructor
  · rintro ⟨hnone, hr⟩
    exact ⟨by simpa [hnone] using hr, hnone⟩
  · rintro ⟨hr, hnone⟩
    exact ⟨hnone, by simpa [hnone] using hr⟩

end Graph

namespace Identity

open LogicalId

variable {i i' : Identity} {is is' : List Identity} {s : Settings} {g g' : Graph}

/-- The compute resources of a function, as they are made for a graph: the data source depends on
the role if that is, or will be, in the shared group. -/
def compute (s : Settings) (g : Graph) (i : Identity) : List (String × Resource) :=
  [(i.roleId, i.role s),
    (i.dataSourceId, (i.dataSource s).dependingOn (g.linkShared s s.stackName i.roleId))]

theorem role_mem_compute : (i.roleId, i.role s) ∈ i.compute s g := List.mem_cons_self

theorem dataSource_mem_compute : (i.dataSourceId,
    (i.dataSource s).dependingOn (g.linkShared s s.stackName i.roleId)) ∈ i.compute s g := by
  simp [compute]

theorem mem_compute {e : String × Resource} : e ∈ i.compute s g ↔ e = (i.roleId, i.role s) ∨
    e = (i.dataSourceId,
      (i.dataSource s).dependingOn (g.linkShared s s.stackName i.roleId)) := by
  simp [compute]

/-- What is made for a function does not depend on what has been provided for others. -/
theorem compute_ensured (s : Settings) (g : Graph) (i i' : Identity) :
    i'.compute s (g.ensured s i) = i'.compute s g := by
  simp only [compute, Graph.linkShared, Graph.sharedGroup_ensured]

/-- Functions that differ have different roles and different data sources. -/
def IdsApart (is : List Identity) : Prop :=
  ∀ i ∈ is, ∀ i' ∈ is, i.roleId = i'.roleId ∨ i.dataSourceId = i'.dataSourceId → i = i'

/-- Whatever the digest is, stems that differ make ids that differ. -/
theorem idsApart_of_stems
    (h : ∀ i ∈ is, ∀ i' ∈ is, stems i.fragments = stems i'.fragments → i = i') : IdsApart is := by
  intro i hi i' hi' hid
  apply h i hi i' hi'
  rcases hid with hid | hid
  · exact stems_eq_of_canonical_eq hid
  · exact stems_eq_of_canonical_eq hid

theorem distinct_compute (h : IdsApart is) (s : Settings) (g : Graph) :
    Graph.Distinct (is.flatMap (compute s g)) := by
  intro e he e' he' hid
  obtain ⟨i, hi, he⟩ := List.mem_flatMap.mp he
  obtain ⟨i', hi', he'⟩ := List.mem_flatMap.mp he'
  rcases mem_compute.mp he with rfl | rfl
  · rcases mem_compute.mp he' with rfl | rfl
    · rw [h i hi i' hi' (Or.inl hid)]
    · exact absurd hid (Graph.roleId_ne_dataSourceId i i')
  · rcases mem_compute.mp he' with rfl | rfl
    · exact absurd hid.symm (Graph.roleId_ne_dataSourceId i' i)
    · rw [h i hi i' hi' (Or.inr hid)]

/-- A role that allows to invoke one function and nothing else, and a data source that invokes the
same function in that role. -/
structure Wired (s : Settings) (i : Identity) (role dataSource : Resource) : Prop where
  policies : propertyOf "Policies" role.stepProperties =
    .seq [.object [("PolicyName", .str "InvokeLambdaFunction"),
      ("PolicyDocument", .object [("Version", .str "2012-10-17"),
        ("Statement", .seq [.object [("Effect", .str "Allow"),
          ("Action", .seq [.str "lambda:InvokeFunction"]),
          ("Resource", FunctionArn.value i.name i.region s)]])])]]
  invokes : propertyOf "LambdaConfig" dataSource.stepProperties =
    .object [("LambdaFunctionArn", FunctionArn.value i.name i.region s)]
  assumes : propertyOf "ServiceRoleArn" dataSource.stepProperties =
    Intrinsic.attributeOf i.roleId "Arn"
  dependsOn : dataSource.dependsOn = [.str i.roleId]

theorem wired_compute (hfree : g.contains (.str i.roleId) = false) :
    i.Wired s (i.role s)
      ((i.dataSource s).dependingOn (g.linkShared s s.stackName i.roleId)) where
  policies := rfl
  invokes := rfl
  assumes := rfl
  dependsOn := by
    simp [Graph.linkShared, Graph.sharedGroup, hfree, Resource.dependingOn, Resource.recorded,
      dataSource, Value.same_str_iff]

/-- What a graph has after functions have been asked for. -/
structure Provisioned (s : Settings) (is : List Identity) (g g' : Graph) : Prop where
  /-- Behind the resources that were there stand the role and the data source of each function, as
  far as their ids were free. -/
  added : ∃ new : List (String × Resource),
    g'.resources.entries = g.resources.entries ++ new.map (fun e => (.str e.1, e.2)) ∧
    (new.map Prod.fst).Nodup ∧
    ∀ e, e ∈ new ↔ (∃ i ∈ is, e ∈ i.compute s g) ∧ g.contains (.str e.1) = false
  /-- What is added is in the shared group. -/
  placed : ∀ i ∈ is, ∀ id, id = i.roleId ∨ id = i.dataSourceId → g.contains (.str id) = false →
    g'.groups.find? (.str id) = some (.str s.stackName)
  kept : ∀ k, g.contains k = true ∨ (∀ i ∈ is, k ≠ .str i.roleId ∧ k ≠ .str i.dataSourceId) →
    g'.find? k = g.find? k ∧ g'.groups.find? k = g.groups.find? k
  wired : ∀ i ∈ is, g.contains (.str i.roleId) = false → g.contains (.str i.dataSourceId) = false →
    ∃ role dataSource, g'.find? (.str i.roleId) = some role ∧
      g'.find? (.str i.dataSourceId) = some dataSource ∧ i.Wired s role dataSource

theorem provisioned_provideAll (h : IdsApart is) :
    Provisioned s is g (g.provideAll s.stackName (is.flatMap (compute s g))) := by
  have hd := distinct_compute h s g
  have hresource : ∀ i ∈ is, ∀ e ∈ i.compute s g,
      Graph.resourceFor? (is.flatMap (compute s g)) (.str e.1) = some e.2 := fun i hi e he =>
    (Graph.resourceFor?_eq_some_iff hd).mpr ⟨e.1, rfl, List.mem_flatMap.mpr ⟨i, hi, he⟩⟩
  have hfind : ∀ i ∈ is, ∀ e ∈ i.compute s g, g.contains (.str e.1) = false →
      (g.provideAll s.stackName (is.flatMap (compute s g))).find? (.str e.1) = some e.2 := by
    intro i hi e he hfree
    have hnone : g.find? (.str e.1) = none := by simpa [Graph.contains_eq_isSome] using hfree
    rw [Graph.find?_provideAll, hnone, hresource i hi e he, Option.none_or]
  constructor
  case added =>
    obtain ⟨new, hnew, hmem⟩ := Graph.entries_provideAll g s.stackName hd
    exact ⟨new, hnew, (Table.keys_of_appended hnew).1, fun e => by rw [hmem, List.mem_flatMap]⟩
  case placed =>
    intro i hi id hid hfree
    obtain ⟨e, he, rfl⟩ : ∃ e ∈ i.compute s g, e.1 = id := by
      rcases hid with rfl | rfl
      · exact ⟨_, role_mem_compute, rfl⟩
      · exact ⟨_, dataSource_mem_compute, rfl⟩
    rw [Graph.groups_provideAll, hresource i hi e he, if_pos ⟨hfree, rfl⟩]
  case kept =>
    intro k hk
    rw [Graph.find?_provideAll, Graph.groups_provideAll]
    rcases hk with hk | hk
    · obtain ⟨r, hr⟩ := Graph.contains_iff.mp hk
      simp [hr, hk]
    · have hnone : Graph.resourceFor? (is.flatMap (compute s g)) k = none := by
        rw [Graph.resourceFor?_eq_none_iff]
        intro e he
        obtain ⟨i, hi, he⟩ := List.mem_flatMap.mp he
        rcases mem_compute.mp he with rfl | rfl
        · exact (hk i hi).1
        · exact (hk i hi).2
      simp [hnone]
  case wired =>
    intro i hi hrole hds
    have hfindRole := hfind i hi _ role_mem_compute hrole
    have hfindDataSource := hfind i hi _ dataSource_mem_compute hds
    exact ⟨_, _, hfindRole, hfindDataSource, wired_compute hrole⟩

end Identity

namespace Compilation

variable {s : Settings} {calls calls' : List (String × Option String)}

/-- The functions that are asked for by name and region, where a blank region means none. -/
def identities (calls : List (String × Option String)) : List Identity :=
  calls.map fun c => .ofNames c.1 c.2

/-- Asks for the compute resources of functions one after another. -/
def ensureAll (s : Settings) (calls : List (String × Option String)) :
    Compilation (List String) := (identities calls).mapM (ensure s)

/-- Asking for functions one after another provides what is made for each of the graph at the
start. -/
theorem run_mapM_ensure (s : Settings) (is : List Identity) (a : Arena) :
    (is.mapM (ensure s)).run a = .ok (is.map Identity.dataSourceId)
      ⟨a.graph.provideAll s.stackName (is.flatMap (Identity.compute s a.graph)), a.hoisted⟩ := by
  induction is generalizing a with
  | nil => rfl
  | cons i is ih =>
    have hstep : a.graph.ensured s i = a.graph.provideAll s.stackName (i.compute s a.graph) :=
      Graph.ensured_eq a.graph s i
    have hlater : Identity.compute s (a.graph.ensured s i) = Identity.compute s a.graph :=
      funext (Identity.compute_ensured s a.graph i)
    rw [List.mapM_cons, run_bind_of_ok (run_ensure ..), run_bind_of_ok (ih _), hlater, hstep,
      ← Graph.provideAll_append, ← List.flatMap_cons]
    rfl

/-- What asking for functions leads to depends only on which functions are asked for. -/
theorem ensureAll_congr (hset : ∀ i, i ∈ identities calls ↔ i ∈ identities calls')
    (hapart : Identity.IdsApart (identities calls)) (s : Settings) (a : Arena) :
    ∃ b b', (ensureAll s calls).run a = .ok ((identities calls).map Identity.dataSourceId) b ∧
      (ensureAll s calls').run a = .ok ((identities calls').map Identity.dataSourceId) b' ∧
      (∀ k, b.graph.find? k = b'.graph.find? k ∧
        b.graph.groups.find? k = b'.graph.groups.find? k) ∧
      b.hoisted = a.hoisted ∧ b'.hoisted = a.hoisted ∧
      Identity.Provisioned s (identities calls) a.graph b.graph ∧
      Identity.Provisioned s (identities calls') a.graph b'.graph := by
  have hapart' : Identity.IdsApart (identities calls') := fun i hi i' hi' =>
    hapart i ((hset i).mpr hi) i' ((hset i').mpr hi')
  have hsame : Graph.resourceFor? ((identities calls).flatMap (Identity.compute s a.graph)) =
      Graph.resourceFor? ((identities calls').flatMap (Identity.compute s a.graph)) := by
    apply Graph.resourceFor?_congr (Identity.distinct_compute hapart s a.graph)
    intro e
    simp only [List.mem_flatMap, hset]
  refine ⟨_, _, run_mapM_ensure s _ a, run_mapM_ensure s _ a, fun k => ⟨?_, ?_⟩, rfl, rfl,
    Identity.provisioned_provideAll hapart, Identity.provisioned_provideAll hapart'⟩
  · rw [Graph.find?_provideAll, Graph.find?_provideAll, hsame]
  · rw [Graph.groups_provideAll, Graph.groups_provideAll, hsame]

theorem ensureAll_congr_audit :
    let calls := [("audit", none), ("notify", some "eu-west-1"), ("audit", some " ")]
    let calls' := [("notify", some "eu-west-1"), ("audit", none)]
    let a := Arena.storing ["Todo"]
    (∀ i, i ∈ identities calls ↔ i ∈ identities calls') ∧ Identity.IdsApart (identities calls) ∧
      ∃ b b' ids ids', (ensureAll {} calls).run a = .ok ids b ∧
        (ensureAll {} calls').run a = .ok ids' b' ∧
        (∀ k, b.graph.find? k = b'.graph.find? k ∧
          b.graph.groups.find? k = b'.graph.groups.find? k) ∧
        Identity.Provisioned {} (identities calls) a.graph b.graph := by
  intro calls calls' a
  have hset : ∀ i, i ∈ identities calls ↔ i ∈ identities calls' := by
    have h : identities calls =
        [⟨"audit", none⟩, ⟨"notify", some "eu-west-1"⟩, ⟨"audit", none⟩] := by
      decide
    have h' : identities calls' = [⟨"notify", some "eu-west-1"⟩, ⟨"audit", none⟩] := by decide
    intro i
    rw [h, h']
    simp only [List.mem_cons, List.not_mem_nil, or_false]
    grind
  have hapart : Identity.IdsApart (identities calls) :=
    Identity.idsApart_of_stems (by decide +kernel)
  obtain ⟨b, b', h, h', hagree, _, _, hb, _⟩ := ensureAll_congr hset hapart {} a
  exact ⟨hset, hapart, b, b', _, _, h, h', hagree, hb⟩

end Compilation

end ResolverHooks
