import ResolverHooks.Proofs.Resource.Graph
import ResolverHooks.Resource.Check

/-!
The dependencies of a graph, occurrence by occurrence: whether they name resources that are there,
and whether they stay inside the groups of these.
-/
namespace ResolverHooks

namespace Value

theorem same_str_left {v : Value} {s : String} : (Value.str s).same v = true ↔ v = .str s := by
  cases v <;> simp [same, Scalar.str_same]

theorem str_differs_iff {v : Value} {s : String} :
    (Value.str s).differs v = false ↔ v = .str s := by
  rw [← same_str_left]
  simp [differs]

/-- Only a text does not differ from a text. -/
theorem differs_str_iff {v : Value} {s : String} : v.differs (.str s) = false ↔ v = .str s := by
  rw [← same_str_iff]
  simp only [differs]
  split
  · simp [same_str_iff]
  · simp

end Value

namespace Graph

variable {g : Graph} {k : Scalar} {dep : Value} {id : String}

/-- Whether a dependency leaves the group of its resource: it names a resource of another group. -/
def Crosses (g : Graph) (k : Scalar) (dep : Value) : Prop :=
  g.isPresent dep = true ∧ (g.groupOf k).differs (g.groupOfDependency dep) = true

instance (g : Graph) (k : Scalar) (dep : Value) : Decidable (g.Crosses k dep) :=
  inferInstanceAs (Decidable (_ ∧ _))

/-- No dependency between two resources crosses groups. -/
def StaysInGroups (g : Graph) : Prop := ∀ e ∈ g.allDependencies, ¬ g.Crosses e.1 e.2

instance (g : Graph) : Decidable g.StaysInGroups :=
  inferInstanceAs (Decidable (∀ e ∈ g.allDependencies, ¬ g.Crosses e.1 e.2))

theorem forall_allDependencies_iff {p : Scalar → Value → Prop} :
    (∀ e ∈ g.allDependencies, p e.1 e.2) ↔
      ∀ k r, (k, r) ∈ g.resources.entries → ∀ dep ∈ r.dependsOn, p k dep := by
  simp only [allDependencies, List.mem_flatMap, List.mem_map]
  constructor
  · intro h k r hm dep hd
    exact h (k, dep) ⟨(k, r), hm, dep, hd, rfl⟩
  · rintro h _ ⟨e, hm, dep, hd, rfl⟩
    exact h e.1 e.2 hm dep hd

theorem staysInGroups_iff : g.StaysInGroups ↔
    ∀ k r, (k, r) ∈ g.resources.entries → ∀ dep ∈ r.dependsOn, ¬ g.Crosses k dep :=
  @forall_allDependencies_iff g fun k dep => ¬ g.Crosses k dep

theorem not_crosses_of_eq {group : String} (hk : g.groupOf k = .str group)
    (hd : g.isPresent dep = true → g.groupOfDependency dep = .str group) : ¬ g.Crosses k dep := by
  rintro ⟨hp, hdiff⟩
  rw [hk, hd hp, Value.differs_str_iff.mpr rfl] at hdiff
  exact Bool.false_ne_true hdiff

/-- A dependency on a resource of a named group. -/
theorem not_crosses_str_iff {group : String} (hc : g.contains (.str id) = true)
    (hg : g.groupOf (.str id) = .str group) :
    ¬ g.Crosses k (.str id) ↔ g.groupOf k = .str group := by
  simp only [Crosses, isPresent_str, hc, groupOfDependency_str, hg, true_and, Bool.not_eq_true]
  exact Value.differs_str_iff

/-- No dependency names an id that is missing. -/
def IsClosed (g : Graph) : Prop := ∀ e ∈ g.allDependencies, g.isPresent e.2 = true

instance (g : Graph) : Decidable g.IsClosed :=
  inferInstanceAs (Decidable (∀ e ∈ g.allDependencies, g.isPresent e.2 = true))

theorem isClosed_iff : g.IsClosed ↔
    ∀ k r, (k, r) ∈ g.resources.entries → ∀ dep ∈ r.dependsOn, g.isPresent dep = true :=
  @forall_allDependencies_iff g fun _ dep => g.isPresent dep = true

end Graph

end ResolverHooks
