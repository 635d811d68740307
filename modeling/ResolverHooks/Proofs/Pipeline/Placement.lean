import ResolverHooks.Proofs.Pipeline.Provision

/-!
Where compiling an entity places its resources. What its hook steps need is placed where an id is
free, and depends only on compute resources of its own group; what its operations build is placed
anew in the group of the entity.
-/
namespace ResolverHooks

/-- The ids that a stage needs, each with the group that it is placed in if it is free. -/
def Directive.Needs (d : Directive) (s : Settings) (entity group : String) (stage : Stage)
    (id placed : String) : Prop :=
  (id = d.identity.roleId ∨ id = d.identity.dataSourceId) ∧ placed = s.stackName ∨
    id = (d.hookStep entity stage).id ∧ placed = group

/-- The ids at which compiling an entity places a resource, each with its group. -/
inductive Entity.Places (e : Entity) (s : Settings) (g : Graph) : String → String → Prop where
  | provided {stage : Stage} {id placed : String} : stage ∈ e.directive.stages →
      e.directive.Needs s e.name (s.groupOr e.stack) stage id placed →
      g.contains (.str id) = false → e.Places s g id placed
  | rebuilt {t : Target} {id : String} :
      t ∈ e.targets → id ∈ t.rebuilt → e.Places s g id (s.groupOr e.stack)

namespace Directive

variable {d : Directive} {s : Settings} {g : Graph} {entity group id placed placed' : String}
  {stage stage' : Stage} {r : Resource}

theorem mem_provided_of_needs (h : d.Needs s entity group stage id placed) :
    id ∈ d.provided entity stage := by
  rw [mem_provided]
  rcases h with ⟨h | h, _⟩ | ⟨h, _⟩
  · exact Or.inl h
  · exact Or.inr (Or.inl h)
  · exact Or.inr (Or.inr h)

theorem needs_of_mem_provided (s : Settings) (group : String) (h : id ∈ d.provided entity stage) :
    ∃ placed, d.Needs s entity group stage id placed := by
  rcases mem_provided.mp h with h | h | h
  · exact ⟨_, Or.inl ⟨Or.inl h, rfl⟩⟩
  · exact ⟨_, Or.inl ⟨Or.inr h, rfl⟩⟩
  · exact ⟨_, Or.inr ⟨h, rfl⟩⟩

/-- Stages that need one id place it in one group. -/
theorem Needs.unique (h : d.Needs s entity group stage id placed)
    (h' : d.Needs s entity group stage' id placed') : placed = placed' := by
  rcases h with ⟨hi, rfl⟩ | ⟨rfl, rfl⟩
  · rcases h' with ⟨_, rfl⟩ | ⟨rfl, _⟩
    · rfl
    · exact absurd rfl (Identity.ne_hookStep_id hi _)
  · rcases h' with ⟨hi, _⟩ | ⟨_, rfl⟩
    · exact absurd rfl (Identity.ne_hookStep_id hi _)
    · rfl

theorem Makes.needs (h : d.Makes s g entity group stage id placed r) :
    d.Needs s entity group stage id placed := by
  cases h with
  | role => exact Or.inl ⟨Or.inl rfl, rfl⟩
  | dataSource => exact Or.inl ⟨Or.inr rfl, rfl⟩
  | hookStep => exact Or.inr ⟨rfl, rfl⟩

/-- What a stage makes depends only on compute resources of the group where it is placed. -/
theorem Makes.inside (h : d.Makes s g entity group stage id placed r) :
    ∀ dep ∈ r.dependsOn, ∃ x, dep = .str x ∧
      (x = d.identity.roleId ∨ x = d.identity.dataSourceId) ∧ g.sharedGroup s x = .str placed := by
  intro dep hdep
  cases h with
  | role => cases hdep
  | dataSource =>
    rcases Resource.mem_recorded hdep with hdep | hdep
    · cases hdep
    · obtain ⟨rfl, hg⟩ := Graph.mem_linkShared.mp hdep
      exact ⟨_, rfl, Or.inl rfl, hg⟩
  | hookStep =>
    rcases Resource.mem_recorded hdep with hdep | hdep
    · cases hdep
    · obtain ⟨rfl, hg⟩ := Graph.mem_linkShared.mp hdep
      exact ⟨_, rfl, Or.inr rfl, hg⟩

end Directive

namespace Compilation

variable {s : Settings} {a a' : Arena} {e : Entity} {ts us : List Target} {t : Target}
  {stage : Stage} {id placed : String}

section

variable (h : Performs s (e.jobs s) a a')

include h

theorem performs_singleton : Performs s ([e].flatMap (Entity.jobs s)) a a' := by simpa using h

theorem footprint_jobs : Footprint (.ofExtent [e] e.targets) a a' := by
  simpa using footprint_plan (performs_singleton h)

/-- What the hook steps of an entity need is there in the end as one of its stages has made it, if
it was not there before. -/
theorem exists_makes_of_needs (hm : stage ∈ e.directive.stages)
    (hn : e.directive.Needs s e.name (s.groupOr e.stack) stage id placed)
    (hfree : a.graph.contains (.str id) = false) :
    ∃ stage' r, e.directive.Makes s a.graph e.name (s.groupOr e.stack) stage' id placed r ∧
      a'.graph.find? (.str id) = some r ∧ a'.graph.groupOf (.str id) = .str placed := by
  have hid : id ∈ (Change.ofExtent [e] ([e].flatMap Entity.targets)).provided :=
    Change.mem_provided_ofExtent.mpr
      ⟨e, List.mem_singleton_self e, stage, hm, Directive.mem_provided_of_needs hn⟩
  obtain ⟨e', he', stage', _, placed', r, hmakes, hr, hgroup⟩ :=
    (reaches_plan (performs_singleton h)).exists_makes hid hfree
  obtain rfl := List.mem_singleton.mp he'
  obtain rfl := hn.unique hmakes.needs
  exact ⟨stage', r, hmakes, hr, hgroup⟩

end

/-- The turn of an operation, where there is only one entity. -/
theorem turn_singleton (hts : e.targets = ts ++ t :: us) : Turn [e] e t ts us := by
  have hturn : Turn [e] e t _ _ := @Turn.mk [e] e t [] [] ts us rfl hts
  simpa using hturn

/-- Every id at which compiling an entity places a resource is in its group in the end. -/
theorem groupOf_places (h : Performs s (e.jobs s) a a') (hp : e.Places s a.graph id placed) :
    a'.graph.contains (.str id) = true ∧ a'.graph.groupOf (.str id) = .str placed := by
  cases hp with
  | provided hm hn hfree =>
    obtain ⟨_, r, _, hr, hgroup⟩ := exists_makes_of_needs h hm hn hfree
    exact ⟨Graph.contains_iff.mpr ⟨r, hr⟩, hgroup⟩
  | rebuilt ht hid =>
    obtain ⟨before, t, after, hts, hid', hlast⟩ := exists_last_rebuilt ⟨_, ht, hid⟩
    rcases Target.mem_rebuilt.mp hid' with rfl | rfl
    · obtain ⟨_, _, _, _, _, _, _, _, _, _, hr, hgroup⟩ :=
        exists_wrapStep (performs_singleton h) (turn_singleton hts) hlast
      exact ⟨Graph.contains_iff.mpr ⟨_, hr⟩, hgroup⟩
    · obtain ⟨hr, hgroup⟩ := find?_pipeline (performs_singleton h) (turn_singleton hts) hlast
      exact ⟨Graph.contains_iff.mpr ⟨_, hr⟩, hgroup⟩

end Compilation

end ResolverHooks
