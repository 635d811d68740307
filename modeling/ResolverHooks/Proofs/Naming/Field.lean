import Mathlib.Data.List.Nodup
import ResolverHooks.Hook.Entity
import ResolverHooks.Proofs.Naming.LogicalId
import ResolverHooks.Proofs.Naming.Plural

/-!
Fields by their names. The word in front tells the operation, so that the fields of two entities can
only meet where the plurals of their lists do.
-/
namespace ResolverHooks

namespace Target

variable {o o' : Operation} {x y : String}

theorem head?_fieldNameFor (o : Operation) (entity : String) :
    (fieldNameFor o entity).toList.head? = o.word.toList.head? := by
  cases o with
  | list =>
    simp only [fieldNameFor, Plural.of, Operation.word, String.toList_ofList, String.toList_append]
    exact Plural.head?_chars 'l' 'i' _
  | _ => simp [fieldNameFor, Operation.word]

theorem operation_of_fieldNameFor_eq (h : fieldNameFor o x = fieldNameFor o' y) : o = o' := by
  have hh : o.word.toList.head? = o'.word.toList.head? := by
    rw [← head?_fieldNameFor o x, h, head?_fieldNameFor]
  revert hh
  cases o <;> cases o' <;> decide

/-- Fields meet where entities do, and where the plurals of two lists do. -/
theorem fieldNameFor_eq_iff : fieldNameFor o x = fieldNameFor o' y ↔
    o = o' ∧ (x = y ∨ o = .list ∧ Plural.of ("list" ++ x) = Plural.of ("list" ++ y)) := by
  constructor
  · intro h
    obtain rfl := operation_of_fieldNameFor_eq h
    refine ⟨rfl, ?_⟩
    cases o with
    | list => exact Or.inr ⟨rfl, h⟩
    | _ =>
      have hl := congrArg String.toList h
      simp only [fieldNameFor, String.toList_append, List.append_cancel_left_eq] at hl
      exact Or.inl (String.toList_inj.mp hl)
  · rintro ⟨rfl, rfl | ⟨rfl, hplural⟩⟩
    · rfl
    · exact hplural

/-- Where the fields of two entities meet, the fields of their lists do. -/
theorem fieldNameFor_list_eq (h : fieldNameFor o x = fieldNameFor o' y) :
    fieldNameFor .list x = fieldNameFor .list y := by
  obtain ⟨_, rfl | ⟨_, hplural⟩⟩ := fieldNameFor_eq_iff.mp h
  · rfl
  · exact hplural

/-- The resolver of an operation tells the operation by its first letter, and the entity behind
that. -/
theorem resolverIdFor_inj : resolverIdFor o x = resolverIdFor o' y ↔ o = o' ∧ x = y := by
  constructor
  · intro h
    have hl := congrArg String.toList h
    simp only [resolverIdFor, String.toList_append, List.append_cancel_right_eq] at hl
    have hne : ∀ o : Operation, o.title.toList ≠ [] := by
      intro o
      cases o <;> decide
    have hh := congrArg List.head? hl
    rw [List.head?_append_of_ne_nil _ (hne o), List.head?_append_of_ne_nil _ (hne o')] at hh
    obtain rfl : o = o' := by
      revert hh
      cases o <;> cases o' <;> decide
    rw [List.append_cancel_left_eq] at hl
    exact ⟨rfl, String.toList_inj.mp hl⟩
  · rintro ⟨rfl, rfl⟩
    rfl

/-- The field that an operation belongs to. -/
def field (t : Target) : String × String := (t.typeName, t.fieldName)

/-- The root type adds nothing to what the name of a field tells. -/
theorem field_forOperation_eq_iff : (forOperation x [] o).field = (forOperation y [] o').field ↔
    fieldNameFor o x = fieldNameFor o' y := by
  refine ⟨fun h => (Prod.mk.inj h).2, fun h => Prod.ext ?_ h⟩
  exact congrArg Operation.rootType (operation_of_fieldNameFor_eq h)

theorem nodup_fields_allFor (entity : String) : ((allFor entity []).map field).Nodup := by
  rw [allFor, List.map_map]
  apply List.Nodup.map_on _ (by decide)
  intro o _ o' _ heq
  exact operation_of_fieldNameFor_eq (field_forOperation_eq_iff.mp heq)

/-- Targets are kept apart: a resolver belongs to one operation on one entity, and without overrides
a field does as well, but for entities whose lists have the same plural. -/
theorem targets_apart :
    (∀ o o' x y, resolverIdFor o x = resolverIdFor o' y ↔ o = o' ∧ x = y) ∧
    (∀ o o' x y, (forOperation x [] o).field = (forOperation y [] o').field ↔
      o = o' ∧ (x = y ∨ o = .list ∧ Plural.of ("list" ++ x) = Plural.of ("list" ++ y))) ∧
    ∀ x, ((allFor x []).map field).Nodup := by
  refine ⟨fun o o' x y => resolverIdFor_inj, fun o o' x y => ?_, nodup_fields_allFor⟩
  rw [field_forOperation_eq_iff, fieldNameFor_eq_iff]

end Target

namespace Entity

/-- The field that lists an entity. -/
def listField (e : Entity) : String := Target.fieldNameFor .list e.name

variable {e e' : Entity} {es : List Entity}

theorem targets_of_no_overrides (h : e.fieldNames = []) :
    e.targets.map Target.field =
      Operation.all.map fun o => (o.rootType, Target.fieldNameFor o e.name) := by
  rw [targets, h, Target.allFor, List.map_map]
  rfl

theorem nodup_fields (h : e.fieldNames = []) : (e.targets.map Target.field).Nodup := by
  rw [targets, h]
  exact Target.nodup_fields_allFor e.name

/-- Two entities have a field in common only if it lists both. -/
theorem disjoint_fields_iff (h : e.fieldNames = []) (h' : e'.fieldNames = []) :
    (e.targets.map Target.field).Disjoint (e'.targets.map Target.field) ↔
      e.listField ≠ e'.listField := by
  rw [targets_of_no_overrides h, targets_of_no_overrides h']
  constructor
  · intro hd heq
    exact hd (List.mem_map_of_mem (Operation.mem_all .list))
      (List.mem_map.mpr ⟨.list, Operation.mem_all _, by rw [← listField, ← heq]; rfl⟩)
  · intro hne f hf hf'
    obtain ⟨o, _, rfl⟩ := List.mem_map.mp hf
    obtain ⟨o', _, heq⟩ := List.mem_map.mp hf'
    exact hne (Target.fieldNameFor_list_eq (Prod.mk.inj heq).2.symm)

theorem nodup_fields_iff (h : ∀ e ∈ es, e.fieldNames = []) :
    ((es.flatMap targets).map Target.field).Nodup ↔ (es.map listField).Nodup := by
  have hmap : (es.map listField).Nodup ↔ es.Pairwise fun e e' => e.listField ≠ e'.listField :=
    List.pairwise_map
  rw [List.map_flatMap, List.nodup_flatMap, hmap]
  constructor
  · rintro ⟨_, hp⟩
    exact hp.imp_of_mem fun he he' hd => (disjoint_fields_iff (h _ he) (h _ he')).mp hd
  · intro hp
    exact ⟨fun e he => nodup_fields (h e he),
      hp.imp_of_mem fun he he' hne => (disjoint_fields_iff (h _ he) (h _ he')).mpr hne⟩

theorem mem_targets_iff {t : Target} :
    t ∈ e.targets ↔ ∃ o, t = Target.forOperation e.name e.fieldNames o := by
  simp [targets, Target.allFor, Operation.mem_all, eq_comm]

theorem resolverIds_targets (e : Entity) :
    e.targets.map Target.resolverId = Operation.all.map fun o => Target.resolverIdFor o e.name := by
  rw [targets, Target.allFor, List.map_map]
  rfl

theorem nodup_resolverIds_targets (e : Entity) : (e.targets.map Target.resolverId).Nodup := by
  rw [resolverIds_targets]
  exact List.Nodup.map_on (fun o _ o' _ h => (Target.resolverIdFor_inj.mp h).1) (by decide)

/-- Entities share a resolver only if they have one name, and then they share all of them. -/
theorem nodup_resolverIds_iff :
    ((es.flatMap targets).map Target.resolverId).Nodup ↔ (es.map name).Nodup := by
  have hdisjoint : ∀ e e' : Entity, (e.targets.map Target.resolverId).Disjoint
      (e'.targets.map Target.resolverId) ↔ e.name ≠ e'.name := by
    intro e e'
    rw [resolverIds_targets, resolverIds_targets]
    constructor
    · intro hd heq
      exact hd (List.mem_map_of_mem (Operation.mem_all .create))
        (List.mem_map.mpr ⟨.create, Operation.mem_all _, by rw [heq]⟩)
    · intro hne id hid hid'
      obtain ⟨o, _, rfl⟩ := List.mem_map.mp hid
      obtain ⟨o', _, heq⟩ := List.mem_map.mp hid'
      exact hne (Target.resolverIdFor_inj.mp heq).2.symm
  have hmap : (es.map name).Nodup ↔ es.Pairwise fun e e' => e.name ≠ e'.name := List.pairwise_map
  rw [List.map_flatMap, List.nodup_flatMap, hmap]
  constructor
  · rintro ⟨_, hp⟩
    exact hp.imp fun hd => (hdisjoint _ _).mp hd
  · intro hp
    exact ⟨fun e _ => nodup_resolverIds_targets e, hp.imp fun hne => (hdisjoint _ _).mpr hne⟩

end Entity

namespace LogicalId

/-- The material of a field can be read back, because root types are told apart by their first
letter. -/
theorem field_of_material_eq {k : ResourceKind} {o o' : Operation} {f f' : String}
    (h : material k [some o.rootType, some f] = material k [some o'.rootType, some f']) :
    (o.rootType, f) = (o'.rootType, f') := by
  have hm : ∀ (o : Operation) (f : String), (material k [some o.rootType, some f]).toList =
      k.name.toList ++ ('\x1f' :: (o.rootType.toList ++ '\x1f' :: f.toList)) := by
    intro o f
    simp [material, String.intercalate_cons_cons]
  have hl := congrArg String.toList h
  rw [hm, hm, List.append_cancel_left_eq, List.cons.injEq] at hl
  have hr : o.rootType.toList.head? = o'.rootType.toList.head? → o.rootType = o'.rootType := by
    cases o <;> cases o' <;> decide
  have hroot : o.rootType = o'.rootType := by
    apply hr
    have hne : ∀ o : Operation, o.rootType.toList ≠ [] := by
      intro o
      cases o <;> decide
    have hh := congrArg List.head? hl.2
    rwa [List.head?_append_of_ne_nil _ (hne o), List.head?_append_of_ne_nil _ (hne o')] at hh
  rw [hroot, List.append_cancel_left_eq, List.cons.injEq] at hl
  rw [hroot, String.toList_inj.mp hl.2.2]

end LogicalId

end ResolverHooks
