import ResolverHooks.Pipeline.Compute
import ResolverHooks.Proofs.Naming.LogicalId

/-!
What an id tells about the fragments that it is made of. They are digested as one text, in which a
separator stands between them and a mark in place of an absent one. The text can be read back as
long as no fragment has the separator in it or is the mark, but nothing keeps fragments from that.
-/
namespace ResolverHooks

theorem ResourceKind.name_inj {k k' : ResourceKind} : k.name = k'.name ↔ k = k' := by
  cases k <;> cases k' <;> decide

namespace LogicalId

variable {k k' : ResourceKind} {fs fs' : List (Option String)}

/-- Fragments as the text that is digested behind the kind. -/
def joined (fragments : List (Option String)) : String :=
  "\x1f".intercalate (fragments.map fun f => f.getD "\x00")

/-- The readable part of an id. -/
def stems (fragments : List (Option String)) : String :=
  String.join (fragments.map fun f => stem (f.getD ""))

/-- No fragment has the separator in it, and none is the mark of an absent one. -/
def IsPlain (fragments : List (Option String)) : Prop :=
  ∀ f ∈ fragments, ∀ text ∈ f, '\x1f' ∉ text.toList ∧ text ≠ "\x00"

instance (fragments : List (Option String)) : Decidable (IsPlain fragments) :=
  inferInstanceAs (Decidable (∀ f ∈ fragments, ∀ text ∈ f, '\x1f' ∉ text.toList ∧ text ≠ "\x00"))

/-- The digest tells two texts apart, if they differ. -/
def Apart (m n : String) : Prop := fingerprint m = fingerprint n → m = n

/-- A fragment, by how it stands in the text that is digested. -/
def fragmentOf (field : List Char) : Option String :=
  if field = ['\x00'] then none else some (String.ofList field)

/-- Reads fragments back from the text that they are joined to. -/
def fragmentsOf (text : String) : List (Option String) :=
  (text.toList.splitOn '\x1f').map fragmentOf

theorem fragmentsOf_joined (hne : fs ≠ []) (h : IsPlain fs) : fragmentsOf (joined fs) = fs := by
  let field (f : Option String) : List Char := (f.getD "\x00").toList
  have hjoined : (joined fs).toList = ['\x1f'].intercalate (fs.map field) := by
    simp [joined, field, Function.comp_def]
  have hsep : ∀ cs ∈ fs.map field, '\x1f' ∉ cs := by
    intro cs hcs
    obtain ⟨f, hf, rfl⟩ := List.mem_map.mp hcs
    cases f with
    | none => decide
    | some text => exact (h _ hf text rfl).1
  have hback : ∀ f ∈ fs, (fragmentOf ∘ field) f = id f := by
    intro f hf
    cases f with
    | none => rfl
    | some text =>
      have hmark : text.toList ≠ ['\x00'] :=
        fun heq => (h _ hf text rfl).2 (String.toList_inj.mp heq)
      simp [fragmentOf, field, hmark]
  calc fragmentsOf (joined fs)
      = (fs.map field).map fragmentOf := by
        rw [fragmentsOf, hjoined, List.splitOn_intercalate '\x1f' hsep (by simpa using hne)]
    _ = fs.map id := by rw [List.map_map, List.map_congr_left hback]
    _ = fs := List.map_id fs

/-- Plain fragments can be told from what they are joined to. -/
theorem joined_inj (hlen : fs.length = fs'.length) (h : IsPlain fs) (h' : IsPlain fs') :
    joined fs = joined fs' ↔ fs = fs' := by
  refine ⟨fun heq => ?_, congrArg joined⟩
  cases fs with
  | nil => exact (List.length_eq_zero_iff.mp hlen.symm).symm
  | cons f fs =>
    have hne : fs' ≠ [] := List.ne_nil_of_length_eq_add_one hlen.symm
    rw [← fragmentsOf_joined (List.cons_ne_nil f fs) h, heq, fragmentsOf_joined hne h']

theorem toList_material (k : ResourceKind) (f : Option String) (fs : List (Option String)) :
    (material k (f :: fs)).toList = k.name.toList ++ '\x1f' :: (joined (f :: fs)).toList := by
  simp [material, joined]

/-- No name of a kind has the separator in it. -/
theorem takeWhile_name (k : ResourceKind) (rest : List Char) :
    (k.name.toList ++ '\x1f' :: rest).takeWhile (· != '\x1f') = k.name.toList := by
  have hname : k.name.toList.all (· != '\x1f') = true := by
    cases k <;> decide
  rw [List.takeWhile_append_of_pos (List.all_eq_true.mp hname)]
  simp

theorem material_eq_iff (hlen : fs.length = fs'.length) :
    material k fs = material k' fs' ↔ k = k' ∧ joined fs = joined fs' := by
  cases fs with
  | nil =>
    obtain rfl : fs' = [] := List.length_eq_zero_iff.mp hlen.symm
    simp [material, ResourceKind.name_inj]
  | cons f fs =>
    obtain ⟨f', fs', rfl⟩ := List.exists_cons_of_length_eq_add_one hlen.symm
    constructor
    · intro h
      have hl := congrArg String.toList h
      rw [toList_material, toList_material] at hl
      have hname := congrArg (List.takeWhile (· != '\x1f')) hl
      rw [takeWhile_name, takeWhile_name] at hname
      rw [hname, List.append_cancel_left_eq, List.cons.injEq] at hl
      exact ⟨ResourceKind.name_inj.mp (String.toList_inj.mp hname), String.toList_inj.mp hl.2⟩
    · rintro ⟨rfl, hj⟩
      apply String.toList_inj.mp
      rw [toList_material, toList_material, hj]

/-- Ids of one kind have their stems in the same place. -/
theorem stems_eq_of_canonical_eq (h : canonical k fs = canonical k fs') : stems fs = stems fs' := by
  have hbody := (body_eq_of_canonicalWith_eq isDigest_fingerprint h).1
  rw [body, body, List.append_cancel_right_eq, List.append_cancel_left_eq] at hbody
  exact String.toList_inj.mp hbody

/-- All that an id takes of the fragments is how they are joined, and their stems. -/
theorem canonical_congr (k : ResourceKind) (hlen : fs.length = fs'.length)
    (hj : joined fs = joined fs') (hs : stems fs = stems fs') :
    canonical k fs = canonical k fs' := by
  have hm : material k fs = material k fs' := (material_eq_iff hlen).mpr ⟨rfl, hj⟩
  rw [stems, stems] at hs
  rw [canonical, canonical, canonicalWith, canonicalWith, hm, hs]

/-- Ids are the same if and only if kinds, joined fragments and stems are. -/
theorem canonical_eq_iff (hlen : fs.length = fs'.length)
    (hd : Apart (material k fs) (material k' fs')) :
    canonical k fs = canonical k' fs' ↔ k = k' ∧ joined fs = joined fs' ∧ stems fs = stems fs' := by
  constructor
  · intro h
    have hdigest := (body_eq_of_canonicalWith_eq isDigest_fingerprint h).2
    obtain ⟨rfl, hj⟩ := (material_eq_iff hlen).mp (hd hdigest)
    exact ⟨rfl, hj, stems_eq_of_canonical_eq h⟩
  · rintro ⟨rfl, hj, hs⟩
    exact canonical_congr k hlen hj hs

/-- Plain fragments can be told from the id, and so can the kind. -/
theorem canonical_inj (hlen : fs.length = fs'.length) (h : IsPlain fs) (h' : IsPlain fs')
    (hd : Apart (material k fs) (material k' fs')) :
    canonical k fs = canonical k' fs' ↔ k = k' ∧ fs = fs' := by
  rw [canonical_eq_iff hlen hd, joined_inj hlen h h']
  constructor
  · rintro ⟨hk, hfs, _⟩
    exact ⟨hk, hfs⟩
  · rintro ⟨hk, rfl⟩
    exact ⟨hk, rfl, rfl⟩

end LogicalId

namespace Identity

open LogicalId

variable {i i' : Identity} {withEnvironment : Bool}

/-- What the ids and the role name of a function are made of. -/
def fragments (i : Identity) : List (Option String) := [some i.name, i.region]

theorem length_fragments (i i' : Identity) : i.fragments.length = i'.fragments.length := rfl

theorem fragments_inj : i.fragments = i'.fragments ↔ i = i' := by
  cases i
  cases i'
  simp [fragments]

/-- The text that the digest in the role name is taken of. -/
def material (i : Identity) : String := LogicalId.material .role i.fragments

theorem toList_roleName (i : Identity) (withEnvironment : Bool) :
    (LogicalId.roleName i.name i.region withEnvironment).toList =
      (stems i.fragments).toList.take (roleNameLimit withEnvironment) ++
        ((fingerprint i.material).toList ++ "LambdaRole".toList) := by
  simp [LogicalId.roleName, roleNameWith, stems, fragments, material, String.join_cons]

/-- Role names are the same if and only if joined fragments are, and stems as far as they are
kept. -/
theorem roleName_eq_iff (hd : Apart i.material i'.material) :
    LogicalId.roleName i.name i.region withEnvironment =
        LogicalId.roleName i'.name i'.region withEnvironment ↔
      joined i.fragments = joined i'.fragments ∧
        (stems i.fragments).toList.take (roleNameLimit withEnvironment) =
          (stems i'.fragments).toList.take (roleNameLimit withEnvironment) := by
  rw [← String.toList_inj, toList_roleName, toList_roleName]
  have hmaterial : i.material = i'.material ↔ joined i.fragments = joined i'.fragments := by
    rw [material, material, material_eq_iff (length_fragments i i')]
    simp
  have hlength : ∀ i : Identity,
      ((fingerprint i.material).toList ++ "LambdaRole".toList).length = 18 := by
    intro i
    rw [List.length_append, (isDigest_fingerprint _).length_eq]
    rfl
  constructor
  · intro h
    obtain ⟨hstems, hdigest⟩ := List.append_inj' h (by rw [hlength, hlength])
    rw [List.append_cancel_right_eq] at hdigest
    exact ⟨hmaterial.mp (hd (String.toList_inj.mp hdigest)), hstems⟩
  · rintro ⟨hj, hstems⟩
    rw [hstems, hmaterial.mpr hj]

/-- Functions with plain names can be told from their role names. -/
theorem roleName_inj (h : IsPlain i.fragments) (h' : IsPlain i'.fragments)
    (hd : Apart i.material i'.material) :
    LogicalId.roleName i.name i.region withEnvironment =
      LogicalId.roleName i'.name i'.region withEnvironment ↔ i = i' := by
  rw [roleName_eq_iff hd, joined_inj (length_fragments i i') h h', fragments_inj]
  constructor
  · rintro ⟨hi, _⟩
    exact hi
  · rintro rfl
    exact ⟨rfl, rfl⟩

end Identity

namespace LogicalId

variable {k k' : ResourceKind} {fs fs' : List (Option String)} {i i' : Identity}

/-- Which kinds and fragments, and which functions, have one id or one role name: those that are
joined to one text, with stems that run together in the same way; among plain ones none but the
same. -/
theorem canonical_identifies (hlen : fs.length = fs'.length)
    (hd : Apart (material k fs) (material k' fs')) (hd' : Apart i.material i'.material)
    (withEnvironment : Bool) :
    (canonical k fs = canonical k' fs' ↔
      k = k' ∧ joined fs = joined fs' ∧ stems fs = stems fs') ∧
    (IsPlain fs → IsPlain fs' → (canonical k fs = canonical k' fs' ↔ k = k' ∧ fs = fs')) ∧
    (roleName i.name i.region withEnvironment = roleName i'.name i'.region withEnvironment ↔
      joined i.fragments = joined i'.fragments ∧
        (stems i.fragments).toList.take (roleNameLimit withEnvironment) =
          (stems i'.fragments).toList.take (roleNameLimit withEnvironment)) ∧
    (IsPlain i.fragments → IsPlain i'.fragments →
      (roleName i.name i.region withEnvironment = roleName i'.name i'.region withEnvironment ↔
        i = i')) :=
  ⟨canonical_eq_iff hlen hd, fun h h' => canonical_inj hlen h h' hd, Identity.roleName_eq_iff hd',
    fun h h' => Identity.roleName_inj h h' hd'⟩

theorem canonical_identifies_audit :
    let i := Identity.ofNames "audit" none
    let i' := Identity.ofNames "audit" (some "eu-west-1")
    Apart i.material i'.material ∧ i.roleId ≠ i'.roleId ∧
      roleName i.name i.region true ≠ roleName i'.name i'.region true := by
  intro i i'
  have hd : Apart i.material i'.material := by
    intro h
    revert h
    decide +kernel
  have hplain : IsPlain i.fragments := by decide
  have hplain' : IsPlain i'.fragments := by decide
  have hne : i ≠ i' := by decide
  obtain ⟨_, hid, _, hname⟩ :=
    @canonical_identifies .role .role i.fragments i'.fragments i i' rfl hd hd true
  exact ⟨hd, fun h => hne (Identity.fragments_inj.mp ((hid hplain hplain').mp h).2),
    fun h => hne ((hname hplain hplain').mp h)⟩

/-- A region that is the mark of an absent one, and a separator that a name ends or a region starts
with: functions that differ share role, data source, role name and steps. -/
theorem canonical_shared :
    let i := Identity.ofNames "audit" none
    let marked := Identity.ofNames "audit" (some "\x00")
    let j := Identity.ofNames "audit\x1f" (some "west")
    let shifted := Identity.ofNames "audit" (some "\x1fwest")
    (i ≠ marked ∧ i.material = marked.material ∧ i.roleId = marked.roleId ∧
      i.dataSourceId = marked.dataSourceId ∧
      hookStep "before" "Todo" i.name i.region =
        hookStep "before" "Todo" marked.name marked.region ∧
      roleName i.name i.region true = roleName marked.name marked.region true) ∧
    (j ≠ shifted ∧ j.material = shifted.material ∧ j.roleId = shifted.roleId ∧
      j.dataSourceId = shifted.dataSourceId ∧
      roleName j.name j.region true = roleName shifted.name shifted.region true) := by
  intro i marked j shifted
  have hmarked : i.material = marked.material := by decide
  have hshifted : j.material = shifted.material := by decide
  refine ⟨⟨by decide, hmarked, ?_, ?_, ?_, ?_⟩, by decide, hshifted, ?_, ?_, ?_⟩
  · exact canonical_congr .role rfl (by decide) (by decide)
  · exact canonical_congr .dataSource rfl (by decide) (by decide)
  · exact canonical_congr .hookStep rfl (by decide) (by decide)
  · exact (Identity.roleName_eq_iff fun _ => hmarked).mpr (by decide)
  · exact canonical_congr .role rfl (by decide) (by decide)
  · exact canonical_congr .dataSource rfl (by decide) (by decide)
  · exact (Identity.roleName_eq_iff fun _ => hshifted).mpr (by decide)

end LogicalId

end ResolverHooks
