import ResolverHooks.Naming.LogicalId
import ResolverHooks.Naming.Target

/-!
Ids by their shape. An id is a stem, the ending of its kind and a digest of fixed length, so that
kinds are kept apart by their endings and a resolver of the storage layer by its last letter,
whatever the digest is.
-/
namespace ResolverHooks

open LogicalId

/-- Digits as a digest has them: of base sixteen, letters in upper case. -/
def isDigestDigit (c : Char) : Bool := "0123456789ABCDEF".toList.contains c

/-- Eight such digits. -/
structure IsDigest (text : String) : Prop where
  length_eq : text.toList.length = 8
  digits : ∀ c ∈ text.toList, isDigestDigit c = true

theorem isDigestDigit_upperDigit {n : Nat} (h : n < 16) :
    isDigestDigit (Text.upperDigit n) = true := by
  have hall : ∀ m ∈ List.range 16, isDigestDigit (Text.upperDigit m) = true := by decide
  exact hall n (List.mem_range.mpr h)

theorem isDigestDigit_of_mem_fixedHex {width n : Nat} {c : Char}
    (h : c ∈ Text.fixedHex Text.upperDigit width n) : isDigestDigit c = true := by
  induction width generalizing n with
  | zero => simp [Text.fixedHex] at h
  | succ width ih =>
    rcases List.mem_append.mp h with h | h
    · exact ih h
    · rw [List.mem_singleton.mp h]
      exact isDigestDigit_upperDigit (Nat.mod_lt _ (by omega))

theorem isDigest_fingerprint (text : String) : IsDigest (fingerprint text) where
  length_eq := by simp [fingerprint]
  digits c hc := by
    rw [fingerprint, String.toList_ofList] at hc
    exact isDigestDigit_of_mem_fixedHex hc

section

variable {digest : String → String} (hd : ∀ text, IsDigest (digest text))
  {k k' : ResourceKind} {fs fs' : List (Option String)}

/-- An id without its digest. -/
def LogicalId.body (k : ResourceKind) (fs : List (Option String)) : List Char :=
  k.opening.toList ++ (String.join (fs.map fun f => stem (f.getD ""))).toList ++ k.ending.toList

theorem toList_canonicalWith (digest : String → String) (k : ResourceKind)
    (fs : List (Option String)) :
    (canonicalWith digest k fs).toList = body k fs ++ (digest (material k fs)).toList := by
  simp [canonicalWith, body]

include hd in
/-- Equal ids have equal bodies and equal digests. -/
theorem body_eq_of_canonicalWith_eq (h : canonicalWith digest k fs = canonicalWith digest k' fs') :
    body k fs = body k' fs' ∧ digest (material k fs) = digest (material k' fs') := by
  have hl : (canonicalWith digest k fs).toList = (canonicalWith digest k' fs').toList := by rw [h]
  rw [toList_canonicalWith, toList_canonicalWith] at hl
  obtain ⟨hb, hdig⟩ := List.append_inj' hl (by rw [(hd _).length_eq, (hd _).length_eq])
  exact ⟨hb, String.toList_inj.mp hdig⟩

/-- Only the endings of hook steps and wrap steps do not tell their kinds apart. -/
theorem kind_of_ending_suffix (h : k.ending.toList <:+ k'.ending.toList) :
    k = k' ∨ k = .wrapStep ∧ k' = .hookStep := by
  revert h
  cases k <;> cases k' <;> decide

theorem ending_suffix_body (k : ResourceKind) (fs : List (Option String)) :
    k.ending.toList <:+ body k fs := List.suffix_append _ _

include hd in
theorem kind_of_canonicalWith_eq (h : canonicalWith digest k fs = canonicalWith digest k' fs') :
    k = k' ∨ k = .wrapStep ∧ k' = .hookStep ∨ k = .hookStep ∧ k' = .wrapStep := by
  have hb := (body_eq_of_canonicalWith_eq hd h).1
  have hs := ending_suffix_body k fs
  rw [hb] at hs
  rcases List.suffix_or_suffix_of_suffix hs (ending_suffix_body k' fs') with he | he
  · rcases kind_of_ending_suffix he with he | he
    · exact Or.inl he
    · exact Or.inr (Or.inl he)
  · rcases kind_of_ending_suffix he with he | ⟨he, he'⟩
    · exact Or.inl he.symm
    · exact Or.inr (Or.inr ⟨he', he⟩)

/-- The stem of a root type starts with another letter than the opening of a hook step does. -/
theorem head?_body_wrapStep (o : Operation) (fieldName : String) :
    (body .wrapStep [some o.rootType, some fieldName]).head? ≠ some 'I' := by
  have hstem : ∀ o : Operation, (stem o.rootType).toList.head? ≠ none ∧
      (stem o.rootType).toList.head? ≠ some 'I' := by
    intro o
    cases o <;> decide
  obtain ⟨hnone, hI⟩ := hstem o
  cases hs : (stem o.rootType).toList with
  | nil => simp [hs] at hnone
  | cons c cs => simpa [hs, body, ResourceKind.opening, String.join_cons] using hI

theorem head?_body_hookStep (fs : List (Option String)) :
    (body .hookStep fs).head? = some 'I' := by
  simp [body, ResourceKind.opening]

include hd in
/-- A hook step is no wrap step of a root type. -/
theorem hookStep_ne_wrapStep (o : Operation) (fieldName : String) :
    canonicalWith digest .hookStep fs ≠
      canonicalWith digest .wrapStep [some o.rootType, some fieldName] := by
  intro h
  apply head?_body_wrapStep o fieldName
  rw [← (body_eq_of_canonicalWith_eq hd h).1, head?_body_hookStep]

include hd in
/-- Behind the opening, the stems of two stages start with different letters. -/
theorem hookStep_ne_of_stage (fs fs' : List (Option String)) :
    canonicalWith digest .hookStep (some "before" :: fs) ≠
      canonicalWith digest .hookStep (some "after" :: fs') := by
  intro h
  have hb := congrArg (fun cs => (cs.drop 6).head?) (body_eq_of_canonicalWith_eq hd h).1
  have hbefore : (stem "before").toList = "Before".toList := by decide
  have hafter : (stem "after").toList = "After".toList := by decide
  simp [body, ResourceKind.opening, String.join_cons, hbefore, hafter] at hb

/-- A resolver of the storage layer ends in a letter that is no digit. -/
theorem getLast?_resolverIdFor (o : Operation) (entity : String) :
    (Target.resolverIdFor o entity).toList.getLast? = some 'r' := by
  simp [Target.resolverIdFor]

include hd in
/-- No compiled resource has the id of a resolver of the storage layer. -/
theorem canonicalWith_ne_resolverIdFor (o : Operation) (entity : String) :
    canonicalWith digest k fs ≠ Target.resolverIdFor o entity := by
  intro h
  have hlast := getLast?_resolverIdFor o entity
  rw [← h, toList_canonicalWith, List.getLast?_append] at hlast
  have hdig := hd (material k fs)
  cases hl : (digest (material k fs)).toList.getLast? with
  | none =>
    have hlength := hdig.length_eq
    simp [List.getLast?_eq_none_iff.mp hl] at hlength
  | some c =>
    rw [hl, Option.some_or] at hlast
    have hr := hdig.digits 'r' (List.mem_of_getLast? (hl.trans hlast))
    exact absurd hr (by decide)

end

/-- A resource of a compilation is never a resolver of the storage layer. -/
theorem canonical_ne_resolverIdFor (k : ResourceKind) (fs : List (Option String)) (o : Operation)
    (entity : String) : canonical k fs ≠ Target.resolverIdFor o entity :=
  canonicalWith_ne_resolverIdFor isDigest_fingerprint o entity

/-- Kinds are told apart, but for hook steps and wrap steps. -/
theorem canonical_ne_of_kind_ne {k k' : ResourceKind} (fs fs' : List (Option String))
    (hk : k ≠ k' ∧ (k ≠ .wrapStep ∨ k' ≠ .hookStep) ∧ (k ≠ .hookStep ∨ k' ≠ .wrapStep)) :
    canonical k fs ≠ canonical k' fs' := by
  obtain ⟨hne, hwh, hhw⟩ := hk
  intro heq
  rcases kind_of_canonicalWith_eq isDigest_fingerprint heq with rfl | ⟨rfl, rfl⟩ | ⟨rfl, rfl⟩
  · exact hne rfl
  · exact hwh.elim (fun h => h rfl) fun h => h rfl
  · exact hhw.elim (fun h => h rfl) fun h => h rfl

end ResolverHooks
