import ResolverHooks.Proofs.Text.FileReader
import ResolverHooks.Proofs.Yaml.Construction

/-!
Reading the file of a JSON text. The text comes out of the portions as it was written, and with it
the value, with texts for its doubles without a point; a long key makes the file unreadable as YAML.
-/
namespace ResolverHooks.Yaml

open Text (FileReader IsPlainAscii)

variable {cs rest : List Char} {v : Value}

namespace Stream

theorem portion_pos : 0 < portion := by
  rw [portion]
  omega

/-- The portions of plain text make up the text. -/
theorem load_eq {r : FileReader} (h : r.Leaves rest)
    (hallowed : ∀ c ∈ r.ready ++ rest, isAllowed c = true)
    {fuel : Nat} (hfuel : (r.ready ++ rest).length < fuel) (text : List Char) :
    load fuel text r = ⟨text ++ (r.ready ++ rest), none⟩ := by
  induction fuel generalizing r rest text with
  | zero => cases hfuel
  | succ fuel ih =>
    obtain ⟨cs, r', more, hread, hleaves, hsame, hend⟩ := h.read? portion_pos
    rw [load, hread]
    cases cs with
    | nil => simp [hend rfl]
    | cons c cs =>
      rw [hsame] at hallowed hfuel ⊢
      have hall : (c :: cs).all isAllowed = true :=
        List.all_eq_true.mpr fun x hx => hallowed x (List.mem_append_left _ hx)
      simp only [List.isEmpty_cons, Bool.false_eq_true, if_false, hall, if_true]
      rw [ih hleaves (fun x hx => hallowed x (List.mem_append_right _ hx)) (by
        simp only [List.length_append, List.length_cons] at hfuel ⊢
        omega)]
      simp

theorem ofBytes_encode (hplain : ∀ c ∈ cs, IsPlainAscii c)
    (hallowed : ∀ c ∈ cs, isAllowed c = true) :
    ofBytes (Text.encode (String.ofList cs)) = ⟨cs, none⟩ := by
  rw [Text.encode_ofList hplain]
  obtain ⟨first, r₁, more₁, hread₁, hleaves₁, hsame₁, _⟩ :=
    (FileReader.Leaves.start hplain).read? portion_pos
  obtain ⟨second, r₂, more₂, hread₂, hleaves₂, hsame₂, _⟩ := hleaves₁.read? portion_pos
  have hsame : cs = (first ++ second) ++ (r₂.ready ++ more₂) := by
    rw [List.append_assoc, ← hsame₂, ← hsame₁]
    rfl
  have hall : (first ++ second).all isAllowed = true :=
    List.all_eq_true.mpr fun c hc => hallowed c (hsame ▸ List.mem_append_left _ hc)
  have hload : load ((Text.asciiBytes cs).length + 1) (first ++ second) r₂ =
      ⟨(first ++ second) ++ (r₂.ready ++ more₂), none⟩ := by
    refine load_eq hleaves₂ (fun c hc => hallowed c (hsame ▸ List.mem_append_right _ hc)) ?_ _
    have hlen := congrArg List.length hsame
    rw [List.length_append] at hlen
    rw [Text.asciiBytes, List.length_map]
    omega
  unfold ofBytes
  simp only [hread₁, hread₂, hall, if_true, hload]
  rw [← hsame]

end Stream

/-- The characters of a JSON text may stand in a YAML file, and stand for themselves there. -/
theorem isAllowed_of_isTextual {c : Char} (h : Json.IsTextual c) :
    IsPlainAscii c ∧ isAllowed c = true := by
  rcases h with rfl | ⟨hlow, hhigh⟩
  · exact ⟨⟨by decide, by decide⟩, by decide⟩
  · refine ⟨⟨Nat.lt_of_le_of_lt hhigh (by decide), ?_⟩, ?_⟩
    · rintro rfl
      exact absurd hlow (by decide)
    · simp [isAllowed, hlow, hhigh]

/-- What is read from the file of a collection's JSON text. -/
theorem read_encode (hv : v.IsJson) (hs : v.scalar? = none) (hc : Json.chars 0 v = .ok cs) :
    read (Text.encode (String.ofList cs)) =
      if v.hasShortKeys then .ok v.reread else .error .malformed := by
  have htextual := Json.isTextual_chars hv hc
  rw [read, Stream.ofBytes_encode (fun c hc => (isAllowed_of_isTextual (htextual c hc)).1)
    fun c hc => (isAllowed_of_isTextual (htextual c hc)).2]
  cases hshort : v.hasShortKeys with
  | true => exact value_of_hasShortKeys hv hs hc hshort
  | false => exact value_of_longKey hv hs hc hshort

end ResolverHooks.Yaml
