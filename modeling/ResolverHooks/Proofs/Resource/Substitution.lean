import Mathlib.Data.List.Basic
import ResolverHooks.Resource.Intrinsic

/-!
Texts with placeholders. A placeholder is a dollar sign, an opening brace and everything up to the
next closing brace. Two texts joined have the placeholders of both, unless the first one leaves one
open.
-/
namespace ResolverHooks

/-- A text with placeholders, and the values bound inside it. -/
structure Substitution where
  template : String
  bindings : List (Scalar × Value)

namespace Substitution

def value (e : Substitution) : Value := Intrinsic.sub (.str e.template) e.bindings

/-- What stands in the placeholders of a text. -/
def placeholders : List Char → List (List Char)
  | [] => []
  | c :: rest =>
    if c = '$' ∧ rest.head? = some '\x7b' ∧ '\x7d' ∈ rest then
      rest.tail.takeWhile (· != '\x7d') :: placeholders rest
    else placeholders rest

/-- The name of a parameter that every deployment has: letters behind the common prefix. -/
def IsPseudo (x : List Char) : Prop :=
  Intrinsic.isPseudoParameter (String.ofList x) = true ∧ ∀ c ∈ x.drop 5, c.isAlpha = true

instance : DecidablePred IsPseudo := fun x =>
  have : Decidable (∀ c ∈ x.drop 5, c.isAlpha = true) := List.decidableBAll _ _
  inferInstanceAs
    (Decidable (Intrinsic.isPseudoParameter (String.ofList x) = true ∧
      ∀ c ∈ x.drop 5, c.isAlpha = true))

/-- All placeholders can be filled: every deployment has a value for them, or one is bound. -/
def IsClosed (e : Substitution) : Prop :=
  ∀ x ∈ placeholders e.template.toList, IsPseudo x ∨ ∃ b ∈ e.bindings, b.1 = .str (String.ofList x)

instance (e : Substitution) : Decidable e.IsClosed := inferInstanceAs
  (Decidable (∀ x ∈ placeholders e.template.toList,
    IsPseudo x ∨ ∃ b ∈ e.bindings, b.1 = .str (String.ofList x)))

variable {cs ds x : List Char}

/-- A placeholder as it stands in a text. -/
def spelled (x : List Char) : List Char := '$' :: '\x7b' :: (x ++ ['\x7d'])

theorem takeWhile_closing (hx : '\x7d' ∉ x) (tail : List Char) :
    (x ++ '\x7d' :: tail).takeWhile (· != '\x7d') = x := by
  have hall : ∀ c ∈ x, (c != '\x7d') = true :=
    fun c hc => bne_iff_ne.mpr (ne_of_mem_of_not_mem hc hx)
  rw [List.takeWhile_append_of_pos hall]
  simp

theorem takeWhile_tail_append (hhead : cs.head? = some '\x7b') (hmem : '\x7d' ∈ cs) :
    (cs ++ ds).tail.takeWhile (· != '\x7d') = cs.tail.takeWhile (· != '\x7d') := by
  cases cs with
  | nil => cases hhead
  | cons b cs =>
    obtain rfl : b = '\x7b' := Option.some.inj hhead
    obtain ⟨y, tail, rfl, hy⟩ := List.eq_append_cons_of_mem (by simpa using hmem : '\x7d' ∈ cs)
    rw [List.cons_append, List.tail_cons, List.tail_cons, List.append_assoc, List.cons_append,
      takeWhile_closing hy, takeWhile_closing hy]

theorem spelled_prefix_iff {c : Char} (hx : '\x7d' ∉ x) : spelled x <+: c :: cs ↔
    (c = '$' ∧ cs.head? = some '\x7b' ∧ '\x7d' ∈ cs) ∧ cs.tail.takeWhile (· != '\x7d') = x := by
  constructor
  · rintro ⟨tail, h⟩
    simp only [spelled, List.cons_append, List.append_assoc, List.cons.injEq, List.nil_append] at h
    obtain ⟨rfl, rfl⟩ := h
    exact ⟨⟨rfl, rfl, by simp⟩, takeWhile_closing hx tail⟩
  · rintro ⟨⟨rfl, hhead, hmem⟩, rfl⟩
    cases cs with
    | nil => cases hhead
    | cons b cs =>
      obtain rfl : b = '\x7b' := Option.some.inj hhead
      obtain ⟨y, tail, rfl, hy⟩ := List.eq_append_cons_of_mem (by simpa using hmem : '\x7d' ∈ cs)
      rw [List.tail_cons, takeWhile_closing hy]
      exact ⟨tail, by simp [spelled]⟩

theorem mem_placeholders_iff : x ∈ placeholders cs ↔ '\x7d' ∉ x ∧ spelled x <:+: cs := by
  induction cs with
  | nil => simp [placeholders, spelled]
  | cons c cs ih =>
    have hfree : '\x7d' ∉ cs.tail.takeWhile (· != '\x7d') := by
      intro h
      simpa using List.all_eq_true.mp List.all_takeWhile _ h
    rw [List.infix_cons_iff, placeholders]
    constructor
    · intro h
      split at h
      · rename_i hopen
        rcases List.mem_cons.mp h with rfl | h
        · exact ⟨hfree, Or.inl ((spelled_prefix_iff hfree).mpr ⟨hopen, rfl⟩)⟩
        · exact ⟨(ih.mp h).1, Or.inr (ih.mp h).2⟩
      · exact ⟨(ih.mp h).1, Or.inr (ih.mp h).2⟩
    · rintro ⟨hx, h | h⟩
      · obtain ⟨hopen, rfl⟩ := (spelled_prefix_iff hx).mp h
        rw [if_pos hopen]
        exact List.mem_cons_self
      · split
        · exact List.mem_cons_of_mem _ (ih.mpr ⟨hx, h⟩)
        · exact ih.mpr ⟨hx, h⟩

theorem placeholders_mono (h : cs <:+: ds) (hx : x ∈ placeholders cs) : x ∈ placeholders ds := by
  obtain ⟨hfree, hin⟩ := mem_placeholders_iff.mp hx
  exact mem_placeholders_iff.mpr ⟨hfree, hin.trans h⟩

/-- How a placeholder opens. -/
def opening : List Char := ['$', '\x7b']

theorem takeWhile_mem_placeholders (h : '\x7d' ∈ cs) :
    cs.takeWhile (· != '\x7d') ∈ placeholders (opening ++ cs) := by
  rw [opening, List.cons_append, placeholders, if_pos ⟨rfl, rfl, List.mem_cons_of_mem _ h⟩]
  exact List.mem_cons_self

/-- No opening without a closing brace behind it. -/
def IsComplete : List Char → Prop
  | [] => True
  | c :: rest => (c = '$' → rest.head? = some '\x7b' → '\x7d' ∈ rest) ∧ IsComplete rest

instance decidableIsComplete : DecidablePred IsComplete
  | [] => inferInstanceAs (Decidable True)
  | c :: rest =>
    have := decidableIsComplete rest
    inferInstanceAs
      (Decidable ((c = '$' → rest.head? = some '\x7b' → '\x7d' ∈ rest) ∧ IsComplete rest))

/-- A closing brace further on completes whatever stands before it. -/
theorem IsComplete.append_of_mem (cs : List Char) (h : IsComplete ds) (hmem : '\x7d' ∈ ds) :
    IsComplete (cs ++ ds) := by
  induction cs with
  | nil => exact h
  | cons c cs ih => exact ⟨fun _ _ => List.mem_append_right cs hmem, ih⟩

theorem IsComplete.placeholders_append (h : IsComplete cs)
    (hjoin : cs.getLast? = some '$' → ds.head? ≠ some '\x7b') :
    placeholders (cs ++ ds) = placeholders cs ++ placeholders ds := by
  induction cs with
  | nil => rfl
  | cons c cs ih =>
    obtain ⟨hc, hcs⟩ := h
    have hrest : cs.getLast? = some '$' → ds.head? ≠ some '\x7b' := by
      intro hlast
      apply hjoin
      rw [List.getLast?_cons, hlast]
      rfl
    have hopen : (c = '$' ∧ (cs ++ ds).head? = some '\x7b' ∧ '\x7d' ∈ cs ++ ds) ↔
        c = '$' ∧ cs.head? = some '\x7b' ∧ '\x7d' ∈ cs := by
      constructor
      · rintro ⟨hd, hhead, _⟩
        have hne : cs ≠ [] := by
          rintro rfl
          exact hjoin (congrArg some hd) hhead
        rw [List.head?_append_of_ne_nil cs hne] at hhead
        exact ⟨hd, hhead, hc hd hhead⟩
      · rintro ⟨hd, hhead, hmem⟩
        rw [List.head?_append_of_ne_nil cs (List.ne_nil_of_mem hmem)]
        exact ⟨hd, hhead, List.mem_append_left ds hmem⟩
    rw [List.cons_append, placeholders, placeholders, ih hcs hrest]
    by_cases h : c = '$' ∧ cs.head? = some '\x7b' ∧ '\x7d' ∈ cs
    · rw [if_pos (hopen.mpr h), if_pos h, List.cons_append, takeWhile_tail_append h.2.1 h.2.2]
    · rw [if_neg (fun h' => h (hopen.mp h')), if_neg h]

theorem not_isPseudo_of_mem (h : '$' ∈ x) : ¬ IsPseudo x := by
  rintro ⟨hcommon, hletters⟩
  obtain ⟨tail, rfl⟩ : "AWS::".toList <+: x := by
    simpa [Intrinsic.isPseudoParameter] using hcommon
  rcases List.mem_append.mp h with h | h
  · exact absurd h (by decide)
  · exact absurd (hletters '$' (by simpa using h)) (by decide)

end Substitution

end ResolverHooks
