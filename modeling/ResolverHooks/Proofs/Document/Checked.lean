import ResolverHooks.Document.Schema

/-! What comes of steps that may fail, one after another, and of checks side by side. -/
namespace ResolverHooks

variable {α β ε ε' : Type}

theorem error_ne_ok {e : ε} {a : α} : (.error e : Except ε α) ≠ .ok a := by
  intro h
  cases h

theorem bind_eq_ok_iff {x : Except ε α} {k : α → Except ε β} {b : β} :
    (x >>= k) = .ok b ↔ ∃ a, x = .ok a ∧ k a = .ok b := by
  cases x with
  | ok a =>
    refine ⟨fun h => ⟨a, rfl, h⟩, ?_⟩
    rintro ⟨_, ⟨⟩, h⟩
    exact h
  | error e =>
    refine iff_of_false error_ne_ok ?_
    rintro ⟨_, ⟨⟩, _⟩

theorem exists_bind_eq_ok_iff {x : Except ε α} {k : α → Except ε β} :
    (∃ b, (x >>= k) = .ok b) ↔ ∃ a, x = .ok a ∧ ∃ b, k a = .ok b := by
  simp only [bind_eq_ok_iff]
  constructor
  · rintro ⟨b, a, ha, hb⟩
    exact ⟨a, ha, b, hb⟩
  · rintro ⟨a, ha, b, hb⟩
    exact ⟨b, a, ha, hb⟩

theorem mapError_ok (told : ε → ε') (a : α) : (.ok a : Except ε α).mapError told = .ok a := rfl

theorem mapError_error (told : ε → ε') (e : ε) :
    (.error e : Except ε α).mapError told = .error (told e) := rfl

theorem mapError_eq_ok_iff {x : Except ε α} {told : ε → ε'} {a : α} :
    x.mapError told = .ok a ↔ x = .ok a := by
  cases x with
  | ok a' => rw [mapError_ok, Except.ok.injEq, Except.ok.injEq]
  | error e => exact iff_of_false error_ne_ok error_ne_ok

/-- Where each step gives a value under a condition, a list of them gives all values under all
conditions. -/
theorem mapM_eq_ok_iff {f : α → Except ε β} {F : α → β} {p : α → Prop} {xs : List α} {ys : List β}
    (h : ∀ x ∈ xs, ∀ y, f x = .ok y ↔ p x ∧ y = F x) :
    xs.mapM f = .ok ys ↔ (∀ x ∈ xs, p x) ∧ ys = xs.map F := by
  induction xs generalizing ys with
  | nil =>
    exact ⟨fun hys => ⟨List.forall_mem_nil _, (Except.ok.inj hys).symm⟩, fun hys => hys.2 ▸ rfl⟩
  | cons x xs ih =>
    have ih := @ih
    simp only [List.mapM_cons, bind_eq_ok_iff, h x List.mem_cons_self,
      ih fun y hy => h y (List.mem_cons_of_mem x hy), List.forall_mem_cons, List.map_cons]
    constructor
    · rintro ⟨_, ⟨hx, rfl⟩, _, ⟨hxs, rfl⟩, ⟨⟩⟩
      exact ⟨⟨hx, hxs⟩, rfl⟩
    · rintro ⟨⟨hx, hxs⟩, rfl⟩
      exact ⟨_, ⟨hx, rfl⟩, _, ⟨hxs, rfl⟩, rfl⟩

theorem mapM_eq_ok {f : α → Except ε β} {F : α → β} {xs : List α} (h : ∀ x ∈ xs, f x = .ok (F x)) :
    xs.mapM f = .ok (xs.map F) :=
  (mapM_eq_ok_iff (p := fun _ => True) fun x hx y => by simp [h x hx, eq_comm]).mpr
    ⟨fun _ _ => trivial, rfl⟩

namespace Checked

theorem apply_eq_ok_iff {f : Checked (α → β)} {a : Checked α} {b : β} :
    f.apply a = .ok b ↔ ∃ g x, f = .ok g ∧ a = .ok x ∧ g x = b := by
  cases f <;> cases a <;> simp [apply, both, Except.map]

theorem at_eq_ok_iff {step : Step} {c : Checked α} {a : α} : c.at_ step = .ok a ↔ c = .ok a := by
  cases c <;> simp [at_]

end Checked

end ResolverHooks
