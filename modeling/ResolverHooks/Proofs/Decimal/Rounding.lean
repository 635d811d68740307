import Mathlib.Algebra.Order.Field.Basic
import Mathlib.Algebra.Order.Field.Rat
import Mathlib.Data.Nat.Log
import Mathlib.Tactic.FieldSimp
import Mathlib.Tactic.Linarith
import Mathlib.Tactic.Positivity
import Mathlib.Tactic.Ring
import ResolverHooks.Decimal.Shortest

/-!
What rounds to a double. The rationals that a double covers lie within half a step of its
significand, and a quotient that it covers is rounded to it; below the first double of an exponent
the step is half as large.
-/
namespace ResolverHooks.Double

variable {d : Double} {v : ℚ} {num den m : Nat} {q : Int}

/-- What one more in the significand is worth. -/
def step (d : Double) : ℚ := 2 ^ d.exponent

/-- A finite double without its sign. -/
def size (d : Double) : ℚ := d.significand * d.step

theorem step_pos (d : Double) : 0 < d.step := zpow_pos (by norm_num) _

/-- The first double of an exponent: what lies below it is denser. -/
def IsFirst (d : Double) : Prop := d.fractionField = 0 ∧ 1 < d.exponentField

instance : Decidable d.IsFirst := inferInstanceAs (Decidable (_ ∧ _))

/-- How far below a double the rationals round to it. -/
def lowerGap (d : Double) : ℚ := if d.IsFirst then d.step / 4 else d.step / 2

/-- The rationals that a double stands for: the ends belong to it if its significand is even. -/
structure Covers (d : Double) (v : ℚ) : Prop where
  low : d.size - d.lowerGap ≤ v
  high : v ≤ d.size + d.step / 2
  odd : d.significand % 2 = 1 → d.size - d.lowerGap < v ∧ v < d.size + d.step / 2

/-! The fields of a double. -/

theorem fractionField_lt (d : Double) : d.fractionField < 2 ^ 52 := Nat.mod_lt _ (by norm_num)

theorem significand_lt (d : Double) : d.significand < 2 ^ 53 := by
  have h := d.fractionField_lt
  rw [significand]
  split <;> norm_num at * <;> omega

theorem leastExponent_le (d : Double) : -1074 ≤ d.exponent := by
  rw [exponent, leastExponent]
  split <;> omega

/-- Only at the least exponent may a significand be small. -/
theorem exponent_eq_or (d : Double) : d.exponent = -1074 ∨ 2 ^ 52 ≤ d.significand := by
  rw [exponent, significand, leastExponent]
  split
  · exact Or.inl rfl
  · right
    norm_num

theorem isFirst_of_significand (hs : d.significand = 2 ^ 52) (hx : -1074 < d.exponent) :
    d.IsFirst := by
  have hf := d.fractionField_lt
  rw [significand] at hs
  rw [exponent, leastExponent] at hx
  split at hs
  · omega
  · rename_i he
    rw [if_neg he] at hx
    constructor
    · norm_num at hs
      exact hs
    · omega

/-- The lower sixty-three bits, by significand and exponent. -/
theorem bits_mod (d : Double) :
    d.bits.toNat % Nat.pow 2 63 =
      d.significand + (d.exponent - leastExponent).toNat * Nat.pow 2 52 := by
  have hlt := d.bits.toNat_lt
  rw [significand, exponent, leastExponent, exponentField, fractionField]
  norm_num at *
  split <;> omega

theorem bits_lt_of_isFinite (h : d.isFinite = true) :
    d.significand + (d.exponent - leastExponent).toNat * Nat.pow 2 52 < 2047 * Nat.pow 2 52 := by
  rw [← bits_mod]
  have hne : d.exponentField ≠ 2047 := by simpa [isFinite] using h
  have hlt := d.bits.toNat_lt
  rw [exponentField] at hne
  norm_num at *
  omega

theorem ofFields_bits (d : Double) : ofFields d.sign (d.bits.toNat % Nat.pow 2 63) = d := by
  have hlt := d.bits.toNat_lt
  have hbits : (if d.sign then Nat.pow 2 63 else 0) + d.bits.toNat % Nat.pow 2 63 =
      d.bits.toNat := by
    rw [sign]
    norm_num at *
    split <;> omega
  rw [ofFields, hbits, UInt64.ofNat_toNat]

/-! Rounding a quotient. -/

/-- An integer within one half is the nearest one; on the half, an even one is taken. -/
theorem roundHalfEven_eq (hden : 0 < den) (hlow : (m : ℚ) - 1 / 2 ≤ num / den)
    (hhigh : (num : ℚ) / den ≤ m + 1 / 2)
    (hodd : m % 2 = 1 → (m : ℚ) - 1 / 2 < num / den ∧ (num : ℚ) / den < m + 1 / 2) :
    roundHalfEven num den = m := by
  have hdenq : (0 : ℚ) < den := by exact_mod_cast hden
  have hlow' : 2 * (m * den) ≤ 2 * num + den := by
    rw [le_div_iff₀ hdenq] at hlow
    have : (2 * (m * den) : ℚ) ≤ 2 * num + den := by linarith
    exact_mod_cast this
  have hhigh' : 2 * num ≤ 2 * (m * den) + den := by
    rw [div_le_iff₀ hdenq] at hhigh
    have : (2 * num : ℚ) ≤ 2 * (m * den) + den := by linarith
    exact_mod_cast this
  have hodd' : m % 2 = 1 → 2 * (m * den) < 2 * num + den ∧ 2 * num < 2 * (m * den) + den := by
    intro hm
    obtain ⟨hl, hh⟩ := hodd hm
    rw [lt_div_iff₀ hdenq] at hl
    rw [div_lt_iff₀ hdenq] at hh
    have h₁ : (2 * (m * den) : ℚ) < 2 * num + den := by linarith
    have h₂ : (2 * num : ℚ) < 2 * (m * den) + den := by linarith
    exact ⟨by exact_mod_cast h₁, by exact_mod_cast h₂⟩
  have hdiv : den * (num / den) + num % den = num := Nat.div_add_mod num den
  have hrest : num % den < den := Nat.mod_lt _ hden
  rw [roundHalfEven]
  generalize num / den = k at *
  generalize num % den = r at *
  have hk : k = m ∨ k + 1 = m := by
    have hle : k < m + 1 := by
      by_contra hc
      have := Nat.mul_le_mul_left den (Nat.le_of_not_lt hc)
      nlinarith
    have hge : m < k + 2 := by
      by_contra hc
      have := Nat.mul_le_mul_left den (Nat.le_of_not_lt hc)
      nlinarith
    omega
  rcases hk with rfl | rfl
  · rw [Nat.mul_comm den k] at hdiv
    rw [if_pos]
    rcases Nat.mod_two_eq_zero_or_one k with hk | hk
    · omega
    · have := (hodd' hk).2
      omega
  · have hmul : (k + 1) * den = den * k + den := by ring
    rw [hmul] at hlow' hhigh' hodd'
    rw [if_neg]
    rintro (hr | ⟨hr, hk⟩)
    · omega
    · have := (hodd' (by omega)).1
      omega

/-- The quotient at a scale, as it is rounded. -/
def roundAt (num den : Nat) : Int → Nat
  | .ofNat e => roundHalfEven num (den * Nat.pow 2 e)
  | .negSucc e => roundHalfEven (num * Nat.pow 2 (e + 1)) den

theorem roundAt_eq (hden : 0 < den) (hlow : ((m : ℚ) - 1 / 2) * 2 ^ q ≤ num / den)
    (hhigh : (num : ℚ) / den ≤ (m + 1 / 2) * 2 ^ q)
    (hodd : m % 2 = 1 → ((m : ℚ) - 1 / 2) * 2 ^ q < num / den ∧
      (num : ℚ) / den < (m + 1 / 2) * 2 ^ q) :
    roundAt num den q = m := by
  have hq : (0 : ℚ) < 2 ^ q := zpow_pos (by norm_num) q
  rw [← le_div_iff₀ hq] at hlow
  rw [← div_le_iff₀ hq] at hhigh
  rw [← lt_div_iff₀ hq, ← div_lt_iff₀ hq] at hodd
  cases q with
  | ofNat e =>
    have hscale : (num : ℚ) / den / 2 ^ (Int.ofNat e) = num / (den * Nat.pow 2 e : Nat) := by
      rw [Int.ofNat_eq_natCast, zpow_natCast, div_div, Nat.pow_eq]
      push_cast
      rfl
    rw [hscale] at hlow hhigh hodd
    exact roundHalfEven_eq (Nat.mul_pos hden (Nat.pow_pos (by norm_num))) hlow hhigh hodd
  | negSucc e =>
    have hscale : (num : ℚ) / den / 2 ^ (Int.negSucc e) =
        (num * Nat.pow 2 (e + 1) : Nat) / den := by
      rw [zpow_negSucc, div_inv_eq_mul, div_mul_eq_mul_div, Nat.pow_eq]
      push_cast
      rfl
    rw [hscale] at hlow hhigh hodd
    exact roundHalfEven_eq hden hlow hhigh hodd

/-- The scale of a quotient: the significand fills fifty-three bits, or the exponent is the
least. -/
structure IsScale (q : Int) (v : ℚ) : Prop where
  least : -1074 ≤ q
  below : v < 2 ^ 53 * 2 ^ q
  above : q = -1074 ∨ 2 ^ 52 * 2 ^ q ≤ v

theorem cast_log2_le (h : 0 < num) : (2 : ℚ) ^ (Nat.log2 num : Int) ≤ num := by
  rw [zpow_natCast]
  exact_mod_cast Nat.log2_self_le (by omega)

theorem lt_cast_log2 (num : Nat) : (num : ℚ) < 2 ^ ((Nat.log2 num : Int) + 1) := by
  have h : (num : ℚ) < 2 ^ (Nat.log2 num + 1) := by exact_mod_cast Nat.lt_log2_self
  exact_mod_cast h

/-- A quotient lies within a factor of two of the quotient of the powers. -/
theorem between_powers (hnum : 0 < num) (hden : 0 < den) :
    2 ^ ((Nat.log2 num : Int) - Nat.log2 den - 1) < (num : ℚ) / den ∧
      (num : ℚ) / den < 2 ^ ((Nat.log2 num : Int) - Nat.log2 den + 1) := by
  have hdenq : (0 : ℚ) < den := by exact_mod_cast hden
  have h2 : (2 : ℚ) ≠ 0 := by norm_num
  have hpow : ∀ k : Int, (0 : ℚ) < 2 ^ k := fun k => zpow_pos (by norm_num) k
  constructor
  · rw [lt_div_iff₀ hdenq]
    calc (2 : ℚ) ^ ((Nat.log2 num : Int) - Nat.log2 den - 1) * den
        < 2 ^ ((Nat.log2 num : Int) - Nat.log2 den - 1) * 2 ^ ((Nat.log2 den : Int) + 1) :=
          mul_lt_mul_of_pos_left (lt_cast_log2 den) (hpow _)
      _ = 2 ^ (Nat.log2 num : Int) := by
          rw [← zpow_add₀ h2]
          congr 1
          omega
      _ ≤ num := cast_log2_le hnum
  · rw [div_lt_iff₀ hdenq]
    calc (num : ℚ) < 2 ^ ((Nat.log2 num : Int) + 1) := lt_cast_log2 num
      _ = 2 ^ ((Nat.log2 num : Int) - Nat.log2 den + 1) * 2 ^ (Nat.log2 den : Int) := by
          rw [← zpow_add₀ h2]
          congr 1
          omega
      _ ≤ 2 ^ ((Nat.log2 num : Int) - Nat.log2 den + 1) * den :=
          mul_le_mul_of_nonneg_left (cast_log2_le hden) (hpow _).le

/-- Whether a quotient has a significand below `2 ^ 53` at a scale. -/
def fitsAt (num den : Nat) : Int → Bool
  | .ofNat e => num < Nat.pow 2 53 * (den * Nat.pow 2 e)
  | .negSucc e => num * Nat.pow 2 (e + 1) < Nat.pow 2 53 * den

theorem fitsAt_iff (hden : 0 < den) :
    fitsAt num den q = true ↔ (num : ℚ) / den < 2 ^ 53 * 2 ^ q := by
  have hdenq : (0 : ℚ) < den := by exact_mod_cast hden
  cases q with
  | ofNat e =>
    rw [fitsAt, decide_eq_true_iff, Int.ofNat_eq_natCast, zpow_natCast, div_lt_iff₀ hdenq,
      ← Nat.cast_lt (α := ℚ), mul_assoc, mul_comm _ (den : ℚ), Nat.pow_eq, Nat.pow_eq]
    push_cast
    rfl
  | negSucc e =>
    have he : (0 : ℚ) < 2 ^ (e + 1) := by positivity
    rw [fitsAt, decide_eq_true_iff, zpow_negSucc, div_lt_iff₀ hdenq, ← Nat.cast_lt (α := ℚ),
      mul_right_comm, ← div_eq_mul_inv, lt_div_iff₀ he, Nat.pow_eq, Nat.pow_eq]
    push_cast
    rfl

theorem isScale_scaleOf (hnum : 0 < num) (hden : 0 < den) :
    IsScale (scaleOf num den) (num / den : ℚ) := by
  obtain ⟨hlow, hhigh⟩ := between_powers hnum hden
  have h2 : (1 : ℚ) < 2 := by norm_num
  have hadd : ∀ (n : Nat) (k : Int), (2 : ℚ) ^ n * 2 ^ k = 2 ^ ((n : Int) + k) := fun n k => by
    rw [zpow_add₀ (by norm_num), zpow_natCast]
  have heq : scaleOf num den =
      let low := max ((Nat.log2 num : Int) - Nat.log2 den - 53) (-1074)
      if fitsAt num den low then low else low + 1 := by
    rw [scaleOf, leastExponent]
    rfl
  rw [heq]
  generalize (Nat.log2 num : Int) - Nat.log2 den = k at *
  by_cases hfits : fitsAt num den (max (k - 53) (-1074)) = true
  · simp only [hfits, if_true]
    refine ⟨by omega, (fitsAt_iff hden).mp hfits, ?_⟩
    rcases le_total (k - 53) (-1074) with hk | hk
    · left
      omega
    · right
      rw [max_eq_left hk, hadd]
      refine le_trans ?_ hlow.le
      exact (zpow_le_zpow_iff_right₀ h2).mpr (by push_cast; omega)
  · simp only [hfits]
    -- At the least exponent every quotient below the powers fits.
    have hk : -1074 ≤ k - 53 := by
      by_contra hk
      refine hfits ((fitsAt_iff hden).mpr (hhigh.trans_le ?_))
      rw [hadd]
      exact (zpow_le_zpow_iff_right₀ h2).mpr (by push_cast; omega)
    rw [max_eq_left hk] at hfits ⊢
    have hbelow : 2 ^ 53 * 2 ^ (k - 53) ≤ (num : ℚ) / den := not_lt.mp fun h =>
      hfits ((fitsAt_iff hden).mpr h)
    rw [hadd] at hbelow
    refine ⟨by simp; omega, ?_, Or.inr ?_⟩
    · rw [hadd]
      refine hhigh.trans_le ((zpow_le_zpow_iff_right₀ h2).mpr ?_)
      simp
      omega
    · rw [hadd]
      refine le_trans ((zpow_le_zpow_iff_right₀ h2).mpr ?_) hbelow
      simp
      omega

theorem ofFraction_eq (negative : Bool) (num den : Nat) :
    ofFraction negative num den =
      (let q := scaleOf num den
       let rest := roundAt num den q + (q - leastExponent).toNat * Nat.pow 2 52
       if rest < 2047 * Nat.pow 2 52 then ofFields negative rest else infinity negative) := by
  rw [ofFraction]
  cases scaleOf num den <;> rfl

theorem lowerGap_le (d : Double) : d.lowerGap ≤ d.step / 2 := by
  have := d.step_pos
  rw [lowerGap]
  split <;> linarith

/-- The scale of what a double covers is its exponent, or one less in the denser part below the
first double of an exponent. -/
theorem scale_of_covers (h : d.Covers v) (hq : IsScale q v) :
    q = d.exponent ∨ (q = d.exponent - 1 ∧ d.significand = 2 ^ 52 ∧ d.IsFirst) := by
  have hstep : d.step = 2 ^ d.exponent := rfl
  have hpos := d.step_pos
  have h2 : (1 : ℚ) < 2 := by norm_num
  have hs : (d.significand : ℚ) ≤ 2 ^ 53 - 1 := by
    have : d.significand + 1 ≤ 2 ^ 53 := d.significand_lt
    have : ((d.significand + 1 : Nat) : ℚ) ≤ (2 ^ 53 : Nat) := by exact_mod_cast this
    push_cast at this
    linarith
  have hhigh := h.high
  have hlow := h.low
  rw [size] at hhigh hlow
  rcases lt_trichotomy q d.exponent with hlt | heq | hgt
  · -- The quotient lies below the least significand of the exponent.
    right
    have hmono : (2 : ℚ) ^ q ≤ d.step / 2 := by
      have : (2 : ℚ) ^ q ≤ 2 ^ (d.exponent - 1) := (zpow_le_zpow_iff_right₀ h2).mpr (by omega)
      rwa [zpow_sub_one₀ (by norm_num), ← hstep, ← div_eq_mul_inv] at this
    have hbelow := hq.below
    have hgap := d.lowerGap_le
    have hx : -1074 < d.exponent := lt_of_le_of_lt hq.least hlt
    have hs' : d.significand = 2 ^ 52 := by
      have hge : 2 ^ 52 ≤ d.significand := d.exponent_eq_or.resolve_left (by omega)
      refine le_antisymm ?_ hge
      by_contra hc
      have hc : ((2 ^ 52 + 1 : Nat) : ℚ) ≤ d.significand := by exact_mod_cast not_le.mp hc
      push_cast at hc
      nlinarith
    have hfirst := isFirst_of_significand hs' hx
    refine ⟨?_, hs', hfirst⟩
    rw [lowerGap, if_pos hfirst, hs'] at hlow
    by_contra hne
    have hmono : (2 : ℚ) ^ q ≤ d.step / 4 := by
      have : (2 : ℚ) ^ q ≤ 2 ^ (d.exponent - 2) := (zpow_le_zpow_iff_right₀ h2).mpr (by omega)
      rw [zpow_sub₀ (by norm_num), ← hstep] at this
      norm_num at this
      exact this
    push_cast at hlow
    linarith
  · exact Or.inl heq
  · -- A larger scale would need a larger significand.
    exfalso
    have hmono : 2 * d.step ≤ (2 : ℚ) ^ q := by
      have : (2 : ℚ) ^ (d.exponent + 1) ≤ 2 ^ q := (zpow_le_zpow_iff_right₀ h2).mpr (by omega)
      rwa [zpow_add_one₀ (by norm_num), ← hstep, mul_comm] at this
    have hx := d.leastExponent_le
    have habove := hq.above.resolve_left (by omega)
    nlinarith

/-- What a double covers is rounded to it. -/
theorem ofFraction_of_covers (negative : Bool) (hfin : d.isFinite = true) (hnum : 0 < num)
    (hden : 0 < den)
    (h : d.Covers (num / den)) :
    ofFraction negative num den = ofFields negative (d.bits.toNat % Nat.pow 2 63) := by
  have hq := isScale_scaleOf hnum hden
  have hrest : roundAt num den (scaleOf num den) +
      (scaleOf num den - leastExponent).toNat * Nat.pow 2 52 =
      d.significand + (d.exponent - leastExponent).toNat * Nat.pow 2 52 := by
    rcases scale_of_covers h hq with heq | ⟨heq, hs, hfirst⟩
    · have hround : roundAt num den (scaleOf num den) = d.significand := by
        have hstep : d.step = 2 ^ (scaleOf num den) := by rw [heq, step]
        have hgap := d.lowerGap_le
        have hlow := h.low
        have hhigh := h.high
        rw [size] at hlow hhigh
        rw [hstep] at hgap hlow hhigh
        refine roundAt_eq hden (by linarith) (by linarith) fun hodd => ?_
        obtain ⟨hl, hh⟩ := h.odd hodd
        rw [size, hstep] at hl hh
        constructor <;> linarith
      rw [hround, heq]
    · -- Rounding up to `2 ^ 53` carries into the exponent.
      have hround : roundAt num den (scaleOf num den) = 2 ^ 53 := by
        have hstep : d.step = 2 * 2 ^ (scaleOf num den) := by
          rw [heq, step, zpow_sub_one₀ (by norm_num)]
          field_simp
        have hlow := h.low
        have hbelow := hq.below
        have hpos : (0 : ℚ) < 2 ^ (scaleOf num den) := zpow_pos (by norm_num) _
        rw [size, lowerGap, if_pos hfirst, hs, hstep] at hlow
        push_cast at hlow
        refine roundAt_eq hden ?_ ?_ ?_
        · push_cast
          linarith
        · push_cast
          linarith
        · norm_num
      have hx : -1074 ≤ d.exponent - 1 := heq ▸ hq.least
      rw [hround, hs, heq, leastExponent]
      norm_num
      omega
  rw [ofFraction_eq]
  simp only [hrest]
  rw [if_pos (bits_lt_of_isFinite hfin), ← bits_mod]

end ResolverHooks.Double
