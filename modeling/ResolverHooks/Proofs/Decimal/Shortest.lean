import Mathlib.Data.Nat.Cast.Order.Field
import ResolverHooks.Proofs.Decimal.Rounding

/-!
The shortest digits of a double are covered by it. Seventeen digits always suffice, since the grid
of seventeen digits is finer than the distance between doubles.
-/
namespace ResolverHooks

/-- The decimal `0.d₁d₂… * 10 ^ point`. -/
def Digits.value (s : Digits) : ℚ := s.number * 10 ^ (s.point - (Nat.toDigits 10 s.number).length)

namespace Double

variable {d : Double} {v : ℚ} {num den m n x y : Nat} {p : Int}

/-! The interval that rounds to a double, over its common denominator. -/

theorem magnitude_eq (d : Double) :
    0 < d.magnitude.2 ∧ (d.magnitude.1 : ℚ) / d.magnitude.2 = d.size := by
  rw [magnitude, size, step]
  cases d.exponent with
  | ofNat e =>
    refine ⟨Nat.one_pos, ?_⟩
    show ((d.significand * 2 ^ e : Nat) : ℚ) / (1 : Nat) = d.significand * 2 ^ (e : Int)
    push_cast
    rw [zpow_natCast, div_one]
  | negSucc e =>
    refine ⟨Nat.pow_pos (by norm_num), ?_⟩
    show (d.significand : ℚ) / (2 ^ (e + 1) : Nat) = d.significand * 2 ^ (Int.negSucc e)
    push_cast
    rw [zpow_negSucc, div_eq_mul_inv]

theorem rounding_den (d : Double) : d.rounding.den = 4 * d.magnitude.2 := rfl

theorem rounding_den_pos (d : Double) : 0 < d.rounding.den := by
  have := d.magnitude_eq.1
  rw [rounding_den]
  omega

theorem rounding_num (d : Double) : (d.rounding.num : ℚ) / d.rounding.den = d.size := by
  rw [← d.magnitude_eq.2, rounding_den]
  show ((4 * d.magnitude.1 : Nat) : ℚ) / _ = _
  push_cast
  rw [mul_div_mul_left _ _ (by norm_num)]

/-- A step of the significand, over the denominator of the magnitude. -/
def stepOver : Int → Nat
  | .ofNat e => Nat.pow 2 e
  | .negSucc _ => 1

theorem cast_stepOver (d : Double) : (stepOver d.exponent : ℚ) / d.magnitude.2 = d.step := by
  rw [magnitude, step]
  cases d.exponent with
  | ofNat e =>
    show ((2 ^ e : Nat) : ℚ) / (1 : Nat) = 2 ^ (e : Int)
    push_cast
    rw [zpow_natCast, div_one]
  | negSucc e =>
    show ((1 : Nat) : ℚ) / (2 ^ (e + 1) : Nat) = 2 ^ (Int.negSucc e)
    push_cast
    rw [zpow_negSucc, one_div]

theorem rounding_above (d : Double) : (d.rounding.above : ℚ) / d.rounding.den = d.step / 2 := by
  have habove : d.rounding.above = 2 * stepOver d.exponent := rfl
  rw [habove, rounding_den, ← cast_stepOver]
  push_cast
  ring

theorem rounding_below (d : Double) : (d.rounding.below : ℚ) / d.rounding.den = d.lowerGap := by
  by_cases hf : d.IsFirst
  · have hbelow : d.rounding.below = stepOver d.exponent := if_pos hf
    rw [hbelow, lowerGap, if_pos hf, ← cast_stepOver, rounding_den]
    push_cast
    ring
  · have hbelow : d.rounding.below = d.rounding.above := if_neg hf
    rw [hbelow, rounding_above, lowerGap, if_neg hf]

theorem size_pos (h : 0 < d.significand) : 0 < d.size :=
  mul_pos (by exact_mod_cast h) d.step_pos

theorem lowerGap_lt_size (h : 0 < d.significand) : d.lowerGap < d.size := by
  have hs : (1 : ℚ) ≤ d.significand := by exact_mod_cast h
  have hstep := d.step_pos
  have hgap := d.lowerGap_le
  rw [size]
  nlinarith

/-- The lower end of what the double covers, over the common denominator. -/
theorem rounding_low (h : 0 < d.significand) :
    ((d.rounding.num - d.rounding.below : Nat) : ℚ) / d.rounding.den = d.size - d.lowerGap := by
  have hden : (0 : ℚ) < d.rounding.den := by exact_mod_cast d.rounding_den_pos
  have hle : d.rounding.below ≤ d.rounding.num := by
    have hlt := lowerGap_lt_size h
    rw [← rounding_below, ← rounding_num, div_lt_div_iff_of_pos_right hden] at hlt
    exact_mod_cast hlt.le
  rw [Nat.cast_sub hle, sub_div, rounding_num, rounding_below]

/-- The upper end of what the double covers, over the common denominator. -/
theorem rounding_high (d : Double) :
    ((d.rounding.num + d.rounding.above : Nat) : ℚ) / d.rounding.den = d.size + d.step / 2 := by
  rw [Nat.cast_add, add_div, rounding_num, rounding_above]

/-- What is accepted is what the double covers. -/
theorem accepts_iff (h : 0 < d.significand) (hy : 0 < y) :
    d.rounding.accepts x y = true ↔ d.Covers (x / y) := by
  have hden : (0 : ℚ) < d.rounding.den := by exact_mod_cast d.rounding_den_pos
  have hyq : (0 : ℚ) < y := by exact_mod_cast hy
  have hll : (d.rounding.num - d.rounding.below) * y ≤ x * d.rounding.den ↔
      d.size - d.lowerGap ≤ (x / y : ℚ) := by
    rw [← rounding_low h, div_le_div_iff₀ hden hyq]
    norm_cast
  have hhl : x * d.rounding.den ≤ (d.rounding.num + d.rounding.above) * y ↔
      (x / y : ℚ) ≤ d.size + d.step / 2 := by
    rw [← rounding_high, div_le_div_iff₀ hyq hden]
    norm_cast
  have hls : (d.rounding.num - d.rounding.below) * y < x * d.rounding.den ↔
      d.size - d.lowerGap < (x / y : ℚ) := by
    rw [← rounding_low h, div_lt_div_iff₀ hden hyq]
    norm_cast
  have hhs : x * d.rounding.den < (d.rounding.num + d.rounding.above) * y ↔
      (x / y : ℚ) < d.size + d.step / 2 := by
    rw [← rounding_high, div_lt_div_iff₀ hyq hden]
    norm_cast
  have hclosed : d.rounding.closed = (d.significand % 2 == 0) := rfl
  rw [Rounding.accepts, hclosed]
  rcases Nat.mod_two_eq_zero_or_one d.significand with heven | hodd
  · simp only [heven, beq_self_eq_true, if_true, Bool.and_eq_true, decide_eq_true_eq]
    rw [hll, hhl]
    constructor
    · rintro ⟨hl, hh⟩
      exact ⟨hl, hh, fun ho => by omega⟩
    · intro hc
      exact ⟨hc.low, hc.high⟩
  · have hne : (d.significand % 2 == 0) = false := by simp [hodd]
    simp only [hne, Bool.false_eq_true, if_false, Bool.and_eq_true, decide_eq_true_eq]
    rw [hls, hhs]
    constructor
    · rintro ⟨hl, hh⟩
      exact ⟨hl.le, hh.le, fun _ => ⟨hl, hh⟩⟩
    · intro hc
      exact hc.odd hodd

/-! The place of the point. -/

/-- The number of digits, by powers of ten. -/
theorem pow_le_iff_lt_length (hn : 0 < n) (k : Nat) :
    10 ^ k ≤ n ↔ k < (Nat.toDigits 10 n).length := by
  rcases Nat.eq_zero_or_pos k with rfl | hk
  · simp [Nat.length_toDigits_pos, Nat.one_le_iff_ne_zero, hn.ne']
  · have h := Nat.length_toDigits_le_iff (b := 10) (n := n) (by norm_num) hk
    rw [← not_lt (a := n), ← h, not_le]

/-- The exponent of ten by which a number starts directly behind the point. -/
structure IsPoint (p : Int) (v : ℚ) : Prop where
  low : 10 ^ (p - 1) ≤ v
  high : v < 10 ^ p

theorem isPoint_zerosAfterPoint (hden : 0 < den) {fuel : Nat} (hlt : num < den)
    (henough : den ≤ 10 ^ (fuel + 1) * num) :
    IsPoint (-(zerosAfterPoint fuel num den : Int)) (num / den : ℚ) := by
  have hdenq : (0 : ℚ) < den := by exact_mod_cast hden
  have hone : (num : ℚ) / den < 1 := by
    rw [div_lt_one hdenq]
    exact_mod_cast hlt
  have hten : den ≤ 10 * num → IsPoint 0 (num / den : ℚ) := by
    intro h
    refine ⟨?_, by simpa using hone⟩
    rw [le_div_iff₀ hdenq]
    have : (den : ℚ) ≤ 10 * num := by exact_mod_cast h
    norm_num
    linarith
  induction fuel generalizing num with
  | zero =>
    rw [zerosAfterPoint]
    exact hten (by simpa using henough)
  | succ fuel ih =>
    rw [zerosAfterPoint]
    split
    · rename_i h
      exact hten h
    · rename_i h
      have hlt' : 10 * num < den := not_le.mp h
      have hrest := ih hlt' (by rw [pow_succ] at henough; linarith)
        (by rw [div_lt_one hdenq]; exact_mod_cast hlt') (fun hc => by
          refine ⟨?_, by rw [zpow_zero, div_lt_one hdenq]; exact_mod_cast hlt'⟩
          rw [le_div_iff₀ hdenq]
          have : (den : ℚ) ≤ 10 * (10 * num : Nat) := by exact_mod_cast hc
          norm_num at this ⊢
          linarith)
      obtain ⟨hlow, hhigh⟩ := hrest
      have hscale : ((10 * num : Nat) : ℚ) / den = num / den * 10 := by
        push_cast
        ring
      rw [hscale] at hlow hhigh
      have hsub : (-((zerosAfterPoint fuel (10 * num) den + 1 : Nat) : Int)) =
          -(zerosAfterPoint fuel (10 * num) den : Int) - 1 := by
        push_cast
        ring
      rw [hsub]
      constructor
      · rw [zpow_sub_one₀ (by norm_num), ← div_eq_mul_inv, div_le_iff₀ (by norm_num)]
        exact hlow
      · rw [zpow_sub_one₀ (by norm_num), ← div_eq_mul_inv, lt_div_iff₀ (by norm_num)]
        exact hhigh

theorem isPoint_pointOf (hden : 0 < den) (henough : den ≤ 10 ^ (400 + 1) * num) :
    IsPoint (pointOf num den) (num / den : ℚ) := by
  have hdenq : (0 : ℚ) < den := by exact_mod_cast hden
  rw [pointOf]
  split
  · rename_i hle
    have hpos : 0 < num / den := Nat.div_pos hle hden
    have hlen := Nat.length_toDigits_pos (b := 10) (n := num / den)
    have hfloor : ((num / den : Nat) : ℚ) ≤ num / den := Nat.cast_div_le
    have hceil : (num : ℚ) / den < (num / den : Nat) + 1 := by
      rw [div_lt_iff₀ hdenq]
      have h := Nat.lt_mul_div_succ num hden
      have h : (num : ℚ) < den * ((num / den : Nat) + 1) := by exact_mod_cast h
      linarith
    have hlow : 10 ^ ((Nat.toDigits 10 (num / den)).length - 1) ≤ num / den :=
      (pow_le_iff_lt_length hpos _).mpr (by omega)
    have hhigh : num / den + 1 ≤ 10 ^ (Nat.toDigits 10 (num / den)).length := by
      by_contra hc
      have := (pow_le_iff_lt_length hpos (Nat.toDigits 10 (num / den)).length).mp (by omega)
      omega
    constructor
    · have hcast : ((Nat.toDigits 10 (num / den)).length : Int) - 1 =
          ((Nat.toDigits 10 (num / den)).length - 1 : Nat) := by omega
      rw [hcast, zpow_natCast]
      refine le_trans ?_ hfloor
      exact_mod_cast hlow
    · rw [zpow_natCast]
      refine hceil.trans_le ?_
      exact_mod_cast hhigh
  · rename_i hlt
    exact isPoint_zerosAfterPoint hden (not_le.mp hlt) henough

/-! The grids of decimals with a number of digits. -/

/-- The unit of a grid as a numerator and a denominator. -/
def gridUnit : Int → Nat × Nat
  | .ofNat e => (Nat.pow 10 e, 1)
  | .negSucc e => (1, Nat.pow 10 (e + 1))

theorem gridUnit_eq (k : Int) :
    0 < (gridUnit k).1 ∧ 0 < (gridUnit k).2 ∧ ((gridUnit k).1 : ℚ) / (gridUnit k).2 = 10 ^ k := by
  cases k with
  | ofNat e =>
    refine ⟨Nat.pow_pos (by norm_num), Nat.one_pos, ?_⟩
    rw [gridUnit, Int.ofNat_eq_natCast, zpow_natCast, Nat.pow_eq]
    push_cast
    rw [div_one]
  | negSucc e =>
    refine ⟨Nat.one_pos, Nat.pow_pos (by norm_num), ?_⟩
    rw [gridUnit, zpow_negSucc, Nat.pow_eq]
    push_cast
    rw [one_div]

/-- The decimal of the grid that lies next below. -/
def gridFloor (r : Rounding) (k : Int) : Nat := r.num * (gridUnit k).2 / (r.den * (gridUnit k).1)

theorem gridFloor_le (d : Double) (k : Int) : (gridFloor d.rounding k : ℚ) * 10 ^ k ≤ d.size := by
  obtain ⟨hnum, hden, hunit⟩ := gridUnit_eq k
  have hpos : (0 : ℚ) < 10 ^ k := zpow_pos (by norm_num) k
  rw [← le_div_iff₀ hpos, ← hunit, ← rounding_num, div_div_div_eq, gridFloor]
  exact_mod_cast Nat.cast_div_le

theorem lt_gridFloor (d : Double) (k : Int) :
    d.size < ((gridFloor d.rounding k : ℚ) + 1) * 10 ^ k := by
  obtain ⟨hnum, hden, hunit⟩ := gridUnit_eq k
  have hpos : (0 : ℚ) < 10 ^ k := zpow_pos (by norm_num) k
  have hb : 0 < d.rounding.den * (gridUnit k).1 := Nat.mul_pos d.rounding_den_pos hnum
  rw [← div_lt_iff₀ hpos, ← hunit, ← rounding_num, div_div_div_eq, gridFloor]
  have h := Nat.lt_mul_div_succ (d.rounding.num * (gridUnit k).2) hb
  have hcast : ((d.rounding.num * (gridUnit k).2 : Nat) : ℚ) <
      (d.rounding.den * (gridUnit k).1 : Nat) *
        ((d.rounding.num * (gridUnit k).2 / (d.rounding.den * (gridUnit k).1) : Nat) + 1) := by
    exact_mod_cast h
  rw [div_lt_iff₀ (by exact_mod_cast hb)]
  push_cast at hcast ⊢
  linarith

/-- A decimal on a grid is accepted if the double covers it. -/
theorem accepts_grid_iff (h : 0 < d.significand) (k : Int) (m : Nat) :
    d.rounding.accepts (m * (gridUnit k).1) (gridUnit k).2 = true ↔ d.Covers (m * 10 ^ k) := by
  obtain ⟨hnum, hden, hunit⟩ := gridUnit_eq k
  rw [accepts_iff h hden, ← hunit]
  push_cast
  rw [mul_div_assoc]

theorem onGrid?_eq (r : Rounding) (point : Int) (n : Nat) :
    onGrid? r point n =
      (let unit := gridUnit (point - n)
       let a := r.num * unit.2
       let b := r.den * unit.1
       let lower := gridFloor r (point - n)
       let rest := a % b
       match r.accepts (lower * unit.1) unit.2, r.accepts ((lower + 1) * unit.1) unit.2 with
       | true, true =>
         some (if 2 * rest < b ∨ (2 * rest = b ∧ lower % 2 = 0) then lower else lower + 1)
       | true, false => some lower
       | false, true => some (lower + 1)
       | false, false => none) := by
  rw [onGrid?]
  cases point - n <;> rfl

/-- What a grid gives is covered, and is one of the two neighbours. -/
theorem covers_of_onGrid? (h : 0 < d.significand) (hg : onGrid? d.rounding p n = some m) :
    d.Covers (m * 10 ^ (p - n)) ∧
      (m = gridFloor d.rounding (p - n) ∨ m = gridFloor d.rounding (p - n) + 1) := by
  rw [onGrid?_eq] at hg
  have hlower := accepts_grid_iff h (p - n) (gridFloor d.rounding (p - n))
  have hupper := accepts_grid_iff h (p - n) (gridFloor d.rounding (p - n) + 1)
  simp only at hg
  split at hg
  · rename_i hl hu
    obtain rfl := Option.some.inj hg
    split
    · exact ⟨hlower.mp hl, Or.inl rfl⟩
    · exact ⟨hupper.mp hu, Or.inr rfl⟩
  · rename_i hl hu
    obtain rfl := Option.some.inj hg
    exact ⟨hlower.mp hl, Or.inl rfl⟩
  · rename_i hl hu
    obtain rfl := Option.some.inj hg
    exact ⟨hupper.mp hu, Or.inr rfl⟩
  · cases hg

/-- If a neighbour is covered, the grid gives a decimal. -/
theorem onGrid?_isSome (h : 0 < d.significand)
    (hc : d.Covers (gridFloor d.rounding (p - n) * 10 ^ (p - n)) ∨
      d.Covers ((gridFloor d.rounding (p - n) + 1) * 10 ^ (p - n))) :
    (onGrid? d.rounding p n).isSome = true := by
  have hlower := accepts_grid_iff h (p - n) (gridFloor d.rounding (p - n))
  have hupper := accepts_grid_iff h (p - n) (gridFloor d.rounding (p - n) + 1)
  rw [onGrid?_eq]
  simp only
  split
  · rfl
  · rfl
  · rfl
  · rename_i hl hu
    rw [hl] at hlower
    rw [hu] at hupper
    push_cast at hupper
    rcases hc with hc | hc
    · exact absurd (hlower.mpr hc) (by simp)
    · exact absurd (hupper.mpr hc) (by simp)

/-- The gaps around a double, in proportion to it. -/
theorem size_lt_gap (d : Double) :
    d.size ≤ 2 ^ 54 * d.lowerGap ∧ d.size < 2 ^ 54 * (d.step / 2) := by
  have hpos := d.step_pos
  have hs : (d.significand : ℚ) + 1 ≤ 2 ^ 53 := by exact_mod_cast d.significand_lt
  have hhalf : d.size < 2 ^ 54 * (d.step / 2) := by
    rw [size]
    nlinarith
  refine ⟨?_, hhalf⟩
  rw [lowerGap]
  split
  · rename_i hfirst
    have hsig : d.significand = 2 ^ 52 := by
      obtain ⟨hf, he⟩ := hfirst
      rw [significand, if_neg (by omega), hf]
      norm_num
    rw [size, hsig]
    push_cast
    linarith
  · exact hhalf.le

/-- Seventeen digits suffice: of the two neighbours the nearer one is covered. -/
theorem onGrid?_seventeen (h : 0 < d.significand) (hp : IsPoint p d.size) :
    (onGrid? d.rounding p 17).isSome = true := by
  have hu : (0 : ℚ) < 10 ^ (p - (17 : Nat)) := zpow_pos (by norm_num) _
  have hfine : (10 : ℚ) ^ (p - (17 : Nat)) * 10 ^ 16 ≤ d.size := by
    have heq : (10 : ℚ) ^ (p - (17 : Nat)) * 10 ^ 16 = 10 ^ (p - 1) := by
      rw [← zpow_natCast (10 : ℚ) 16, ← zpow_add₀ (by norm_num)]
      congr 1
      push_cast
      ring
    rw [heq]
    exact hp.low
  have hlow := gridFloor_le d (p - (17 : Nat))
  have hhigh := lt_gridFloor d (p - (17 : Nat))
  obtain ⟨hbelow, habove⟩ := size_lt_gap d
  have hstep := d.step_pos
  have hsize := size_pos h
  have hgap : 10 ^ (p - (17 : Nat)) / 2 < d.lowerGap := by
    norm_num at hbelow hfine ⊢
    linarith
  have hhalf : 10 ^ (p - (17 : Nat)) / 2 < d.step / 2 := by
    norm_num at habove hfine ⊢
    linarith
  apply onGrid?_isSome h
  generalize (10 : ℚ) ^ (p - (17 : Nat)) = u at *
  generalize (gridFloor d.rounding (p - (17 : Nat)) : ℚ) = f at *
  rcases le_total (d.size - f * u) (u / 2) with hnear | hnear
  · exact Or.inl ⟨by linarith, by linarith, fun _ => ⟨by linarith, by linarith⟩⟩
  · exact Or.inr ⟨by linarith, by linarith, fun _ => ⟨by linarith, by linarith⟩⟩

/-! The shortest digits. -/

/-- Dropping a zero leaves a decimal the same. -/
theorem value_dropZeros (fuel n : Nat) (p : Int) :
    Digits.value ⟨dropZeros fuel n, p⟩ = Digits.value ⟨n, p⟩ := by
  induction fuel generalizing n with
  | zero => rfl
  | succ fuel ih =>
    rw [dropZeros]
    split
    · rename_i h
      obtain ⟨hn, hmod⟩ := h
      rw [ih, Digits.value, Digits.value]
      have hten : n / 10 * 10 = n := Nat.div_mul_cancel (Nat.dvd_of_mod_eq_zero hmod)
      have hdigits : (Nat.toDigits 10 n).length = (Nat.toDigits 10 (n / 10)).length + 1 := by
        rw [Nat.toDigits_of_base_le (by norm_num) (by omega), List.length_append,
          List.length_singleton]
      have hcast : (n : ℚ) = (n / 10 : Nat) * 10 := by exact_mod_cast hten.symm
      simp only
      rw [hdigits, hcast]
      push_cast
      have hexp : p - (Nat.toDigits 10 (n / 10)).length =
          p - ((Nat.toDigits 10 (n / 10)).length + 1) + 1 := by ring
      rw [hexp, zpow_add_one₀ (by norm_num)]
      ring
    · rfl

theorem dropZeros_pos (fuel : Nat) (h : 0 < n) : 0 < dropZeros fuel n := by
  induction fuel generalizing n with
  | zero => exact h
  | succ fuel ih =>
    rw [dropZeros]
    split
    · exact ih (by omega)
    · exact h

theorem dropZeros_le (fuel n : Nat) : dropZeros fuel n ≤ n := by
  induction fuel generalizing n with
  | zero => exact le_rfl
  | succ fuel ih =>
    rw [dropZeros]
    split
    · exact (ih (n / 10)).trans (Nat.div_le_self n 10)
    · exact le_rfl

/-- The range of doubles lies between these powers of ten. -/
theorem powers_of_ten :
    (10 : ℚ) ^ (-358 : Int) ≤ 2 ^ (-1074 : Int) ∧ (2 : ℚ) ^ (1024 : Int) ≤ 10 ^ (342 : Int) := by
  have height : ∀ k : Int, (2 : ℚ) ^ (3 * k) = 8 ^ k := fun k => by
    rw [zpow_mul]
    norm_num
  have hmono : ∀ n : Nat, (8 : ℚ) ^ (n : Int) ≤ 10 ^ (n : Int) := fun n => by
    rw [zpow_natCast, zpow_natCast]
    exact pow_le_pow_left₀ (by norm_num) (by norm_num) n
  constructor
  · have h : (2 : ℚ) ^ (-1074 : Int) = 8 ^ (-358 : Int) := by
      rw [← height (-358)]
      norm_num only
    rw [h, zpow_neg, zpow_neg]
    exact inv_anti₀ (zpow_pos (by norm_num) _) (hmono 358)
  · have h : (2 : ℚ) ^ (1026 : Int) = 8 ^ (342 : Int) := by
      rw [← height 342]
      norm_num only
    calc (2 : ℚ) ^ (1024 : Int) ≤ 2 ^ (1026 : Int) :=
          (zpow_le_zpow_iff_right₀ (by norm_num)).mpr (by norm_num)
      _ = 8 ^ (342 : Int) := h
      _ ≤ 10 ^ (342 : Int) := hmono 342

theorem le_size (h : 0 < d.significand) : (10 : ℚ) ^ (-358 : Int) ≤ d.size := by
  have hs : (1 : ℚ) ≤ d.significand := by exact_mod_cast h
  have hstep : (2 : ℚ) ^ (-1074 : Int) ≤ d.step :=
    (zpow_le_zpow_iff_right₀ (by norm_num)).mpr d.leastExponent_le
  have hpowers := powers_of_ten.1
  rw [size]
  nlinarith [d.step_pos]

theorem size_lt (hfin : d.isFinite = true) : d.size < 10 ^ (342 : Int) := by
  have hx : d.exponent ≤ 971 := by
    have hlt := bits_lt_of_isFinite hfin
    rw [leastExponent] at hlt
    norm_num at hlt
    rcases d.exponent_eq_or with hx | hs
    · omega
    · omega
  have hmono : d.step ≤ 2 ^ (971 : Int) := (zpow_le_zpow_iff_right₀ (by norm_num)).mpr hx
  have hsig : (d.significand : ℚ) < 2 ^ 53 := by exact_mod_cast d.significand_lt
  calc d.size < 2 ^ 53 * d.step := mul_lt_mul_of_pos_right hsig d.step_pos
    _ ≤ 2 ^ 53 * 2 ^ (971 : Int) := mul_le_mul_of_nonneg_left hmono (by norm_num)
    _ = 2 ^ (1024 : Int) := by
        rw [← zpow_natCast (2 : ℚ) 53, ← zpow_add₀ (by norm_num)]
        norm_num only
    _ ≤ 10 ^ (342 : Int) := powers_of_ten.2

/-- A double is neither so small nor so large that its point lies further out. -/
theorem isPoint_rounding (hfin : d.isFinite = true) (h : 0 < d.significand) :
    IsPoint (pointOf d.rounding.num d.rounding.den) d.size ∧
      -400 < pointOf d.rounding.num d.rounding.den ∧
        pointOf d.rounding.num d.rounding.den < 400 := by
  have hden := d.rounding_den_pos
  have hdenq : (0 : ℚ) < d.rounding.den := by exact_mod_cast hden
  have hleast := le_size h
  have hgreatest := size_lt hfin
  have hpoint : IsPoint (pointOf d.rounding.num d.rounding.den) d.size := by
    have henough : d.rounding.den ≤ 10 ^ (400 + 1) * d.rounding.num := by
      have hsz := d.rounding_num
      rw [div_eq_iff hdenq.ne'] at hsz
      have hbig : (1 : ℚ) ≤ 10 ^ (401 : Int) * d.size := by
        calc (1 : ℚ) ≤ 10 ^ ((401 : Int) + (-358)) := one_le_zpow₀ (by norm_num) (by norm_num)
          _ = 10 ^ (401 : Int) * 10 ^ (-358 : Int) := zpow_add₀ (by norm_num) _ _
          _ ≤ 10 ^ (401 : Int) * d.size :=
            mul_le_mul_of_nonneg_left hleast (zpow_nonneg (by norm_num) _)
      have hcast : ((10 ^ (400 + 1) : Nat) : ℚ) = 10 ^ (401 : Int) := by
        rw [Nat.cast_pow, ← zpow_natCast]
        rfl
      have : (d.rounding.den : ℚ) ≤ ((10 ^ (400 + 1) * d.rounding.num : Nat) : ℚ) := by
        rw [Nat.cast_mul, hcast, hsz]
        nlinarith
      exact Nat.cast_le.mp this
    rw [← rounding_num]
    exact isPoint_pointOf hden henough
  refine ⟨hpoint, ?_, ?_⟩
  · by_contra hc
    have := (zpow_lt_zpow_iff_right₀ (by norm_num)).mp (hleast.trans_lt hpoint.high)
    omega
  · by_contra hc
    have := (zpow_lt_zpow_iff_right₀ (by norm_num)).mp (hpoint.low.trans_lt hgreatest)
    omega

/-- What the shortest digits of a double are good for: they are covered by it. -/
structure Spells (s : Digits) (d : Double) : Prop where
  pos : 0 < s.number
  covers : d.Covers s.value
  length : (Nat.toDigits 10 s.number).length ≤ 18
  least : -400 < s.point
  greatest : s.point ≤ 400

/-- The decimals of a grid have as many digits as the grid, or are the power of ten that follows. -/
theorem digits_of_onGrid? (h : 0 < d.significand) (hp : IsPoint p d.size) (hn : 0 < n)
    (hg : onGrid? d.rounding p n = some m) : 10 ^ (n - 1) ≤ m ∧ m ≤ 10 ^ n := by
  have hu : (0 : ℚ) < 10 ^ (p - n) := zpow_pos (by norm_num) _
  have hpow : ∀ k : Nat, (10 : ℚ) ^ k * 10 ^ (p - n) = 10 ^ (p - n + k) := fun k => by
    rw [← zpow_natCast, ← zpow_add₀ (by norm_num), add_comm]
  have hfloor := gridFloor_le d (p - n)
  have hceil := lt_gridFloor d (p - n)
  have hlow : 10 ^ (n - 1) < gridFloor d.rounding (p - n) + 1 := by
    have hexp : p - n + (n - 1 : Nat) = p - 1 := by omega
    have : (10 : ℚ) ^ (n - 1) * 10 ^ (p - n) < (gridFloor d.rounding (p - n) + 1) *
        10 ^ (p - n) := by
      rw [hpow, hexp]
      exact hp.low.trans_lt hceil
    exact_mod_cast lt_of_mul_lt_mul_right this hu.le
  have hhigh : gridFloor d.rounding (p - n) < 10 ^ n := by
    have hexp : p - n + (n : Nat) = p := by omega
    have : (gridFloor d.rounding (p - n) : ℚ) * 10 ^ (p - n) < 10 ^ n * 10 ^ (p - n) := by
      rw [hpow, hexp]
      exact hfloor.trans_lt hp.high
    exact_mod_cast lt_of_mul_lt_mul_right this hu.le
  rcases (covers_of_onGrid? h hg).2 with rfl | rfl
  · omega
  · omega

/-- Digits on a grid, with the point moved where they carry. -/
theorem value_of_onGrid? (h : 0 < d.significand) (hp : IsPoint p d.size) (hn : 0 < n)
    (hg : onGrid? d.rounding p n = some m) :
    Digits.value ⟨m, if m = Nat.pow 10 n then p + 1 else p⟩ = m * 10 ^ (p - n) := by
  obtain ⟨hlow, hhigh⟩ := digits_of_onGrid? h hp hn hg
  have hm : 0 < m := lt_of_lt_of_le (Nat.pow_pos (by norm_num)) hlow
  have hlen : (Nat.toDigits 10 m).length = if m = Nat.pow 10 n then n + 1 else n := by
    have hl := (pow_le_iff_lt_length hm (n - 1)).mp hlow
    have hh := pow_le_iff_lt_length hm n
    have hh' := pow_le_iff_lt_length hm (n + 1)
    have hbig : m < 10 ^ (n + 1) :=
      lt_of_le_of_lt hhigh (Nat.pow_lt_pow_right (by norm_num) (by omega))
    rw [Nat.pow_eq]
    split
    · omega
    · omega
  rw [Digits.value]
  simp only [hlen]
  split
  · congr 2
    push_cast
    ring
  · rfl

theorem spells_shortest (hfin : d.isFinite = true) (h : 0 < d.significand) :
    Spells d.shortest d := by
  obtain ⟨hp, hleast, hgreatest⟩ := isPoint_rounding hfin h
  rw [shortest]
  split
  · -- The grid of seventeen digits is never empty.
    rename_i hnil
    obtain ⟨m, hm⟩ := Option.isSome_iff_exists.mp (onGrid?_seventeen h hp)
    have hmem : (17, m) ∈ (List.range 17).filterMap fun i =>
        (onGrid? d.rounding (pointOf d.rounding.num d.rounding.den) (i + 1)).map fun n =>
          (i + 1, n) :=
      List.mem_filterMap.mpr ⟨16, by simp, by rw [hm]; rfl⟩
    rw [hnil] at hmem
    cases hmem
  · rename_i n m rest hcons
    have hmem : (n, m) ∈ (List.range 17).filterMap fun i =>
        (onGrid? d.rounding (pointOf d.rounding.num d.rounding.den) (i + 1)).map fun n =>
          (i + 1, n) := by
      rw [hcons]
      exact List.mem_cons_self
    obtain ⟨i, hi, hsome⟩ := List.mem_filterMap.mp hmem
    obtain ⟨k, hk, heq⟩ := Option.map_eq_some_iff.mp hsome
    obtain ⟨rfl, rfl⟩ := Prod.mk.inj heq
    have hi : i < 17 := List.mem_range.mp hi
    obtain ⟨hlow, hhigh⟩ := digits_of_onGrid? h hp (Nat.succ_pos i) hk
    have hpos : 0 < k := lt_of_lt_of_le (Nat.pow_pos (by norm_num)) hlow
    refine ⟨dropZeros_pos 20 hpos, ?_, ?_, ?_, ?_⟩
    · rw [value_dropZeros, value_of_onGrid? h hp (Nat.succ_pos i) hk]
      exact (covers_of_onGrid? h hk).1
    · rw [Nat.length_toDigits_le_iff (by norm_num) (by norm_num)]
      calc dropZeros 20 k ≤ k := dropZeros_le 20 k
        _ ≤ 10 ^ (i + 1) := hhigh
        _ < 10 ^ 18 := Nat.pow_lt_pow_right (by norm_num) (by omega)
    · have hcarry : pointOf d.rounding.num d.rounding.den ≤
          if k = Nat.pow 10 (i + 1) then pointOf d.rounding.num d.rounding.den + 1
          else pointOf d.rounding.num d.rounding.den := by
        split <;> omega
      exact hleast.trans_le hcarry
    · have hcarry : (if k = Nat.pow 10 (i + 1) then pointOf d.rounding.num d.rounding.den + 1
          else pointOf d.rounding.num d.rounding.den) ≤
            pointOf d.rounding.num d.rounding.den + 1 := by
        split <;> omega
      exact hcarry.trans (by omega)

end Double

end ResolverHooks
