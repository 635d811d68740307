import Mathlib.Data.Bool.AllAny
import Mathlib.Tactic.IntervalCases
import ResolverHooks.Decimal.Layout
import ResolverHooks.Decimal.Numeral
import ResolverHooks.Proofs.Decimal.Shortest

/-!
Reading back what is written of a double. A decimal is written as digits, perhaps a point with more
digits, and perhaps an exponent, and the parts say the same number however they are divided.
-/
namespace ResolverHooks

namespace Numeral

variable {cs ds rest : List Char} {c : Char}

/-- The characters of numbers as they are written. -/
def numberChars : List Char := "0123456789.e+-".toList

theorem mem_numberChars_of_isDigit (h : c.isDigit = true) : c ∈ numberChars := by
  rw [Char.isDigit_iff_toNat] at h
  have hc : c = Char.ofNat c.toNat := (Char.ofNat_toNat c).symm
  generalize c.toNat = n at *
  subst hc
  have hn : n < 58 := by
    have := h.2
    simpa using Nat.lt_succ_of_le this
  have hn' : 48 ≤ n := h.1
  interval_cases n <;> decide

theorem plain_eq_self (h : ∀ c ∈ cs, c ∈ numberChars) : plain cs = cs := by
  have hmargin : ∀ c ∈ numberChars, isMargin c = false := List.all_iff_forall_prop.mp (by decide)
  have hplain : ∀ c ∈ numberChars, Text.plainDigit c = c := List.all_iff_forall_prop.mp (by decide)
  have htrim : trim cs = cs := by
    have hdrop : ∀ l : List Char, (∀ c ∈ l, c ∈ numberChars) → l.dropWhile isMargin = l := by
      intro l hl
      cases l with
      | nil => rfl
      | cons c l => rw [List.dropWhile_cons_of_neg (by simp [hmargin c (hl c List.mem_cons_self)])]
    rw [trim, hdrop cs h, hdrop cs.reverse (fun c hc => h c (List.mem_reverse.mp hc)),
      List.reverse_reverse]
  rw [plain, htrim]
  exact (List.map_congr_left fun c hc => hplain c (h c hc)).trans (List.map_id cs)

theorem map_toLower_eq_self (h : ∀ c ∈ cs, c ∈ numberChars) : cs.map Char.toLower = cs := by
  have hlower : ∀ c ∈ numberChars, c.toLower = c := List.all_iff_forall_prop.mp (by decide)
  exact (List.map_congr_left fun c hc => hlower c (h c hc)).trans (List.map_id cs)

theorem dropUnderscores_eq_self (h : ∀ c ∈ cs, c ∈ numberChars) (afterDigit : Bool) :
    dropUnderscores afterDigit cs = some cs := by
  have hne : ∀ c ∈ numberChars, c ≠ '_' := List.all_iff_forall_prop.mp (by decide)
  induction cs generalizing afterDigit with
  | nil => rfl
  | cons c cs ih =>
    have hc : c ≠ '_' := hne c (h c List.mem_cons_self)
    have hrest := ih (fun x hx => h x (List.mem_cons_of_mem c hx)) c.isDigit
    unfold dropUnderscores
    split
    · rename_i heq
      cases heq
    · rename_i heq
      cases heq
      exact absurd rfl hc
    · rename_i heq
      cases heq
      rw [if_neg hc, hrest]
      rfl

/-- A run of digits ends where no digit follows. -/
theorem digitRun_append (hd : ∀ c ∈ ds, c.isDigit = true)
    (hr : ∀ c, rest.head? = some c → c.isDigit = false) :
    digitRun (ds ++ rest) = (ds, rest) := by
  have htake : rest.takeWhile Char.isDigit = [] := by
    cases rest with
    | nil => rfl
    | cons c rest => simp [hr c rfl]
  have hdrop : rest.dropWhile Char.isDigit = rest := by
    cases rest with
    | nil => rfl
    | cons c rest => simp [hr c rfl]
  rw [digitRun, List.takeWhile_append_of_pos hd, List.dropWhile_append_of_pos hd, htake, hdrop,
    List.append_nil]

theorem digitValue?_of_isDigit (h : c.isDigit = true) :
    digitValue? 10 c = some (c.toNat - '0'.toNat) := by
  rw [Char.isDigit_iff_toNat] at h
  have hlow : '0' ≤ c := Char.le_def.mpr (UInt32.le_iff_toNat_le.mpr h.1)
  have hhigh : c ≤ '9' := Char.le_def.mpr (UInt32.le_iff_toNat_le.mpr h.2)
  have hlt : c.toNat - 48 < 10 := by
    have := h.2
    have h9 : '9'.toNat = 57 := rfl
    omega
  rw [digitValue?, if_pos ⟨hlow, hhigh⟩]
  simp only [Option.bind_some, if_pos hlt]
  rfl

/-- The number that decimal digits write. -/
theorem natural?_eq (hne : ds ≠ []) (hd : ∀ c ∈ ds, c.isDigit = true) :
    natural? 10 ds = some (Nat.ofDigitChars 10 ds 0) := by
  have hfold : ∀ (ds : List Char) (n : Nat), (∀ c ∈ ds, c.isDigit = true) →
      ds.foldl (fun acc c => acc.bind fun n => (digitValue? 10 c).map fun d =>
        n * 10 + d) (some n) =
        some (Nat.ofDigitChars 10 ds n) := by
    intro ds
    induction ds with
    | nil => exact fun n _ => rfl
    | cons c ds ih =>
      intro n hd
      rw [List.foldl_cons, Option.bind_some, digitValue?_of_isDigit (hd c List.mem_cons_self),
        Option.map_some, ih _ (fun x hx => hd x (List.mem_cons_of_mem c hx)), Nat.ofDigitChars_cons,
        Nat.mul_comm n 10]
  rw [natural?, if_neg (by simpa using hne)]
  exact hfold ds 0 hd

end Numeral

open Numeral

/-- A number as it is written: digits, a point with digits, and an exponent with its sign. -/
structure Written where
  whole : List Char
  fraction : Option (List Char)
  exponent : Option (Bool × List Char)

namespace Written

variable {w : Written}

def fractionText (w : Written) : List Char :=
  match w.fraction with
  | none => []
  | some ds => '.' :: ds

def exponentText (w : Written) : List Char :=
  match w.exponent with
  | none => []
  | some (negative, ds) => 'e' :: (if negative then '-' else '+') :: ds

def text (w : Written) : List Char := w.whole ++ (w.fractionText ++ w.exponentText)

/-- The number that all the digits write. -/
def number (w : Written) : Nat := Nat.ofDigitChars 10 (w.whole ++ w.fraction.getD []) 0

/-- The power of ten that the number counts. -/
def scale (w : Written) : Int :=
  (match w.exponent with
    | none => 0
    | some (negative, ds) =>
      if negative then -(Nat.ofDigitChars 10 ds 0 : Int) else Nat.ofDigitChars 10 ds 0) -
  ((w.fraction.getD []).length : Int)

structure IsProper (w : Written) : Prop where
  whole_ne : w.whole ≠ []
  whole : ∀ c ∈ w.whole, c.isDigit = true
  fraction : ∀ ds ∈ w.fraction, ds ≠ [] ∧ ∀ c ∈ ds, c.isDigit = true
  exponent : ∀ e ∈ w.exponent, e.2 ≠ [] ∧ ∀ c ∈ e.2, c.isDigit = true

theorem IsProper.fraction_digits (h : w.IsProper) : ∀ c ∈ w.fraction.getD [], c.isDigit = true := by
  intro c hc
  cases hf : w.fraction with
  | none =>
    rw [hf] at hc
    cases hc
  | some ds =>
    rw [hf] at hc
    exact (h.fraction ds hf).2 c hc

theorem IsProper.mem_numberChars (h : w.IsProper) : ∀ c ∈ w.text, c ∈ numberChars := by
  intro c hc
  rcases List.mem_append.mp hc with hc | hc
  · exact mem_numberChars_of_isDigit (h.whole c hc)
  rcases List.mem_append.mp hc with hc | hc
  · rw [fractionText] at hc
    split at hc
    · cases hc
    · rename_i ds hf
      rcases List.mem_cons.mp hc with rfl | hc
      · decide
      · exact mem_numberChars_of_isDigit ((h.fraction ds hf).2 c hc)
  · rw [exponentText] at hc
    split at hc
    · cases hc
    · rename_i negative ds he
      rcases List.mem_cons.mp hc with rfl | hc
      · decide
      rcases List.mem_cons.mp hc with rfl | hc
      · cases negative <;> decide
      · exact mem_numberChars_of_isDigit ((h.exponent _ he).2 c hc)

theorem exponentText_head (w : Written) :
    ∀ c, w.exponentText.head? = some c → c.isDigit = false := by
  intro c hc
  rw [exponentText] at hc
  split at hc
  · cases hc
  · obtain rfl : 'e' = c := Option.some.inj hc
    decide

theorem tail_head (w : Written) :
    ∀ c, (w.fractionText ++ w.exponentText).head? = some c → c.isDigit = false := by
  intro c hc
  rw [fractionText] at hc
  split at hc
  · exact w.exponentText_head c hc
  · obtain rfl : '.' = c := Option.some.inj hc
    decide

/-- The first character is a digit, so there is no sign and no name of a number. -/
theorem IsProper.exists_cons (h : w.IsProper) :
    ∃ c rest, w.text = c :: rest ∧ c.isDigit = true := by
  cases hw : w.whole with
  | nil => exact absurd hw h.whole_ne
  | cons c ds =>
    exact ⟨c, ds ++ (w.fractionText ++ w.exponentText), by rw [text, hw]; rfl,
      h.whole c (by simp [hw])⟩

theorem dropSign_of_isDigit {c : Char} {rest : List Char} (h : c.isDigit = true) :
    dropSign (c :: rest) = c :: rest := by
  unfold dropSign
  split
  · rename_i heq
    cases heq
    exact absurd h (by decide)
  · rename_i heq
    cases heq
    exact absurd h (by decide)
  · rfl

theorem isNegative_of_isDigit {c : Char} {rest : List Char} (h : c.isDigit = true) :
    isNegative (c :: rest) = false := by
  have hne : c ≠ '-' := by
    rintro rfl
    exact absurd h (by decide)
  simpa [isNegative] using hne

/-- What is written is read as the number of its digits, scaled. -/
theorem IsProper.real?_text (h : w.IsProper) :
    real? w.text = some (Double.ofDecimal false w.number w.scale) := by
  have hmem := h.mem_numberChars
  obtain ⟨c, rest, htext, hc⟩ := h.exists_cons
  have hname : ∀ name : List Char, (∃ d t, name = d :: t ∧ d.isDigit = false) → w.text ≠ name := by
    rintro _ ⟨d, t, rfl, hd⟩ heq
    rw [htext] at heq
    cases heq
    exact absurd hc (by simp [hd])
  have hinf : w.text ≠ "inf".toList := hname _ ⟨'i', ['n', 'f'], rfl, by decide⟩
  have hinfinity : w.text ≠ "infinity".toList := hname _ ⟨'i', "nfinity".toList, rfl, by decide⟩
  have hnan : w.text ≠ "nan".toList := hname _ ⟨'n', ['a', 'n'], rfl, by decide⟩
  have hsign : dropSign w.text = w.text := by
    rw [htext]
    exact dropSign_of_isDigit hc
  have hpositive : isNegative w.text = false := by
    rw [htext]
    exact isNegative_of_isDigit hc
  have hwhole : digitRun w.text = (w.whole, w.fractionText ++ w.exponentText) :=
    digitRun_append h.whole w.tail_head
  have hne : w.whole ++ w.fraction.getD [] ≠ [] := by
    simp [h.whole_ne]
  have hdigits : ∀ c ∈ w.whole ++ w.fraction.getD [], c.isDigit = true := by
    intro c hc
    rcases List.mem_append.mp hc with hc | hc
    · exact h.whole c hc
    · exact h.fraction_digits c hc
  have hfraction : fractionRun (w.fractionText ++ w.exponentText) =
      (w.fraction.getD [], w.exponentText) := by
    rw [fractionText]
    cases hf : w.fraction with
    | some ds => exact digitRun_append (h.fraction ds hf).2 w.exponentText_head
    | none =>
      rw [exponentText]
      cases w.exponent <;> rfl
  have hscaled : exponent? w.exponentText = some (w.scale + (w.fraction.getD []).length) := by
    rw [scale, sub_add_cancel, exponentText]
    cases he : w.exponent with
    | none => rfl
    | some e =>
      obtain ⟨negative, ds⟩ := e
      obtain ⟨hdne, hd⟩ := h.exponent _ he
      cases negative <;> simp [exponent?, dropSign, isNegative, natural?_eq hdne hd]
  rw [real?, plain_eq_self hmem, map_toLower_eq_self hmem, dropUnderscores_eq_self hmem]
  simp only [Option.bind_eq_bind, Option.bind_some, hsign, hpositive, hinf, hinfinity, hnan,
    or_self, if_false, hwhole, hfraction, natural?_eq hne hdigits, hscaled, add_sub_cancel_right]
  rfl

/-! The decimals that are written for doubles. -/

variable {s : Digits}

/-- A decimal as it is written. -/
def ofDigits (s : Digits) : Written :=
  let digits := Nat.toDigits 10 s.number
  if -4 ≤ s.point - 1 ∧ s.point - 1 < 16 then
    if s.point ≤ 0 then ⟨['0'], some (List.replicate (-s.point).toNat '0' ++ digits), none⟩
    else if digits.length ≤ s.point.toNat then
      ⟨digits ++ List.replicate (s.point.toNat - digits.length) '0', some ['0'], none⟩
    else ⟨digits.take s.point.toNat, some (digits.drop s.point.toNat), none⟩
  else
    ⟨digits.take 1, if digits.length ≤ 1 then none else some (digits.drop 1),
      some (decide (s.point - 1 < 0),
        List.replicate (2 - (Nat.toDigits 10 (s.point - 1).natAbs).length) '0' ++
          Nat.toDigits 10 (s.point - 1).natAbs)⟩

theorem toList_padded (n : Nat) :
    (NumberLayout.padded 2 n).toList =
      List.replicate (2 - (Nat.toDigits 10 n).length) '0' ++ Nat.toDigits 10 n := by
  have hn : (toString n).toList = Nat.toDigits 10 n := Nat.toList_repr
  rw [NumberLayout.padded, String.toList_append, hn, NumberLayout.zeros, String.toList_ofList,
    ← String.length_toList, hn]

theorem text_ofDigits (s : Digits) : (NumberLayout.json.decimal s).toList = (ofDigits s).text := by
  rw [NumberLayout.decimal, ofDigits]
  simp only [NumberLayout.json]
  split
  · split
    · simp [text, fractionText, exponentText, NumberLayout.zeros]
    · split
      · simp [text, fractionText, exponentText, NumberLayout.zeros]
      · simp [text, fractionText, exponentText]
  · simp only [String.toList_append, String.toList_ofList, toList_padded, text, exponentText,
      List.append_assoc]
    congr 1
    have htail : (if (Nat.toDigits 10 s.number).length ≤ 1 then "" else
        "." ++ String.ofList ((Nat.toDigits 10 s.number).drop 1)).toList =
        fractionText ⟨(Nat.toDigits 10 s.number).take 1,
          if (Nat.toDigits 10 s.number).length ≤ 1 then none
            else some ((Nat.toDigits 10 s.number).drop 1), none⟩ := by
      rw [fractionText]
      split
      · simp
      · simp
    rw [htail]
    congr 1
    by_cases hneg : s.point - 1 < 0
    · simp [hneg]
    · simp [hneg]

theorem isDigit_toDigits (n : Nat) : ∀ c ∈ Nat.toDigits 10 n, c.isDigit = true := fun _ hc =>
  Nat.isDigit_of_mem_toDigits (by norm_num) (by norm_num) hc

theorem isDigit_zeros (n : Nat) : ∀ c ∈ List.replicate n '0', c.isDigit = true := by
  intro c hc
  rw [List.eq_of_mem_replicate hc]
  decide

theorem isDigit_append {as bs : List Char} (ha : ∀ c ∈ as, c.isDigit = true)
    (hb : ∀ c ∈ bs, c.isDigit = true) :
    ∀ c ∈ as ++ bs, c.isDigit = true := by
  intro c hc
  exact (List.mem_append.mp hc).elim (ha c) (hb c)

theorem isProper_ofDigits (s : Digits) : (ofDigits s).IsProper := by
  have hdigits := isDigit_toDigits s.number
  have htake : ∀ n, ∀ c ∈ (Nat.toDigits 10 s.number).take n, c.isDigit = true := fun n c hc =>
    hdigits c (List.mem_of_mem_take hc)
  have hdrop : ∀ n, ∀ c ∈ (Nat.toDigits 10 s.number).drop n, c.isDigit = true := fun n c hc =>
    hdigits c (List.mem_of_mem_drop hc)
  have hne : Nat.toDigits 10 s.number ≠ [] := Nat.toDigits_ne_nil
  have hpad : ∀ n, Nat.toDigits 10 n ≠ [] := fun n => Nat.toDigits_ne_nil
  rw [ofDigits]
  split
  · split
    · refine ⟨by simp, isDigit_zeros 1, ?_, by simp⟩
      rintro _ ⟨⟩
      exact ⟨by simp [hne], isDigit_append (isDigit_zeros _) hdigits⟩
    · split
      · refine ⟨by simp [hne], isDigit_append hdigits (isDigit_zeros _), ?_, by simp⟩
        rintro _ ⟨⟩
        exact ⟨by simp, List.all_iff_forall_prop.mp (by decide)⟩
      · rename_i hpoint hlen
        refine ⟨?_, htake _, ?_, by simp⟩
        · simp only [ne_eq, List.take_eq_nil_iff, hne, or_false]
          omega
        · rintro _ ⟨⟩
          refine ⟨?_, hdrop _⟩
          simp only [ne_eq, List.drop_eq_nil_iff]
          omega
  · refine ⟨by simp [hne], htake _, ?_, ?_⟩
    · intro ds hds
      simp only at hds
      split at hds
      · cases hds
      · rename_i hlen
        cases hds
        exact ⟨by simp only [ne_eq, List.drop_eq_nil_iff]; exact hlen, hdrop _⟩
    · rintro _ ⟨⟩
      exact ⟨by simp [hpad], isDigit_append (isDigit_zeros _) (isDigit_toDigits _)⟩

/-- Zeros in front and behind. -/
theorem ofDigitChars_zeros_append (n : Nat) (ds : List Char) :
    Nat.ofDigitChars 10 (List.replicate n '0' ++ ds) 0 = Nat.ofDigitChars 10 ds 0 := by
  rw [Nat.ofDigitChars_append, Nat.ofDigitChars_replicate_zero, Nat.mul_zero]

/-- The digits behind the first one, of which there may be none. -/
theorem getD_rest (ds : List Char) :
    (if ds.length ≤ 1 then none else some (ds.drop 1)).getD [] = ds.drop 1 := by
  split
  · rename_i hlen
    rw [Option.getD_none, List.drop_of_length_le hlen]
  · rfl

/-- However a decimal is divided, it is the same number. -/
theorem value_ofDigits (s : Digits) :
    ((ofDigits s).number : ℚ) * 10 ^ (ofDigits s).scale = s.value := by
  have hten : (10 : ℚ) ≠ 0 := by norm_num
  rw [number, scale, Digits.value, ofDigits]
  split
  · split
    · rename_i hpoint
      have hnumber : Nat.ofDigitChars 10
          (['0'] ++ (List.replicate (-s.point).toNat '0' ++ Nat.toDigits 10 s.number)) 0 =
          s.number := by
        rw [show (['0'] : List Char) = List.replicate 1 '0' from rfl, ofDigitChars_zeros_append,
          ofDigitChars_zeros_append, Nat.ofDigitChars_ten_toDigits]
      simp only [Option.getD_some, hnumber]
      congr 2
      simp only [List.length_append, List.length_replicate]
      omega
    · split
      · rename_i hpoint hlen
        have hnumber : Nat.ofDigitChars 10 (Nat.toDigits 10 s.number ++
            List.replicate (s.point.toNat - (Nat.toDigits 10 s.number).length) '0' ++ ['0']) 0 =
            10 ^ (s.point.toNat - (Nat.toDigits 10 s.number).length + 1) * s.number := by
          rw [List.append_assoc, show (['0'] : List Char) = List.replicate 1 '0' from rfl,
            List.replicate_append_replicate, Nat.ofDigitChars_append, Nat.ofDigitChars_ten_toDigits,
            Nat.ofDigitChars_replicate_zero]
        simp only [Option.getD_some, hnumber]
        have hexp : s.point - (Nat.toDigits 10 s.number).length =
            (s.point.toNat - (Nat.toDigits 10 s.number).length + 1 : Nat) +
              (0 - ((['0'] : List Char).length : Int)) := by
          simp only [List.length_singleton]
          omega
        rw [hexp, zpow_add₀ hten, zpow_natCast]
        push_cast
        ring
      · rename_i hpoint hlen
        simp only [Option.getD_some, List.take_append_drop, Nat.ofDigitChars_ten_toDigits]
        congr 2
        simp only [List.length_drop]
        omega
  · have hnumber : Nat.ofDigitChars 10 ((Nat.toDigits 10 s.number).take 1 ++
        (if (Nat.toDigits 10 s.number).length ≤ 1 then none
          else some ((Nat.toDigits 10 s.number).drop 1)).getD []) 0 =
        s.number := by
      rw [getD_rest, List.take_append_drop, Nat.ofDigitChars_ten_toDigits]
    have hlength : ((if (Nat.toDigits 10 s.number).length ≤ 1 then none
        else some ((Nat.toDigits 10 s.number).drop 1)).getD []).length =
          (Nat.toDigits 10 s.number).length - 1 := by
      rw [getD_rest, List.length_drop]
    have hpos := Nat.length_toDigits_pos (b := 10) (n := s.number)
    simp only [hnumber, hlength, ofDigitChars_zeros_append, Nat.ofDigitChars_ten_toDigits]
    congr 2
    by_cases hneg : s.point - 1 < 0
    · simp only [hneg, decide_true, if_true]
      omega
    · simp only [hneg, decide_false, Bool.false_eq_true, if_false]
      omega

end Written

namespace Double

variable {d : Double} {s : Digits} {n : Nat} {e p : Int}

theorem isPoint_value (hs : 0 < s.number) : IsPoint s.point s.value := by
  have hpos : (0 : ℚ) < 10 ^ (s.point - (Nat.toDigits 10 s.number).length) :=
    zpow_pos (by norm_num) _
  have hlen := Nat.length_toDigits_pos (b := 10) (n := s.number)
  have hlow := (pow_le_iff_lt_length hs ((Nat.toDigits 10 s.number).length - 1)).mpr (by omega)
  have hhigh : s.number < 10 ^ (Nat.toDigits 10 s.number).length := by
    rw [← not_le, pow_le_iff_lt_length hs]
    exact lt_irrefl _
  have hpow : ∀ k : Nat, (10 : ℚ) ^ k * 10 ^ (s.point - (Nat.toDigits 10 s.number).length) =
      10 ^ (s.point - (Nat.toDigits 10 s.number).length + k) := fun k => by
    rw [← zpow_natCast, ← zpow_add₀ (by norm_num), add_comm]
  rw [Digits.value]
  constructor
  · have hexp : s.point - 1 = s.point - (Nat.toDigits 10 s.number).length +
        ((Nat.toDigits 10 s.number).length - 1 : Nat) := by omega
    rw [hexp, ← hpow]
    refine mul_le_mul_of_nonneg_right ?_ hpos.le
    exact_mod_cast hlow
  · have hexp : s.point = s.point - (Nat.toDigits 10 s.number).length +
        (Nat.toDigits 10 s.number).length := by omega
    conv_rhs => rw [hexp, ← hpow]
    refine mul_lt_mul_of_pos_right ?_ hpos
    exact_mod_cast hhigh

/-- The bits of a number are at least three for each decimal digit but the first. -/
theorem length_toDigits_le (hn : 0 < n) : (Nat.toDigits 10 n).length ≤ Nat.log2 n / 3 + 1 := by
  have hlow := (pow_le_iff_lt_length hn ((Nat.toDigits 10 n).length - 1)).mpr (by
    have := Nat.length_toDigits_pos (b := 10) (n := n)
    omega)
  have height : 2 ^ (3 * ((Nat.toDigits 10 n).length - 1)) ≤ n := by
    calc 2 ^ (3 * ((Nat.toDigits 10 n).length - 1)) = 8 ^ ((Nat.toDigits 10 n).length - 1) := by
          rw [pow_mul]
          norm_num
      _ ≤ 10 ^ ((Nat.toDigits 10 n).length - 1) := Nat.pow_le_pow_left (by norm_num) _
      _ ≤ n := hlow
  have := (Nat.le_log2 (by omega)).mpr height
  omega

/-- A decimal that a double covers is read as the double. -/
theorem ofDecimal_of_covers (negative : Bool) (hfin : d.isFinite = true) (hn : 0 < n)
    (hc : d.Covers (n * 10 ^ e)) (hp : IsPoint p (n * 10 ^ e)) (hleast : -400 < p)
    (hgreatest : p ≤ 400) :
    ofDecimal negative n e = ofFields negative (d.bits.toNat % Nat.pow 2 63) := by
  have hpos : (0 : ℚ) < 10 ^ e := zpow_pos (by norm_num) e
  have hle : e ≤ 400 := by
    have hone : (1 : ℚ) ≤ n := by exact_mod_cast hn
    have : (10 : ℚ) ^ e < 10 ^ p := lt_of_le_of_lt (by nlinarith) hp.high
    have := (zpow_lt_zpow_iff_right₀ (by norm_num)).mp this
    omega
  have hge : -400 ≤ e + (Nat.log2 n / 3 + 1 : Nat) := by
    have hlt : (n : ℚ) < 10 ^ ((Nat.toDigits 10 n).length : Int) := by
      rw [zpow_natCast]
      have : n < 10 ^ (Nat.toDigits 10 n).length := by
        rw [← not_le, pow_le_iff_lt_length hn]
        exact lt_irrefl _
      exact_mod_cast this
    have : (10 : ℚ) ^ (p - 1) < 10 ^ ((Nat.toDigits 10 n).length + e) := by
      rw [zpow_add₀ (by norm_num)]
      exact hp.low.trans_lt (mul_lt_mul_of_pos_right hlt hpos)
    have := (zpow_lt_zpow_iff_right₀ (by norm_num)).mp this
    have := length_toDigits_le hn
    omega
  unfold ofDecimal
  simp only
  rw [if_neg (by omega), if_neg (by omega), if_neg (by push_cast at hge; omega)]
  cases e with
  | ofNat k =>
    refine ofFraction_of_covers negative hfin
      (Nat.mul_pos hn (Nat.pow_pos (by norm_num))) Nat.one_pos ?_
    rw [Int.ofNat_eq_natCast, zpow_natCast] at hc
    rw [Nat.pow_eq]
    push_cast
    rwa [div_one]
  | negSucc k =>
    refine ofFraction_of_covers negative hfin hn (Nat.pow_pos (by norm_num)) ?_
    rw [zpow_negSucc] at hc
    rw [Nat.pow_eq]
    push_cast
    rwa [div_eq_mul_inv]

/-! A finite double as it is written, without its sign. -/

/-- The parts that are written of a finite double. -/
def written (d : Double) : Written :=
  if d.isZero then ⟨['0'], some ['0'], none⟩ else .ofDigits d.shortest

theorem isProper_written (d : Double) : d.written.IsProper := by
  rw [written]
  split
  · refine ⟨by simp, Written.isDigit_zeros 1, ?_, by simp⟩
    rintro _ ⟨⟩
    exact ⟨by simp, Written.isDigit_zeros 1⟩
  · exact Written.isProper_ofDigits _

theorem isNaN_of_isFinite (hfin : d.isFinite = true) : d.isNaN = false := by
  have hfield : d.exponentField ≠ 2047 := by simpa [isFinite] using hfin
  simp [isNaN, hfield]

/-- The text of a finite double: a sign, and what is written of it. -/
theorem text_eq_written (hfin : d.isFinite = true) :
    (NumberLayout.json.text d).toList = (if d.sign then ['-'] else []) ++ d.written.text := by
  have hfield : d.exponentField ≠ 2047 := by simpa [isFinite] using hfin
  have hnan := isNaN_of_isFinite hfin
  have hinf : d.isInfinite = false := by simp [isInfinite, hfield]
  have hbody : (if d.isZero then "0.0" else NumberLayout.json.decimal d.shortest).toList =
      d.written.text := by
    rw [written]
    split
    · rfl
    · exact Written.text_ofDigits _
  rw [NumberLayout.text]
  simp only [hnan, hinf, Bool.false_eq_true, if_false]
  rw [← hbody]
  split
  · rw [String.toList_append]
    rfl
  · rfl

theorem bits_mod_of_isZero (h : d.isZero = true) : d.bits.toNat % Nat.pow 2 63 = 0 := by
  have hs : d.significand = 0 := by
    rw [isZero, Bool.and_eq_true] at h
    exact beq_iff_eq.mp h.2
  have hx : d.exponent = -1074 := d.exponent_eq_or.resolve_right (by omega)
  rw [bits_mod, hs, hx, leastExponent]
  norm_num

/-- What is written of a finite double is read as the double without its sign. -/
theorem real?_written (hfin : d.isFinite = true) :
    real? d.written.text = some (ofFields false (d.bits.toNat % Nat.pow 2 63)) := by
  rw [d.isProper_written.real?_text]
  congr 1
  rw [written]
  by_cases hz : d.isZero = true
  · rw [if_pos hz, bits_mod_of_isZero hz]
    rfl
  · rw [if_neg hz]
    have hs : 0 < d.significand := by
      rw [isZero, hfin, Bool.true_and, beq_iff_eq] at hz
      omega
    have hspells := spells_shortest hfin hs
    have hvalue := Written.value_ofDigits d.shortest
    have hn : 0 < (Written.ofDigits d.shortest).number := by
      rcases Nat.eq_zero_or_pos (Written.ofDigits d.shortest).number with h0 | hpos
      · exfalso
        rw [h0, Nat.cast_zero, zero_mul, Digits.value] at hvalue
        have : (0 : ℚ) < d.shortest.number := by exact_mod_cast hspells.pos
        have := mul_pos this (zpow_pos (a := (10 : ℚ)) (by norm_num)
          (d.shortest.point - (Nat.toDigits 10 d.shortest.number).length))
        linarith
      · exact hpos
    refine ofDecimal_of_covers false hfin hn
      (p := d.shortest.point) ?_ ?_ hspells.least hspells.greatest
    · rw [hvalue]
      exact hspells.covers
    · rw [hvalue]
      exact isPoint_value hspells.pos

theorem bits_ofFields_false (d : Double) :
    (ofFields false (d.bits.toNat % Nat.pow 2 63)).bits.toNat = d.bits.toNat % Nat.pow 2 63 := by
  have hmod : d.bits.toNat % Nat.pow 2 63 < Nat.pow 2 63 := Nat.mod_lt _ (by norm_num)
  have hlt : d.bits.toNat % Nat.pow 2 63 < 2 ^ 64 := hmod.trans (by norm_num)
  rw [ofFields, if_neg (by simp), Nat.zero_add, UInt64.toNat_ofNat', Nat.mod_eq_of_lt hlt]

/-- Without its sign a double is a number as before. -/
theorem isNaN_ofFields_bits (d : Double) :
    (ofFields false (d.bits.toNat % Nat.pow 2 63)).isNaN = d.isNaN := by
  have hexp : (ofFields false (d.bits.toNat % Nat.pow 2 63)).exponentField = d.exponentField := by
    rw [exponentField, exponentField, bits_ofFields_false]
    norm_num
    omega
  have hfrac : (ofFields false (d.bits.toNat % Nat.pow 2 63)).fractionField = d.fractionField := by
    rw [fractionField, fractionField, bits_ofFields_false]
    norm_num
  rw [isNaN, isNaN, hexp, hfrac]

/-- Giving the sign back. -/
theorem negate_ofFields (hsign : d.sign = true) :
    (ofFields false (d.bits.toNat % Nat.pow 2 63)).negate = d := by
  have hmod : d.bits.toNat % Nat.pow 2 63 < Nat.pow 2 63 := Nat.mod_lt _ (by norm_num)
  have hpositive : (ofFields false (d.bits.toNat % Nat.pow 2 63)).sign = false := by
    rw [sign, bits_ofFields_false, Nat.div_eq_of_lt hmod]
    rfl
  rw [negate, hpositive, bits_ofFields_false, Nat.mod_mod, Bool.not_false, ← hsign, ofFields_bits]

end Double

end ResolverHooks
