import Mathlib.Data.Bool.AllAny
import Mathlib.Data.List.TakeWhile
import ResolverHooks.Document.Json
import ResolverHooks.Proofs.Decimal.Reading
import ResolverHooks.Yaml.Number

/-!
Numbers as plain scalars. An integer is recognised as one, and a double is if a point stands in it;
without a point it is a text.
-/
namespace ResolverHooks.Yaml

open Numeral

variable {cs : List Char} {w : Written} {negative : Bool} {d : Double} {i : Int} {n : Nat}

/-- A text with a sign in front, if it is negative. -/
def signed (negative : Bool) (body : List Char) : List Char :=
  (if negative then ['-'] else []) ++ body

theorem signed_mem (negative : Bool) (h : ∀ c ∈ cs, c ∈ numberChars) :
    ∀ c ∈ signed negative cs, c ∈ numberChars := by
  intro c hc
  cases negative with
  | true =>
    rcases List.mem_cons.mp hc with rfl | hc
    · decide
    · exact h c hc
  | false => exact h c hc

theorem dropSign_signed (h : w.IsProper) : dropSign (signed negative w.text) = w.text := by
  cases negative with
  | true => rfl
  | false =>
    obtain ⟨c, rest, htext, hc⟩ := h.exists_cons
    show dropSign w.text = w.text
    rw [htext]
    exact Written.dropSign_of_isDigit hc

theorem isNegative_signed (h : w.IsProper) : isNegative (signed negative w.text) = negative := by
  cases negative with
  | true => rfl
  | false =>
    obtain ⟨c, rest, htext, hc⟩ := h.exists_cons
    show isNegative w.text = false
    rw [htext]
    exact Written.isNegative_of_isDigit hc

theorem withoutBreak_of_mem (h : ∀ c ∈ cs, c ∈ numberChars) : withoutBreak cs = cs := by
  rw [withoutBreak, if_neg]
  intro hlast
  have hlast : cs.getLast? = some '\n' := by simpa using hlast
  exact absurd (h _ (List.mem_of_getLast? hlast)) (by decide)

/-- A text of the characters of numbers is none of the words that stand for something else. -/
theorem plainTag_of_mem (hne : cs ≠ []) (h : ∀ c ∈ cs, c ∈ numberChars) :
    plainTag (String.ofList cs) =
      if isReal cs then .float else if isInteger cs then .int
      else if isTimestamp cs then .timestamp else .str := by
  have hforms : ∀ s ∈ boolForms ++ nullForms ++ markForms ++ ["<<", "="],
      s.toList = [] ∨ (s.toList.all fun c => decide (c ∈ numberChars)) = false := by decide
  have hword : ∀ s ∈ boolForms ++ nullForms ++ markForms ++ ["<<", "="], String.ofList cs ≠ s := by
    rintro s hs rfl
    rcases hforms _ hs with hnil | hnot
    · exact hne (by simpa using hnil)
    · have hall : ((String.ofList cs).toList.all fun c => decide (c ∈ numberChars)) = true :=
        List.all_iff_forall_prop.mpr fun c hc => h c (by simpa using hc)
      exact Bool.false_ne_true (hnot.symm.trans hall)
  have hbool : boolForms.contains (String.ofList cs) = false := by
    rw [List.contains_eq_mem, decide_eq_false_iff_not]
    exact fun hm => hword _ (by simp [hm]) rfl
  have hnull : nullForms.contains (String.ofList cs) = false := by
    rw [List.contains_eq_mem, decide_eq_false_iff_not]
    exact fun hm => hword _ (by simp [hm]) rfl
  have hmark : markForms.contains (String.ofList cs) = false := by
    rw [List.contains_eq_mem, decide_eq_false_iff_not]
    exact fun hm => hword _ (by simp [hm]) rfl
  have hempty : String.ofList cs ≠ "" := hword _ (by decide)
  have hmerge : String.ofList cs ≠ "<<" := hword _ (by decide)
  have hvalue : String.ofList cs ≠ "=" := hword _ (by decide)
  rw [plainTag, String.toList_ofList, withoutBreak_of_mem h]
  simp only [hbool, hnull, hmark, hempty, hmerge, hvalue, Bool.false_eq_true, and_false,
    or_self, if_false]

/-! Digits, and where they end. -/

theorem isDigitOf_of_isDigit {c : Char} (h : c.isDigit = true) : isDigitOf 10 c = true := by
  have hall : ∀ c ∈ numberChars, c.isDigit = true → isDigitOf 10 c = true :=
    List.all_iff_forall_prop.mp (by decide)
  exact hall c (mem_numberChars_of_isDigit h) h

theorem ne_of_isDigit {c x : Char} (h : c.isDigit = true) (hx : x.isDigit = false) : c ≠ x := by
  rintro rfl
  rw [h] at hx
  cases hx

theorem takeWhile_ne_point (h : w.IsProper) :
    w.text.takeWhile (· != '.') = if w.fraction.isSome then w.whole else w.text := by
  have hwhole : ∀ c ∈ w.whole, (c != '.') = true := fun c hc => by
    simpa using ne_of_isDigit (h.whole c hc) (by decide)
  have hexp : ∀ c ∈ w.exponentText, (c != '.') = true := by
    intro c hc
    rw [Written.exponentText] at hc
    split at hc
    · cases hc
    · rename_i neg ds he
      rcases List.mem_cons.mp hc with rfl | hc
      · decide
      rcases List.mem_cons.mp hc with rfl | hc
      · cases neg <;> decide
      · simpa using ne_of_isDigit ((h.exponent _ he).2 c hc) (by decide)
  rw [Written.text, List.takeWhile_append_of_pos hwhole, Written.fractionText]
  cases w.fraction with
  | none =>
    rw [List.nil_append, List.takeWhile_eq_self_iff.mpr hexp]
    rfl
  | some ds => simp

theorem isExponentTail_exponentText (h : w.IsProper) : isExponentTail w.exponentText = true := by
  rw [Written.exponentText]
  split
  · rfl
  · rename_i neg ds he
    obtain ⟨hne, hd⟩ := h.exponent _ he
    have hall : ds.all Char.isDigit = true := List.all_eq_true.mpr hd
    cases neg <;> simp [isExponentTail, hne, hall]

theorem dropWhile_isDigitOf {ds : List Char} (hd : ∀ c ∈ ds, c.isDigit = true) :
    (ds ++ w.exponentText).dropWhile (isDigitOf 10) = w.exponentText := by
  rw [List.dropWhile_append_of_pos fun c hc => isDigitOf_of_isDigit (hd c hc), Written.exponentText]
  split
  · rfl
  · rfl

/-- A number is a real one exactly if it has a point. -/
theorem isReal_signed (h : w.IsProper) : isReal (signed negative w.text) = w.fraction.isSome := by
  obtain ⟨c, rest, htext, hc⟩ := h.exists_cons
  have hpoint : ∀ x more, signed negative w.text ≠ '.' :: x :: more := by
    rintro x more heq
    cases negative with
    | true => cases heq
    | false =>
      have heq : w.text = '.' :: x :: more := heq
      rw [htext] at heq
      cases heq
      exact absurd hc (by decide)
  have hinf : [['.', 'i', 'n', 'f'], ['.', 'I', 'n', 'f'], ['.', 'I', 'N', 'F']].contains
      w.text = false := by
    rw [htext]
    have : c ≠ '.' := ne_of_isDigit hc (by decide)
    simp [this]
  have htake := takeWhile_ne_point h
  unfold isReal
  simp only
  rw [dropSign_signed h, hinf, htake]
  cases hf : w.fraction with
  | none => simp
  | some ds =>
    have hlt : w.whole.length < w.text.length := by
      rw [Written.text, Written.fractionText, hf, List.length_append]
      simp
    have hafter : w.text.drop (w.whole.length + 1) = ds ++ w.exponentText := by
      rw [Written.text, Written.fractionText, hf]
      simp [List.drop_append]
    have hwhole : isWhole true w.whole = true := by
      cases hw : w.whole with
      | nil => exact absurd hw h.whole_ne
      | cons c more =>
        have hmem : ∀ x ∈ c :: more, x.isDigit = true := hw ▸ h.whole
        have hall : more.all (isDigitOf 10) = true :=
          List.all_eq_true.mpr fun x hx => isDigitOf_of_isDigit (hmem x (List.mem_cons_of_mem c hx))
        simp [isWhole, hmem c List.mem_cons_self, hall]
    have htail : isFractionTail (ds ++ w.exponentText) = true := by
      rw [isFractionTail, dropWhile_isDigitOf (h.fraction ds hf).2]
      exact isExponentTail_exponentText h
    simp [hlt, hafter, hwhole, htail]

/-- A point or the mark of an exponent, behind the first digit. -/
theorem exists_mark (h : w.IsProper) (hmark : w.fraction.isSome = true ∨ w.exponent.isSome = true) :
    ∃ c rest x, w.text = c :: rest ∧ x ∈ rest ∧ (x = '.' ∨ x = 'e') := by
  have htail : ∃ x ∈ w.fractionText ++ w.exponentText, x = '.' ∨ x = 'e' := by
    rcases hmark with hf | he
    · obtain ⟨ds, hf⟩ := Option.isSome_iff_exists.mp hf
      exact ⟨'.', by simp [Written.fractionText, hf], Or.inl rfl⟩
    · obtain ⟨e, he⟩ := Option.isSome_iff_exists.mp he
      exact ⟨'e', by simp [Written.exponentText, he], Or.inr rfl⟩
  obtain ⟨x, hx, hmark⟩ := htail
  cases hw : w.whole with
  | nil => exact absurd hw h.whole_ne
  | cons c ds =>
    exact ⟨c, ds ++ (w.fractionText ++ w.exponentText), x, by rw [Written.text, hw]; rfl,
      List.mem_append_right ds hx, hmark⟩

/-- A number with a point or an exponent is no integer. -/
theorem isInteger_signed_of_mark (h : w.IsProper)
    (hmark : w.fraction.isSome = true ∨ w.exponent.isSome = true) :
    isInteger (signed negative w.text) = false := by
  obtain ⟨c, rest, x, htext, hx, hmark⟩ := exists_mark h hmark
  have hmem := h.mem_numberChars
  have hbase : ∀ base, base = 8 ∨ base = 10 → rest.all (isDigitOf base) = false := by
    intro base hb
    rw [← Bool.not_eq_true, List.all_eq_true]
    intro hall
    have := hall x hx
    rcases hb with rfl | rfl <;> rcases hmark with rfl | rfl <;> exact absurd this (by decide)
  rw [htext] at hmem
  have hcolon : (c :: rest).takeWhile (· != ':') = c :: rest := by
    rw [List.takeWhile_eq_self_iff]
    intro y hy
    have hne : ∀ y ∈ numberChars, (y != ':') = true := List.all_iff_forall_prop.mp (by decide)
    exact hne y (hmem y hy)
  unfold isInteger
  rw [dropSign_signed h, htext]
  split
  · rename_i heq
    cases heq
    exact absurd (hmem 'b' (by simp)) (by decide)
  · rename_i heq
    cases heq
    exact absurd (hmem 'x' (by simp)) (by decide)
  · rename_i heq
    cases heq
    cases hx
  · rename_i heq
    cases heq
    rw [areDigits, hbase 8 (Or.inl rfl), Bool.and_false]
  · simp only [hcolon]
    rw [isWhole, hbase 10 (Or.inr rfl), Bool.and_false, Bool.false_and]

/-! Integers. -/

/-- The digits of a number are written without a point and an exponent. -/
def digitsOf (n : Nat) : Written := ⟨Nat.toDigits 10 n, none, none⟩

theorem text_digitsOf (n : Nat) : (digitsOf n).text = Nat.toDigits 10 n := by
  simp [digitsOf, Written.text, Written.fractionText, Written.exponentText]

theorem isProper_digitsOf (n : Nat) : (digitsOf n).IsProper :=
  ⟨Nat.toDigits_ne_nil, Written.isDigit_toDigits n, by simp [digitsOf], by simp [digitsOf]⟩

/-- The text of an integer is a sign and the digits of its magnitude. -/
theorem toList_toString (i : Int) :
    (toString i).toList = signed (decide (i < 0)) (digitsOf i.natAbs).text := by
  rw [text_digitsOf, Int.toString_eq_repr]
  cases i with
  | ofNat n =>
    have hn : ¬(Int.ofNat n < 0) := by simp
    rw [decide_eq_false hn]
    exact Nat.toList_repr
  | negSucc n =>
    rw [decide_eq_true (Int.negSucc_lt_zero n), Int.repr, String.toList_append, Nat.toList_repr]
    rfl

/-- Only zero is written with a zero in front. -/
theorem toDigits_head (hn : 0 < n) : ∀ rest, Nat.toDigits 10 n ≠ '0' :: rest := by
  induction n using Nat.strong_induction_on with
  | _ n ih =>
    intro rest heq
    rcases Nat.lt_or_ge n 10 with hlt | hge
    · rw [Nat.toDigits_of_lt_base hlt] at heq
      have hdigit : n.digitChar = '0' := (List.cons.inj heq).1
      interval_cases n <;> exact absurd hdigit (by decide)
    · rw [Nat.toDigits_of_base_le (by norm_num) hge] at heq
      cases hd : Nat.toDigits 10 (n / 10) with
      | nil => exact Nat.toDigits_ne_nil hd
      | cons c more =>
        rw [hd] at heq
        obtain rfl : c = '0' := (List.cons.inj heq).1
        exact ih (n / 10) (by omega) (by omega) more hd

theorem isInteger_signed_digits (n : Nat) :
    isInteger (signed negative (digitsOf n).text) = true := by
  unfold isInteger
  rw [dropSign_signed (isProper_digitsOf n), text_digitsOf]
  rcases Nat.eq_zero_or_pos n with rfl | hn
  · rfl
  · have hhead := toDigits_head hn
    have hdigits := Written.isDigit_toDigits n
    have hcolon : (Nat.toDigits 10 n).takeWhile (· != ':') = Nat.toDigits 10 n := by
      rw [List.takeWhile_eq_self_iff]
      intro c hc
      simpa using ne_of_isDigit (hdigits c hc) (by decide)
    split
    · rename_i heq
      exact absurd heq (hhead _)
    · rename_i heq
      exact absurd heq (hhead _)
    · rfl
    · rename_i heq
      exact absurd heq (hhead _)
    · simp only [hcolon, beq_self_eq_true, Bool.true_or, Bool.and_true]
      cases hd : Nat.toDigits 10 n with
      | nil => exact absurd hd Nat.toDigits_ne_nil
      | cons c more =>
        have hc : c ≠ '0' := by
          rintro rfl
          exact hhead more hd
        have hmem : ∀ x ∈ c :: more, x.isDigit = true := hd ▸ hdigits
        have hall : more.all (isDigitOf 10) = true :=
          List.all_eq_true.mpr fun x hx => isDigitOf_of_isDigit (hmem x (List.mem_cons_of_mem c hx))
        simp [isWhole, hmem c List.mem_cons_self, hc, hall]

theorem plainTag_int (i : Int) : plainTag (toString i) = .int := by
  have hproper := isProper_digitsOf i.natAbs
  have hmem := signed_mem (decide (i < 0)) hproper.mem_numberChars
  have hne : signed (decide (i < 0)) (digitsOf i.natAbs).text ≠ [] := by
    obtain ⟨c, rest, htext, _⟩ := hproper.exists_cons
    rw [signed, htext]
    simp
  rw [← String.ofList_toList (s := toString i), toList_toString, plainTag_of_mem hne hmem,
    isReal_signed hproper, isInteger_signed_digits]
  rfl

theorem magnitudeOf_digits (hlen : (Nat.toDigits 10 n).length ≤ longestDecimal) :
    magnitudeOf (digitsOf n).text = .ok n := by
  rw [text_digitsOf]
  rcases Nat.eq_zero_or_pos n with rfl | hn
  · rfl
  · have hhead := toDigits_head hn
    have hdigits := Written.isDigit_toDigits n
    have hmem : ∀ c ∈ Nat.toDigits 10 n, c ∈ numberChars :=
      fun c hc => mem_numberChars_of_isDigit (hdigits c hc)
    have hcolon : (Nat.toDigits 10 n).contains ':' = false := by
      rw [List.contains_eq_mem, decide_eq_false_iff_not]
      exact fun hc => absurd (hdigits _ hc) (by decide)
    have hinteger : integer? 10 (Nat.toDigits 10 n) = some (n : Int) := by
      obtain ⟨c, rest, htext, hc⟩ := (isProper_digitsOf n).exists_cons
      rw [text_digitsOf] at htext
      have hsign : dropSign (Nat.toDigits 10 n) = Nat.toDigits 10 n := by
        rw [htext]
        exact Written.dropSign_of_isDigit hc
      have hpositive : isNegative (Nat.toDigits 10 n) = false := by
        rw [htext]
        exact Written.isNegative_of_isDigit hc
      have hbase : dropBaseMark 10 (Nat.toDigits 10 n) = Nat.toDigits 10 n := by
        unfold dropBaseMark
        split
        · rename_i heq
          exact absurd heq (hhead _)
        · rfl
      rw [integer?, plain_eq_self hmem, hsign, hbase, hpositive, if_neg (by omega),
        natural?_eq Nat.toDigits_ne_nil hdigits, Nat.ofDigitChars_ten_toDigits]
      rfl
    unfold magnitudeOf
    split
    · rename_i heq
      exact absurd heq Nat.toDigits_ne_nil
    · rename_i heq
      exact absurd heq (hhead _)
    · rename_i heq
      exact absurd heq (hhead _)
    · rename_i heq
      exact absurd heq (hhead _)
    · rename_i heq
      exact absurd heq (hhead _)
    · rw [hcolon, hinteger]
      rfl

theorem filter_underscore (h : ∀ c ∈ cs, c ∈ numberChars) : cs.filter (· != '_') = cs := by
  have hne : ∀ c ∈ numberChars, (c != '_') = true := List.all_iff_forall_prop.mp (by decide)
  exact List.filter_eq_self.mpr fun c hc => hne c (h c hc)

/-- An integer with a text has no more digits than are read. -/
theorem length_toDigits_of_hasText (h : (Scalar.int i).hasText = true) :
    (Nat.toDigits 10 i.natAbs).length ≤ longestDecimal := by
  rw [Scalar.hasText, decide_eq_true_iff, Nat.pow_eq] at h
  have hpos : 0 < longestInteger := by norm_num [longestInteger]
  have hlimit : longestDecimal = longestInteger := rfl
  rw [hlimit]
  generalize longestInteger = k at *
  exact (Nat.length_toDigits_le_iff (by norm_num) hpos).mpr h

/-- An integer with a text is read back. -/
theorem integerOf_toString (h : (Scalar.int i).hasText = true) :
    integerOf (toString i) = .ok i := by
  have hproper := isProper_digitsOf i.natAbs
  have hmem := signed_mem (decide (i < 0)) hproper.mem_numberChars
  have hempty : (signed (decide (i < 0)) (digitsOf i.natAbs).text).isEmpty = false := by
    obtain ⟨c, rest, htext, _⟩ := hproper.exists_cons
    rw [signed, htext]
    simp
  rw [integerOf, toList_toString, filter_underscore hmem, hempty, dropSign_signed hproper,
    magnitudeOf_digits (length_toDigits_of_hasText h), isNegative_signed hproper]
  clear h
  by_cases hi : i < 0
  · simp only [hi, decide_true]
    show Except.ok (-(i.natAbs : Int)) = .ok i
    congr 1
    omega
  · simp only [hi, decide_false]
    show Except.ok (i.natAbs : Int) = .ok i
    congr 1
    omega

/-! Doubles. -/

theorem toList_text (hfin : d.isFinite = true) :
    (NumberLayout.json.text d).toList = signed d.sign d.written.text := Double.text_eq_written hfin

/-- Whether a finite double is written with a point. -/
theorem mem_text_iff (hfin : d.isFinite = true) :
    '.' ∈ (NumberLayout.json.text d).toList ↔ d.written.fraction.isSome = true := by
  have hproper := d.isProper_written
  have hdigit : ∀ ds : List Char, (∀ c ∈ ds, c.isDigit = true) → '.' ∉ ds := fun ds hd hm =>
    absurd (hd _ hm) (by decide)
  have hexp : '.' ∉ d.written.exponentText := by
    rw [Written.exponentText]
    split
    · simp
    · rename_i negative ds he
      have := hdigit ds (hproper.exponent _ he).2
      cases negative <;> simp [this]
  have hsign : '.' ∈ signed d.sign d.written.text ↔ '.' ∈ d.written.text := by
    rw [signed]
    cases d.sign <;> simp
  rw [toList_text hfin, hsign, Written.text, Written.fractionText]
  cases hf : d.written.fraction with
  | none => simp [hdigit _ hproper.whole, hexp]
  | some ds => simp

/-- A double without a point has one digit and an exponent. -/
theorem whole_of_fraction_eq_none (hf : d.written.fraction = none) :
    d.written.whole.length ≤ 1 ∧ d.written.exponent.isSome = true := by
  rw [Double.written] at hf ⊢
  split at hf
  · cases hf
  · rename_i hz
    rw [if_neg hz]
    rw [Written.ofDigits] at hf ⊢
    split at hf
    · split at hf
      · cases hf
      · split at hf <;> cases hf
    · rename_i hrange
      rw [if_neg hrange]
      exact ⟨by simp, rfl⟩

/-- What starts with fewer than four digits is no timestamp. -/
theorem isTimestamp_signed (h : w.IsProper) (hlen : w.whole.length ≤ 1) :
    isTimestamp (signed negative w.text) = false := by
  have hrun : (digitRun (signed negative w.text)).1.length ≤ 1 := by
    cases negative with
    | true =>
      show (('-' :: w.text).takeWhile Char.isDigit).length ≤ 1
      rw [List.takeWhile_cons_of_neg (by decide)]
      exact Nat.zero_le 1
    | false =>
      show (digitRun w.text).1.length ≤ 1
      rw [Written.text, digitRun_append h.whole w.tail_head]
      exact hlen
  have hyear : digitsOf? 4 4 (signed negative w.text) = none := by
    have hsplit : ∀ cs, digitsOf? 4 4 cs =
        if 4 ≤ (digitRun cs).1.length ∧ (digitRun cs).1.length ≤ 4 then some (digitRun cs)
          else none := fun _ => rfl
    rw [hsplit, if_neg (by omega)]
  rw [isTimestamp, stamp?, withoutBreak_of_mem (signed_mem _ h.mem_numberChars), hyear]
  rfl

theorem ofList_text (hfin : d.isFinite = true) :
    NumberLayout.json.text d = String.ofList (signed d.sign d.written.text) := by
  rw [← toList_text hfin, String.ofList_toList]

/-- A double is recognised by its point, and is a text without one. -/
theorem plainTag_float (hfin : d.isFinite = true) :
    plainTag (NumberLayout.json.text d) =
      if '.' ∈ (NumberLayout.json.text d).toList then .float else .str := by
  have hproper := d.isProper_written
  have hmem := signed_mem d.sign hproper.mem_numberChars
  have hne : signed d.sign d.written.text ≠ [] := by
    obtain ⟨c, rest, htext, _⟩ := hproper.exists_cons
    rw [signed, htext]
    simp
  simp only [mem_text_iff hfin]
  rw [ofList_text hfin, plainTag_of_mem hne hmem, isReal_signed hproper]
  split
  · rfl
  · rename_i hf
    obtain ⟨hlen, hexp⟩ := whole_of_fraction_eq_none (Option.not_isSome_iff_eq_none.mp hf)
    rw [isInteger_signed_of_mark hproper (Or.inr hexp), isTimestamp_signed hproper hlen]
    rfl

/-- A double is read back from its text, its sign included. -/
theorem realOf_text (hfin : d.isFinite = true) (mark : Nat) :
    realOf mark (NumberLayout.json.text d) = .ok d := by
  have hproper := d.isProper_written
  have hmem := signed_mem d.sign hproper.mem_numberChars
  obtain ⟨c, rest, htext, hc⟩ := hproper.exists_cons
  have hempty : (signed d.sign d.written.text).isEmpty = false := by
    rw [signed, htext]
    simp
  have hcolon : d.written.text.contains ':' = false := by
    rw [List.contains_eq_mem, decide_eq_false_iff_not]
    exact fun hm => absurd (hproper.mem_numberChars _ hm) (by decide)
  have hname : ∀ name : List Char, (∃ t, name = '.' :: t) → d.written.text ≠ name := by
    rintro _ ⟨t, rfl⟩ heq
    rw [htext] at heq
    cases heq
    exact absurd hc (by decide)
  have hnan : d.written.text ≠ ".nan".toList := hname _ ⟨"nan".toList, rfl⟩
  have hinf : d.written.text ≠ ".inf".toList := hname _ ⟨"inf".toList, rfl⟩
  have hpositive : (Double.ofFields false (d.bits.toNat % Nat.pow 2 63)).isNaN = false := by
    rw [Double.isNaN_ofFields_bits, Double.isNaN_of_isFinite hfin]
  rw [realOf, toList_text hfin, filter_underscore hmem, map_toLower_eq_self hmem, hempty,
    dropSign_signed hproper, isNegative_signed hproper]
  simp only [hnan, hinf, hcolon, Bool.false_eq_true, if_false,
    Double.real?_written hfin, orBadNumber]
  simp only [bind, Except.bind, hpositive, Bool.false_eq_true, if_false]
  cases hs : d.sign with
  | true =>
    rw [if_pos rfl, Double.negate_ofFields hs]
    rfl
  | false =>
    rw [if_neg (by simp), ← hs, Double.ofFields_bits]
    rfl

end ResolverHooks.Yaml
