import ResolverHooks.Document.Shape
import ResolverHooks.Proofs.Document.Checked
import ResolverHooks.Proofs.Document.Table
import ResolverHooks.Proofs.Text.FileReader

/-! What the checks of a form's fields accept. -/
namespace ResolverHooks

theorem Text.decode?_eq_some_iff {bs : List UInt8} {s : String} :
    decode? bs = some s ↔ bs = encode s := by
  have hencode : bs = encode s ↔ (⟨bs.toArray⟩ : ByteArray) = s.toByteArray := by
    rw [encode, byteArray_toList, ByteArray.ext_iff, ← Array.toList_inj, String.toUTF8]
  rw [hencode, decode?, String.fromUTF8?]
  constructor
  · intro h
    split at h
    · obtain rfl := Option.some.inj h
      rfl
    · cases h
  · intro h
    have hvalid : ByteArray.IsValidUTF8 ⟨bs.toArray⟩ := h ▸ s.isValidUTF8
    rw [dif_pos hvalid]
    exact congrArg some (String.toByteArray_inj.mp h)

namespace Value

theorem isNull_iff {v : Value} : v.isNull = true ↔ v = .null := by
  cases v with
  | scalar k => cases k <;> simp [isNull]
  | _ => simp [isNull]

/-- A text, or the bytes of its UTF-8 form. -/
inductive IsText : Value → String → Prop
  | itself (s : String) : IsText (.str s) s
  | encoded {bs : List UInt8} {s : String} : bs = Text.encode s → IsText (.scalar (.bytes bs)) s

/-- The words for a truth value. -/
def words (b : Bool) : List String := if b then Schema.trueWords else Schema.falseWords

/-- A word for a truth value, in any case. -/
def IsWord (s : String) (b : Bool) : Prop := String.ofList (s.toList.map Char.toLower) ∈ words b

/-- A value that stands for a truth value: that value itself, the number one or zero, or a word for
it. -/
inductive Says (b : Bool) : Value → Prop
  | truth : Says b (.bool b)
  | whole : Says b (.int b.toInt)
  | real {d : Double} : d.toInt? = some b.toInt → Says b (.float d)
  | word {v : Value} {s : String} : v.IsText s → IsWord s b → Says b v

end Value

theorem Checked.fst_both_eq_ok_iff {α : Type} {c : Checked α} {d : Checked Unit} {a : α} :
    (c.both d).map Prod.fst = .ok a ↔ c = .ok a ∧ d = .ok () := by
  cases c <;> cases d <;> simp [both, Except.map]

namespace Schema

variable {v : Value} {s : String} {b : Bool}

theorem text_eq_ok_iff : text v = .ok s ↔ v.IsText s := by
  constructor
  · intro h
    cases v with
    | scalar k =>
      cases k with
      | str s' =>
        obtain rfl := Except.ok.inj h
        exact .itself s'
      | bytes bs =>
        rw [text, textOf] at h
        split at h
        · rename_i hbs
          obtain rfl := Except.ok.inj h
          exact .encoded (Text.decode?_eq_some_iff.mp hbs)
        · cases h
      | _ => cases h
    | _ => cases h
  · intro h
    cases h with
    | itself => rfl
    | encoded h => rw [text, textOf, Text.decode?_eq_some_iff.mpr h]

theorem nonEmptyText_eq_ok_iff : nonEmptyText v = .ok s ↔ v.IsText s ∧ s ≠ "" := by
  rw [nonEmptyText, bind_eq_ok_iff]
  simp only [text_eq_ok_iff]
  constructor
  · rintro ⟨s', hs', h⟩
    split at h
    · cases h
    · obtain rfl := Except.ok.inj h
      exact ⟨hs', by assumption⟩
  · rintro ⟨hs, hne⟩
    exact ⟨s, hs, if_neg hne⟩

theorem flagOfWord_eq_ok_iff : flagOfWord s = .ok b ↔ Value.IsWord s b := by
  have hapart : ∀ w ∈ falseWords, w ∉ trueWords := by decide
  rw [flagOfWord, Value.IsWord]
  generalize String.ofList (s.toList.map Char.toLower) = word
  by_cases ht : word ∈ trueWords <;> by_cases hf : word ∈ falseWords
  · exact absurd ht (hapart word hf)
  · cases b <;> simp [Value.words, ht, hf]
  · cases b <;> simp [Value.words, ht, hf]
  · cases b <;> simp [Value.words, ht, hf, Checked.fail]

theorem flagOfNumber_eq_ok_iff {i : Int} : flagOfNumber i = .ok b ↔ i = b.toInt := by
  have hfail {rule : Rule} : (Checked.fail rule : Checked Bool) ≠ .ok b := error_ne_ok
  rw [flagOfNumber]
  by_cases h0 : i = 0
  · subst h0
    cases b <;> simp
  · by_cases h1 : i = 1
    · subst h1
      cases b <;> simp
    · rw [if_neg h0, if_neg h1]
      have hneither : i ≠ b.toInt := by cases b <;> assumption
      refine iff_of_false ?_ hneither
      split <;> exact hfail

theorem flag_eq_ok_iff : flag v = .ok b ↔ v.Says b := by
  constructor
  · intro h
    cases v with
    | scalar k =>
      cases k with
      | bool b' =>
        obtain rfl := Except.ok.inj h
        exact .truth
      | int i =>
        obtain rfl := flagOfNumber_eq_ok_iff.mp h
        exact .whole
      | float d =>
        rw [flag] at h
        split at h
        · rename_i hd
          obtain rfl := Except.ok.inj h
          exact .real hd
        · rename_i hd
          obtain rfl := Except.ok.inj h
          exact .real hd
        · cases h
      | str s => exact .word (.itself s) (flagOfWord_eq_ok_iff.mp h)
      | bytes bs =>
        rw [flag] at h
        split at h
        · rename_i hbs
          exact .word (.encoded (Text.decode?_eq_some_iff.mp hbs)) (flagOfWord_eq_ok_iff.mp h)
        · cases h
      | _ => cases h
    | _ => cases h
  · intro h
    cases h with
    | truth => rfl
    | whole => exact flagOfNumber_eq_ok_iff.mpr rfl
    | real hd =>
      rw [flag, hd]
      cases b <;> rfl
    | word hv hs =>
      cases hv with
      | itself => exact flagOfWord_eq_ok_iff.mpr hs
      | encoded hbs =>
        rw [flag, Text.decode?_eq_some_iff.mpr hbs]
        exact flagOfWord_eq_ok_iff.mpr hs

end Schema

namespace Entries

/-- What is written under a name, unless it is null. -/
def given? (name : String) (es : List (Scalar × Value)) : Option Value :=
  (find? (.str name) es).filter (!·.isNull)

theorem isNull_of_given? {name : String} {es : List (Scalar × Value)} {v : Value}
    (h : given? name es = some v) :
    v.isNull = false := by
  obtain ⟨_, hv⟩ := Option.filter_eq_some_iff.mp h
  simpa using hv

/-- The entries under no name of a form. -/
def others (names : List String) (es : List (Scalar × Value)) : List (Scalar × Value) :=
  es.filter fun e => decide (∀ n ∈ names, e.1 ≠ .str n)

end Entries

namespace Schema

variable {α : Type} {es es' : List (Scalar × Value)} {name : String} {names : List String}
    {absent : Checked α}
  {check : Value → Checked α} {a : α}

theorem form_eq_ok_iff {v : Value} : form name v = .ok es ↔ v.entries = .ok es := by
  cases v with
  | map es' => rw [form, Value.entries, Except.ok.injEq, Except.ok.injEq]
  | _ => exact iff_of_false error_ne_ok error_ne_ok

/-- A field that must be there. -/
theorem field_required_eq_ok_iff {rule : Rule} : field es name (.fail rule) check = .ok a ↔
    ∃ v, Entries.find? (.str name) es = some v ∧ check v = .ok a := by
  rw [field, Checked.at_eq_ok_iff]
  cases Entries.find? (.str name) es with
  | none => exact iff_of_false error_ne_ok (by rintro ⟨_, ⟨⟩, _⟩)
  | some v => simp

/-- A field for which null says the same as nothing. -/
theorem field_eq_given {check' : Value → Checked α} (hnull : check .null = absent)
    (hcheck : ∀ v, v.isNull = false → check v = check' v) : field es name absent check =
      Checked.at_ (.name name) (((Entries.given? name es).map check').getD absent) := by
  rw [field, Entries.given?]
  cases Entries.find? (.str name) es with
  | none => rfl
  | some v =>
    cases hv : v.isNull with
    | true =>
      obtain rfl : v = .null := Value.isNull_iff.mp hv
      exact congrArg _ hnull
    | false =>
      have hkept : (some v).filter (!·.isNull) = some v := by simp [hv]
      rw [hkept]
      exact congrArg _ (hcheck v hv)

/-- Such a field is in order if it is not given, or if what is given is in order. -/
theorem given_eq_ok_iff {step : Step} {a₀ : α} :
    Checked.at_ step (((Entries.given? name es).map check).getD (.ok a₀)) = .ok a ↔
      Entries.given? name es = none ∧ a = a₀ ∨ ∃ v, Entries.given? name es = some v ∧
        check v = .ok a := by
  rw [Checked.at_eq_ok_iff]
  cases Entries.given? name es with
  | none => simp [eq_comm]
  | some v => simp

theorem exists_given_iff {step : Step} {a₀ : α} :
    (∃ a, Checked.at_ step (((Entries.given? name es).map check).getD (.ok a₀)) = .ok a) ↔
      ∀ v, Entries.given? name es = some v → ∃ a, check v = .ok a := by
  simp only [given_eq_ok_iff]
  cases Entries.given? name es with
  | none => simp
  | some v => simp

/-- What is said against a key, if it is none of the names. -/
def refusal? (names : List String) : Scalar → Option (Checked Unit)
  | .str s => if names.contains s then none else some (Checked.at_ (.name s) (.fail .noOther))
  | k => some (Checked.at_ (Step.ofKey k) (.fail .textKey))

theorem noOther_eq (names : List String) (es : List (Scalar × Value)) : noOther names es =
    (Checked.all (es.filterMap fun e => refusal? names e.1)).map fun (_ : List Unit) => () := rfl

theorem refusal?_eq_none_iff {k : Scalar} : refusal? names k = none ↔ ∃ n ∈ names, k = .str n := by
  cases k with
  | str s => simp [refusal?]
  | _ => exact iff_of_false (fun h => nomatch h) (by rintro ⟨_, _, ⟨⟩⟩)

theorem refusal?_isError {k : Scalar} {c : Checked Unit} (h : refusal? names k = some c) :
    ∃ ps, c = .error ps := by
  cases k with
  | str s =>
    rw [refusal?] at h
    split at h
    · cases h
    · exact ⟨_, (Option.some.inj h).symm⟩
  | _ => exact ⟨_, (Option.some.inj h).symm⟩

theorem noOther_eq_ok_iff : noOther names es = .ok () ↔ ∀ e ∈ es, ∃ n ∈ names, e.1 = .str n := by
  have hnone : es.filterMap (fun e => refusal? names e.1) = [] ↔
      ∀ e ∈ es, ∃ n ∈ names, e.1 = .str n := by
    simp only [List.filterMap_eq_nil_iff, refusal?_eq_none_iff]
  rw [noOther_eq, ← hnone]
  constructor
  · intro h
    cases hcs : es.filterMap (fun e => refusal? names e.1) with
    | nil => rfl
    | cons c cs =>
      have hc : c ∈ es.filterMap (fun e => refusal? names e.1) := hcs ▸ List.mem_cons_self
      obtain ⟨e, _, he⟩ := List.mem_filterMap.mp hc
      obtain ⟨ps, rfl⟩ := refusal?_isError he
      rw [hcs, Checked.all] at h
      cases hrest : Checked.all cs with
      | ok _ =>
        rw [hrest] at h
        cases h
      | error _ =>
        rw [hrest] at h
        cases h
  · intro h
    rw [h]
    rfl

/-- What is said of other entries is said of their keys alone. -/
theorem noOther_congr (h : Entries.others names es = Entries.others names es') :
    noOther names es = noOther names es' := by
  have hothers (es : List (Scalar × Value)) : es.filterMap (fun e => refusal? names e.1) =
      (Entries.others names es).filterMap fun e => refusal? names e.1 := by
    rw [Entries.others, List.filterMap_filter]
    refine List.filterMap_congr fun e _ => ?_
    split
    · rfl
    · rename_i hkey
      rw [refusal?_eq_none_iff]
      simpa using hkey
  rw [noOther_eq, noOther_eq, hothers es, hothers es', h]

end Schema

end ResolverHooks
