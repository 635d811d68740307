import Mathlib.Data.Bool.AllAny
import ResolverHooks.Document.Json
import ResolverHooks.Document.Table
import ResolverHooks.Proofs.Yaml.Scalar

/-!
Values that have a JSON text, and the text itself: visible ASCII on lines of its own. What a reader
that asks for points in its numbers makes of the text differs from the value in the doubles that are
written without one.
-/
namespace ResolverHooks

open Text (lowerDigit fixedHex)

/-- Characters of one unit of sixteen bits. -/
def IsBasic (c : Char) : Prop := c.toNat < 0x10000

instance : DecidablePred IsBasic := fun c => inferInstanceAs (Decidable (c.toNat < 0x10000))

/-- A text of such characters. -/
def IsBasicText (s : String) : Prop := ∀ c ∈ s.toList, IsBasic c

instance : DecidablePred IsBasicText := fun s => List.decidableBAll IsBasic s.toList

/-- Whether a double is written with a point. -/
def Double.hasPoint (d : Double) : Bool := (NumberLayout.json.text d).toList.contains '.'

namespace Scalar

/-- Scalars of JSON documents: no double that is infinite or no number. -/
def IsData : Scalar → Prop
  | .null | .bool _ | .int _ => True
  | .float d => d.isFinite = true
  | .str s => IsBasicText s
  | .date _ | .moment _ | .bytes _ => False

/-- Those that have a JSON text: no integer of too many digits. -/
def IsJson : Scalar → Prop
  | .null | .bool _ => True
  | .int i => (Scalar.int i).hasText = true
  | .float d => d.isFinite = true
  | .str s => IsBasicText s
  | .date _ | .moment _ | .bytes _ => False

theorem IsData.isJson {s : Scalar} (h : s.IsData) (ht : s.hasText = true) : s.IsJson := by
  cases s with
  | int i => exact ht
  | _ => exact h

/-- What a scalar says, without the quotes of a text. -/
def written : Scalar → String
  | .null => "null"
  | .bool b => if b then "true" else "false"
  | .int i => toString i
  | .float d => NumberLayout.json.text d
  | .str s => s
  | .date _ | .moment _ | .bytes _ => ""

/-- Whether a scalar is written between quotes. -/
def isQuoted : Scalar → Bool
  | .str _ => true
  | _ => false

/-- The scalar that is read in place of one: a double without a point is a text. -/
def reread : Scalar → Scalar
  | .float d => if d.hasPoint then .float d else .str (NumberLayout.json.text d)
  | s => s

/-- Whether a scalar is a number that shows what it is. -/
def isPlainlyReal : Scalar → Bool
  | .float d => d.hasPoint
  | _ => true

/-- Whether a key with its quotes is no longer than a simple key can be. -/
def isShortKey : Scalar → Bool
  | .str k => decide ((Json.quote k).length ≤ 1024)
  | _ => true

theorem reread_eq_iff {s : Scalar} : s.reread = s ↔ s.isPlainlyReal = true := by
  cases s with
  | float d =>
    rw [reread, isPlainlyReal]
    cases d.hasPoint <;> simp
  | _ => simp [reread, isPlainlyReal]

end Scalar

namespace Value

mutual

/-- Whether all scalars of a value and all keys in it have properties. -/
def allScalars (p q : Scalar → Bool) : Value → Bool
  | .scalar s => p s
  | .seq items => allItems p q items
  | .map entries => allEntries p q entries
  | .set _ | .pair _ _ | .enclosing _ => true

def allItems (p q : Scalar → Bool) : List Value → Bool
  | [] => true
  | x :: xs => allScalars p q x && allItems p q xs

def allEntries (p q : Scalar → Bool) : List (Scalar × Value) → Bool
  | [] => true
  | (k, v) :: es => q k && allScalars p q v && allEntries p q es

end

mutual

/-- The value that is read in place of one. -/
def reread : Value → Value
  | .scalar s => .scalar s.reread
  | .seq items => .seq (rereadItems items)
  | .map entries => .map (rereadEntries entries)
  | v => v

def rereadItems : List Value → List Value
  | [] => []
  | x :: xs => reread x :: rereadItems xs

def rereadEntries : List (Scalar × Value) → List (Scalar × Value)
  | [] => []
  | (k, v) :: es => (k, reread v) :: rereadEntries es

end

section

variable {p q : Scalar → Bool} {items : List Value} {entries : List (Scalar × Value)}

theorem allItems_eq : allItems p q items = items.all (allScalars p q) := by
  induction items with
  | nil => rfl
  | cons x xs ih => rw [allItems, List.all_cons, ih]

theorem allEntries_eq :
    allEntries p q entries = entries.all fun e => q e.1 && allScalars p q e.2 := by
  induction entries with
  | nil => rfl
  | cons e es ih => rw [allEntries, List.all_cons, ih]

theorem haveText_eq : haveText items = items.all hasText := by
  induction items with
  | nil => rfl
  | cons x xs ih => rw [haveText, List.all_cons, ih]

theorem haveTexts_eq : haveTexts entries = entries.all fun e => e.1.hasText && hasText e.2 := by
  induction entries with
  | nil => rfl
  | cons e es ih => rw [haveTexts, List.all_cons, ih]

theorem haveFiniteValues_eq : haveFiniteValues entries = entries.all fun e => e.2.isFinite := by
  induction entries with
  | nil => rfl
  | cons e es ih => rw [haveFiniteValues, List.all_cons, ih]

theorem rereadItems_eq (items : List Value) : rereadItems items = items.map reread := by
  induction items with
  | nil => rfl
  | cons x xs ih => rw [rereadItems, List.map_cons, ih]

theorem rereadEntries_eq (entries : List (Scalar × Value)) :
    rereadEntries entries = entries.map fun e => (e.1, reread e.2) := by
  induction entries with
  | nil => rfl
  | cons e es ih => rw [rereadEntries, List.map_cons, ih]

end

/-- Whether every double is written with a point. -/
def isPlainlyReal : Value → Bool := allScalars Scalar.isPlainlyReal fun _ => true

/-- Whether every key may be a simple key. -/
def hasShortKeys : Value → Bool := allScalars (fun _ => true) Scalar.isShortKey

/-- Values of JSON documents: finite, of scalars with a property, and with texts for keys. -/
inductive IsDocument (p : Scalar → Prop) : Value → Prop where
  | scalar {s : Scalar} : p s → IsDocument p (.scalar s)
  | seq {items : List Value} : (∀ v ∈ items, IsDocument p v) → IsDocument p (.seq items)
  | map {entries : List (Scalar × Value)} : (∀ e ∈ entries, ∃ k, e.1 = .str k ∧ IsBasicText k) →
      (Entries.keyList entries).Nodup → (∀ e ∈ entries, IsDocument p e.2) →
      IsDocument p (.map entries)

/-- Values with a JSON text. -/
abbrev IsJson : Value → Prop := IsDocument Scalar.IsJson

/-- A document has a JSON text unless one of its integers has too many digits. -/
theorem IsDocument.isJson {v : Value} (h : v.IsDocument Scalar.IsData) (ht : v.hasText = true) :
    v.IsJson := by
  induction h with
  | scalar hs => exact .scalar (hs.isJson ht)
  | seq _ ih =>
    rw [hasText, haveText_eq, List.all_eq_true] at ht
    exact .seq fun v hv => ih v hv (ht v hv)
  | map hkeys hnodup _ ih =>
    rw [hasText, haveTexts_eq, List.all_eq_true] at ht
    exact .map hkeys hnodup fun e he => ih e he (Bool.and_eq_true_iff.mp (ht e he)).2

/-- What is read is the value itself exactly if its doubles show what they are. -/
theorem IsJson.reread_eq_iff {v : Value} (h : v.IsJson) :
    v.reread = v ↔ v.isPlainlyReal = true := by
  induction h with
  | scalar hs => simp [reread, isPlainlyReal, allScalars, Scalar.reread_eq_iff]
  | seq h ih =>
    rename_i items
    have hitems : items.map reread = items ↔ ∀ v ∈ items, v.reread = v := by
      simpa using List.map_eq_map_iff (f := reread) (g := id) (l := items)
    rw [reread, rereadItems_eq, Value.seq.injEq, hitems, isPlainlyReal, allScalars, allItems_eq,
      List.all_eq_true]
    exact ⟨fun hr v hv => (ih v hv).mp (hr v hv), fun hp v hv => (ih v hv).mpr (hp v hv)⟩
  | map hkeys hnodup h ih =>
    rename_i entries
    have hentries : entries.map (fun e => (e.1, reread e.2)) = entries ↔
        ∀ e ∈ entries, e.2.reread = e.2 := by
      simpa [Prod.ext_iff] using
        List.map_eq_map_iff (f := fun e : Scalar × Value => (e.1, reread e.2)) (g := id)
          (l := entries)
    rw [reread, rereadEntries_eq, Value.map.injEq, hentries, isPlainlyReal, allScalars,
      allEntries_eq, List.all_eq_true]
    simp only [Bool.true_and]
    exact ⟨fun hr e he => (ih e he).mp (hr e he), fun hp e he => (ih e he).mpr (hp e he)⟩

/-- A value with a JSON text does not contain itself. -/
theorem IsJson.isFinite {v : Value} (h : v.IsJson) : v.reread.isFinite = true := by
  induction h with
  | scalar _ => rfl
  | seq h ih =>
    rename_i items
    rw [reread, Value.isFinite]
    clear h
    induction items with
    | nil => rfl
    | cons x xs ihs =>
      rw [rereadItems, areFinite, ih x List.mem_cons_self, ihs fun v hv =>
        ih v (List.mem_cons_of_mem x hv)]
      rfl
  | map _ _ h ih =>
    rename_i entries hkeys hnodup
    rw [reread, Value.isFinite]
    clear h hkeys hnodup
    induction entries with
    | nil => rfl
    | cons e es ihs =>
      rw [rereadEntries, haveFiniteValues, ih e List.mem_cons_self,
        ihs fun e' he => ih e' (List.mem_cons_of_mem e he)]
      rfl

end Value

namespace Json

variable {v : Value} {s : Scalar} {c : Char} {cs : List Char} {ts : List (List Char)}
    {depth n : Nat}
  {items : List Value} {entries : List (Scalar × Value)}

/-- Characters that a JSON text has between its line breaks. -/
def IsVisible (c : Char) : Prop := 0x20 ≤ c.toNat ∧ c.toNat ≤ 0x7E

instance : DecidablePred IsVisible := fun c =>
  inferInstanceAs (Decidable (0x20 ≤ c.toNat ∧ c.toNat ≤ 0x7E))

theorem isVisible_fixedHex (width n : Nat) : ∀ c ∈ fixedHex lowerDigit width n, IsVisible c := by
  have hdigit : ∀ d < 16, IsVisible (lowerDigit d) := by decide
  induction width generalizing n with
  | zero => exact fun c hc => absurd hc List.not_mem_nil
  | succ width ih =>
    intro c hc
    rw [fixedHex] at hc
    rcases List.mem_append.mp hc with hc | hc
    · exact ih _ c hc
    · obtain rfl := List.mem_singleton.mp hc
      exact hdigit _ (Nat.mod_lt _ (by decide))

theorem isVisible_unitEscape (n : Nat) : ∀ c ∈ unitEscape n, IsVisible c := by
  intro c hc
  rcases List.mem_cons.mp hc with rfl | hc
  · decide
  rcases List.mem_cons.mp hc with rfl | hc
  · decide
  · exact isVisible_fixedHex 4 n c hc

theorem isVisible_escapeChar (d : Char) : ∀ c ∈ escapeChar d, IsVisible c := by
  have hpair : ∀ e : Char, IsVisible e → ∀ c ∈ ['\\', e], IsVisible c := by
    intro e he c hc
    rcases List.mem_cons.mp hc with rfl | hc
    · decide
    · exact List.mem_singleton.mp hc ▸ he
  rw [escapeChar]
  split
  · exact hpair '"' (by decide)
  split
  · exact hpair '\\' (by decide)
  split
  · exact hpair 'n' (by decide)
  split
  · exact hpair 'r' (by decide)
  split
  · exact hpair 't' (by decide)
  split
  · exact hpair 'b' (by decide)
  split
  · exact hpair 'f' (by decide)
  split
  · rename_i hv
    exact fun c hc => List.mem_singleton.mp hc ▸ hv
  split
  · exact isVisible_unitEscape _
  · intro c hc
    rcases List.mem_append.mp hc with hc | hc
    · exact isVisible_unitEscape _ c hc
    · exact isVisible_unitEscape _ c hc

theorem isVisible_quote (s : String) : ∀ c ∈ quote s, IsVisible c := by
  intro c hc
  rcases List.mem_cons.mp hc with rfl | hc
  · decide
  rcases List.mem_append.mp hc with hc | hc
  · obtain ⟨d, _, hc⟩ := List.mem_flatMap.mp hc
    exact isVisible_escapeChar d c hc
  · obtain rfl := List.mem_singleton.mp hc
    decide

/-! What the text of a value is made of. -/

/-- The text of a scalar. -/
def spelling (s : Scalar) : List Char := if s.isQuoted then quote s.written else s.written.toList

theorem scalar_eq (h : s.IsJson) : scalar s = .ok (spelling s) := by
  cases s with
  | null => rfl
  | bool b => cases b <;> rfl
  | int i =>
    rw [scalar, if_pos (show (Scalar.int i).hasText = true from h)]
    rfl
  | float d => rfl
  | str s => rfl
  | date d => cases h
  | moment m => cases h
  | bytes bs => cases h

theorem itemTexts_cons : itemTexts depth (v :: items) = .ok ts ↔
    ∃ t us, chars depth v = .ok t ∧ itemTexts depth items = .ok us ∧ ts = t :: us := by
  rw [itemTexts]
  cases chars depth v with
  | error f => simp [bind, Except.bind]
  | ok t =>
    cases itemTexts depth items with
    | error f => simp [bind, Except.bind]
    | ok us => simp [bind, Except.bind, pure, Except.pure, eq_comm]

theorem itemTexts_iff :
    itemTexts depth items = .ok ts ↔ List.Forall₂ (fun v t => chars depth v = .ok t) items ts := by
  induction items generalizing ts with
  | nil => simp [itemTexts, eq_comm]
  | cons x xs ih => simp only [itemTexts_cons, List.forall₂_cons_left_iff, ih]

/-- The text of an entry. -/
def Enters (depth : Nat) (e : Scalar × Value) (t : List Char) : Prop :=
  ∃ x y, key e.1 = .ok x ∧ chars depth e.2 = .ok y ∧ t = x ++ (':' :: ' ' :: y)

theorem entryTexts_cons {e : Scalar × Value} : entryTexts depth (e :: entries) = .ok ts ↔
    ∃ t us, Enters depth e t ∧ entryTexts depth entries = .ok us ∧ ts = t :: us := by
  rw [entryTexts]
  simp only [Enters]
  cases key e.1 with
  | error f => simp [bind, Except.bind]
  | ok x =>
    cases chars depth e.2 with
    | error f => simp [bind, Except.bind]
    | ok y =>
      cases entryTexts depth entries with
      | error f => simp [bind, Except.bind]
      | ok us => simp [bind, Except.bind, pure, Except.pure, eq_comm]

theorem entryTexts_iff :
    entryTexts depth entries = .ok ts ↔ List.Forall₂ (Enters depth) entries ts := by
  induction entries generalizing ts with
  | nil => simp [entryTexts, eq_comm]
  | cons e es ih => simp only [entryTexts_cons, List.forall₂_cons_left_iff, ih]

theorem chars_seq : chars depth (.seq items) = .ok cs ↔
    ∃ ts, List.Forall₂ (fun v t => chars (depth + 1) v = .ok t) items ts ∧
      enclose '[' ']' depth ts = cs := by
  simp only [← itemTexts_iff]
  rw [chars]
  cases itemTexts (depth + 1) items with
  | error f => simp [bind, Except.bind]
  | ok ts => simp [bind, Except.bind, pure, Except.pure]

theorem chars_map : chars depth (.map entries) = .ok cs ↔
    ∃ ts, List.Forall₂ (Enters (depth + 1)) entries ts ∧ enclose '\x7b' '\x7d' depth ts = cs := by
  simp only [← entryTexts_iff]
  rw [chars]
  cases entryTexts (depth + 1) entries with
  | error f => simp [bind, Except.bind]
  | ok ts => simp [bind, Except.bind, pure, Except.pure]

/-- Members stand behind a line break each, all but the first also behind a comma. -/
theorem enclose_cons (o c : Char) (depth : Nat) (t : List Char) (ts : List (List Char)) :
    enclose o c depth (t :: ts) =
      o :: (newline (depth + 1) ++ (t ++ ((ts.flatMap fun t => ',' :: (newline (depth + 1) ++ t)) ++
        (newline depth ++ [c])))) := by
  have hjoin : List.intercalate (',' :: newline (depth + 1)) (t :: ts) =
      t ++ ts.flatMap fun t => ',' :: (newline (depth + 1) ++ t) := by
    induction ts generalizing t with
    | nil => simp [List.intercalate]
    | cons u us ih =>
      rw [List.flatMap_cons, List.intercalate_cons_cons, ih]
      simp
  rw [enclose, hjoin]
  simp

/-- A value with a JSON text has one at every depth. -/
theorem exists_chars (h : v.IsJson) (depth : Nat) : ∃ cs, chars depth v = .ok cs := by
  induction h generalizing depth with
  | scalar hs => exact ⟨_, scalar_eq hs⟩
  | seq h ih =>
    rename_i items
    have htexts : ∃ ts, List.Forall₂ (fun v t => chars (depth + 1) v = .ok t) items ts := by
      clear h
      induction items with
      | nil => exact ⟨[], .nil⟩
      | cons x xs ihs =>
        obtain ⟨t, ht⟩ := ih x List.mem_cons_self (depth + 1)
        obtain ⟨ts, hts⟩ := ihs fun v hv => ih v (List.mem_cons_of_mem x hv)
        exact ⟨t :: ts, .cons ht hts⟩
    obtain ⟨ts, hts⟩ := htexts
    exact ⟨_, chars_seq.mpr ⟨ts, hts, rfl⟩⟩
  | map hkeys hnodup h ih =>
    rename_i entries
    have htexts : ∃ ts, List.Forall₂ (Enters (depth + 1)) entries ts := by
      clear h hnodup
      induction entries with
      | nil => exact ⟨[], .nil⟩
      | cons e es ihs =>
        obtain ⟨k, hk, _⟩ := hkeys e List.mem_cons_self
        obtain ⟨y, hy⟩ := ih e List.mem_cons_self (depth + 1)
        obtain ⟨ts, hts⟩ := ihs (fun e' he => hkeys e' (List.mem_cons_of_mem e he))
          fun e' he => ih e' (List.mem_cons_of_mem e he)
        exact ⟨_ :: ts, .cons ⟨quote k, y, by rw [hk]; rfl, hy, rfl⟩ hts⟩
    obtain ⟨ts, hts⟩ := htexts
    exact ⟨_, chars_map.mpr ⟨ts, hts, rfl⟩⟩

theorem itemTexts_tooLong {items : List Value} (h : ∀ v ∈ items, v.IsDocument Scalar.IsData)
    (hlong : ∀ v ∈ items, v.hasText = false → chars depth v = .error .tooLong)
    (ht : ∃ v ∈ items, v.hasText = false) : itemTexts depth items = .error .tooLong := by
  induction items with
  | nil =>
    obtain ⟨v, hv, _⟩ := ht
    cases hv
  | cons x xs ih =>
    rw [itemTexts]
    cases hx : x.hasText with
    | false =>
      rw [hlong x List.mem_cons_self hx]
      rfl
    | true =>
      obtain ⟨t, hchars⟩ := exists_chars ((h x List.mem_cons_self).isJson hx) depth
      obtain ⟨v, hv, hv'⟩ := ht
      have hv : v ∈ xs := (List.mem_cons.mp hv).resolve_left fun heq => by simp [← heq, hv'] at hx
      rw [hchars, ih (fun v hv => h v (List.mem_cons_of_mem x hv))
        (fun v hv => hlong v (List.mem_cons_of_mem x hv)) ⟨v, hv, hv'⟩]
      rfl

theorem entryTexts_tooLong {entries : List (Scalar × Value)}
    (hkeys : ∀ e ∈ entries, ∃ k, e.1 = .str k ∧ IsBasicText k)
    (h : ∀ e ∈ entries, e.2.IsDocument Scalar.IsData)
    (hlong : ∀ e ∈ entries, e.2.hasText = false → chars depth e.2 = .error .tooLong)
    (ht : ∃ e ∈ entries, e.2.hasText = false) : entryTexts depth entries = .error .tooLong := by
  induction entries with
  | nil =>
    obtain ⟨e, he, _⟩ := ht
    cases he
  | cons e es ih =>
    obtain ⟨k, hk, _⟩ := hkeys e List.mem_cons_self
    rw [entryTexts, hk]
    cases he : e.2.hasText with
    | false =>
      rw [hlong e List.mem_cons_self he]
      rfl
    | true =>
      obtain ⟨t, hchars⟩ := exists_chars ((h e List.mem_cons_self).isJson he) depth
      obtain ⟨e', hmem, he'⟩ := ht
      have hmem : e' ∈ es := (List.mem_cons.mp hmem).resolve_left fun heq => by
        simp [← heq, he'] at he
      rw [hchars, ih (fun e' he => hkeys e' (List.mem_cons_of_mem e he))
        (fun e' he => h e' (List.mem_cons_of_mem e he))
        (fun e' he => hlong e' (List.mem_cons_of_mem e he)) ⟨e', hmem, he'⟩]
      rfl

/-- A document with an integer of too many digits has no JSON text at any depth. -/
theorem chars_tooLong (h : v.IsDocument Scalar.IsData) (ht : v.hasText = false) (depth : Nat) :
    chars depth v = .error .tooLong := by
  induction h generalizing depth with
  | scalar hs =>
    rename_i s
    cases s with
    | int i => rw [chars, scalar, if_neg fun hi => Bool.noConfusion (hi.symm.trans ht)]
    | _ => cases ht
  | seq h ih =>
    rw [Value.hasText, Value.haveText_eq, List.all_eq_false] at ht
    obtain ⟨v, hv, hv'⟩ := ht
    rw [chars, itemTexts_tooLong h (fun v hv ht => ih v hv ht (depth + 1))
      ⟨v, hv, by simpa using hv'⟩]
    rfl
  | map hkeys _ h ih =>
    rw [Value.hasText, Value.haveTexts_eq, List.all_eq_false] at ht
    obtain ⟨e, he, he'⟩ := ht
    obtain ⟨k, hk, _⟩ := hkeys e he
    rw [chars, entryTexts_tooLong hkeys h (fun e he ht => ih e he ht (depth + 1))
      ⟨e, he, by simpa [hk, Scalar.hasText] using he'⟩]
    rfl

theorem isVisible_spelling (h : s.IsJson) : ∀ c ∈ spelling s, IsVisible c := by
  have hnumber : ∀ c ∈ Numeral.numberChars, IsVisible c := List.all_iff_forall_prop.mp (by decide)
  cases s with
  | null => exact List.all_iff_forall_prop.mp (by decide)
  | bool b => cases b <;> exact List.all_iff_forall_prop.mp (by decide)
  | int i =>
    intro c hc
    have hc : c ∈ (toString i).toList := hc
    rw [Yaml.toList_toString] at hc
    exact hnumber c (Yaml.signed_mem _ (Yaml.isProper_digitsOf i.natAbs).mem_numberChars c hc)
  | float d =>
    intro c hc
    have hc : c ∈ (NumberLayout.json.text d).toList := hc
    rw [Yaml.toList_text h] at hc
    exact hnumber c (Yaml.signed_mem _ d.isProper_written.mem_numberChars c hc)
  | str s => exact isVisible_quote s
  | date d => cases h
  | moment m => cases h
  | bytes bs => cases h

/-- The characters of a JSON text. -/
def IsTextual (c : Char) : Prop := c = '\n' ∨ IsVisible c

instance : DecidablePred IsTextual := fun c => inferInstanceAs (Decidable (c = '\n' ∨ IsVisible c))

theorem isTextual_newline (depth : Nat) : ∀ c ∈ newline depth, IsTextual c := by
  intro c hc
  rcases List.mem_cons.mp hc with rfl | hc
  · exact Or.inl rfl
  · rw [List.eq_of_mem_replicate hc]
    exact Or.inr (by decide)

theorem isTextual_enclose {o e : Char} (ho : IsVisible o) (he : IsVisible e)
    (hts : ∀ t ∈ ts, ∀ c ∈ t, IsTextual c) : ∀ c ∈ enclose o e depth ts, IsTextual c := by
  cases ts with
  | nil =>
    intro c hc
    rcases List.mem_cons.mp hc with rfl | hc
    · exact Or.inr ho
    · exact Or.inr (List.mem_singleton.mp hc ▸ he)
  | cons t ts =>
    intro c hc
    rw [enclose_cons] at hc
    rcases List.mem_cons.mp hc with rfl | hc
    · exact Or.inr ho
    rcases List.mem_append.mp hc with hc | hc
    · exact isTextual_newline _ c hc
    rcases List.mem_append.mp hc with hc | hc
    · exact hts t List.mem_cons_self c hc
    rcases List.mem_append.mp hc with hc | hc
    · obtain ⟨u, hu, hc⟩ := List.mem_flatMap.mp hc
      rcases List.mem_cons.mp hc with rfl | hc
      · exact Or.inr (by decide)
      rcases List.mem_append.mp hc with hc | hc
      · exact isTextual_newline _ c hc
      · exact hts u (List.mem_cons_of_mem t hu) c hc
    rcases List.mem_append.mp hc with hc | hc
    · exact isTextual_newline _ c hc
    · exact Or.inr (List.mem_singleton.mp hc ▸ he)

theorem forall_of_forall₂ {α β : Type} {p : β → Prop} {as : List α} {bs : List β}
    (h : List.Forall₂ (fun _ b => p b) as bs) : ∀ b ∈ bs, p b := by
  induction h with
  | nil => exact fun b hb => absurd hb List.not_mem_nil
  | cons hb _ ih => exact List.forall_mem_cons.mpr ⟨hb, ih⟩

/-- A JSON text is visible ASCII on lines of its own. -/
theorem isTextual_chars (h : v.IsJson) (hc : chars depth v = .ok cs) : ∀ c ∈ cs, IsTextual c := by
  induction h generalizing depth cs with
  | scalar hs =>
    obtain rfl := Except.ok.inj ((scalar_eq hs).symm.trans hc)
    exact fun c hc => Or.inr (isVisible_spelling hs c hc)
  | seq _ ih =>
    rename_i items _
    obtain ⟨ts, hts, rfl⟩ := chars_seq.mp hc
    have htexts : List.Forall₂ (fun _ t => ∀ c ∈ t, IsTextual c) items ts :=
      (List.forall₂_and_left _ _ |>.mpr ⟨fun v hv d cs => @ih v hv d cs, hts⟩).imp
      fun v t h => h.1 _ _ h.2
    exact isTextual_enclose (by decide) (by decide) (forall_of_forall₂ htexts)
  | map hkeys _ _ ih =>
    rename_i entries _ _
    obtain ⟨ts, hts, rfl⟩ := chars_map.mp hc
    have htexts : List.Forall₂ (fun _ t => ∀ c ∈ t, IsTextual c) entries ts := by
      refine (List.forall₂_and_left _ _ |>.mpr
        ⟨fun e he => And.intro (hkeys e he) fun d cs => @ih e he d cs, hts⟩).imp ?_
      rintro e t ⟨⟨⟨k, hk, _⟩, ih⟩, x, y, hx, hy, rfl⟩ c hc
      rw [hk] at hx
      obtain rfl : quote k = x := Except.ok.inj hx
      rcases List.mem_append.mp hc with hc | hc
      · exact Or.inr (isVisible_quote k c hc)
      rcases List.mem_cons.mp hc with rfl | hc
      · exact Or.inr (by decide)
      rcases List.mem_cons.mp hc with rfl | hc
      · exact Or.inr (by decide)
      · exact ih _ _ hy c hc
    exact isTextual_enclose (by decide) (by decide) (forall_of_forall₂ htexts)

end Json

end ResolverHooks
