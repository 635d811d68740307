import ResolverHooks.Text.Hex

/-!
The grammar of JSON, apart from any program that writes or reads it. A phrase is read from the start
of a text and leaves a rest. There may be a gap in front of every phrase and every sign.
-/
namespace ResolverHooks.Json

/-- What a text holds. A number is kept as it is spelled, and members stay in their order. -/
inductive Tree where
  | null
  | bool (b : Bool)
  | number (spelling : List Char)
  | str (s : String)
  | array (items : List Tree)
  | object (members : List (String × Tree))

def isGap (c : Char) : Bool := [' ', '\t', '\n', '\r'].contains c

def skipGap (l : List Char) : List Char := l.dropWhile isGap

def IsDigits (l : List Char) : Prop := l ≠ [] ∧ ∀ c ∈ l, c.isDigit = true

/-- An optional minus sign, digits without a leading zero, an optional fraction and an optional
exponent. -/
def IsNumber (l : List Char) : Prop := ∃ minus whole fraction exponent,
  l = minus ++ (whole ++ (fraction ++ exponent)) ∧
  (minus = [] ∨ minus = ['-']) ∧
  (IsDigits whole ∧ (whole.head? = some '0' → whole = ['0'])) ∧
  (fraction = [] ∨ ∃ ds, fraction = '.' :: ds ∧ IsDigits ds) ∧
  (exponent = [] ∨ ∃ e sign ds, exponent = e :: (sign ++ ds) ∧ (e = 'e' ∨ e = 'E') ∧
    (sign = [] ∨ sign = ['+'] ∨ sign = ['-']) ∧ IsDigits ds)

/-- A character that stands for itself inside a string. -/
def IsPlain (c : Char) : Prop := c ≠ '"' ∧ c ≠ '\\' ∧ 0x20 ≤ c.toNat

instance : DecidablePred IsPlain := fun c =>
  inferInstanceAs (Decidable (c ≠ '"' ∧ c ≠ '\\' ∧ 0x20 ≤ c.toNat))

/-- What may stand behind a backslash, and what it stands for. -/
def escapes : List (Char × Char) :=
  [('"', '"'), ('\\', '\\'), ('/', '/'), ('b', '\x08'), ('f', '\x0c'), ('n', '\n'), ('r', '\r'),
    ('t', '\t')]

/-- What four hexadecimal digits stand for. -/
def IsUnit (ds : List Char) (n : Nat) : Prop := ds.length = 4 ∧ Text.hexNumber? ds = some n

/-- What stands behind the opening quote of a string, up to the closing one. Half of a pair stands
for no character. -/
inductive Chars : List Char → List Char → List Char → Prop
  | close {r : List Char} : Chars ('"' :: r) [] r
  | plain {c : Char} {l cs r : List Char} : IsPlain c → Chars l cs r → Chars (c :: l) (c :: cs) r
  | escape {e c : Char} {l cs r : List Char} : (e, c) ∈ escapes → Chars l cs r →
      Chars ('\\' :: e :: l) (c :: cs) r
  | unit {ds l cs r : List Char} {n : Nat} : IsUnit ds n → n < 0xD800 ∨ 0xE000 ≤ n → Chars l cs r →
      Chars ('\\' :: 'u' :: (ds ++ l)) (Char.ofNat n :: cs) r
  | pair {ds es l cs r : List Char} {m n : Nat} : IsUnit ds (0xD800 + m) → IsUnit es (0xDC00 + n) →
      m < 0x400 → n < 0x400 → Chars l cs r →
      Chars ('\\' :: 'u' :: (ds ++ '\\' :: 'u' :: (es ++ l)))
        (Char.ofNat (0x10000 + 0x400 * m + n) :: cs) r

inductive Phrase where
  | value (t : Tree)
  /-- What stands behind an opening bracket, with the closing one. -/
  | items (ts : List Tree)
  /-- What stands behind an item, with the closing bracket. -/
  | moreItems (ts : List Tree)
  | member (m : String × Tree)
  | members (ms : List (String × Tree))
  | moreMembers (ms : List (String × Tree))

/-- A phrase is read from the start of a text, and leaves a rest. -/
inductive Reads : List Char → Phrase → List Char → Prop
  | null {l r : List Char} : skipGap l = 'n' :: 'u' :: 'l' :: 'l' :: r → Reads l (.value .null) r
  | true {l r : List Char} : skipGap l = 't' :: 'r' :: 'u' :: 'e' :: r →
      Reads l (.value (.bool true)) r
  | false {l r : List Char} : skipGap l = 'f' :: 'a' :: 'l' :: 's' :: 'e' :: r →
      Reads l (.value (.bool false)) r
  | number {l ds r : List Char} : skipGap l = ds ++ r → IsNumber ds →
      Reads l (.value (.number ds)) r
  | str {l l₁ cs r : List Char} : skipGap l = '"' :: l₁ → Chars l₁ cs r →
      Reads l (.value (.str (String.ofList cs))) r
  | array {l l₁ r : List Char} {ts : List Tree} : skipGap l = '[' :: l₁ → Reads l₁ (.items ts) r →
      Reads l (.value (.array ts)) r
  | object {l l₁ r : List Char} {ms : List (String × Tree)} : skipGap l = '\x7b' :: l₁ →
      Reads l₁ (.members ms) r → Reads l (.value (.object ms)) r
  | noItems {l r : List Char} : skipGap l = ']' :: r → Reads l (.items []) r
  | firstItem {l l₁ r : List Char} {t : Tree} {ts : List Tree} : Reads l (.value t) l₁ →
      Reads l₁ (.moreItems ts) r → Reads l (.items (t :: ts)) r
  | endItems {l r : List Char} : skipGap l = ']' :: r → Reads l (.moreItems []) r
  | nextItem {l l₁ l₂ r : List Char} {t : Tree} {ts : List Tree} : skipGap l = ',' :: l₁ →
      Reads l₁ (.value t) l₂ → Reads l₂ (.moreItems ts) r → Reads l (.moreItems (t :: ts)) r
  | member {l l₁ l₂ l₃ cs r : List Char} {t : Tree} : skipGap l = '"' :: l₁ → Chars l₁ cs l₂ →
      skipGap l₂ = ':' :: l₃ → Reads l₃ (.value t) r → Reads l (.member (String.ofList cs, t)) r
  | noMembers {l r : List Char} : skipGap l = '\x7d' :: r → Reads l (.members []) r
  | firstMember {l l₁ r : List Char} {m : String × Tree} {ms : List (String × Tree)} :
      Reads l (.member m) l₁ → Reads l₁ (.moreMembers ms) r → Reads l (.members (m :: ms)) r
  | endMembers {l r : List Char} : skipGap l = '\x7d' :: r → Reads l (.moreMembers []) r
  | nextMember {l l₁ l₂ r : List Char} {m : String × Tree} {ms : List (String × Tree)} :
      skipGap l = ',' :: l₁ → Reads l₁ (.member m) l₂ → Reads l₂ (.moreMembers ms) r →
      Reads l (.moreMembers (m :: ms)) r

/-- A text of one value, with nothing but a gap behind it. -/
def IsText (l : List Char) (t : Tree) : Prop := ∃ r, Reads l (.value t) r ∧ skipGap r = []

/-- From the start of the text this is read, and nothing else. -/
def IsRead {α : Type} (l : List Char) (phrase : α → Phrase) (a : α) (rest : List Char) : Prop :=
  ∀ a' r, Reads l (phrase a') r ↔ a' = a ∧ r = rest

variable {l l₁ l₂ cs rest : List Char} {t : Tree} {m : String × Tree} {ms : List (String × Tree)}

theorem skipGap_of_not (c : Char) (hc : isGap c = false) (l : List Char) :
    skipGap (c :: l) = c :: l := by
  rw [skipGap, List.dropWhile_cons_of_neg (by simp [hc])]

/-- What a number starts with. -/
theorem IsNumber.head (h : IsNumber cs) {c : Char} (hl : c :: l = cs ++ rest) :
    c = '-' ∨ c.isDigit = true := by
  obtain ⟨minus, whole, fraction, exponent, rfl, hminus, ⟨⟨hne, hdigits⟩, _⟩, _⟩ := h
  rcases hminus with rfl | rfl
  · cases whole with
    | nil => exact absurd rfl hne
    | cons d whole =>
      obtain ⟨rfl, _⟩ := List.cons.inj hl
      exact Or.inr (hdigits c List.mem_cons_self)
  · exact Or.inl (List.cons.inj hl).1

/-- Characters that stand for themselves are read as they are, up to the quote. -/
theorem chars_plain_iff (h : ∀ c ∈ cs, IsPlain c) {cs' r : List Char} :
    Chars (cs ++ '"' :: rest) cs' r ↔ cs' = cs ∧ r = rest := by
  induction cs generalizing cs' with
  | nil =>
    constructor
    · intro hread
      cases hread with
      | close => exact ⟨rfl, rfl⟩
      | plain hc => exact absurd rfl hc.1
    · rintro ⟨rfl, rfl⟩
      exact .close
  | cons c cs ih =>
    obtain ⟨hc, hcs⟩ := List.forall_mem_cons.mp h
    constructor
    · intro hread
      generalize hl : c :: cs ++ '"' :: rest = l at hread
      cases hread with
      | close => exact absurd (List.cons.inj hl).1 hc.1
      | plain _ hrest =>
        obtain ⟨rfl, rfl⟩ := List.cons.inj hl
        obtain ⟨rfl, rfl⟩ := (ih hcs).mp hrest
        exact ⟨rfl, rfl⟩
      | escape => exact absurd (List.cons.inj hl).1 hc.2.1
      | unit => exact absurd (List.cons.inj hl).1 hc.2.1
      | pair => exact absurd (List.cons.inj hl).1 hc.2.1
    · rintro ⟨rfl, rfl⟩
      exact .plain hc ((ih hcs).mpr ⟨rfl, rfl⟩)

theorem isRead_str (hl : skipGap l = '"' :: (cs ++ '"' :: rest)) (h : ∀ c ∈ cs, IsPlain c) :
    IsRead l .value (.str (String.ofList cs)) rest := by
  intro t r
  constructor
  · intro hread
    cases hread with
    | str hl' hcs =>
      obtain rfl := (List.cons.inj (hl.symm.trans hl')).2
      obtain ⟨rfl, rfl⟩ := (chars_plain_iff h).mp hcs
      exact ⟨rfl, rfl⟩
    -- every other kind of value starts with another sign
    | number hl' hds => exact absurd (hds.head (hl.symm.trans hl')) (by decide)
    | null hl' => simp [hl] at hl'
    | true hl' => simp [hl] at hl'
    | false hl' => simp [hl] at hl'
    | array hl' => simp [hl] at hl'
    | object hl' => simp [hl] at hl'
  · rintro ⟨rfl, rfl⟩
    exact .str hl ((chars_plain_iff h).mpr ⟨rfl, rfl⟩)

theorem isRead_object (hl : skipGap l = '\x7b' :: l₁) (h : IsRead l₁ .members ms rest) :
    IsRead l .value (.object ms) rest := by
  intro t r
  constructor
  · intro hread
    cases hread with
    | object hl' hms =>
      obtain rfl := (List.cons.inj (hl.symm.trans hl')).2
      obtain ⟨rfl, rfl⟩ := (h _ _).mp hms
      exact ⟨rfl, rfl⟩
    | number hl' hds => exact absurd (hds.head (hl.symm.trans hl')) (by decide)
    | null hl' => simp [hl] at hl'
    | true hl' => simp [hl] at hl'
    | false hl' => simp [hl] at hl'
    | str hl' => simp [hl] at hl'
    | array hl' => simp [hl] at hl'
  · rintro ⟨rfl, rfl⟩
    exact .object hl ((h _ _).mpr ⟨rfl, rfl⟩)

theorem isRead_member (hl : skipGap l = '"' :: (cs ++ '"' :: ':' :: l₁)) (hcs : ∀ c ∈ cs, IsPlain c)
    (h : IsRead l₁ .value t rest) : IsRead l .member (String.ofList cs, t) rest := by
  have hcolon : skipGap (':' :: l₁) = ':' :: l₁ := skipGap_of_not ':' rfl l₁
  intro m r
  constructor
  · intro hread
    cases hread with
    | member hl' hcs' hcolon' ht =>
      obtain rfl := (List.cons.inj (hl.symm.trans hl')).2
      obtain ⟨rfl, rfl⟩ := (chars_plain_iff hcs).mp hcs'
      obtain rfl := (List.cons.inj (hcolon.symm.trans hcolon')).2
      obtain ⟨rfl, rfl⟩ := (h _ _).mp ht
      exact ⟨rfl, rfl⟩
  · rintro ⟨rfl, rfl⟩
    exact .member hl ((chars_plain_iff hcs).mpr ⟨rfl, rfl⟩) hcolon ((h _ _).mpr ⟨rfl, rfl⟩)

theorem isRead_noMembers (hl : skipGap l = '\x7d' :: rest) : IsRead l .members [] rest := by
  intro ms r
  constructor
  · intro hread
    cases hread with
    | noMembers hl' => exact ⟨rfl, (List.cons.inj (hl'.symm.trans hl)).2⟩
    | firstMember hm =>
      cases hm with
      | member hl' => simp [hl] at hl'
  · rintro ⟨rfl, rfl⟩
    exact .noMembers hl

theorem isRead_firstMember (hm : IsRead l .member m l₁) (hms : IsRead l₁ .moreMembers ms rest) :
    IsRead l .members (m :: ms) rest := by
  have hread : Reads l (.member m) l₁ := (hm _ _).mpr ⟨rfl, rfl⟩
  intro ms' r
  constructor
  · intro hread'
    cases hread' with
    | noMembers hl =>
      cases hread with
      | member hl' => simp [hl] at hl'
    | firstMember hm' hms' =>
      obtain ⟨rfl, rfl⟩ := (hm _ _).mp hm'
      obtain ⟨rfl, rfl⟩ := (hms _ _).mp hms'
      exact ⟨rfl, rfl⟩
  · rintro ⟨rfl, rfl⟩
    exact .firstMember hread ((hms _ _).mpr ⟨rfl, rfl⟩)

theorem isRead_endMembers (hl : skipGap l = '\x7d' :: rest) : IsRead l .moreMembers [] rest := by
  intro ms r
  constructor
  · intro hread
    cases hread with
    | endMembers hl' => exact ⟨rfl, (List.cons.inj (hl'.symm.trans hl)).2⟩
    | nextMember hl' => simp [hl] at hl'
  · rintro ⟨rfl, rfl⟩
    exact .endMembers hl

theorem isRead_nextMember (hl : skipGap l = ',' :: l₁) (hm : IsRead l₁ .member m l₂)
    (hms : IsRead l₂ .moreMembers ms rest) : IsRead l .moreMembers (m :: ms) rest := by
  intro ms' r
  constructor
  · intro hread
    cases hread with
    | endMembers hl' => simp [hl] at hl'
    | nextMember hl' hm' hms' =>
      obtain rfl := (List.cons.inj (hl.symm.trans hl')).2
      obtain ⟨rfl, rfl⟩ := (hm _ _).mp hm'
      obtain ⟨rfl, rfl⟩ := (hms _ _).mp hms'
      exact ⟨rfl, rfl⟩
  · rintro ⟨rfl, rfl⟩
    exact .nextMember hl ((hm _ _).mpr ⟨rfl, rfl⟩) ((hms _ _).mpr ⟨rfl, rfl⟩)

/-- A text that is read to its end is the text of one tree. -/
theorem isText_iff (h : IsRead l .value t []) {t' : Tree} : IsText l t' ↔ t' = t := by
  constructor
  · rintro ⟨r, hread, _⟩
    exact ((h _ _).mp hread).1
  · rintro rfl
    exact ⟨[], (h _ _).mpr ⟨rfl, rfl⟩, rfl⟩

end ResolverHooks.Json
