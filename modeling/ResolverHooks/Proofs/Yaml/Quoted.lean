import ResolverHooks.Proofs.Document.Json
import ResolverHooks.Yaml.Quoted

/-!
A quoted JSON text as a double-quoted scalar. Every escape stands for the character that it was
written for; what is written by two escapes, beyond the basic plane, is left out.
-/
namespace ResolverHooks.Yaml

open Text (hexNumber? hexValue? lowerDigit fixedHex)

variable {c : Char} {cs rest : List Char} {p : Pending} {n : Nat}

theorem hexNumber?_fixedHex (h : n < 0x10000) : hexNumber? (fixedHex lowerDigit 4 n) = some n := by
  have hdigit : ∀ d, d < 16 → hexValue? (lowerDigit d) = some d := by decide
  have hvalue : ∀ k, hexValue? (lowerDigit (k % 16)) = some (k % 16) :=
    fun k => hdigit _ (Nat.mod_lt _ (by decide))
  simp only [fixedHex, List.nil_append, List.cons_append, hexNumber?, List.foldl_cons,
    List.foldl_nil, hvalue, Option.bind_some, Option.map_some, Option.some.injEq]
  omega

/-- No character is half of a pair. -/
theorem surrogatePair?_toNat (c : Char) (n : Nat) : surrogatePair? c.toNat n = none := by
  have hvalid := c.valid
  rw [surrogatePair?, if_neg]
  rintro ⟨hlow, hhigh, _⟩
  rcases hvalid with h | ⟨h, _⟩
  · have h : c.toNat < 0xD800 := h
    omega
  · have h : 0xDFFF < c.toNat := h
    omega

theorem isBreak_of_isVisible (h : Json.IsVisible c) : isBreak c = false := by
  have hne : ∀ d : Char, (d.toNat < 0x20 ∨ 0x7E < d.toNat) → (c == d) = false := by
    intro d hd
    rw [beq_eq_false_iff_ne]
    rintro rfl
    have hlow := h.1
    have hhigh := h.2
    omega
  simp [isBreak, hne '\n' (by decide), hne '\x85' (by decide), hne '\u2028' (by decide),
    hne '\u2029' (by decide)]

/-- An escape by number stands for its character, whatever follows. -/
theorem doubleQuoted_unitEscape (h : IsBasic c) (p : Pending) (rest : List Char) :
    doubleQuoted p (Json.unitEscape c.toNat ++ rest) =
      (doubleQuoted .none rest).more 6 (p.text ++ [c]) := by
  obtain ⟨d₁, d₂, d₃, d₄, hdigits⟩ : ∃ d₁ d₂ d₃ d₄, fixedHex lowerDigit 4 c.toNat =
      [d₁, d₂, d₃, d₄] :=
    ⟨_, _, _, _, rfl⟩
  have hnumber : hexNumber? [d₁, d₂, d₃, d₄] = some c.toNat := by
    rw [← hdigits]
    exact hexNumber?_fixedHex h
  rw [Json.unitEscape, hdigits]
  show doubleQuoted p ('\\' :: 'u' :: d₁ :: d₂ :: d₃ :: d₄ :: rest) = _
  rw [doubleQuoted.eq_def]
  split
  · rename_i heq
    cases heq
  · rename_i heq
    cases heq
  · rename_i heq
    cases heq
  · rename_i heq
    cases heq
    rw [hnumber]
    split
    · rename_i heq _
      cases heq
      rw [surrogatePair?_toNat, Char.ofNat_toNat]
    · rename_i heq _
      cases heq
      rw [Char.ofNat_toNat]
    · rename_i heq
      cases heq
  · rename_i heq
    cases heq
    rw [hnumber]
    simp only
    rw [Char.ofNat_toNat]
  · rename_i heq
    cases heq
  · rename_i heq
    cases heq
  · rename_i hx _ heq
    cases heq
    exact (hx _ _ _ _ _ rfl rfl).elim
  · rename_i hne heq
    cases heq
    exact (hne _ _ rfl rfl).elim

/-- A short escape. -/
theorem doubleQuoted_simpleEscape {e : Char} (he : e ∉ ['x', 'u', 'U']) (hb : isBreak e = false)
    (hs : simpleEscape? e = some c) (p : Pending) (rest : List Char) :
    doubleQuoted p ('\\' :: e :: rest) = (doubleQuoted .none rest).more 2 (p.text ++ [c]) := by
  rw [doubleQuoted.eq_def]
  split
  · rename_i heq
    cases heq
  · rename_i heq
    cases heq
  · rename_i heq
    cases heq
    exact absurd List.mem_cons_self he
  · rename_i heq
    cases heq
    exact absurd (by decide) he
  · rename_i heq
    cases heq
    exact absurd (by decide) he
  · rename_i heq
    cases heq
    exact absurd (by decide) he
  · rename_i heq
    cases heq
  · rename_i heq
    cases heq
    rw [hb, hs]
    rfl
  · rename_i hne heq
    cases heq
    exact (hne _ _ rfl rfl).elim

/-- A character that stands for itself. -/
theorem doubleQuoted_literal (hq : c ≠ '"') (he : c ≠ '\\') (hb : isBlank c = false)
    (hn : isBreak c = false)
    (p : Pending) (rest : List Char) :
    doubleQuoted p (c :: rest) = (doubleQuoted .none rest).more 1 (p.text ++ [c]) := by
  rw [doubleQuoted.eq_def]
  split
  · rename_i heq
    cases heq
  · rename_i heq
    exact absurd (List.cons.inj heq).1 hq
  · rename_i heq
    exact absurd (List.cons.inj heq).1 he
  · rename_i heq
    exact absurd (List.cons.inj heq).1 he
  · rename_i heq
    exact absurd (List.cons.inj heq).1 he
  · rename_i heq
    exact absurd (List.cons.inj heq).1 he
  · rename_i heq
    exact absurd (List.cons.inj heq).1 he
  · rename_i heq
    exact absurd (List.cons.inj heq).1 he
  · rename_i heq
    obtain ⟨rfl, rfl⟩ := List.cons.inj heq
    rw [hb, hn]
    rfl

theorem doubleQuoted_blank (hb : isBlank c = true) (bs rest : List Char) :
    doubleQuoted (.blanks bs) (c :: rest) =
      (doubleQuoted (.blanks (bs ++ [c])) rest).more 1 [] := by
  have hcases : c = ' ' ∨ c = '\t' := by simpa [isBlank] using hb
  rcases hcases with rfl | rfl <;> (rw [doubleQuoted.eq_def]; rfl)

/-- The written form of a character stands for it. A space may be one of several that stand
together, so it is left to what follows. -/
theorem doubleQuoted_escapeChar (h : IsBasic c) (hne : c ≠ ' ') (p : Pending) (rest : List Char) :
    doubleQuoted p (Json.escapeChar c ++ rest) =
      (doubleQuoted .none rest).more (Json.escapeChar c).length (p.text ++ [c]) := by
  rw [Json.escapeChar]
  split
  · rename_i hc
    subst hc
    exact doubleQuoted_simpleEscape (by decide) (by decide) rfl p rest
  split
  · rename_i hc
    subst hc
    exact doubleQuoted_simpleEscape (by decide) (by decide) rfl p rest
  split
  · rename_i hc
    subst hc
    exact doubleQuoted_simpleEscape (by decide) (by decide) rfl p rest
  split
  · rename_i hc
    subst hc
    exact doubleQuoted_simpleEscape (by decide) (by decide) rfl p rest
  split
  · rename_i hc
    subst hc
    exact doubleQuoted_simpleEscape (by decide) (by decide) rfl p rest
  split
  · rename_i hc
    subst hc
    exact doubleQuoted_simpleEscape (by decide) (by decide) rfl p rest
  split
  · rename_i hc
    subst hc
    exact doubleQuoted_simpleEscape (by decide) (by decide) rfl p rest
  split
  · rename_i hq he _ _ ht _ _ hv
    have hblank : isBlank c = false := by simp [isBlank, hne, ht]
    have hbreak : isBreak c = false := isBreak_of_isVisible hv
    exact doubleQuoted_literal hq he hblank hbreak p rest
  · rw [if_pos (show c.toNat < 0x10000 from h)]
    exact doubleQuoted_unitEscape h p rest

/-- A quoted text is read back, character by character. -/
theorem doubleQuoted_quote (hcs : ∀ c ∈ cs, IsBasic c) (bs rest : List Char) :
    doubleQuoted (.blanks bs) (cs.flatMap Json.escapeChar ++ '"' :: rest) =
      .ok (bs ++ cs, (cs.flatMap Json.escapeChar).length + 1) := by
  induction cs generalizing bs with
  | nil => simp [doubleQuoted, Pending.text]
  | cons c cs ih =>
    have ih := ih fun d hd => hcs d (List.mem_cons_of_mem c hd)
    rw [List.flatMap_cons, List.append_assoc]
    by_cases hc : c = ' '
    · subst hc
      have hspace : Json.escapeChar ' ' = [' '] := by decide
      rw [hspace, List.singleton_append, doubleQuoted_blank (by decide), ih]
      simp [Quoted.more, Except.map]
    · rw [doubleQuoted_escapeChar (hcs c List.mem_cons_self) hc, Pending.none, ih]
      simp [Quoted.more, Except.map, Pending.text]
      omega

end ResolverHooks.Yaml
