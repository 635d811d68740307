import ResolverHooks.Naming.Plural

/-!
Plurals are stable. Whatever rule a text falls under, its plural ends in one lower-case `s`, and the
first rule leaves it as it is. The rules disagree about what counts as an `s`, but between them they
take every text that ends in a lower-case one before it comes to the last rule.
-/
namespace ResolverHooks.Plural

variable {cs : List Char}

/-- Ends in one lower-case `s`. -/
def IsPlural (cs : List Char) : Prop := ['s'] <:+ cs ∧ ¬ ['s', 's'] <:+ cs

theorem endsInPlural_reverse : endsInPlural cs.reverse = true ↔ IsPlural cs := by
  have hone : ['s'] <:+ cs ↔ ['s'] <+: cs.reverse := List.reverse_prefix.symm
  have htwo : ['s', 's'] <:+ cs ↔ ['s', 's'] <+: cs.reverse := List.reverse_prefix.symm
  rw [IsPlural, hone, htwo]
  generalize cs.reverse = back
  fun_cases endsInPlural back with
  | case1 rest => simp
  | case2 rest hrest =>
    have hdouble : ¬ ['s'] <+: rest := by
      rintro ⟨tail, rfl⟩
      exact hrest tail rfl
    simp [List.cons_prefix_cons, hdouble]
  | case3 _ _ hback =>
    have hsingle : ¬ ['s'] <+: back := by
      rintro ⟨tail, rfl⟩
      exact hback tail rfl
    simp [hsingle]

theorem isPlural_of_not_suffix (h : ¬ ['s'] <:+ cs) : IsPlural (cs ++ ['s']) := by
  refine ⟨List.suffix_append cs ['s'], fun hdouble => h ?_⟩
  exact List.suffix_append_self_iff.mp hdouble

theorem isPlural_append_es (cs : List Char) : IsPlural (cs ++ ['e', 's']) := by
  have h : ¬ ['s'] <:+ cs ++ ['e'] := by simp
  simpa using isPlural_of_not_suffix h

/-- Two lower-case letters at the end are a sibilant, and no line feed is in the way. -/
theorem endsInSibilant_of_suffix (h : ['s', 's'] <:+ cs) :
    endsInSibilant (dropLineFeed cs.reverse) = true := by
  obtain ⟨front, rfl⟩ := h
  simp [dropLineFeed, endsInSibilant, isLetter]

theorem chars_of_isPlural (h : IsPlural cs) : chars cs = cs := by
  simp [chars, endsInPlural_reverse.mpr h]

/-- What the rules make of a text. The last one comes to no text that ends in `s`: with one it would
fall under the first rule, and with two under the third. -/
theorem chars_cases (cs : List Char) :
    (chars cs = cs ∧ (cs = [] ∨ IsPlural cs)) ∨ chars cs = cs.dropLast ++ ['i', 'e', 's'] ∨
      chars cs = cs ++ ['e', 's'] ∨ (chars cs = cs ++ ['s'] ∧ ¬ ['s'] <:+ cs) := by
  by_cases hp : cs = [] ∨ IsPlural cs
  · refine Or.inl ⟨?_, hp⟩
    rcases hp with rfl | hp
    · rfl
    · exact chars_of_isPlural hp
  · have hfirst : ¬ (cs.isEmpty || endsInPlural cs.reverse) = true := by
      simpa [endsInPlural_reverse] using hp
    rw [chars, if_neg hfirst]
    right
    split
    · exact Or.inl rfl
    · right
      split
      · exact Or.inl rfl
      · rename_i hsibilant
        refine Or.inr ⟨rfl, ?_⟩
        intro hend
        by_cases hdouble : ['s', 's'] <:+ cs
        · exact hsibilant (endsInSibilant_of_suffix hdouble)
        · exact hp (Or.inr ⟨hend, hdouble⟩)

theorem isPlural_chars (h : cs ≠ []) : IsPlural (chars cs) := by
  rcases chars_cases cs with ⟨heq, hnil | hp⟩ | heq | heq | ⟨heq, hend⟩
  · exact absurd hnil h
  · rwa [heq]
  · rw [heq]
    simpa using isPlural_append_es (cs.dropLast ++ ['i'])
  · rw [heq]
    exact isPlural_append_es cs
  · rw [heq]
    exact isPlural_of_not_suffix hend

theorem chars_eq_self_iff (h : cs ≠ []) : chars cs = cs ↔ IsPlural cs :=
  ⟨fun heq => heq ▸ isPlural_chars h, chars_of_isPlural⟩

/-- No rule changes more than the last character. -/
theorem dropLast_prefix_chars (cs : List Char) : cs.dropLast <+: chars cs := by
  have hlast : cs.dropLast <+: cs := List.dropLast_prefix cs
  rcases chars_cases cs with ⟨heq, _⟩ | heq | heq | ⟨heq, _⟩
  · rwa [heq]
  · rw [heq]
    exact List.prefix_append _ _
  · rw [heq]
    exact hlast.trans (List.prefix_append _ _)
  · rw [heq]
    exact hlast.trans (List.prefix_append _ _)

theorem head?_chars (c d : Char) (rest : List Char) : (chars (c :: d :: rest)).head? = some c := by
  obtain ⟨tail, htail⟩ := dropLast_prefix_chars (c :: d :: rest)
  rw [← htail]
  rfl

variable {s : String}

theorem toList_of (s : String) : (of s).toList = chars s.toList := String.toList_ofList

/-- The plural of a name ends in a lower-case `s` and not in two, and so it is its own plural. Only
plurals are; and nothing but the last character of a name is changed. -/
theorem plural_stable (h : s ≠ "") :
    ("s".toList <:+ (of s).toList ∧ ¬ "ss".toList <:+ (of s).toList) ∧
    of (of s) = of s ∧
    (of s = s ↔ "s".toList <:+ s.toList ∧ ¬ "ss".toList <:+ s.toList) ∧
    s.toList.dropLast <+: (of s).toList := by
  have hne : s.toList ≠ [] := fun hnil => h (String.toList_eq_nil_iff.mp hnil)
  have hplural : IsPlural (of s).toList := by
    rw [toList_of]
    exact isPlural_chars hne
  refine ⟨hplural, ?_, ?_, ?_⟩
  · rw [← String.toList_inj, toList_of (of s)]
    exact chars_of_isPlural hplural
  · rw [← String.toList_inj, toList_of]
    exact chars_eq_self_iff hne
  · rw [toList_of]
    exact dropLast_prefix_chars s.toList

/-- A long s counts as an `s` for the rule of sibilants, which looks past the line feed, but not for
the first rule. -/
theorem plural_stable_long : "listGlas\u017f\n" ≠ "" ∧
    of "listGlas\u017f\n" = "listGlas\u017f\nes" ∧
    of (of "listGlas\u017f\n") = of "listGlas\u017f\n" :=
  ⟨by decide, by decide, (plural_stable (by decide)).2.1⟩

end ResolverHooks.Plural
