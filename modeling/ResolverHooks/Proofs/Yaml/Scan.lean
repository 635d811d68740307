import Mathlib.Data.Bool.AllAny
import ResolverHooks.Proofs.Yaml.Lookahead
import ResolverHooks.Proofs.Yaml.Quoted

/-!
Scanning a JSON text. Its scalars, brackets, commas and colons become the tokens of flow
collections, one for one, but a key has its mark only if it is no longer than a simple key can be.
-/
namespace ResolverHooks.Yaml

open Json

variable {c : Char} {cs rest tail : List Char} {depth n : Nat} {s : Scalar} {k : String}

/-! Gaps. -/

/-- What is left of a text behind spaces, comments and line breaks. -/
def afterGap (cs : List Char) : List Char := cs.drop (gapLength false cs).1

/-- Characters that no gap goes past. -/
def EndsGap (c : Char) : Prop := isBreak c = false ∧ c ≠ ' ' ∧ c ≠ '#'

instance : DecidablePred EndsGap := fun c =>
  inferInstanceAs (Decidable (isBreak c = false ∧ c ≠ ' ' ∧ c ≠ '#'))

theorem gapLength_spaces (h : EndsGap c) (n : Nat) (rest : List Char) :
    (gapLength false (List.replicate n ' ' ++ c :: rest)).1 = n := by
  induction n with
  | zero => simp [gapLength, h.1, h.2.1, h.2.2]
  | succ n ih =>
    rw [List.replicate_succ, List.cons_append, gapLength]
    simp [isBreak, ih]

theorem afterGap_spaces (h : EndsGap c) (n : Nat) (rest : List Char) :
    afterGap (List.replicate n ' ' ++ c :: rest) = c :: rest := by
  rw [afterGap, gapLength_spaces h, List.drop_left' (List.length_replicate ..)]

theorem afterGap_cons (h : EndsGap c) (rest : List Char) : afterGap (c :: rest) = c :: rest :=
  afterGap_spaces h 0 rest

theorem afterGap_newline (h : EndsGap c) (depth : Nat) (rest : List Char) :
    afterGap (newline depth ++ c :: rest) = c :: rest := by
  have hlen : (gapLength false (newline depth ++ c :: rest)).1 = 2 * depth + 1 := by
    rw [newline, List.cons_append, gapLength]
    simp [isBreak, gapLength_spaces h]
  rw [afterGap, hlen, List.drop_left' (by simp [newline])]

/-- What may stand behind a scalar inside a collection. -/
def Follows (tail : List Char) : Prop :=
  (∃ rest, tail = ',' :: rest) ∨
    ∃ depth b rest, tail = newline depth ++ b :: rest ∧ (b = ']' ∨ b = '\x7d')

/-! Plain scalars. -/

/-- The characters of numbers and of the words for the other scalars. -/
def wordChars : List Char := Numeral.numberChars ++ ['n', 'u', 'l', 't', 'r', 'f', 'a', 's']

theorem plainRun_append (hcs : ∀ c ∈ cs, c ∈ wordChars) (ht : plainRun true tail = []) :
    plainRun true (cs ++ tail) = cs := by
  have hword : ∀ c ∈ wordChars, isBlank c = false ∧ isBreak c = false ∧ isFlowMark c = false ∧
      c ≠ ':' ∧ c ≠ '?' :=
    List.all_iff_forall_prop.mp (by decide)
  induction cs with
  | nil => exact ht
  | cons c cs ih =>
    obtain ⟨hblank, hbreak, hmark, hcolon, hquestion⟩ := hword c (hcs c List.mem_cons_self)
    rw [List.cons_append, plainRun, ih fun d hd => hcs d (List.mem_cons_of_mem c hd)]
    simp [hblank, hbreak, hmark, hcolon, hquestion]

theorem plainRun_of_follows (h : Follows tail) : plainRun true tail = [] := by
  obtain ⟨rest, rfl⟩ | ⟨depth, b, rest, rfl, _⟩ := h
  · simp [plainRun, isBlank, isBreak, isFlowMark]
  · simp [newline, plainRun, isBlank, isBreak]

theorem gapBreaks_spaces (h : EndsGap c) (n : Nat) (rest : List Char) :
    gapBreaks [] (List.replicate n ' ' ++ c :: rest) = (some [], n) := by
  induction n with
  | zero => simp [gapBreaks, h.1, h.2.1]
  | succ n ih =>
    rw [List.replicate_succ, List.cons_append, gapBreaks]
    simp [ih]

/-- The gap behind a plain scalar ends it, or a bracket behind the gap does. -/
theorem plainGap_of_follows {cur : Cursor} (h : Follows cur.rest) :
    ((plainGap cur).text = [] ∨ plainRun true (plainGap cur).next.rest = []) ∧
      afterGap (plainGap cur).next.rest = afterGap cur.rest := by
  obtain ⟨rest, hr⟩ | ⟨depth, b, rest, hr, hb⟩ := h
  · have hgap : plainGap cur = ⟨[], cur, false⟩ := by
      simp [plainGap, hr, isBreak, Cursor.drop]
    rw [hgap]
    exact ⟨Or.inl rfl, rfl⟩
  · have hends : EndsGap b := by
      rcases hb with rfl | rfl <;> decide
    have hspaces : cur.next.rest = List.replicate (2 * depth) ' ' ++ b :: rest := by
      rw [Cursor.rest_next, hr]
      rfl
    have hsep : atSeparator (List.replicate (2 * depth) ' ' ++ b :: rest) = false := by
      cases depth with
      | zero => rcases hb with rfl | rfl <;> rfl
      | succ depth => rfl
    have hgap : plainGap cur = ⟨[' '], cur.next.drop (2 * depth), true⟩ := by
      have hr : cur.rest = '\n' :: (List.replicate (2 * depth) ' ' ++ b :: rest) := hr
      have hdrop : cur.drop (cur.rest.takeWhile (· == ' ')).length = cur := by
        rw [hr]
        rfl
      rw [plainGap]
      simp only [hdrop]
      rw [hr]
      simp only [show isBreak '\n' = true from rfl, if_true, hsep, Bool.false_eq_true,
        if_false, hspaces, gapBreaks_spaces hends]
      rfl
    have hnext : (plainGap cur).next.rest = b :: rest := by
      rw [hgap]
      show (cur.next.drop (2 * depth)).rest = _
      rw [Cursor.rest_drop, hspaces, List.drop_left' (List.length_replicate ..)]
    rw [hnext, hr, afterGap_cons hends, afterGap_newline hends]
    refine ⟨Or.inr ?_, rfl⟩
    rcases hb with rfl | rfl <;> simp [plainRun, isBlank, isBreak, isFlowMark]

theorem plainRuns_of_stop {flow : Bool} {indent : Int} {text gap : List Char} {next : Cursor}
    {broken : Bool}
    {fuel : Nat} (h : plainRun flow next.rest = []) :
    plainRuns flow indent fuel ⟨text, next, broken⟩ gap = ⟨text, next, broken⟩ := by
  cases fuel with
  | zero => rfl
  | succ fuel =>
    rw [plainRuns]
    split
    · rfl
    · simp [h]

/-- A word inside a collection is a plain scalar, up to the gap behind it. -/
theorem plainScalar_word {cur : Cursor} (hr : cur.rest = cs ++ tail) (hne : cs ≠ [])
    (hcs : ∀ c ∈ cs, c ∈ wordChars)
    (ht : Follows tail) : (plainScalar true 0 cur).text = cs ∧
      afterGap (plainScalar true 0 cur).next.rest = afterGap tail ∧
      (plainScalar true 0 cur).next.rest.length ≤ tail.length := by
  have hhead : (cur.rest.head? == some '#') = false := by
    cases cs with
    | nil => exact absurd rfl hne
    | cons c cs =>
      have hc : c ≠ '#' := by
        rintro rfl
        exact absurd (hcs '#' List.mem_cons_self) (by decide)
      simp [hr, hc]
  have hrun : plainRun true cur.rest = cs := by
    rw [hr, plainRun_append hcs (plainRun_of_follows ht)]
  have hempty : cs.isEmpty = false := by
    rw [← Bool.not_eq_true, List.isEmpty_iff]
    exact hne
  have hbehind : (cur.drop cs.length).rest = tail := by
    rw [Cursor.rest_drop, hr, List.drop_left' rfl]
  obtain ⟨hstop, hgap⟩ := plainGap_of_follows
    (show Follows (cur.drop cs.length).rest by rwa [hbehind])
  have hlen : (plainGap (cur.drop cs.length)).next.rest.length ≤ tail.length := by
    obtain ⟨m, hm⟩ := exists_drop_plainGap (cur.drop cs.length)
    rw [hm, Cursor.rest_drop, hbehind, List.length_drop]
    exact Nat.sub_le _ _
  rw [hbehind] at hgap
  rw [plainScalar, plainRuns]
  simp only [hhead, Bool.false_eq_true, if_false, hrun, hempty, List.nil_append, Bool.not_true,
    Bool.false_and, Bool.or_false]
  split
  · exact ⟨rfl, hgap, hlen⟩
  · rename_i htext
    have hstop := hstop.resolve_left fun h => htext (by rw [h]; rfl)
    rw [plainRuns_of_stop hstop]
    exact ⟨rfl, hgap, hlen⟩

theorem starts_signed {w : Written} {negative : Bool} (h : w.IsProper) (tail : List Char) :
    Lexeme.plain.Starts (signed negative w.text ++ tail) := by
  have hdigits : ∀ c ∈ Numeral.numberChars, c.isDigit = true → c ∈ Lexeme.plainStarts :=
    List.all_iff_forall_prop.mp (by decide)
  obtain ⟨c, rest, htext, hc⟩ := h.exists_cons
  rw [htext]
  cases negative with
  | true => exact ⟨'-', c :: rest ++ tail, rfl, Or.inr ⟨rfl, c, rest ++ tail, rfl, hc⟩⟩
  | false =>
    exact ⟨c, rest ++ tail, rfl, Or.inl (hdigits c (Numeral.mem_numberChars_of_isDigit hc) hc)⟩

/-- What stands outside quotes is a word. -/
theorem spelling_word (hs : s.IsJson) (hq : s.isQuoted = false) :
    spelling s = s.written.toList ∧ (∀ c ∈ spelling s, c ∈ wordChars) ∧
      ∀ tail, Lexeme.plain.Starts (spelling s ++ tail) := by
  have hnumber : ∀ c ∈ Numeral.numberChars, c ∈ wordChars := List.all_iff_forall_prop.mp (by decide)
  cases s with
  | null =>
    exact ⟨rfl, List.all_iff_forall_prop.mp (by decide), fun tail =>
      ⟨_, _, rfl, Or.inl (by decide)⟩⟩
  | bool b =>
    cases b <;> exact ⟨rfl, List.all_iff_forall_prop.mp (by decide), fun tail =>
      ⟨_, _, rfl, Or.inl (by decide)⟩⟩
  | int i =>
    have hproper := isProper_digitsOf i.natAbs
    have htext : spelling (.int i) = signed (decide (i < 0)) (digitsOf i.natAbs).text :=
      toList_toString i
    rw [htext]
    exact ⟨(toList_toString i).symm,
      fun c hc => hnumber c (signed_mem _ hproper.mem_numberChars c hc), starts_signed hproper⟩
  | float d =>
    have hproper := d.isProper_written
    have htext : spelling (.float d) = signed d.sign d.written.text := toList_text hs
    rw [htext]
    exact ⟨(toList_text hs).symm, fun c hc => hnumber c (signed_mem _ hproper.mem_numberChars c hc),
      starts_signed hproper⟩
  | str s => cases hq
  | date d => cases hs
  | moment m => cases hs
  | bytes bs => cases hs

/-- A quoted text is a double-quoted scalar of as many characters. -/
theorem starts_quote (hk : IsBasicText k) (tail : List Char) :
    (Lexeme.quoted k.toList (quote k).length).Starts (quote k ++ tail) := by
  refine ⟨k.toList.flatMap escapeChar ++ '"' :: tail, _, ?_, doubleQuoted_quote hk [] tail, ?_⟩
  · simp [quote]
  · simp [quote]

namespace Lexer

variable {l l' l'' : Lexer} {x : Lexeme} {t : Token} {ts us : List Token}

/-- A scan inside `n` flow collections, with a text in front of it that begins with no gap. -/
structure At (l : Lexer) (n : Nat) (cs : List Char) : Prop where
  flat : l.IsFlat
  depth : l.outerKeys.length = n
  rest : afterGap l.cursor.rest = cs

/-- Reading on gives tokens. -/
structure Goes (l : Lexer) (ts : List Token) (l' : Lexer) : Prop where
  reads : Reads l l'
  queue : l'.queue = l.queue ++ ts
  taken : l'.taken = l.taken

theorem Goes.trans (h : Goes l ts l') (h' : Goes l' us l'') : Goes l (ts ++ us) l'' :=
  ⟨h.reads.trans h'.reads, by rw [h'.queue, h.queue, List.append_assoc], h'.taken.trans h.taken⟩

theorem rest_skipGap (l : Lexer) :
    l.skipGap.cursor.rest = afterGap l.cursor.rest := Cursor.rest_drop _ _

theorem length_afterGap (cs : List Char) : (afterGap cs).length ≤ cs.length := by
  rw [afterGap, List.length_drop]
  omega

/-- A lexeme that is in front of the scan is read, and takes at least one character. -/
theorem At.reads (h : At l n cs) (hs : x.Starts cs) (hx : x ≠ .finish)
    (hin : x.isOuter = true ∨ 0 < n)
    (hlt : (l.read x).cursor.rest.length < cs.length) : Reads l (l.read x) ∧ (l.read x).IsFlat := by
  have hinside : x.isOuter = true ∨ l.inFlow = true := by
    refine hin.imp_right fun hn => ?_
    have hlen := h.depth
    rw [inFlow]
    cases ho : l.outerKeys with
    | nil =>
      rw [ho] at hlen
      exact absurd hlen (Nat.ne_of_lt hn)
    | cons m ms => rfl
  have hreaches : l.Reaches x := by
    refine ⟨by rwa [rest_skipGap, h.rest], hinside, Or.inl ?_⟩
    have := length_afterGap l.cursor.rest
    rw [h.rest] at this
    omega
  exact ⟨.one hreaches hx, h.flat.read hx⟩

theorem taken_read (l : Lexer) (x : Lexeme) :
    (l.read x).taken = l.taken := (length_apply x l.skipGap.tidy).2

theorem depth_tidy (l : Lexer) : l.skipGap.tidy.outerKeys.length = l.outerKeys.length := by
  simp [tidy, skipGap]

theorem At.opening {o : Char} (h : At l n (o :: rest))
    (ho : (o = '[' ∧ t = .flowSequence) ∨ (o = '\x7b' ∧ t = .flowMapping)) :
    ∃ l', Goes l [t] l' ∧ At l' (n + 1) (afterGap rest) ∧ l'.keyAllowed = true := by
  have hstarts : (Lexeme.opening t).Starts (o :: rest) := by
    refine ⟨rest, ?_⟩
    rcases ho with ⟨rfl, rfl⟩ | ⟨rfl, rfl⟩
    · exact Or.inl ⟨rfl, rfl⟩
    · exact Or.inr ⟨rfl, rfl⟩
  have hcursor : (l.read (.opening t)).cursor.rest = rest := by
    show (l.skipGap.tidy.mark.cursor.drop 1).rest = rest
    rw [cursor_mark, Cursor.rest_drop]
    show l.skipGap.cursor.rest.drop 1 = rest
    rw [rest_skipGap, h.rest]
    rfl
  obtain ⟨hreads, hflat⟩ :=
    h.reads hstarts (by simp) (Or.inl rfl) (by rw [hcursor]; exact Nat.lt_succ_self _)
  refine ⟨l.read (.opening t), ⟨hreads, ?_, taken_read _ _⟩, ⟨hflat, ?_, by rw [hcursor]⟩, rfl⟩
  · show l.skipGap.tidy.mark.queue ++ [t] = _
    rw [queue_mark]
    rfl
  · show (l.skipGap.tidy.mark.key :: l.skipGap.tidy.outerKeys).length = _
    rw [List.length_cons, depth_tidy, h.depth]

theorem At.closing {e : Char} (h : At l (n + 1) (e :: rest))
    (he : (e = ']' ∧ t = .flowSequenceEnd) ∨ (e = '\x7d' ∧ t = .flowMappingEnd)) :
    ∃ l', Goes l [t] l' ∧ At l' n (afterGap rest) := by
  have hstarts : (Lexeme.closing t).Starts (e :: rest) := by
    refine ⟨rest, ?_⟩
    rcases he with ⟨rfl, rfl⟩ | ⟨rfl, rfl⟩
    · exact Or.inl ⟨rfl, rfl⟩
    · exact Or.inr ⟨rfl, rfl⟩
  have hcursor : (l.read (.closing t)).cursor.rest = rest := by
    show (l.skipGap.cursor.drop 1).rest = rest
    rw [Cursor.rest_drop, rest_skipGap, h.rest]
    rfl
  obtain ⟨hreads, hflat⟩ := h.reads hstarts (by simp) (Or.inr (Nat.succ_pos n))
    (by rw [hcursor]; exact Nat.lt_succ_self _)
  refine ⟨l.read (.closing t), ⟨hreads, rfl, taken_read _ _⟩, ⟨hflat, ?_, by rw [hcursor]⟩⟩
  show l.skipGap.tidy.outerKeys.tail.length = n
  rw [List.length_tail, depth_tidy, h.depth]
  rfl

theorem At.comma (h : At l (n + 1) (',' :: rest)) :
    ∃ l', Goes l [.comma] l' ∧ At l' (n + 1) (afterGap rest) ∧ l'.keyAllowed = true := by
  have hcursor : (l.read .comma).cursor.rest = rest := by
    show (l.skipGap.cursor.drop 1).rest = rest
    rw [Cursor.rest_drop, rest_skipGap, h.rest]
    rfl
  obtain ⟨hreads, hflat⟩ := h.reads (x := .comma) ⟨rest, rfl⟩ (by simp) (Or.inr (Nat.succ_pos n))
    (by rw [hcursor]; exact Nat.lt_succ_self _)
  refine ⟨l.read .comma, ⟨hreads, rfl, taken_read _ _⟩, ⟨hflat, ?_, by rw [hcursor]⟩, rfl⟩
  show l.skipGap.tidy.outerKeys.length = n + 1
  rw [depth_tidy, h.depth]

/-- The token of a scalar. -/
def scalarToken (s : Scalar) : Token := .scalar s.written (!s.isQuoted)

theorem At.quoted (h : At l (n + 1) (quote k ++ tail)) (hk : IsBasicText k) :
    Goes l [.scalar k false] (l.read (.quoted k.toList (quote k).length)) ∧
      At (l.read (.quoted k.toList (quote k).length)) (n + 1) (afterGap tail) := by
  have hcursor : (l.read (.quoted k.toList (quote k).length)).cursor.rest = tail := by
    show (l.skipGap.tidy.mark.cursor.drop _).rest = tail
    rw [cursor_mark, Cursor.rest_drop]
    show l.skipGap.cursor.rest.drop _ = tail
    rw [rest_skipGap, h.rest, List.drop_left' rfl]
  obtain ⟨hreads, hflat⟩ := h.reads (starts_quote hk tail) (by simp) (Or.inr (Nat.succ_pos n))
    (by rw [hcursor, List.length_append, quote, List.length_cons]; omega)
  refine ⟨⟨hreads, ?_, taken_read _ _⟩, ⟨hflat, ?_, by rw [hcursor]⟩⟩
  · show l.skipGap.tidy.mark.queue ++ [_] = _
    rw [queue_mark, String.ofList_toList]
    rfl
  · show l.skipGap.tidy.mark.outerKeys.length = n + 1
    rw [outerKeys_mark, depth_tidy, h.depth]

theorem At.scalar (h : At l (n + 1) (spelling s ++ tail)) (hs : s.IsJson) (ht : Follows tail) :
    ∃ l', Goes l [scalarToken s] l' ∧ At l' (n + 1) (afterGap tail) := by
  cases hq : s.isQuoted with
  | true =>
    cases s with
    | str s => exact ⟨_, h.quoted hs⟩
    | _ => cases hq
  | false =>
    obtain ⟨htext, hword, hstarts⟩ := spelling_word hs hq
    have hrest : l.skipGap.cursor.rest = spelling s ++ tail := (rest_skipGap l).trans h.rest
    have hne : spelling s ≠ [] := by
      intro hnil
      obtain ⟨c, rest, heq, _⟩ := hstarts []
      rw [hnil] at heq
      cases heq
    obtain ⟨hscalar, hgap, hlen⟩ := plainScalar_word hrest hne hword ht
    have hlt : (plainScalar true 0 l.skipGap.cursor).next.rest.length <
        (spelling s ++ tail).length := by
      have := List.length_pos_iff.mpr hne
      rw [List.length_append]
      omega
    obtain ⟨hreads, hflat⟩ := h.reads (hstarts tail) (by simp) (Or.inr (Nat.succ_pos n)) hlt
    refine ⟨l.read .plain, ⟨hreads, ?_, taken_read _ _⟩, ⟨hflat, ?_, hgap⟩⟩
    · show l.skipGap.tidy.mark.queue ++
        [Token.scalar (String.ofList (plainScalar true 0 l.skipGap.cursor).text) true] = _
      rw [queue_mark, hscalar, htext, String.ofList_toList, scalarToken, hq]
      rfl
    · show l.skipGap.tidy.mark.outerKeys.length = n + 1
      rw [outerKeys_mark, depth_tidy, h.depth]

/-- The tokens of a key with its colon. -/
def keyTokens (k : Scalar) : List Token :=
  (if k.isShortKey then [.key] else []) ++ [.scalar k.written false, .value]

/-- The mark of a key is left at its colon if the key is short. -/
theorem At.key_quoted (h : At l n (quote k ++ ':' :: rest)) (ha : l.keyAllowed = true) :
    (l.read (.quoted k.toList (quote k).length)).skipGap.tidy.key =
      if (Scalar.str k).isShortKey then some l.skipGap.tidy.here else none := by
  have hallowed : l.skipGap.tidy.keyAllowed = true := by
    show (l.keyAllowed || _) = true
    rw [ha, Bool.true_or]
  have hrest : l.skipGap.cursor.rest = quote k ++ ':' :: rest := (rest_skipGap l).trans h.rest
  have hbreak : ∀ c ∈ quote k, isBreak c = false :=
    fun c hc => isBreak_of_isVisible (isVisible_quote k c hc)
  obtain ⟨hline, hindex⟩ := Cursor.drop_line hrest hbreak
  have hread : l.read (.quoted k.toList (quote k).length) =
      ({ l.skipGap.tidy with key := some l.skipGap.tidy.here, keyAllowed := false }.emit
        (.scalar (String.ofList k.toList) false)).advance (quote k).length := by
    show ({ l.skipGap.tidy.mark with keyAllowed := false }.emit _).advance _ = _
    rw [mark, if_pos hallowed]
    rfl
  have hgap : gapLength false (l.skipGap.cursor.drop (quote k).length).rest = (0, false) := by
    rw [Cursor.rest_drop, hrest, List.drop_left' rfl]
    simp [gapLength, isBreak]
  have hstale : KeyMark.isStale l.skipGap.tidy.here (l.skipGap.cursor.drop (quote k).length) =
      !(Scalar.str k).isShortKey := by
    show (l.skipGap.cursor.line != (l.skipGap.cursor.drop (quote k).length).line ||
      decide ((l.skipGap.cursor.drop (quote k).length).index - l.skipGap.cursor.index > 1024)) = _
    rw [hline, hindex, bne_self_eq_false, Bool.false_or, Nat.add_sub_cancel_left, Scalar.isShortKey]
    by_cases hshort : (quote k).length ≤ 1024
    · simp [hshort]
    · simp [hshort, Nat.lt_of_not_le hshort]
  rw [hread]
  show fresh ((l.skipGap.cursor.drop (quote k).length).drop
    (gapLength false (l.skipGap.cursor.drop (quote k).length).rest).1)
      (some l.skipGap.tidy.here) = _
  rw [hgap]
  show fresh (l.skipGap.cursor.drop (quote k).length) (some l.skipGap.tidy.here) = _
  rw [fresh, Option.filter_some, hstale, Bool.not_not]

/-- A key and its colon are read, the key with its mark where it has one. -/
theorem At.entryKey (h : At l (n + 1) (quote k ++ ':' :: rest)) (hk : IsBasicText k)
    (ha : l.keyAllowed = true) :
    ∃ l', Goes l (keyTokens (.str k)) l' ∧ At l' (n + 1) (afterGap rest) := by
  have hkey := h.key_quoted ha
  obtain ⟨hgoes, hat⟩ := h.quoted hk
  rw [afterGap_cons (by decide)] at hat
  generalize l.read (.quoted k.toList (quote k).length) = next at hkey hgoes hat
  have hfields : (next.read .colon).cursor.rest = rest ∧
      (next.read .colon).outerKeys.length = n + 1 ∧
      (next.read .colon).queue = l.queue ++ keyTokens (.str k) := by
    have hcursor : (next.skipGap.cursor.drop 1).rest = rest := by
      rw [Cursor.rest_drop, rest_skipGap, hat.rest]
      rfl
    have hdepth : next.skipGap.tidy.outerKeys.length = n + 1 := by rw [depth_tidy, hat.depth]
    have hqueue : next.skipGap.tidy.queue = l.queue ++ [.scalar k false] := hgoes.queue
    rw [Lexer.read, apply, hkey, keyTokens]
    cases (Scalar.str k).isShortKey with
    | true =>
      have hplace : l.skipGap.tidy.here.token - next.taken = l.queue.length := by
        show l.taken + l.queue.length - next.taken = _
        rw [hgoes.taken, Nat.add_sub_cancel_left]
      have hinsert : (l.queue ++ [Token.scalar k false]).insertIdx l.queue.length .key =
          l.queue ++ [.key, .scalar k false] := by
        simpa using insertIdx_append l.queue [Token.scalar k false] 0 .key
      refine ⟨hcursor, hdepth, ?_⟩
      show next.skipGap.tidy.queue.insertIdx
        (l.skipGap.tidy.here.token - next.taken) .key ++ [.value] = _
      rw [hqueue, hplace, hinsert]
      simp [Scalar.written]
    | false =>
      refine ⟨hcursor, hdepth, ?_⟩
      show next.skipGap.tidy.queue ++ [.value] = _
      rw [hqueue]
      simp [Scalar.written]
  obtain ⟨hcursor, hdepth, hqueue⟩ := hfields
  obtain ⟨hreads, hflat⟩ := hat.reads (x := .colon) ⟨rest, rfl⟩ (by simp) (Or.inr (Nat.succ_pos n))
    (by rw [hcursor]; exact Nat.lt_succ_self _)
  exact ⟨next.read .colon, ⟨hgoes.reads.trans hreads, hqueue, (taken_read _ _).trans hgoes.taken⟩,
    ⟨hflat, hdepth, by rw [hcursor]⟩⟩

/-! Values. -/

/-- A member of a collection: its tokens and its text. -/
structure Member (us : List Token) (t : List Char) : Prop where
  starts : ∃ c rest, t = c :: rest ∧ EndsGap c
  goes : ∀ {l : Lexer} {n : Nat} {tail : List Char}, l.At (n + 1) (t ++ tail) →
    l.keyAllowed = true → Follows tail → ∃ l', Goes l us l' ∧ l'.At (n + 1) (afterGap tail)

theorem Member.afterGap_newline {t : List Char} (h : Member us t) (depth : Nat) (tail : List Char) :
    afterGap (newline depth ++ (t ++ tail)) = t ++ tail := by
  obtain ⟨c, rest, rfl, hc⟩ := h.starts
  exact Yaml.afterGap_newline hc depth (rest ++ tail)

/-- The brackets of a sequence, or those of a mapping. -/
def IsBrackets (o e : Char) (t u : Token) : Prop :=
  (o = '[' ∧ e = ']' ∧ t = .flowSequence ∧ u = .flowSequenceEnd) ∨
    (o = '\x7b' ∧ e = '\x7d' ∧ t = .flowMapping ∧ u = .flowMappingEnd)

variable {o e : Char} {u : Token} {units : List (List Token)} {texts : List (List Char)} {v : Value}

theorem IsBrackets.endsGap (h : IsBrackets o e t u) : EndsGap o ∧ EndsGap e := by
  obtain ⟨rfl, rfl, _, _⟩ | ⟨rfl, rfl, _, _⟩ := h <;> decide

theorem follows_members (h : IsBrackets o e t u) (inner outer : Nat) (texts : List (List Char))
    (tail : List Char) :
    Follows
      ((texts.flatMap fun t => ',' :: (newline inner ++ t)) ++ (newline outer ++ e :: tail)) := by
  cases texts with
  | nil =>
    refine Or.inr ⟨outer, e, tail, rfl, ?_⟩
    obtain ⟨_, he, _, _⟩ | ⟨_, he, _, _⟩ := h
    · exact Or.inl he
    · exact Or.inr he
  | cons t texts => exact Or.inl ⟨_, rfl⟩

/-- The members of a collection behind the first one, up to its closing bracket. -/
theorem At.members (hb : IsBrackets o e t u) (hm : List.Forall₂ Member units texts)
    {inner outer : Nat}
    (h : At l (n + 1) (afterGap
      ((texts.flatMap fun t => ',' :: (newline inner ++ t)) ++ (newline outer ++ e :: tail)))) :
    ∃ l', Goes l (units.flatMap (.comma :: ·)) l' ∧ At l' (n + 1) (e :: tail) := by
  induction hm generalizing l with
  | nil =>
    rw [List.flatMap_nil, List.nil_append, afterGap_newline hb.endsGap.2] at h
    exact ⟨l, ⟨.refl, by simp, rfl⟩, h⟩
  | @cons m text ms ts hmember _ ih =>
    rw [List.flatMap_cons, List.append_assoc, List.cons_append, List.append_assoc,
      afterGap_cons (by decide)] at h
    obtain ⟨l₁, hcomma, h₁, hallowed⟩ := h.comma
    rw [hmember.afterGap_newline] at h₁
    obtain ⟨l₂, hvalue, h₂⟩ := hmember.goes h₁ hallowed (follows_members hb inner outer ts tail)
    obtain ⟨l₃, hrest, h₃⟩ := ih h₂
    refine ⟨l₃, ?_, h₃⟩
    have := (hcomma.trans hvalue).trans hrest
    simpa using this

theorem At.enclosed (hb : IsBrackets o e t u) (hm : List.Forall₂ Member units texts)
    (h : At l n (enclose o e depth texts ++ tail)) :
    ∃ l', Goes l (t :: ((units.flatMap (.comma :: ·)).drop 1 ++ [u])) l' ∧
      At l' n (afterGap tail) := by
  have hopen : (o = '[' ∧ t = .flowSequence) ∨ (o = '\x7b' ∧ t = .flowMapping) :=
    hb.imp (fun h => ⟨h.1, h.2.2.1⟩) fun h => ⟨h.1, h.2.2.1⟩
  have hclose : (e = ']' ∧ u = .flowSequenceEnd) ∨ (e = '\x7d' ∧ u = .flowMappingEnd) :=
    hb.imp (fun h => ⟨h.2.1, h.2.2.2⟩) fun h => ⟨h.2.1, h.2.2.2⟩
  cases hm with
  | nil =>
    obtain ⟨l₁, hgo₁, h₁, _⟩ := At.opening (show At l n (o :: e :: tail) from h) hopen
    rw [afterGap_cons hb.endsGap.2] at h₁
    obtain ⟨l₂, hgo₂, h₂⟩ := h₁.closing hclose
    exact ⟨l₂, hgo₁.trans hgo₂, h₂⟩
  | @cons m text ms ts hmember hmore =>
    rw [enclose_cons, List.cons_append] at h
    obtain ⟨l₁, hgo₁, h₁, hallowed⟩ := h.opening hopen
    simp only [List.append_assoc] at h₁
    rw [hmember.afterGap_newline] at h₁
    obtain ⟨l₂, hgo₂, h₂⟩ := hmember.goes h₁ hallowed (follows_members hb (depth + 1) depth ts tail)
    obtain ⟨l₃, hgo₃, h₃⟩ := At.members hb hmore h₂
    obtain ⟨l₄, hgo₄, h₄⟩ := h₃.closing hclose
    refine ⟨l₄, ?_, h₄⟩
    have := ((hgo₁.trans hgo₂).trans hgo₃).trans hgo₄
    simpa using this

mutual

/-- The tokens of a value's JSON text. Each member of a collection has a comma in front of it, but
for the first one. -/
def tokens : Value → List Token
  | .scalar s => [scalarToken s]
  | .seq items => .flowSequence :: ((itemTokens items).drop 1 ++ [.flowSequenceEnd])
  | .map entries => .flowMapping :: ((entryTokens entries).drop 1 ++ [.flowMappingEnd])
  | .set _ | .pair _ _ | .enclosing _ => []

def itemTokens : List Value → List Token
  | [] => []
  | x :: xs => .comma :: (tokens x ++ itemTokens xs)

def entryTokens : List (Scalar × Value) → List Token
  | [] => []
  | (k, v) :: es => .comma :: (keyTokens k ++ (tokens v ++ entryTokens es))

end

theorem itemTokens_eq (items : List Value) :
    itemTokens items = (items.map tokens).flatMap (.comma :: ·) := by
  induction items with
  | nil => rfl
  | cons x xs ih => rw [itemTokens, ih, List.map_cons, List.flatMap_cons, List.cons_append]

theorem entryTokens_eq (entries : List (Scalar × Value)) :
    entryTokens entries = (entries.map fun e => keyTokens e.1 ++ tokens e.2).flatMap
      (.comma :: ·) := by
  induction entries with
  | nil => rfl
  | cons e es ih =>
    rw [entryTokens, ih, List.map_cons, List.flatMap_cons, List.cons_append, List.append_assoc]

theorem exists_cons_chars (hv : v.IsJson) (hc : chars depth v = .ok cs) :
    ∃ c rest, cs = c :: rest ∧ EndsGap c := by
  have hplain : ∀ c ∈ '-' :: Lexeme.plainStarts, EndsGap c :=
    List.all_iff_forall_prop.mp (by decide)
  have hbracket : ∀ o e ts, EndsGap o → ∃ c rest, enclose o e depth ts = c :: rest ∧ EndsGap c := by
    intro o e ts ho
    cases ts with
    | nil => exact ⟨o, [e], rfl, ho⟩
    | cons t ts => exact ⟨o, _, enclose_cons .., ho⟩
  cases hv with
  | scalar hs =>
    rename_i s
    obtain rfl := Except.ok.inj ((scalar_eq hs).symm.trans hc)
    cases hq : s.isQuoted with
    | true =>
      rw [spelling, hq]
      exact ⟨'"', _, rfl, by decide⟩
    | false =>
      obtain ⟨c, rest, heq, hstart⟩ := (spelling_word hs hq).2.2 []
      rw [List.append_nil] at heq
      refine ⟨c, rest, heq, hplain c ?_⟩
      rcases hstart with hmem | ⟨rfl, _⟩
      · exact List.mem_cons_of_mem _ hmem
      · exact List.mem_cons_self
  | seq _ =>
    obtain ⟨ts, _, rfl⟩ := chars_seq.mp hc
    exact hbracket _ _ _ (by decide)
  | map _ _ _ =>
    obtain ⟨ts, _, rfl⟩ := chars_map.mp hc
    exact hbracket _ _ _ (by decide)

/-- The text of a value is read as its tokens. Only collections may stand outside all others. -/
theorem At.value (hv : v.IsJson) (hc : chars depth v = .ok cs) (h : At l n (cs ++ tail))
    (hplace : v.scalar? = none ∨ (0 < n ∧ Follows tail)) :
    ∃ l', Goes l (tokens v) l' ∧ At l' n (afterGap tail) := by
  induction hv generalizing depth cs l n tail with
  | scalar hs =>
    obtain rfl := Except.ok.inj ((scalar_eq hs).symm.trans hc)
    obtain ⟨hn, ht⟩ := hplace.resolve_left (by simp [Value.scalar?])
    obtain ⟨n, rfl⟩ := Nat.exists_eq_succ_of_ne_zero (Nat.ne_of_gt hn)
    exact h.scalar hs ht
  | seq hitems ih =>
    rename_i items
    obtain ⟨ts, hts, rfl⟩ := chars_seq.mp hc
    have hmembers : List.Forall₂ Member (items.map tokens) ts := by
      rw [List.forall₂_map_left_iff]
      refine ((List.forall₂_and_left _ _).mpr
        ⟨fun v hv => And.intro (hitems v hv) fun d cs => @ih v hv d cs, hts⟩).imp ?_
      rintro v t ⟨⟨hv, ih⟩, ht⟩
      exact ⟨exists_cons_chars hv ht, fun h _ hf => ih _ _ ht h (Or.inr ⟨Nat.succ_pos _, hf⟩)⟩
    rw [tokens, itemTokens_eq]
    exact At.enclosed (Or.inl ⟨rfl, rfl, rfl, rfl⟩) hmembers h
  | map hkeys hnodup hentries ih =>
    rename_i entries
    obtain ⟨ts, hts, rfl⟩ := chars_map.mp hc
    have hmembers : List.Forall₂ Member (entries.map fun e => keyTokens e.1 ++ tokens e.2) ts := by
      rw [List.forall₂_map_left_iff]
      refine ((List.forall₂_and_left _ _).mpr
        ⟨fun e he => And.intro (hkeys e he)
          (And.intro (hentries e he) fun d cs => @ih e he d cs), hts⟩).imp ?_
      rintro e t ⟨⟨⟨k, hk, hbasic⟩, hv, ih⟩, x, y, hx, hy, rfl⟩
      rw [hk] at hx ⊢
      obtain rfl : quote k = x := Except.ok.inj hx
      refine ⟨⟨'"', _, rfl, by decide⟩, fun {l n tail} h hallowed hf => ?_⟩
      obtain ⟨c, rest, rfl, hc⟩ := exists_cons_chars hv hy
      rw [List.append_assoc, List.cons_append, List.cons_append] at h
      obtain ⟨l₁, hgo₁, h₁⟩ := At.entryKey h hbasic hallowed
      rw [show afterGap (' ' :: (c :: rest ++ tail)) =
        c :: rest ++ tail from afterGap_spaces hc 1 (rest ++ tail)] at h₁
      obtain ⟨l₂, hgo₂, h₂⟩ := ih _ _ hy h₁ (Or.inr ⟨Nat.succ_pos _, hf⟩)
      exact ⟨l₂, hgo₁.trans hgo₂, h₂⟩
    rw [tokens, entryTokens_eq]
    exact At.enclosed (Or.inr ⟨rfl, rfl, rfl, rfl⟩) hmembers h

/-! The whole text. -/

theorem length_queue_apply (x : Lexeme) (l : Lexer) :
    (apply x l).queue.length ≤ l.queue.length + 2 := by
  cases x with
  | colon =>
    rw [apply]
    split
    · have hinsert : ∀ i, (l.queue.insertIdx i Token.key).length ≤ l.queue.length + 1 := fun i =>
        List.length_insertIdx_le_succ
      show (l.queue.insertIdx _ _ ++ [_]).length ≤ _
      rw [List.length_append]
      exact Nat.add_le_add_right (hinsert _) 1
    · simp [emit, advance]
  | opening t => simp [apply, emit, advance]
  | quoted text size => simp [apply, emit, advance]
  | plain => simp [apply, emit]
  | closing t => simp [apply, emit, advance]
  | comma => simp [apply, emit, advance]
  | finish => simp [apply, emit]

/-- A character stands for at most two tokens. -/
theorem Reads.length_queue (h : Reads l l') (hflat : l.IsFlat) :
    l'.queue.length + 2 * l'.cursor.rest.length ≤ l.queue.length + 2 * l.cursor.rest.length := by
  induction h with
  | refl => exact Nat.le_refl _
  | @step l l' x hreach hx _ ih =>
    have hnext := hflat.read hx
    have hshort := hreach.shorter.resolve_right fun hd => by
      rw [hnext.done] at hd
      cases hd
    have hqueue : (l.read x).queue.length ≤ l.queue.length + 2 :=
      length_queue_apply x l.skipGap.tidy
    have := ih hnext
    omega

theorem start_eq (hc : cs.head? ≠ some '\uFEFF') :
    start ⟨cs, none⟩ = ⟨Cursor.start cs, none, -1, [], none, [], true, [], 0, false⟩ := by
  have hmark : (cs.head? == some '\uFEFF') = false := by
    rw [beq_eq_false_iff_ne]
    exact hc
  rw [start, hmark]
  rfl

/-- The text of a collection gives its tokens and the end of the stream. -/
theorem ahead_tokens (hv : v.IsJson) (hs : v.scalar? = none) (hc : chars 0 v = .ok cs) :
    Ahead (start ⟨cs, none⟩) (tokens v ++ [.streamEnd]) ∧ (tokens v).length ≤ 2 * cs.length := by
  obtain ⟨c, rest, hcs, hends⟩ := exists_cons_chars hv hc
  have hstart : start ⟨cs, none⟩ =
      ⟨Cursor.start cs, none, -1, [], none, [], true, [], 0, false⟩ := by
    refine start_eq ?_
    rintro hmark
    have hvisible := isTextual_chars hv hc '\uFEFF' (List.mem_of_mem_head? hmark)
    exact absurd hvisible (by decide)
  have hmarks : (start ⟨cs, none⟩).marks = [] := by rw [hstart]; rfl
  have hflat : (start ⟨cs, none⟩).IsFlat := by
    refine ⟨by rw [hstart], by rw [hstart], by rw [hstart], by rw [hstart], ?_, ?_, ?_⟩ <;>
      (rw [hmarks]; exact fun m hm => absurd hm List.not_mem_nil)
  have hat : (start ⟨cs, none⟩).At 0 (cs ++ []) := by
    refine ⟨hflat, by rw [hstart]; rfl, ?_⟩
    rw [hstart, List.append_nil]
    show afterGap cs = cs
    rw [hcs]
    exact afterGap_cons hends rest
  obtain ⟨l', hgo, hend⟩ := At.value hv hc hat (Or.inl hs)
  have hfinish : l'.Reaches .finish := by
    refine ⟨?_, Or.inl rfl, Or.inr rfl⟩
    rw [rest_skipGap]
    exact hend.rest
  have hsettled : (start ⟨cs, none⟩).IsSettled 0 := by
    refine ⟨Nat.zero_le _, fun m hm => ?_⟩
    exact absurd (mem_marks_tidy.mp hm).1 (by rw [hmarks]; exact List.not_mem_nil)
  have hqueue : l'.queue = tokens v := by
    rw [hgo.queue, hstart]
    rfl
  refine ⟨?_, ?_⟩
  · have hahead := (ahead_of_reads hflat hgo.reads hfinish hsettled).1
    have htokens : (l'.read .finish).queue = tokens v ++ [.streamEnd] := by
      show l'.queue ++ [.streamEnd] = _
      rw [hqueue]
    rwa [htokens, List.drop_zero] at hahead
  · have hlen := hgo.reads.length_queue hflat
    rw [hqueue] at hlen
    have hempty : (start ⟨cs, none⟩).queue.length + 2 * (start ⟨cs, none⟩).cursor.rest.length =
        2 * cs.length := by
      rw [hstart]
      show 0 + 2 * cs.length = _
      omega
    omega

end Lexer

end ResolverHooks.Yaml
