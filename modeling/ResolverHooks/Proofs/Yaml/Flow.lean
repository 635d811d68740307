import ResolverHooks.Yaml.Lexer

/-!
Reading the lexemes of flow collections. While no block is open, a lexeme has one plain effect on
the scan: it adds its token, moves the cursor, and settles which key marks remain.
-/
namespace ResolverHooks.Yaml

/-- The lexemes of flow collections of plain and double-quoted scalars, and the end of the text. -/
inductive Lexeme where
  | opening (t : Token)
  | closing (t : Token)
  | comma
  | colon
  /-- What a double-quoted scalar holds, and how many characters it takes with its quotes. -/
  | quoted (text : List Char) (size : Nat)
  | plain
  | finish

namespace Lexeme

/-- The characters that the plain scalars of a JSON text begin with. -/
def plainStarts : List Char := ['0', '1', '2', '3', '4', '5', '6', '7', '8', '9', 'n', 't', 'f']

/-- What the text at the cursor begins with. -/
def Starts : Lexeme → List Char → Prop
  | opening t, cs => ∃ rest,
      (cs = '[' :: rest ∧ t = .flowSequence) ∨ (cs = '\x7b' :: rest ∧ t = .flowMapping)
  | closing t, cs => ∃ rest,
      (cs = ']' :: rest ∧ t = .flowSequenceEnd) ∨ (cs = '\x7d' :: rest ∧ t = .flowMappingEnd)
  | comma, cs => ∃ rest, cs = ',' :: rest
  | colon, cs => ∃ rest, cs = ':' :: rest
  | quoted text size, cs => ∃ rest n,
      cs = '"' :: rest ∧ doubleQuoted .none rest = .ok (text, n) ∧ size = n + 1
  | plain, cs => ∃ c rest, cs = c :: rest ∧
      (c ∈ plainStarts ∨ (c = '-' ∧ ∃ d more, rest = d :: more ∧ d.isDigit = true))
  | finish, cs => cs = []

/-- What may also stand outside all collections. -/
def isOuter : Lexeme → Bool
  | opening _ | finish => true
  | _ => false

end Lexeme

/-! A cursor only moves on. -/

namespace Cursor

variable {c c' : Cursor}

theorem line_next (c : Cursor) : c.line ≤ c.next.line ∧ c.index ≤ c.next.index := by
  rw [next]
  split
  · exact ⟨Nat.le_refl _, Nat.le_refl _⟩
  · split
    · exact ⟨Nat.le_succ _, Nat.le_succ _⟩
    · exact ⟨Nat.le_refl _, Nat.le_succ _⟩

theorem line_drop (c : Cursor) (n : Nat) : c.line ≤ (c.drop n).line := by
  induction n generalizing c with
  | zero => exact Nat.le_refl _
  | succ n ih => exact Nat.le_trans c.line_next.1 (ih c.next)

theorem index_drop (c : Cursor) (n : Nat) : c.index ≤ (c.drop n).index := by
  induction n generalizing c with
  | zero => exact Nat.le_refl _
  | succ n ih => exact Nat.le_trans c.line_next.2 (ih c.next)

theorem drop_drop (c : Cursor) (m n : Nat) : (c.drop m).drop n = c.drop (m + n) := by
  induction m generalizing c with
  | zero => rw [Nat.zero_add]; rfl
  | succ m ih => rw [Nat.succ_add]; exact ih c.next

/-- Without a line break the cursor stays on its line. -/
theorem drop_line {cs rest : List Char} (hr : c.rest = cs ++ rest)
    (h : ∀ x ∈ cs, isBreak x = false) :
    (c.drop cs.length).line = c.line ∧ (c.drop cs.length).index = c.index + cs.length := by
  induction cs generalizing c with
  | nil => exact ⟨rfl, rfl⟩
  | cons x cs ih =>
    have hnext : c.next.rest = cs ++ rest ∧ c.next.line = c.line ∧ c.next.index = c.index + 1 := by
      rw [next, hr]
      simp [h x List.mem_cons_self]
    obtain ⟨hline, hindex⟩ := ih hnext.1 fun y hy => h y (List.mem_cons_of_mem x hy)
    rw [List.length_cons, drop, hline, hindex, hnext.2.1, hnext.2.2]
    exact ⟨rfl, by omega⟩

end Cursor

theorem exists_drop_plainGap (c : Cursor) : ∃ n, (plainGap c).next = c.drop n := by
  rw [plainGap]
  simp only
  split
  · exact ⟨_, rfl⟩
  · split
    · split
      · exact ⟨_ + 1, (c.drop_drop _ 1)⟩
      · exact ⟨_, by rw [← c.drop_drop, ← c.drop_drop _ 1]; rfl⟩
    · exact ⟨_, rfl⟩

theorem exists_drop_plainRuns (flow : Bool) (indent : Int) (fuel : Nat) (p : Plain)
    (gap : List Char) :
    ∃ n, (plainRuns flow indent fuel p gap).next = p.next.drop n := by
  induction fuel generalizing p gap with
  | zero => exact ⟨0, rfl⟩
  | succ fuel ih =>
    rw [plainRuns]
    split
    · exact ⟨0, rfl⟩
    · simp only
      split
      · exact ⟨0, rfl⟩
      · obtain ⟨m, hm⟩ := exists_drop_plainGap (p.next.drop (plainRun flow p.next.rest).length)
        rw [Cursor.drop_drop] at hm
        generalize plainGap (p.next.drop (plainRun flow p.next.rest).length) = after at hm ⊢
        split
        · exact ⟨_, hm⟩
        · obtain ⟨n, hn⟩ :=
            ih ⟨p.text ++ gap ++ plainRun flow p.next.rest, after.next, after.broken⟩ after.text
          refine ⟨(plainRun flow p.next.rest).length + m + n, ?_⟩
          rw [hn, ← Cursor.drop_drop, ← hm]

theorem exists_drop_plainScalar (flow : Bool) (indent : Int) (c : Cursor) :
    ∃ n, (plainScalar flow indent c).next = c.drop n := exists_drop_plainRuns flow indent _ _ []

namespace Lexer

variable {l l' : Lexer} {x : Lexeme} {t : Token} {k : Nat}

/-- The places where a simple key may have begun. -/
def marks (l : Lexer) : List KeyMark := (l.key :: l.outerKeys).filterMap id

/-- No block is open, the text is whole, and no key is asked for. -/
structure IsFlat (l : Lexer) : Prop where
  fault : l.fault = none
  indent : l.indent = -1
  outerIndents : l.outerIndents = []
  done : l.done = false
  optional : ∀ m ∈ l.marks, m.required = false
  /-- A mark names a token that has been read, or the next one, and lies behind the cursor. -/
  counted : ∀ m ∈ l.marks, m.token ≤ l.count
  behind : ∀ m ∈ l.marks, m.line ≤ l.cursor.line

/-- The mark that is left of one once the cursor has moved on. -/
def fresh (c : Cursor) (k : Option KeyMark) : Option KeyMark :=
  k.filter fun m => !KeyMark.isStale m c

/-- Forgets the marks that a key can no longer start from. -/
def tidy (l : Lexer) : Lexer :=
  { l with key := fresh l.cursor l.key, outerKeys := l.outerKeys.map (fresh l.cursor) }

/-- Remembers the cursor, where a key may start. -/
def mark (l : Lexer) : Lexer :=
  if l.keyAllowed then
    { l with key := some ⟨l.count, false, l.cursor.index, l.cursor.line, l.cursor.column⟩ }
  else l

/-- What a lexeme does at the cursor. -/
def apply : Lexeme → Lexer → Lexer
  | .opening t, l =>
    ({ l.mark with
      key := none, outerKeys := l.mark.key :: l.outerKeys, keyAllowed := true }.emit t).advance 1
  | .closing t, l =>
    ({ l with
      key := l.outerKeys.headD none, outerKeys := l.outerKeys.tail,
      keyAllowed := false }.emit t).advance 1
  | .comma, l => ({ l with key := none, keyAllowed := true }.emit .comma).advance 1
  | .colon, l =>
    match l.key with
    | some m =>
      ({ { l with key := none }.emitAt m.token .key with
        keyAllowed := false }.emit .value).advance 1
    | none => ({ l with keyAllowed := false }.emit .value).advance 1
  | .quoted text size, l =>
    ({ l.mark with keyAllowed := false }.emit (.scalar (String.ofList text) false)).advance size
  | .plain, l =>
    let p := plainScalar true 0 l.cursor
    { l.mark with cursor := p.next, keyAllowed := p.broken }.emit
      (.scalar (String.ofList p.text) true)
  | .finish, l =>
    { { l with key := none, keyAllowed := false }.emit .streamEnd with
      outerKeys := [], done := true }

/-- Reads a lexeme behind a gap. -/
def read (l : Lexer) (x : Lexeme) : Lexer := apply x l.skipGap.tidy

/-! A mark changes the key and nothing else. -/

theorem mark_eq (l : Lexer) : l.mark = { l with key := l.mark.key } := by
  rw [mark]
  split <;> rfl

@[simp] theorem cursor_mark (l : Lexer) : l.mark.cursor = l.cursor := by rw [mark_eq]

@[simp] theorem queue_mark (l : Lexer) : l.mark.queue = l.queue := by rw [mark_eq]

@[simp] theorem taken_mark (l : Lexer) : l.mark.taken = l.taken := by rw [mark_eq]

@[simp] theorem indent_mark (l : Lexer) : l.mark.indent = l.indent := by rw [mark_eq]

@[simp] theorem outerKeys_mark (l : Lexer) : l.mark.outerKeys = l.outerKeys := by rw [mark_eq]

@[simp] theorem inFlow_mark (l : Lexer) : l.mark.inFlow = l.inFlow := by
  rw [inFlow, inFlow, outerKeys_mark]

/-! What a step does. -/

theorem dropStale_eq {c : Cursor} {k : Option KeyMark} (h : ∀ m ∈ k, m.required = false) :
    dropStale c k = .ok (fresh c k) := by
  cases k with
  | none => rfl
  | some m =>
    rw [dropStale, h m rfl, fresh, Option.filter_some]
    cases KeyMark.isStale m c <;> rfl

theorem mapM_dropStale {c : Cursor} {ks : List (Option KeyMark)}
    (h : ∀ k ∈ ks, ∀ m ∈ k, m.required = false) :
    ks.mapM (dropStale c) = .ok (ks.map (fresh c)) := by
  induction ks with
  | nil => rfl
  | cons k ks ih =>
    rw [List.mapM_cons, dropStale_eq (h k List.mem_cons_self), ih fun k hk =>
      h k (List.mem_cons_of_mem _ hk)]
    rfl

theorem mem_marks {m : KeyMark} : m ∈ l.marks ↔ l.key = some m ∨ some m ∈ l.outerKeys := by
  simp [marks, eq_comm]

theorem forgetStale_eq (h : ∀ m ∈ l.marks, m.required = false) : l.forgetStale = .ok l.tidy := by
  rw [forgetStale, dropStale_eq fun m hm => h m (mem_marks.mpr (Or.inl hm)),
    mapM_dropStale fun k hk m hm => h m (mem_marks.mpr (Or.inr (Option.mem_def.mp hm ▸ hk)))]
  rfl

theorem mem_marks_tidy {m : KeyMark} :
    m ∈ l.tidy.marks ↔ m ∈ l.marks ∧ KeyMark.isStale m l.cursor = false := by
  have hfresh : ∀ k : Option KeyMark, fresh l.cursor k = some m ↔ k = some m ∧
      KeyMark.isStale m l.cursor = false := by
    intro k
    simp [fresh, Option.filter_eq_some_iff]
  simp only [mem_marks, tidy, hfresh, List.mem_map]
  constructor
  · rintro (⟨hk, hs⟩ | ⟨k, hk, rfl, hs⟩)
    · exact ⟨Or.inl hk, hs⟩
    · exact ⟨Or.inr hk, hs⟩
  · rintro ⟨hk | hk, hs⟩
    · exact Or.inl ⟨hk, hs⟩
    · exact Or.inr ⟨_, hk, rfl, hs⟩

theorem IsFlat.skipGap (h : l.IsFlat) : l.skipGap.IsFlat :=
  ⟨h.fault, h.indent, h.outerIndents, h.done, h.optional, h.counted, fun m hm =>
    Nat.le_trans (h.behind m hm) (Cursor.line_drop _ _)⟩

theorem IsFlat.tidy (h : l.IsFlat) : l.tidy.IsFlat :=
  ⟨h.fault, h.indent, h.outerIndents, h.done, fun m hm => h.optional m (mem_marks_tidy.mp hm).1,
    fun m hm => h.counted m (mem_marks_tidy.mp hm).1, fun m hm =>
      h.behind m (mem_marks_tidy.mp hm).1⟩

/-- Without a block there is none to close. -/
theorem IsFlat.unwind (h : l.IsFlat) {column : Int} (hc : -1 ≤ column) : l.unwind column = l := by
  rw [Lexer.unwind]
  split
  · rfl
  · rw [h.outerIndents, closeBlocks, h.indent, if_neg (by omega)]

theorem IsFlat.forgetKey (h : l.IsFlat) : l.forgetKey = .ok { l with key := none } := by
  rw [Lexer.forgetKey]
  split
  · rename_i m hk
    rw [h.optional m (mem_marks.mpr (Or.inl hk))]
    rfl
  · rename_i hk
    rw [← hk]

theorem IsFlat.markKey (h : l.IsFlat) : l.markKey = .ok l.mark := by
  rw [Lexer.markKey, Lexer.mark]
  cases hk : l.keyAllowed with
  | false => rfl
  | true =>
    have hindent : (l.indent == (l.cursor.column : Int)) = false := by
      rw [h.indent, beq_eq_false_iff_ne]
      omega
    simp only [Bool.not_true, Bool.false_eq_true, if_false, h.forgetKey, if_true]
    show Except.ok _ = Except.ok _
    simp only [inFlow, count, hindent, Bool.and_false, hk]

/-- The plain scalars of a JSON text are taken for nothing else. -/
theorem token_plain {c : Char} {rest : List Char} (hr : l.cursor.rest = c :: rest)
    (hc : c ∈ Lexeme.plainStarts ∨ (c = '-' ∧ ∃ d more, rest = d :: more ∧ d.isDigit = true)) :
    l.token = l.plain := by
  rcases hc with hc | ⟨rfl, d, more, rfl, hd⟩
  · have hcases : c = '0' ∨ c = '1' ∨ c = '2' ∨ c = '3' ∨ c = '4' ∨ c = '5' ∨ c = '6' ∨
        c = '7' ∨ c = '8' ∨ c = '9' ∨ c = 'n' ∨ c = 't' ∨ c = 'f' := by
      simpa [Lexeme.plainStarts] using hc
    rcases hcases with
      rfl | rfl | rfl | rfl | rfl | rfl | rfl | rfl | rfl | rfl | rfl | rfl | rfl <;>
      (rw [token, hr]; rfl)
  · have hne : ∀ x : Char, x.isDigit = false → (d == x) = false := fun x hx => by
      rw [beq_eq_false_iff_ne]
      rintro rfl
      rw [hd] at hx
      cases hx
    have hsep : atSeparator ('-' :: d :: more) = false := by
      unfold atSeparator
      split
      · rename_i heq
        cases heq
        exact absurd hd (by decide)
      · rename_i heq
        cases heq
      · rfl
    have hgap : atGap (d :: more) = false := by
      simp [atGap, isBlank, isBreak, hne ' ' (by decide), hne '\t' (by decide),
        hne '\n' (by decide), hne '\x85' (by decide), hne '\u2028' (by decide),
        hne '\u2029' (by decide)]
    have hstarts : startsPlain l.inFlow '-' (d :: more) = true := by
      simp [startsPlain, hgap]
    rw [token, hr]
    simp [hsep, hgap, hstarts]

theorem token_eq (h : l.IsFlat) (hs : x.Starts l.cursor.rest)
    (hx : x.isOuter = true ∨ l.inFlow = true) :
    l.token = .ok (apply x l) := by
  cases x with
  | opening t =>
    have htoken : l.token = l.flowStart t := by
      obtain ⟨rest, ⟨hr, rfl⟩ | ⟨hr, rfl⟩⟩ := hs <;> rw [token, hr] <;> rfl
    rw [htoken, flowStart, h.markKey]
    show Except.ok _ = Except.ok _
    rw [apply, outerKeys_mark]
  | closing t =>
    have htoken : l.token = l.flowEnd t := by
      obtain ⟨rest, ⟨hr, rfl⟩ | ⟨hr, rfl⟩⟩ := hs <;> rw [token, hr] <;> rfl
    have hin : l.outerKeys ≠ [] := by
      simpa [inFlow] using hx.resolve_left (by simp [Lexeme.isOuter])
    rw [htoken, flowEnd, h.forgetKey]
    cases hk : l.outerKeys with
    | nil => exact absurd hk hin
    | cons m ms =>
      simp only [bind, Except.bind, hk, apply, List.headD_cons, List.tail_cons]
      rfl
  | comma =>
    obtain ⟨rest, hr⟩ := hs
    have htoken : l.token = l.comma := by
      rw [token, hr]
      rfl
    rw [htoken, comma, h.forgetKey]
    rfl
  | colon =>
    obtain ⟨rest, hr⟩ := hs
    have hin := hx.resolve_left (by simp [Lexeme.isOuter])
    have htoken : l.token = l.colon := by
      rw [token, hr]
      simp [hin]
    rw [htoken, colon, apply]
    cases hk : l.key with
    | none =>
      simp only [hin, if_true]
      show Except.ok (({ l with keyAllowed := !l.inFlow }.emit .value).advance 1) = _
      rw [hin, hk]
      rfl
    | some m =>
      have hin' : ({ l with key := none }.emitAt m.token .key).inFlow = true := hin
      simp only [hin']
      rfl
  | quoted text size =>
    obtain ⟨rest, n, hr, hq, rfl⟩ := hs
    have htoken : l.token = l.quoted (doubleQuoted .none rest) := by
      rw [token, hr]
      rfl
    rw [htoken, quoted, h.markKey, hq]
    rfl
  | plain =>
    obtain ⟨c, rest, hr, hc⟩ := hs
    have hin := hx.resolve_left (by simp [Lexeme.isOuter])
    have hscalar : plainScalar l.mark.inFlow (l.mark.indent + 1) l.mark.cursor =
        plainScalar true 0 l.cursor := by
      rw [inFlow_mark, indent_mark, cursor_mark, hin, h.indent]
      rfl
    rw [token_plain hr hc, Lexer.plain, h.markKey]
    show Except.ok _ = Except.ok _
    rw [apply, hscalar]
  | finish =>
    have htoken : l.token = l.finish := by
      rw [token, show l.cursor.rest = [] from hs]
    rw [htoken, finish, boundary, h.unwind (Int.le_refl _), h.forgetKey]
    rfl

/-- A step reads the lexeme that follows. -/
theorem step_eq (h : l.IsFlat) (hs : x.Starts l.skipGap.cursor.rest)
    (hx : x.isOuter = true ∨ l.inFlow = true) :
    l.step = .ok (l.read x) := by
  have hflat := h.skipGap.tidy
  have hin : l.skipGap.tidy.inFlow = l.inFlow := by
    simp [inFlow, Lexer.skipGap, Lexer.tidy]
  have htoken : l.skipGap.tidy.token = .ok (apply x l.skipGap.tidy) := token_eq hflat hs (hin ▸ hx)
  have hadvance : l.skipGap.advanceToken = .ok (apply x l.skipGap.tidy) := by
    rw [advanceToken, forgetStale_eq h.skipGap.optional]
    show (l.skipGap.tidy.unwind _).token = _
    rw [hflat.unwind (by omega), htoken]
  rw [step]
  simp only [h.skipGap.fault, hadvance]
  rfl

/-! What a lexeme leaves. -/

/-- The mark that the token at the cursor would get. -/
def here (l : Lexer) : KeyMark := ⟨l.count, false, l.cursor.index, l.cursor.line, l.cursor.column⟩

theorem mem_marks_mark {m : KeyMark} (hm : m ∈ l.mark.marks) : m ∈ l.marks ∨ m = l.here := by
  rw [mark] at hm
  split at hm
  · rcases mem_marks.mp hm with hk | hk
    · exact Or.inr (Option.some.inj hk).symm
    · exact Or.inl (mem_marks.mpr (Or.inr hk))
  · exact Or.inl hm

theorem mem_marks_apply {m : KeyMark} (hm : m ∈ (apply x l).marks) : m ∈ l.marks ∨ m = l.here := by
  cases x with
  | opening t =>
    rcases mem_marks.mp hm with hk | hk
    · cases hk
    · rcases List.mem_cons.mp hk with hk | hk
      · exact mem_marks_mark (mem_marks.mpr (Or.inl hk.symm))
      · exact Or.inl (mem_marks.mpr (Or.inr hk))
  | closing t =>
    rcases mem_marks.mp hm with hk | hk
    · left
      have hk : l.outerKeys.headD none = some m := hk
      rw [mem_marks]
      right
      cases ho : l.outerKeys with
      | nil =>
        rw [ho] at hk
        cases hk
      | cons k ks =>
        rw [ho] at hk
        obtain rfl : k = some m := hk
        exact List.mem_cons_self
    · exact Or.inl (mem_marks.mpr (Or.inr (List.mem_of_mem_tail hk)))
  | comma =>
    rcases mem_marks.mp hm with hk | hk
    · cases hk
    · exact Or.inl (mem_marks.mpr (Or.inr hk))
  | colon =>
    rw [apply] at hm
    split at hm
    · rcases mem_marks.mp hm with hk | hk
      · cases hk
      · exact Or.inl (mem_marks.mpr (Or.inr hk))
    · exact Or.inl hm
  | quoted text size => exact mem_marks_mark hm
  | plain => exact mem_marks_mark hm
  | finish =>
    rcases mem_marks.mp hm with hk | hk <;> cases hk

theorem length_apply (x : Lexeme) (l : Lexer) : l.queue.length < (apply x l).queue.length ∧
    (apply x l).taken = l.taken := by
  cases x with
  | colon =>
    rw [apply]
    split
    · refine ⟨?_, rfl⟩
      show _ < (l.queue.insertIdx _ _ ++ [_]).length
      rw [List.length_append]
      exact Nat.lt_succ_of_le List.length_le_length_insertIdx
    · exact ⟨by simp [emit, advance], rfl⟩
  | opening t => exact ⟨by simp [apply, emit, advance], by simp [apply, emit, advance]⟩
  | quoted text size => exact ⟨by simp [apply, emit, advance], by simp [apply, emit, advance]⟩
  | plain => exact ⟨by simp [apply, emit], by simp [apply, emit]⟩
  | closing t => exact ⟨by simp [apply, emit, advance], rfl⟩
  | comma => exact ⟨by simp [apply, emit, advance], rfl⟩
  | finish => exact ⟨by simp [apply, emit], rfl⟩

theorem count_apply (x : Lexeme) (l : Lexer) : l.count ≤ (apply x l).count := by
  obtain ⟨hlen, htaken⟩ := length_apply x l
  rw [count, count, htaken]
  omega

theorem exists_drop_apply (x : Lexeme) (l : Lexer) : ∃ n, (apply x l).cursor = l.cursor.drop n := by
  cases x with
  | opening t => exact ⟨1, by rw [← l.cursor_mark]; rfl⟩
  | closing t => exact ⟨1, rfl⟩
  | comma => exact ⟨1, rfl⟩
  | colon =>
    rw [apply]
    split <;> exact ⟨1, rfl⟩
  | quoted text size => exact ⟨size, by rw [← l.cursor_mark]; rfl⟩
  | plain => exact exists_drop_plainScalar true 0 l.cursor
  | finish => exact ⟨0, rfl⟩

theorem IsFlat.apply (h : l.IsFlat) (hx : x ≠ .finish) : (apply x l).IsFlat := by
  have hmark : l.mark.fault = none ∧ l.mark.indent = -1 ∧ l.mark.outerIndents = [] ∧
      l.mark.done = false := by
    rw [l.mark_eq]
    exact ⟨h.fault, h.indent, h.outerIndents, h.done⟩
  have hfields : (Lexer.apply x l).fault = none ∧ (Lexer.apply x l).indent = -1 ∧
      (Lexer.apply x l).outerIndents = [] ∧ (Lexer.apply x l).done = false := by
    cases x with
    | opening t => exact hmark
    | closing t => exact ⟨h.fault, h.indent, h.outerIndents, h.done⟩
    | comma => exact ⟨h.fault, h.indent, h.outerIndents, h.done⟩
    | colon =>
      rw [Lexer.apply]
      split <;> exact ⟨h.fault, h.indent, h.outerIndents, h.done⟩
    | quoted text size => exact hmark
    | plain => exact hmark
    | finish => exact absurd rfl hx
  obtain ⟨hfault, hindent, houter, hdone⟩ := hfields
  obtain ⟨n, hcursor⟩ := exists_drop_apply x l
  refine ⟨hfault, hindent, houter, hdone, ?_, ?_, ?_⟩
  · intro m hm
    rcases mem_marks_apply hm with hm | rfl
    · exact h.optional m hm
    · rfl
  · intro m hm
    rcases mem_marks_apply hm with hm | rfl
    · exact Nat.le_trans (h.counted m hm) (count_apply x l)
    · exact count_apply x l
  · intro m hm
    rw [hcursor]
    rcases mem_marks_apply hm with hm | rfl
    · exact Nat.le_trans (h.behind m hm) (l.cursor.line_drop n)
    · exact l.cursor.line_drop n

theorem IsFlat.read (h : l.IsFlat) (hx : x ≠ .finish) : (l.read x).IsFlat := h.skipGap.tidy.apply hx

end Lexer

end ResolverHooks.Yaml
