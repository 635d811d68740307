import ResolverHooks.Proofs.Yaml.Flow

/-!
Tokens are read as they are asked for, and one that may still get a key mark in front of it makes
the scan read on. The tokens are those of a scan that reads the whole text at once: what is taken
away early stays as it is.
-/
namespace ResolverHooks.Yaml

theorem insertIdx_append {α : Type} (as bs : List α) (n : Nat) (a : α) :
    (as ++ bs).insertIdx (as.length + n) a = as ++ bs.insertIdx n a := by
  induction as with
  | nil => simp
  | cons b as ih => simp [Nat.succ_add, ih]

namespace Lexer

variable {l l' : Lexer} {x : Lexeme} {t : Token} {ts : List Token} {k n : Nat}

/-- The lexer once tokens have been taken away. -/
def after (l : Lexer) (k : Nat) : Lexer := { l with queue := l.queue.drop k, taken := l.taken + k }

/-- The first `k` tokens of the queue are as they will be: no key can start in front of them. -/
structure IsSettled (l : Lexer) (k : Nat) : Prop where
  le : k ≤ l.queue.length
  marks : ∀ m ∈ l.tidy.marks, l.taken + k ≤ m.token

theorem count_after (hk : k ≤ l.queue.length) : (l.after k).count = l.count := by
  rw [count, count, after, List.length_drop]
  show l.taken + k + (l.queue.length - k) = _
  omega

theorem IsFlat.after (h : l.IsFlat) (hk : k ≤ l.queue.length) : (l.after k).IsFlat := by
  refine ⟨h.fault, h.indent, h.outerIndents, h.done, h.optional, fun m hm => ?_, h.behind⟩
  rw [count_after hk]
  exact h.counted m hm

theorem mark_after (hk : k ≤ l.queue.length) : (l.after k).mark = l.mark.after k := by
  rw [mark, mark, count_after hk]
  show (if l.keyAllowed = true then _ else _) = _
  split <;> rfl

/-- What is put in behind settled tokens is put into those that follow. -/
theorem insertIdx_settled {queue : List Token} {place taken : Nat} (hk : k ≤ queue.length)
    (hplace : taken + k ≤ place) :
    queue.insertIdx (place - taken) t =
      queue.take k ++ (queue.drop k).insertIdx (place - (taken + k)) t := by
  have hlen : (queue.take k).length = k := List.length_take_of_le hk
  have hnum : place - taken = (queue.take k).length + (place - (taken + k)) := by omega
  rw [hnum, ← insertIdx_append, List.take_append_drop, hlen]

theorem emitAt_after {place : Nat} (hk : k ≤ l.queue.length) (hplace : l.taken + k ≤ place) :
    (l.after k).emitAt place t = (l.emitAt place t).after k := by
  simp only [emitAt, after, insertIdx_settled hk hplace]
  rw [List.drop_append_of_le_length (Nat.le_of_eq (List.length_take_of_le hk).symm), List.drop_take]
  simp

/-- A lexeme has its effect whether or not settled tokens have been taken away. -/
theorem apply_after (hk : k ≤ l.queue.length) (hkey : ∀ m ∈ l.key, l.taken + k ≤ m.token) :
    apply x (l.after k) = (apply x l).after k := by
  have hmark : k ≤ l.mark.queue.length := by rwa [queue_mark]
  cases x with
  | opening t =>
    rw [apply, apply, mark_after hk]
    simp only [emit, advance, after, List.drop_append_of_le_length hmark]
  | closing t => simp only [apply, emit, advance, after, List.drop_append_of_le_length hk]
  | comma => simp only [apply, emit, advance, after, List.drop_append_of_le_length hk]
  | colon =>
    have hafter : (l.after k).key = l.key := rfl
    rw [apply, apply, hafter]
    cases hm : l.key with
    | none => simp only [emit, advance, after, List.drop_append_of_le_length hk]
    | some m =>
      have hplace := emitAt_after (t := .key) hk (hkey m hm)
      have hlen : k ≤ (l.emitAt m.token .key).queue.length :=
        Nat.le_trans hk List.length_le_length_insertIdx
      have hqueue := congrArg Lexer.queue hplace
      simp only [emit, emitAt, advance, after] at hqueue hlen ⊢
      rw [hqueue, List.drop_append_of_le_length hlen]
  | quoted text size =>
    rw [apply, apply, mark_after hk]
    simp only [emit, advance, after, List.drop_append_of_le_length hmark]
  | plain =>
    have hcursor : (l.after k).cursor = l.cursor := rfl
    rw [apply, apply, mark_after hk, hcursor]
    simp only [emit, after, List.drop_append_of_le_length hmark]
  | finish => simp only [apply, emit, after, List.drop_append_of_le_length hk]

/-- Settled tokens stay in front of what a lexeme adds. -/
theorem take_apply (hk : k ≤ l.queue.length) (hkey : ∀ m ∈ l.key, l.taken + k ≤ m.token) :
    (apply x l).queue.take k = l.queue.take k := by
  have hemit : ∀ t, (l.queue ++ [t]).take k = l.queue.take k :=
    fun t => List.take_append_of_le_length hk
  cases x with
  | opening t =>
    show (l.mark.queue ++ [t]).take k = _
    rw [queue_mark, hemit]
  | closing t => exact hemit t
  | comma => exact hemit _
  | colon =>
    rw [apply]
    split
    · rename_i m hm
      have hplace : l.taken + k ≤ m.token := hkey m hm
      have hlen : k ≤ (l.queue.insertIdx (m.token - l.taken) Token.key).length :=
        Nat.le_trans hk List.length_le_length_insertIdx
      show (l.queue.insertIdx (m.token - l.taken) Token.key ++ [Token.value]).take k = _
      rw [List.take_append_of_le_length hlen, insertIdx_settled hk hplace,
        List.take_append_of_le_length (Nat.le_of_eq (List.length_take_of_le hk).symm),
        List.take_take, Nat.min_self]
    · exact hemit _
  | quoted text size =>
    show (l.mark.queue ++ [_]).take k = _
    rw [queue_mark, hemit]
  | plain =>
    show (l.mark.queue ++ [_]).take k = _
    rw [queue_mark, hemit]
  | finish => exact hemit _

/-! Marks that a key can no longer start from stay so. -/

theorem isStale_drop {m : KeyMark} {c : Cursor} (hm : m.line ≤ c.line)
    (h : KeyMark.isStale m c = true) (n : Nat) :
    KeyMark.isStale m (c.drop n) = true := by
  have hline := c.line_drop n
  have hindex := c.index_drop n
  simp only [KeyMark.isStale, Bool.or_eq_true, bne_iff_ne, decide_eq_true_eq] at h ⊢
  omega

theorem fresh_drop {c : Cursor} {k : Option KeyMark} (hk : ∀ m ∈ k, m.line ≤ c.line) (n : Nat) :
    fresh (c.drop n) (fresh c k) = fresh (c.drop n) k := by
  cases k with
  | none => rfl
  | some m =>
    simp only [fresh, Option.filter_some]
    cases hs : KeyMark.isStale m c with
    | false => rfl
    | true =>
      rw [isStale_drop (hk m rfl) hs n]
      rfl

/-- It does not matter whether stale marks are forgotten before a gap or only behind it. -/
theorem IsFlat.tidy_skipGap (h : l.IsFlat) : l.tidy.skipGap.tidy = l.skipGap.tidy := by
  have hkey : fresh (l.cursor.drop (gapLength false l.cursor.rest).1) (fresh l.cursor l.key) =
      fresh (l.cursor.drop (gapLength false l.cursor.rest).1) l.key :=
    fresh_drop (fun m hm => h.behind m (mem_marks.mpr (Or.inl hm))) _
  have houter : (l.outerKeys.map (fresh l.cursor)).map
      (fresh (l.cursor.drop (gapLength false l.cursor.rest).1)) =
      l.outerKeys.map (fresh (l.cursor.drop (gapLength false l.cursor.rest).1)) := by
    rw [List.map_map]
    refine List.map_congr_left fun k hk => ?_
    exact fresh_drop (fun m hm => h.behind m (mem_marks.mpr (Or.inr (Option.mem_def.mp hm ▸ hk)))) _
  have hin : l.tidy.inFlow = l.inFlow := by simp [inFlow, Lexer.tidy]
  rw [Lexer.skipGap, hin, Lexer.tidy]
  simp only [Lexer.tidy, Lexer.skipGap, hkey, houter]

theorem IsFlat.tidy_tidy (h : l.IsFlat) : l.tidy.tidy = l.tidy := by
  have hkey : fresh l.cursor (fresh l.cursor l.key) = fresh l.cursor l.key :=
    fresh_drop (fun m hm => h.behind m (mem_marks.mpr (Or.inl hm))) 0
  have houter : (l.outerKeys.map (fresh l.cursor)).map (fresh l.cursor) =
      l.outerKeys.map (fresh l.cursor) := by
    rw [List.map_map]
    refine List.map_congr_left fun k hk => ?_
    exact fresh_drop (fun m hm => h.behind m (mem_marks.mpr (Or.inr (Option.mem_def.mp hm ▸ hk)))) 0
  rw [Lexer.tidy, Lexer.tidy]
  simp only [hkey, houter]

theorem IsFlat.read_tidy (h : l.IsFlat) : l.tidy.read x = l.read x := by
  rw [Lexer.read, Lexer.read, h.tidy_skipGap]

theorem IsFlat.marks_skipGap (h : l.IsFlat) {m : KeyMark} (hm : m ∈ l.skipGap.tidy.marks) :
    m ∈ l.tidy.marks := by
  obtain ⟨hm, hs⟩ := mem_marks_tidy.mp hm
  refine mem_marks_tidy.mpr ⟨hm, ?_⟩
  cases hstale : KeyMark.isStale m l.cursor with
  | false => rfl
  | true =>
    have := isStale_drop (h.behind m hm) hstale (gapLength false l.cursor.rest).1
    exact absurd (this.symm.trans hs) (by decide)

theorem IsSettled.key (h : l.IsFlat) (hs : l.IsSettled k) :
    ∀ m ∈ l.skipGap.tidy.key, l.taken + k ≤ m.token :=
  fun m hm => hs.marks m (h.marks_skipGap (mem_marks.mpr (Or.inl hm)))

theorem read_after (h : l.IsFlat) (hs : l.IsSettled k) : (l.after k).read x = (l.read x).after k :=
  apply_after (l := l.skipGap.tidy) hs.le (hs.key h)

theorem take_read (h : l.IsFlat) (hs : l.IsSettled k) : (l.read x).queue.take k = l.queue.take k :=
  take_apply (l := l.skipGap.tidy) hs.le (hs.key h)

theorem IsSettled.read (h : l.IsFlat) (hs : l.IsSettled k) : (l.read x).IsSettled k := by
  obtain ⟨hlen, htaken⟩ := length_apply x l.skipGap.tidy
  have htaken : (l.read x).taken = l.taken := htaken
  refine ⟨Nat.le_trans hs.le (Nat.le_of_lt hlen), fun m hm => ?_⟩
  rw [htaken]
  rcases mem_marks_apply (mem_marks_tidy.mp hm).1 with hm | rfl
  · exact hs.marks m (h.marks_skipGap hm)
  · show l.taken + k ≤ l.taken + l.queue.length
    exact Nat.add_le_add_left hs.le _

/-! Asking for tokens. -/

/-- The tokens that are handed out, one after another. -/
inductive Ahead : Lexer → List Token → Prop where
  | nil {l : Lexer} : Ahead l []
  | cons {l l' : Lexer} {t : Token} {ts : List Token} :
      l.peek = .ok (t, l') → Ahead l'.skip ts → Ahead l (t :: ts)

theorem fill_mono (h : l.fill n = .ok l') (hle : n ≤ k) : l.fill k = .ok l' := by
  induction n generalizing l k with
  | zero => cases h
  | succ n ih =>
    cases k with
    | zero => omega
    | succ k =>
      have hle : n ≤ k := by omega
      rw [fill] at h ⊢
      split
      · rename_i hd
        rwa [if_pos hd] at h
      · rename_i hd
        rw [if_neg hd] at h
        split
        · rename_i hq
          rw [if_pos hq] at h
          cases hstep : l.step with
          | error f =>
            rw [hstep] at h
            cases h
          | ok next =>
            rw [hstep] at h
            exact ih h hle
        · rename_i hq
          rw [if_neg hq] at h
          cases hforget : l.forgetStale with
          | error f =>
            rw [hforget] at h
            cases h
          | ok fresh =>
            rw [hforget] at h
            simp only [bind, Except.bind] at h ⊢
            split
            · rename_i hp
              rw [if_pos hp] at h
              cases hstep : fresh.step with
              | error f =>
                rw [hstep] at h
                cases h
              | ok next =>
                rw [hstep] at h
                exact ih h hle
            · rename_i hp
              rwa [if_neg hp] at h

theorem fill_of_done (h : l.done = true) (n : Nat) : l.fill (n + 1) = .ok l := by
  rw [fill, if_pos h]
  rfl

/-- What a lexeme asks of the place where it is read. -/
structure Reaches (l : Lexer) (x : Lexeme) : Prop where
  starts : x.Starts l.skipGap.cursor.rest
  inside : x.isOuter = true ∨ l.inFlow = true
  /-- The end of the text takes no character, and everything else at least one. -/
  shorter : (l.read x).cursor.rest.length < l.cursor.rest.length ∨ (l.read x).done = true

theorem Reaches.step (hr : l.Reaches x) (h : l.IsFlat) (hs : l.IsSettled k) :
    (l.after k).step = .ok ((l.read x).after k) := by
  rw [step_eq (h.after hs.le) hr.starts hr.inside, read_after h hs]

theorem IsSettled.tidy (h : l.IsFlat) (hs : l.IsSettled k) : l.tidy.IsSettled k :=
  ⟨hs.le, fun m hm => hs.marks m (by rwa [h.tidy_tidy] at hm)⟩

theorem Reaches.tidy (hr : l.Reaches x) (h : l.IsFlat) : l.tidy.Reaches x := by
  refine ⟨hr.starts, ?_, ?_⟩
  · have hin : l.tidy.inFlow = l.inFlow := by simp [inFlow, Lexer.tidy]
    rw [hin]
    exact hr.inside
  · rw [h.read_tidy]
    exact hr.shorter

/-- A token is asked for either of the lexer as it is, or, where nothing is settled, of the next
one. -/
theorem Reaches.fill (hr : l.Reaches x) (h : l.IsFlat) (hs : l.IsSettled k) (n : Nat) :
    (l.after k).fill (n + 1) = ((l.read x).after k).fill n ∨
      (l.IsSettled (k + 1) ∧ (l.after k).fill (n + 1) = .ok (l.tidy.after k)) := by
  have hdone : (l.after k).done = false := h.done
  rw [Lexer.fill, hdone]
  cases hq : (l.after k).queue.isEmpty with
  | true =>
    left
    simp only [Bool.false_eq_true, if_false, if_true]
    rw [hr.step h hs]
    rfl
  | false =>
    have hforget : (l.after k).forgetStale = .ok (l.tidy.after k) :=
      forgetStale_eq (h.after hs.le).optional
    simp only [Bool.false_eq_true, if_false, hforget, bind, Except.bind]
    cases hp : (l.tidy.after k).isPending with
    | true =>
      left
      simp only [if_true]
      rw [(hr.tidy h).step h.tidy (hs.tidy h), h.read_tidy]
    | false =>
      right
      refine ⟨⟨?_, ?_⟩, rfl⟩
      · have hne : l.queue.drop k ≠ [] := by simpa [after] using hq
        have := List.length_pos_iff.mpr hne
        rw [List.length_drop] at this
        omega
      · intro m hm
        have hle := hs.marks m hm
        have hne : m.token ≠ l.taken + k := by
          intro heq
          have hpending : (l.tidy.after k).isPending = true := by
            rw [isPending, List.any_eq_true]
            have hm : some m ∈ (l.tidy.after k).key :: (l.tidy.after k).outerKeys := by
              rcases mem_marks.mp hm with hk | hk
              · exact List.mem_cons.mpr (Or.inl hk.symm)
              · exact List.mem_cons_of_mem _ hk
            refine ⟨some m, hm, ?_⟩
            rw [Option.map_some, heq]
            exact beq_self_eq_true _
          rw [hp] at hpending
          cases hpending
        omega

theorem Reaches.fill_tidy (hr : l.Reaches x) (h : l.IsFlat) (hs : l.IsSettled k) (n : Nat) :
    (l.tidy.after k).fill (n + 1) = (l.after k).fill (n + 1) := by
  have hdone : (l.after k).done = false := h.done
  have hdone' : (l.tidy.after k).done = false := h.done
  have hqueue : (l.tidy.after k).queue = (l.after k).queue := rfl
  rw [Lexer.fill, Lexer.fill, hdone, hdone', hqueue]
  cases hq : (l.after k).queue.isEmpty with
  | true =>
    simp only [Bool.false_eq_true, if_false, if_true]
    rw [hr.step h hs, (hr.tidy h).step h.tidy (hs.tidy h), h.read_tidy]
  | false =>
    have hforget : (l.after k).forgetStale = .ok (l.tidy.after k) :=
      forgetStale_eq (h.after hs.le).optional
    have hforget' : (l.tidy.after k).forgetStale = .ok (l.tidy.after k) := by
      rw [forgetStale_eq (h.tidy.after hs.le).optional]
      exact congrArg (fun l : Lexer => Except.ok (l.after k)) h.tidy_tidy
    simp only [Bool.false_eq_true, if_false, hforget, hforget']

/-- The tokens that are handed out depend on nothing but the next one. -/
theorem Ahead.of_fill (h : l.fill (l.cursor.rest.length + 3) = l'.fill n)
    (hn : l'.cursor.rest.length + 3 ≤ n ∨ l'.done = true)
    (hpos : 0 < n) (ha : Ahead l' ts) : Ahead l ts := by
  cases ha with
  | nil => exact .nil
  | @cons _ fresh t ts hpeek hrest =>
    have hfill : l'.fill (l'.cursor.rest.length + 3) = .ok fresh ∧
        t = fresh.queue.headD .streamEnd := by
      rw [peek] at hpeek
      cases hf : l'.fill (l'.cursor.rest.length + 3) with
      | error f =>
        rw [hf] at hpeek
        cases hpeek
      | ok fresh' =>
        rw [hf] at hpeek
        obtain ⟨rfl, rfl⟩ := Prod.mk.inj (Except.ok.inj hpeek)
        exact ⟨rfl, rfl⟩
    have hsame : l'.fill n = .ok fresh := by
      rcases hn with hn | hn
      · exact fill_mono hfill.1 hn
      · obtain ⟨n, rfl⟩ := Nat.exists_eq_succ_of_ne_zero (Nat.ne_of_gt hpos)
        rw [fill_of_done hn, ← hfill.1, fill_of_done hn]
    refine @Ahead.cons _ fresh _ _ ?_ hrest
    rw [peek, h, hsame, hfill.2]
    rfl

/-- Behind the end of the text there is nothing to read. -/
theorem ahead_of_done {k : Nat} (h : l.done = true) (hk : k ≤ l.queue.length) :
    Ahead (l.after k) (l.queue.drop k) := by
  rcases Nat.eq_or_lt_of_le hk with rfl | hlt
  · rw [List.drop_length]
    exact .nil
  · rw [List.drop_eq_getElem_cons hlt]
    refine @Ahead.cons _ (l.after k) _ _ ?_ ?_
    · rw [peek, fill_of_done (l := l.after k) h]
      show Except.ok ((l.queue.drop k).headD .streamEnd, _) = _
      rw [List.drop_eq_getElem_cons hlt]
      rfl
    · have hskip : (l.after k).skip = l.after (k + 1) := by
        simp only [skip, after, List.drop_drop, Nat.add_assoc]
      rw [hskip]
      exact ahead_of_done h hlt
termination_by l.queue.length - k

/-- If the tokens behind a lexeme are handed out as they are read, then so are those in front of
it. -/
theorem Reaches.ahead {k : Nat} (hr : l.Reaches x) (h : l.IsFlat) (hs : l.IsSettled k)
    (hnext : ∀ k, (l.read x).IsSettled k → Ahead ((l.read x).after k) (ts.drop k))
    (hstable : ∀ k, (l.read x).IsSettled k → ts.take k = (l.read x).queue.take k) :
    Ahead (l.after k) (ts.drop k) := by
  have hfill : ∀ n, ((l.read x).after k).cursor.rest.length < n ∨ ((l.read x).after k).done = true →
      ((l.read x).after k).cursor.rest.length + 3 ≤ n + 2 ∨
        ((l.read x).after k).done = true := fun n hn =>
    hn.imp (fun hlt => by omega) id
  rcases hr.fill h hs (l.cursor.rest.length + 2) with hstep | ⟨hs', hready⟩
  · refine Ahead.of_fill (l := l.after k) hstep (hfill _ hr.shorter) (by omega)
      (hnext k (hs.read h))
  · have hlt : k < l.queue.length := hs'.le
    have htake : ts.take (k + 1) = l.queue.take (k + 1) := by
      rw [hstable (k + 1) (hs'.read h), take_read h hs']
    have hlen : k < ts.length := by
      have := congrArg List.length htake
      rw [List.length_take, List.length_take] at this
      omega
    have hhead : ts[k] = l.queue[k] := by
      have := congrArg (fun l => l[k]?) htake
      simp only [List.getElem?_take_of_lt (Nat.lt_succ_self k), List.getElem?_eq_getElem hlen,
        List.getElem?_eq_getElem hlt] at this
      exact Option.some.inj this
    have hskip : (l.tidy.after k).skip = l.tidy.after (k + 1) := by
      simp only [skip, after, List.drop_drop, Nat.add_assoc]
    rw [List.drop_eq_getElem_cons hlen, hhead]
    refine @Ahead.cons _ (l.tidy.after k) _ _ ?_ ?_
    · rw [peek]
      show ((l.after k).fill (l.cursor.rest.length + 3) >>= _) = _
      rw [hready]
      show Except.ok ((l.queue.drop k).headD .streamEnd, _) = _
      rw [List.drop_eq_getElem_cons hlt]
      rfl
    · rw [hskip]
      have hrest := hr.ahead h hs' hnext hstable
      exact Ahead.of_fill (l := l.tidy.after (k + 1)) (hr.fill_tidy h hs' _)
        (Or.inl (Nat.le_refl _)) (by omega) hrest
termination_by l.queue.length - k

/-- Reading on, lexeme after lexeme. -/
inductive Reads : Lexer → Lexer → Prop where
  | refl {l : Lexer} : Reads l l
  | step {l l' : Lexer} {x : Lexeme} : l.Reaches x → x ≠ .finish → Reads (l.read x) l' → Reads l l'

theorem Reads.trans {a b c : Lexer} (h : Reads a b) (h' : Reads b c) : Reads a c := by
  induction h with
  | refl => exact h'
  | step hr hx _ ih => exact .step hr hx (ih h')

theorem Reads.one (hr : l.Reaches x) (hx : x ≠ .finish) : Reads l (l.read x) := .step hr hx .refl

/-- The tokens of a text that is read to its end. -/
theorem ahead_of_reads (h : l.IsFlat) (hr : Reads l l') (hend : l'.Reaches .finish)
    (hs : l.IsSettled k) :
    Ahead (l.after k) ((l'.read .finish).queue.drop k) ∧
      (l'.read .finish).queue.take k = l.queue.take k := by
  induction hr generalizing k with
  | refl =>
    rename_i l
    refine ⟨hend.ahead h hs (fun j hj => ahead_of_done rfl hj.le) (fun j _ => rfl), take_read h hs⟩
  | step hreach hx _ ih =>
    have hflat := h.read hx
    refine ⟨hreach.ahead h hs (fun j hj => (ih hflat hend hj).1)
      (fun j hj => (ih hflat hend hj).2), ?_⟩
    rw [(ih hflat hend (hs.read h)).2, take_read h hs]

end Lexer

end ResolverHooks.Yaml
