import Mathlib.Tactic.Common
import ResolverHooks.Text.FileReader

/-!
Reading a file of plain ASCII. No block ends inside a character or a line break, so what the blocks
have given and the bytes that are left always make up the same text.
-/
namespace ResolverHooks.Text

variable {c : Char} {cs text : List Char} {count : Nat}

/-- Characters of one byte that stand for themselves, whatever comes before them. -/
def IsPlainAscii (c : Char) : Prop := c.toNat < 0x80 ∧ c ≠ '\r'

/-- The byte of each character. -/
def asciiBytes (cs : List Char) : List UInt8 := cs.map fun c => UInt8.ofNat c.toNat

theorem toNat_ofNat (h : IsPlainAscii c) : (UInt8.ofNat c.toNat).toNat = c.toNat := by
  have := h.1
  rw [UInt8.toNat_ofNat']
  omega

theorem byteArray_toList_loop (bs : ByteArray) (i : Nat) (r : List UInt8) :
    ByteArray.toList.loop bs i r = r.reverse ++ bs.data.toList.drop i := by
  induction i, r using ByteArray.toList.loop.induct bs with
  | case1 i r hlt ih =>
    have hi : i < bs.data.toList.length := hlt
    have hget : bs.get! i = bs.data.toList[i] := by
      show bs.data[i]! = _
      rw [Array.getElem_toList]
      exact getElem!_pos bs.data i hlt
    rw [ByteArray.toList.loop, if_pos hlt, ih, List.drop_eq_getElem_cons hi, hget]
    simp
  | case2 i r hge =>
    have hlen : bs.data.toList.length ≤ i := Nat.le_of_not_lt hge
    rw [ByteArray.toList.loop, if_neg hge, List.drop_eq_nil_of_le hlen, List.append_nil]

theorem byteArray_toList (bs : ByteArray) : bs.toList = bs.data.toList := by
  rw [ByteArray.toList, byteArray_toList_loop]
  rfl

/-- Plain ASCII is encoded byte by byte. -/
theorem encode_ofList (h : ∀ c ∈ cs, IsPlainAscii c) :
    encode (String.ofList cs) = asciiBytes cs := by
  have hchar : ∀ c, IsPlainAscii c → String.utf8EncodeChar c = [UInt8.ofNat c.toNat] := by
    intro c hc
    have hle : c.val.toNat ≤ 127 := Nat.le_of_lt_succ hc.1
    rw [String.utf8EncodeChar]
    simp only [hle, if_true]
    rfl
  have hflat : cs.flatMap String.utf8EncodeChar = asciiBytes cs := by
    induction cs with
    | nil => rfl
    | cons c cs ih =>
      rw [List.flatMap_cons, hchar c (h c List.mem_cons_self), ih fun d hd =>
        h d (List.mem_cons_of_mem c hd)]
      rfl
  rw [encode, byteArray_toList, ← hflat]
  show (List.utf8Encode cs).data.toList = _
  rw [List.utf8Encode, List.toList_data_toByteArray]

theorem decodeBlock?_asciiBytes (h : ∀ c ∈ cs, IsPlainAscii c) (done : List Char) :
    decodeBlock? none done (asciiBytes cs) = some (done.reverse ++ cs, none) := by
  induction cs generalizing done with
  | nil => simp [asciiBytes, decodeBlock?]
  | cons c cs ih =>
    have hc := h c List.mem_cons_self
    have hlead : continuation? (UInt8.ofNat c.toNat) = some (0, 0, 0) := by
      rw [continuation?, toNat_ofNat hc]
      exact if_pos hc.1
    rw [asciiBytes, List.map_cons, decodeBlock?]
    simp only [hlead, toNat_ofNat hc, Char.ofNat_toNat]
    have hrest := ih (fun d hd => h d (List.mem_cons_of_mem c hd)) (c :: done)
    rw [asciiBytes] at hrest
    rw [hrest]
    simp

theorem plainBreaks_eq_self (h : ∀ c ∈ cs, IsPlainAscii c) : plainBreaks false cs = cs := by
  induction cs with
  | nil => rfl
  | cons c cs ih =>
    have hc := h c List.mem_cons_self
    rw [plainBreaks, if_neg hc.2, if_neg (by simp), ih fun d hd => h d (List.mem_cons_of_mem c hd)]

namespace FileReader

variable {r : FileReader} {rest : List Char}

/-- What has been read and what is left of a file of plain ASCII. -/
structure Leaves (r : FileReader) (rest : List Char) : Prop where
  bytes : r.bytes = asciiBytes rest
  begun : r.begun = none
  heldReturn : r.heldReturn = false
  plain : ∀ c ∈ rest, IsPlainAscii c

theorem Leaves.start (h : ∀ c ∈ cs, IsPlainAscii c) :
    (start (asciiBytes cs)).Leaves cs := ⟨rfl, rfl, rfl, h⟩

/-- A block moves characters from what is left to what has been read. -/
theorem Leaves.takeBlock? (h : r.Leaves rest) (count : Nat) :
    ∃ n r', 0 < n ∧ r.takeBlock? count = some (r', (rest.take n).isEmpty) ∧
      r'.Leaves (rest.drop n) ∧
      r'.ready = r.ready ++ rest.take n := by
  obtain ⟨hbytes, hbegun, hheld, hplain⟩ := h
  have hn : 0 < r.nextSize count := Nat.lt_of_lt_of_le (by decide) (Nat.le_max_left blockSize _)
  have hblock : r.bytes.take (r.nextSize count) = asciiBytes (rest.take (r.nextSize count)) := by
    rw [hbytes, asciiBytes, asciiBytes, List.map_take]
  generalize hsize : r.nextSize count = n at hn hblock
  have htaken : ∀ c ∈ rest.take n, IsPlainAscii c := fun c hc => hplain c (List.mem_of_mem_take hc)
  have hempty : (asciiBytes (rest.take n)).isEmpty = (rest.take n).isEmpty := by
    cases rest.take n <;> rfl
  have hlast : ((rest.take n).getLast? == some '\r') = false := by
    rw [beq_eq_false_iff_ne]
    exact fun hlast => (htaken _ (List.mem_of_getLast? hlast)).2 rfl
  refine ⟨n, ⟨r.bytes.drop (asciiBytes (rest.take n)).length, none, false, r.ready ++ rest.take n,
    ((asciiBytes (rest.take n)).length, (rest.take n).length)⟩, hn, ?_, ⟨?_, rfl, rfl, ?_⟩, rfl⟩
  · rw [FileReader.takeBlock?, hsize, hblock, hbegun, hheld]
    simp only [decodeBlock?_asciiBytes htaken, bind, Option.bind, hempty, List.reverse_nil,
      List.nil_append, Option.isSome_none, Bool.and_false, Bool.false_eq_true, if_false,
      Bool.false_and, hlast, Bool.or_false, plainBreaks_eq_self htaken, Bool.and_self]
    rfl
  · show r.bytes.drop (asciiBytes (rest.take n)).length = _
    have hsplit : asciiBytes rest = asciiBytes (rest.take n) ++ asciiBytes (rest.drop n) := by
      rw [asciiBytes, asciiBytes, asciiBytes, ← List.map_append, List.take_append_drop]
    rw [hbytes, hsplit, List.drop_left]
  · exact fun c hc => hplain c (List.mem_of_mem_drop hc)

/-- Blocks are taken until enough is ready or nothing is left. -/
theorem Leaves.prepare? (h : r.Leaves rest) (count fuel : Nat) (hfuel : rest.length < fuel) :
    ∃ r' more, r.prepare? count fuel = some r' ∧ r'.Leaves more ∧
      r'.ready ++ more = r.ready ++ rest ∧
      (count ≤ r'.ready.length ∨ more = []) := by
  induction fuel generalizing r rest with
  | zero => cases hfuel
  | succ fuel ih =>
    rw [FileReader.prepare?]
    split
    · rename_i hready
      exact ⟨r, rest, rfl, h, rfl, Or.inl hready⟩
    · obtain ⟨n, r', hn, hblock, hleaves, hgot⟩ := h.takeBlock? (count - r.ready.length)
      rw [hblock]
      cases rest with
      | nil =>
        refine ⟨r', [], by simp, by simpa using hleaves, ?_, Or.inr rfl⟩
        rw [hgot]
        simp
      | cons c rest =>
        have hsome : ((c :: rest).take n).isEmpty = false := by
          obtain ⟨n, rfl⟩ := Nat.exists_eq_succ_of_ne_zero (Nat.ne_of_gt hn)
          rfl
        have hshort : ((c :: rest).drop n).length < fuel := by
          rw [List.length_drop, List.length_cons]
          rw [List.length_cons] at hfuel
          omega
        obtain ⟨r'', more, hrun, hleaves', hsame, hend⟩ := ih hleaves hshort
        refine ⟨r'', more, ?_, hleaves', ?_, hend⟩
        · simp only [hsome]
          exact hrun
        · rw [hsame, hgot, List.append_assoc, List.take_append_drop]

/-- What is handed out is the text in order, and nothing only at its end. -/
theorem Leaves.read? (h : r.Leaves rest) (hc : 0 < count) :
    ∃ cs r' more, r.read? count = some (cs, r') ∧ r'.Leaves more ∧
      r.ready ++ rest = cs ++ (r'.ready ++ more) ∧
      (cs = [] → r.ready ++ rest = []) := by
  have hlen : r.bytes.length = rest.length := by rw [h.bytes, asciiBytes, List.length_map]
  obtain ⟨r', more, hrun, hleaves, hsame, hend⟩ := h.prepare? count (r.bytes.length + 3) (by omega)
  refine ⟨r'.ready.take count, { r' with ready := r'.ready.drop count }, more, ?_,
    ⟨hleaves.bytes, hleaves.begun, hleaves.heldReturn, hleaves.plain⟩, ?_, ?_⟩
  · rw [FileReader.read?, hrun]
    rfl
  · rw [← hsame, ← List.append_assoc, List.take_append_drop]
  · intro hnone
    have hready : r'.ready = [] := by
      rcases List.take_eq_nil_iff.mp hnone with hzero | hready
      · omega
      · exact hready
    rw [← hsame, hready]
    refine hend.resolve_left ?_
    rw [hready]
    exact Nat.not_le_of_lt hc

end FileReader

end ResolverHooks.Text
