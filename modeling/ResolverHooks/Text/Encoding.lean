/-!
Text files: UTF-8, with line breaks of any convention. A file is decoded block by block, and a block
may end in the middle of a character or of a line break.
-/
namespace ResolverHooks.Text

/-- The text that bytes are the UTF-8 form of, if they are one. -/
def decode? (bytes : List UInt8) : Option String := String.fromUTF8? ⟨bytes.toArray⟩

def encode (s : String) : List UInt8 := s.toUTF8.toList

/-- Writes every line break as a line feed; a carriage return and a line feed are one break. -/
def plainBreaks (afterReturn : Bool) : List Char → List Char
  | [] => []
  | c :: rest =>
    if c = '\r' then '\n' :: plainBreaks true rest
    else if c = '\n' ∧ afterReturn then plainBreaks false rest
    else c :: plainBreaks false rest

/-- How many bytes follow the first byte of a character, and the range of the first of them; absent
for a byte that starts no character. -/
def continuation? (b : UInt8) : Option (Nat × Nat × Nat) :=
  let n := b.toNat
  if n < 0x80 then some (0, 0, 0)
  else if n < 0xC2 then none
  else if n < 0xE0 then some (1, 0x80, 0xBF)
  else if n < 0xF0 then
    some (2, if n = 0xE0 then 0xA0 else 0x80, if n = 0xED then 0x9F else 0xBF)
  else if n < 0xF5 then
    some (3, if n = 0xF0 then 0x90 else 0x80, if n = 0xF4 then 0x8F else 0xBF)
  else none

/-- The bits that the first byte of a character with this many further bytes adds to its code. -/
def leadBits (more : Nat) (b : UInt8) : Nat :=
  match more with
  | 0 => b.toNat
  | 1 => b.toNat % 0x20
  | 2 => b.toNat % 0x10
  | _ => b.toNat % 8

/-- A character of which the bytes so far are known: how many are still to come, the range of the
next one, and the code so far. -/
structure Partial where
  more : Nat
  low : Nat
  high : Nat
  code : Nat
deriving Repr, DecidableEq

/-- Decodes a block behind an unfinished character, as far as the characters are complete; absent if
a byte does not fit. -/
def decodeBlock? (p : Option Partial) (done : List Char) :
    List UInt8 → Option (List Char × Option Partial)
  | [] => some (done.reverse, p)
  | b :: rest =>
    match p with
    | some p =>
      if p.low ≤ b.toNat ∧ b.toNat ≤ p.high then
        let code := p.code * 0x40 + b.toNat % 0x40
        if p.more ≤ 1 then decodeBlock? none (Char.ofNat code :: done) rest
        else decodeBlock? (some ⟨p.more - 1, 0x80, 0xBF, code⟩) done rest
      else none
    | none =>
      match continuation? b with
      | none => none
      | some (0, _, _) => decodeBlock? none (Char.ofNat b.toNat :: done) rest
      | some (more, low, high) => decodeBlock? (some ⟨more, low, high, leadBits more b⟩) done rest

end ResolverHooks.Text
