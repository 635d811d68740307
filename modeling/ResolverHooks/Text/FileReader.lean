import ResolverHooks.Text.Encoding

/-!
Reading a text file piece by piece. Bytes are taken in blocks, so a fault in a block shows only once
a piece is asked for that needs the block.
-/
namespace ResolverHooks.Text

/-- What is left of a file: bytes, the beginning of a character, a carriage return that may be half
of a line break, and text that is decoded but not handed out. The last block had `ratio.1` bytes and
`ratio.2` characters. -/
structure FileReader where
  bytes : List UInt8
  begun : Option Partial
  heldReturn : Bool
  ready : List Char
  ratio : Nat × Nat

namespace FileReader

def start (bytes : List UInt8) : FileReader := ⟨bytes, none, false, [], (0, 0)⟩

/-- The least size of a block. -/
def blockSize : Nat := 8192

/-- The size of the block from which `wanted` characters are to come: larger where characters have
been taking several bytes. -/
def nextSize (r : FileReader) (wanted : Nat) : Nat :=
  max blockSize (if r.ratio.2 = 0 then wanted else max wanted (r.ratio.1 * wanted / r.ratio.2))

/-- Decodes the next block; absent if it does not fit, or if the file ends inside a character. The
flag says that nothing is left. -/
def takeBlock? (r : FileReader) (wanted : Nat) : Option (FileReader × Bool) := do
  let block := r.bytes.take (r.nextSize wanted)
  let (cs, begun) ← decodeBlock? r.begun [] block
  let atEnd := block.isEmpty
  if atEnd && begun.isSome then none
  let cs := if r.heldReturn && (atEnd || !cs.isEmpty) then '\r' :: cs else cs
  let held := !atEnd && (cs.getLast? == some '\r' || (cs.isEmpty && r.heldReturn))
  let cs := plainBreaks false (if held && !cs.isEmpty then cs.dropLast else cs)
  return ({ bytes := r.bytes.drop block.length, begun, heldReturn := held, ready := r.ready ++ cs
            ratio := (block.length, cs.length) }, atEnd && cs.isEmpty)

/-- Takes blocks until `count` characters are ready or the file ends. A block takes at least one
byte, so as many rounds as there are bytes and a few more are enough. -/
def prepare? (count : Nat) : Nat → FileReader → Option FileReader
  | 0, r => some r
  | fuel + 1, r =>
    if count ≤ r.ready.length then some r
    else do
      let (r, ended) ← r.takeBlock? (count - r.ready.length)
      if ended then return r else prepare? count fuel r

/-- Hands out the next `count` characters, fewer only at the end; absent at a fault. -/
def read? (count : Nat) (r : FileReader) : Option (List Char × FileReader) :=
  (r.prepare? count (r.bytes.length + 3)).map fun r =>
    (r.ready.take count, { r with ready := r.ready.drop count })

end FileReader

end ResolverHooks.Text
