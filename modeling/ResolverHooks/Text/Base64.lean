/-! Reading base 64, leniently: characters outside the alphabet are passed over. -/
namespace ResolverHooks.Text

def base64Digit? (c : Char) : Option Nat :=
  if 'A' ≤ c ∧ c ≤ 'Z' then some (c.toNat - 65)
  else if 'a' ≤ c ∧ c ≤ 'z' then some (c.toNat - 71)
  else if '0' ≤ c ∧ c ≤ '9' then some (c.toNat + 4)
  else if c = '+' then some 62
  else if c = '/' then some 63
  else none

/-- The digits up to the padding, which must complete a group of four unless no group is open. -/
def base64Digits (pads : Nat) (digits : List Nat) : List Char → Option (List Nat)
  | [] => if digits.length % 4 = 0 then some digits else none
  | c :: rest =>
    if c = '=' then
      let open_ := digits.length % 4
      if 2 ≤ open_ ∧ 4 ≤ open_ + pads + 1 then some digits
      else base64Digits (if 2 ≤ open_ then pads + 1 else pads) digits rest
    else
      match base64Digit? c with
      | some d => base64Digits 0 (digits ++ [d]) rest
      | none => base64Digits pads digits rest

/-- The bytes of base 64 digits; a last group of two or three digits gives one byte or two. -/
def base64Bytes : List Nat → List UInt8
  | a :: b :: c :: d :: rest =>
    UInt8.ofNat (a * 4 + b / 16) :: UInt8.ofNat (b % 16 * 16 + c / 4) ::
      UInt8.ofNat (c % 4 * 64 + d) :: base64Bytes rest
  | [a, b, c] => [UInt8.ofNat (a * 4 + b / 16), UInt8.ofNat (b % 16 * 16 + c / 4)]
  | [a, b] => [UInt8.ofNat (a * 4 + b / 16)]
  | _ => []

def base64? (s : String) : Option (List UInt8) :=
  if s.toList.all fun c => c.toNat < 128 then (base64Digits 0 [] s.toList).map base64Bytes
  else none

end ResolverHooks.Text
