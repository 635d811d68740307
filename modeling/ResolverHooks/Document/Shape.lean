import ResolverHooks.Document.Display
import ResolverHooks.Document.Unfolding

/-! What can be wrong with the shape of a value, and the values that can be listed. -/
namespace ResolverHooks

/-- A value that does not have the shape its use asks for. -/
inductive ShapeFault where
  /-- A mapping is asked for. -/
  | notMapping
  /-- Members are asked for, or their number. -/
  | notIterable
  /-- A text is asked for. -/
  | notText
  /-- A value that cannot be looked up. -/
  | unhashable
  /-- Values among which there is no order. -/
  | unordered
  /-- A value without a JSON text. -/
  | unserialisable
  /-- A collection that contains itself, where a finite one is asked for. -/
  | circular
  /-- An integer of too many digits for a text. -/
  | tooLong
  /-- Pairs are asked for, and a member has another length. -/
  | notPair
  /-- A keyword that is reserved, or is no text. -/
  | badKeyword
  /-- A table cell that is neither a text nor absent. -/
  | unprintable
deriving DecidableEq, Repr, Inhabited

/-- A text made of scalars and values, if all of them have texts. -/
def sayable (scalars : List Scalar) (values : List Value) (text : String) :
    Except ShapeFault String :=
  if scalars.all Scalar.hasText && values.all Value.hasText then .ok text else .error .tooLong

namespace Scalar

/-- The texts that scalars are. -/
def texts (ids : List Scalar) : Except ShapeFault (List String) :=
  ids.mapM fun id => match id with
    | .str s => .ok s
    | _ => .error .notText

end Scalar

namespace Value

/-- The entries of a mapping. -/
def entries : Value → Except ShapeFault (List (Scalar × Value))
  | .map es => .ok (entriesOf es)
  | _ => .error .notMapping

/-- The entries of a mapping, none for a value that counts as absent. -/
def entriesOrNone (v : Value) : Except ShapeFault (List (Scalar × Value)) :=
  if v.isTruthy then v.entries else .ok []

/-- The members of a value: items, keys, characters or bytes. -/
def members : Value → Except ShapeFault (List Value)
  | .seq xs => .ok (itemsOf xs)
  | .map es => .ok (es.map fun e => .scalar e.1)
  | .set xs => .ok (xs.map .scalar)
  | .pair a b => .ok (partsOf a b)
  | .str s => .ok (s.toList.map fun c => .str (String.singleton c))
  | .scalar (.bytes bs) => .ok (bs.map fun b => .int b.toNat)
  | _ => .error .notIterable

end Value

end ResolverHooks
