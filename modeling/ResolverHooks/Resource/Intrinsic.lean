import ResolverHooks.Document.Order
import ResolverHooks.Document.Shape
import ResolverHooks.Document.Table

/-!
Intrinsic functions of templates, as the mappings that stand for them, and the ids that a value
refers to through them.
-/
namespace ResolverHooks

namespace Intrinsic

def ref (id : Value) : Value := .object [("Ref", id)]

def getAtt (id field : Value) : Value := .object [("Fn::GetAtt", .seq [id, field])]

/-- A text with placeholders, and the values bound to their names. -/
def sub (template : Value) (bindings : List (Scalar × Value)) : Value :=
  .object [("Fn::Sub", .seq [template, .map bindings])]

/-- The two members of a value that has as many. -/
def pairOf (v : Value) : Except ShapeFault (Value × Value) := do
  match ← v.members with
  | [a, b] => return (a, b)
  | _ => throw .notPair

/-- What a value binds to names: the entries of a mapping, or pairs of a name and a value. A value
that counts as absent binds nothing. -/
def bindings (v : Value) : Except ShapeFault (List (Scalar × Value)) :=
  if !v.isTruthy then .ok []
  else match v with
    | .map _ => v.entries
    | _ => do
      (← v.members).foldlM (fun bound member => do
        match ← pairOf member with
        | (.scalar name, value) => return Entries.insert name value bound
        | _ => throw .unhashable) []

def join (delimiter : Value) (values : List Value) : Value :=
  .object [("Fn::Join", .seq [delimiter, .seq values])]

def ifElse (condition whenTrue whenFalse : Value) : Value :=
  .object [("Fn::If", .seq [condition, whenTrue, whenFalse])]

/-- The attribute of a resource. -/
def attributeOf (id field : String) : Value := getAtt (.str id) (.str field)

/-- Parameters that every deployment has. -/
def isPseudoParameter (id : String) : Bool := "AWS::".toList.isPrefixOf id.toList

/-- What one entry of a mapping refers to, if it is a reference: a `Ref` to a text, or a non-empty
list under `Fn::GetAtt`. Pseudo parameters are no resources. -/
def entryReference (k : Scalar) (v : Value) : Option (List Value) :=
  match k, v with
  | .str "Ref", .str id => some (if isPseudoParameter id then [] else [.str id])
  | .str "Fn::GetAtt", .seq (id :: rest) => some ((Value.itemsOf (id :: rest)).take 1)
  | _, _ => none

mutual

/-- What a value refers to, occurrence by occurrence. Nothing inside a reference is searched
further. -/
def references : Value → List Value
  | .seq items => itemReferences items
  | .map entries => entryReferences entries
  | _ => []

def itemReferences : List Value → List Value
  | [] => []
  | x :: xs => references x ++ itemReferences xs

def entryReferences : List (Scalar × Value) → List Value
  | [] => []
  | (k, v) :: es => (entryReference k v).getD (references v) ++ entryReferences es

end

/-- The ids that a value refers to, each once, in order. -/
def referencedIds (v : Value) : Except ShapeFault (List String) :=
  let found := references v
  if found.all Value.hasText then .ok (sortedTexts (found.map Value.display).eraseDups)
  else .error .tooLong

end Intrinsic

end ResolverHooks
