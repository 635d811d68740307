import ResolverHooks.Document.Value

/-!
The members of collections that contain themselves. A member that is taken out of such a collection
carries the collection along, in place of the references to it; a finite value is left as it is.
-/
namespace ResolverHooks.Value

mutual

/-- Whether no collection inside the value refers to one around it. -/
def isFinite : Value → Bool
  | .scalar _ | .set _ => true
  | .seq items => areFinite items
  | .map entries => haveFiniteValues entries
  | .pair a b => isFinite a && isFinite b
  | .enclosing _ => false

def areFinite : List Value → Bool
  | [] => true
  | x :: xs => isFinite x && areFinite xs

def haveFiniteValues : List (Scalar × Value) → Bool
  | [] => true
  | (_, v) :: es => isFinite v && haveFiniteValues es

end

mutual

/-- Puts a collection in place of the references that lead `level` levels out of the value. -/
def carry (whole : Value) (level : Nat) : Value → Value
  | .scalar s => .scalar s
  | .seq items => .seq (carryItems whole (level + 1) items)
  | .map entries => .map (carryEntries whole (level + 1) entries)
  | .set items => .set items
  | .pair a b => .pair (carry whole (level + 1) a) (carry whole (level + 1) b)
  | .enclosing n => if n = level then whole else .enclosing n

def carryItems (whole : Value) (level : Nat) : List Value → List Value
  | [] => []
  | x :: xs => carry whole level x :: carryItems whole level xs

def carryEntries (whole : Value) (level : Nat) : List (Scalar × Value) → List (Scalar × Value)
  | [] => []
  | (k, v) :: es => (k, carry whole level v) :: carryEntries whole level es

end

/-- The items of a sequence, each complete in itself. -/
def itemsOf (items : List Value) : List Value :=
  if areFinite items then items else carryItems (.seq items) 0 items

/-- The entries of a mapping, each value complete in itself. -/
def entriesOf (entries : List (Scalar × Value)) : List (Scalar × Value) :=
  if haveFiniteValues entries then entries else carryEntries (.map entries) 0 entries

/-- The two members of a pair, complete in themselves. -/
def partsOf (a b : Value) : List Value :=
  if a.isFinite && b.isFinite then [a, b] else [carry (.pair a b) 0 a, carry (.pair a b) 0 b]

theorem itemsOf_of_areFinite {items : List Value} (h : areFinite items = true) :
    itemsOf items = items := by simp [itemsOf, h]

theorem entriesOf_of_haveFiniteValues {entries : List (Scalar × Value)}
    (h : haveFiniteValues entries = true) : entriesOf entries = entries := by simp [entriesOf, h]

end ResolverHooks.Value
