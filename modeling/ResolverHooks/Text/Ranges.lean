/-! Character classes given by ranges of code points, in ascending order. -/
namespace ResolverHooks.Text

/-- Inclusive ranges of code points. -/
abbrev Ranges := List (Nat × Nat)

/-- Whether a character lies in one of the ranges; the search stops at the first range above it. -/
def Ranges.holds (c : Char) : Ranges → Bool
  | [] => false
  | (low, high) :: rest => if c.toNat < low then false else c.toNat ≤ high || holds c rest

end ResolverHooks.Text
