/-!
Sets of characters, written as the ranges of their numbers.
-/

namespace NameOwners.Text

def inRanges (ranges : Array (Nat × Nat)) (n : Nat) : Bool :=
  ranges.any fun r => r.1 ≤ n && n ≤ r.2

end NameOwners.Text
