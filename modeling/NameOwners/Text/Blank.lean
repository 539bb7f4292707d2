/-!
Blank text: the characters with the Unicode property White_Space, and the texts made of nothing
else.
-/

namespace NameOwners.Text

def blankRanges : List (Nat × Nat) :=
  [(0x9, 0xd), (0x20, 0x20), (0x85, 0x85), (0xa0, 0xa0), (0x1680, 0x1680), (0x2000, 0x200a),
   (0x2028, 0x2029), (0x202f, 0x202f), (0x205f, 0x205f), (0x3000, 0x3000)]

def isBlank (c : Char) : Bool :=
  blankRanges.any fun r => r.1 ≤ c.toNat && c.toNat ≤ r.2

/-- Whether nothing is left of a text once the blanks at its ends are cut off. -/
def isBlankText (s : String) : Bool :=
  s.toList.all isBlank

def trim (cs : List Char) : List Char :=
  ((cs.dropWhile isBlank).reverse.dropWhile isBlank).reverse

@[simp] theorem isBlankText_empty : isBlankText "" = true := by
  simp [isBlankText]

end NameOwners.Text
