/-!
# Blank characters

White space is the Unicode property `White_Space`, not the ASCII class.

* `isBlank`: the property on characters.
* `trim`: a text without its blanks at both ends.
* `isBlankText`: nothing but blanks.
-/

namespace TextAnnotation.Text

def inRanges (ranges : List (Nat × Nat)) (n : Nat) : Bool :=
  ranges.any fun r => r.1 ≤ n && n ≤ r.2

/-- Inclusive ranges of the property `White_Space`. -/
def blankRanges : List (Nat × Nat) :=
  [(0x9, 0xD), (0x20, 0x20), (0x85, 0x85), (0xA0, 0xA0), (0x1680, 0x1680), (0x2000, 0x200A),
   (0x2028, 0x2029), (0x202F, 0x202F), (0x205F, 0x205F), (0x3000, 0x3000)]

def isBlank (c : Char) : Bool :=
  inRanges blankRanges c.toNat

def trimmed (cs : List Char) : List Char :=
  ((cs.dropWhile isBlank).reverse.dropWhile isBlank).reverse

def trim (s : String) : String :=
  String.ofList (trimmed s.toList)

/-- Whether a text holds no character but blanks. -/
def isBlankText (s : String) : Bool :=
  s.toList.all isBlank

end TextAnnotation.Text
