/-! Blank characters and the trimming of texts.
Fields of a text are trimmed at both ends before they are read, and an item of blanks only is
no item at all.
-/

namespace GridTable.Text

/-- The blank characters, as inclusive ranges of code points: the line and field separators
among the controls, the space, and the wide, narrow and unbreakable spaces.
-/
def blankRanges : List (Nat × Nat) :=
  [
    (0x09, 0x0d), (0x1c, 0x20), (0x85, 0x85), (0xa0, 0xa0), (0x1680, 0x1680),
    (0x2000, 0x200a), (0x2028, 0x2029), (0x202f, 0x202f), (0x205f, 0x205f), (0x3000, 0x3000)
  ]

def isBlank (c : Char) : Bool :=
  blankRanges.any fun (low, high) => low ≤ c.toNat && c.toNat ≤ high

/-- Drops, from both ends, the characters that satisfy `p`. -/
def trimBoth (p : Char → Bool) (text : List Char) : List Char :=
  ((text.dropWhile p).reverse.dropWhile p).reverse

def trim (text : List Char) : List Char :=
  trimBoth isBlank text

/-- A text without any character that is not blank. -/
def blankText (text : List Char) : Bool :=
  text.all isBlank

end GridTable.Text
