/-!
# Blanks and words

The blank characters are those with the White_Space property of Unicode. A text is trimmed of the
blanks at both ends, and its words are the longest stretches without a blank.
-/

namespace Tether

namespace Text

def isBlank (c : Char) : Bool :=
  let n := c.toNat
  (decide (9 ≤ n) && decide (n ≤ 13)) || n == 0x20 || n == 0x85 || n == 0xA0 || n == 0x1680
    || (decide (0x2000 ≤ n) && decide (n ≤ 0x200A)) || n == 0x2028 || n == 0x2029 || n == 0x202F
    || n == 0x205F || n == 0x3000

/-- A text without the blanks at its head. -/
def trimHead (cs : List Char) : List Char :=
  cs.dropWhile isBlank

/-- A text without the blanks at its ends. -/
def trim (cs : List Char) : List Char :=
  (trimHead (trimHead cs).reverse).reverse

/-- The words of a text, where `current` holds the reversed start of a word. -/
def wordsFrom : List Char → List Char → List (List Char)
  | current, [] => if current = [] then [] else [current.reverse]
  | current, c :: rest =>
      if isBlank c then
        if current = [] then wordsFrom [] rest else current.reverse :: wordsFrom [] rest
      else wordsFrom (c :: current) rest

def words (cs : List Char) : List (List Char) :=
  wordsFrom [] cs

def isAllBlank (s : String) : Bool :=
  s.toList.all isBlank

end Text

end Tether
