/-!
Blank characters: the White_Space property, which separates tokens in module text and may stand
before the numbers of a date.
-/
namespace MockData.Text

def isBlank (c : Char) : Bool :=
  let n := c.toNat
  (9 ≤ n && n ≤ 13) || n = 32 || n = 0x85 || n = 0xA0 || n = 0x1680
    || (0x2000 ≤ n && n ≤ 0x200A) || n = 0x2028 || n = 0x2029 || n = 0x202F || n = 0x205F
    || n = 0x3000

def dropBlanks (cs : List Char) : List Char := cs.dropWhile isBlank

end MockData.Text
