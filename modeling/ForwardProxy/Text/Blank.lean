/-!
# Blank characters

The characters with the property White_Space, and trimming by them.
-/

namespace ForwardProxy.Text

/-- White_Space: the ASCII blanks, U+0085, and the space, line and paragraph separators. -/
def isBlank (c : Char) : Bool :=
  let n := c.toNat
  (9 ≤ n && n ≤ 13) || n == 0x20 || n == 0x85 || n == 0xA0 || n == 0x1680 ||
    (0x2000 ≤ n && n ≤ 0x200A) || n == 0x2028 || n == 0x2029 || n == 0x202F || n == 0x205F ||
    n == 0x3000

/-- Without the blanks at the front. -/
def trimStart (text : List Char) : List Char := text.dropWhile isBlank

/-- Without the blanks at the end. -/
def trimEnd (text : List Char) : List Char := (text.reverse.dropWhile isBlank).reverse

/-- Without the blanks at both ends. -/
def trim (text : List Char) : List Char := trimEnd (trimStart text)

end ForwardProxy.Text
