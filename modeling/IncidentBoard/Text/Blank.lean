/-!
# Blank characters

Two sets of blanks: those trimmed from the ends of numbers, and those trimmed from the ends of
names, which count four separator controls too.

## Main definitions

* `Text.isWhite`, `Text.isBlank` — the two sets.
* `Text.trim` — a text without the characters of a set at its ends.
-/

namespace IncidentBoard.Text

/-- White space: the ASCII blanks, the next-line control, no-break and other spaces, and the line
and paragraph separators. -/
def isWhite (c : Char) : Bool :=
  let n := c.toNat
  (9 ≤ n && n ≤ 13) || n == 0x20 || n == 0x85 || n == 0xA0 || n == 0x1680 ||
    (0x2000 ≤ n && n ≤ 0x200A) || n == 0x2028 || n == 0x2029 || n == 0x202F || n == 0x205F ||
    n == 0x3000

/-- White space and the separator controls from file to unit. -/
def isBlank (c : Char) : Bool := isWhite c || (0x1C ≤ c.toNat && c.toNat ≤ 0x1F)

/-- Characters without those of a set at both ends. -/
def trimChars (drop : Char → Bool) (cs : List Char) : List Char :=
  ((cs.dropWhile drop).reverse.dropWhile drop).reverse

/-- A text without the characters of a set at both ends. -/
def trim (drop : Char → Bool) (s : String) : String := String.ofList (trimChars drop s.toList)

end IncidentBoard.Text
