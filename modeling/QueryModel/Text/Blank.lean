import QueryModel.Text.Boundaries

/-!
# White space

The characters with the Unicode property `White_Space`.  Zero-width characters
and the byte order mark do not have it.
-/

namespace QueryModel.Text

/-- The white space outside ASCII. -/
def blankBoundaries : List Nat :=
  [ 0x85, 0x86, 0xA0, 0xA1, 0x1680, 0x1681, 0x2000, 0x200B, 0x2028, 0x202A, 0x202F, 0x2030,
    0x205F, 0x2060, 0x3000, 0x3001 ]

/-- White space: tab, line feed, vertical tab, form feed, carriage return and
space, and the white space outside ASCII. -/
def isBlank (c : Char) : Bool :=
  if c.toNat < 0x80 then
    c == ' ' || (9 ≤ c.toNat && c.toNat ≤ 13)
  else
    inBoundaries blankBoundaries c

end QueryModel.Text
