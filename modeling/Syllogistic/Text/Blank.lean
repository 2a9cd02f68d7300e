/-!
# Blank characters

The characters that Unicode gives the property White_Space, and the text that is
left when they are taken off both ends. Engine output and typed names are
trimmed this way before anyone reads them.
-/

namespace Syllogistic.Text

/-- The characters with the Unicode property White_Space. -/
def isBlank (c : Char) : Bool :=
  (0x09 ≤ c.toNat && c.toNat ≤ 0x0D) || c.toNat == 0x20 || c.toNat == 0x85 || c.toNat == 0xA0 ||
    c.toNat == 0x1680 || (0x2000 ≤ c.toNat && c.toNat ≤ 0x200A) || c.toNat == 0x2028 ||
    c.toNat == 0x2029 || c.toNat == 0x202F || c.toNat == 0x205F || c.toNat == 0x3000

/-- What follows the leading blanks. -/
def trimLeft (s : List Char) : List Char :=
  s.dropWhile isBlank

/-- What stands before the trailing blanks. -/
def trimRight (s : List Char) : List Char :=
  (s.reverse.dropWhile isBlank).reverse

/-- The text without the blanks at its two ends. -/
def trim (s : List Char) : List Char :=
  trimRight (trimLeft s)

end Syllogistic.Text
