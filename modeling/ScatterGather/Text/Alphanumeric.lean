import ScatterGather.Text.AlphanumericTable
import ScatterGather.Text.Ranges

/-!
# Text/Alphanumeric — letters and digits

`isAsciiLetter` is the class of characters that begin a name, `isAlphanumeric` the letters and
numbers of every script.
-/

namespace ScatterGather.Text

/-- The letters a to z in either case. -/
def isAsciiLetter (c : Char) : Bool := c.isAlpha

/-- Letters and numbers of every script. -/
def isAlphanumeric (c : Char) : Bool :=
  if c.toNat < 128 then c.isAlphanum else inRanges alphanumericRanges c.toNat

end ScatterGather.Text
