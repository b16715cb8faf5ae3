import ScatterGather.Text.HiddenTable
import ScatterGather.Text.Ranges

/-!
# Text/Quoted — texts in diagnostics

A text is shown between double quotes, its quotes, backslashes and hidden characters escaped, so
that the shown form tells any two texts apart.
-/

namespace ScatterGather.Text

/-- Hexadecimal digits without leading zeros. -/
def codePoint (n : Nat) : List Char := Nat.toDigits 16 n

/-- One character as diagnostics show it. -/
def quotedChar (c : Char) : List Char :=
  if c = '"' then ['\\', '"']
  else if c = '\\' then ['\\', '\\']
  else if c = '\n' then ['\\', 'n']
  else if c = '\r' then ['\\', 'r']
  else if c = '\t' then ['\\', 't']
  else if c.toNat = 0 then ['\\', '0']
  else if 0x20 ≤ c.toNat ∧ c.toNat < 0x7f then [c]
  else if inRanges hiddenRanges c.toNat then ['\\', 'u', '{'] ++ codePoint c.toNat ++ ['}']
  else [c]

/-- The text between double quotes, escaped. -/
def quoted (s : String) : String :=
  String.ofList ('"' :: s.toList.flatMap quotedChar ++ ['"'])

end ScatterGather.Text
