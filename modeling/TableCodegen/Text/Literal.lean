import TableCodegen.Text.Unicode.Visible

/-!
# Quoted literals

A text between double quotes in which every character that could be misread is escaped: the quote,
the backslash, the characters with a letter of their own, and all that shows no mark.
-/

namespace TableCodegen.Text

/-- The hexadecimal digits of a number, without leading zeros. -/
def hexDigits (n : Nat) : List Char :=
  Nat.toDigits 16 n

/-- A character between double quotes. -/
def escapeChar (c : Char) : List Char :=
  if c.toNat = 0 then ['\\', '0']
  else if c = '\t' then ['\\', 't']
  else if c = '\r' then ['\\', 'r']
  else if c = '\n' then ['\\', 'n']
  else if c = '"' then ['\\', '"']
  else if c = '\\' then ['\\', '\\']
  else if Unicode.isGraphemeExtend c || !Unicode.isPrintable c then
    ['\\', 'u', '\x7b'] ++ hexDigits c.toNat ++ ['\x7d']
  else [c]

/-- A text as a quoted literal. -/
def literal (cs : List Char) : List Char :=
  ['"'] ++ cs.flatMap escapeChar ++ ['"']

end TableCodegen.Text
