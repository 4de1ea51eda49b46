import RequestParams.Text.Hidden

/-!
# Texts quoted in messages

A message that shows a text shows it in double quotes, with everything escaped that would not be
seen, or would attach itself to the quote before it.
-/

set_option autoImplicit false

namespace RequestParams.Text

/-- One character between quotes. -/
def quoteChar (c : Char) : List Char :=
  if c = '"' then ['\\', '"']
  else if c = '\\' then ['\\', '\\']
  else if c = '\n' then ['\\', 'n']
  else if c = '\r' then ['\\', 'r']
  else if c = '\t' then ['\\', 't']
  else if c = '\x00' then ['\\', '0']
  else if isHidden c then '\\' :: 'u' :: '\x7b' :: (Nat.toDigits 16 c.toNat ++ ['\x7d'])
  else [c]

/-- A text in quotes, as messages show it. -/
def quoted (s : String) : String :=
  String.ofList ('"' :: (s.toList.flatMap quoteChar ++ ['"']))

end RequestParams.Text
