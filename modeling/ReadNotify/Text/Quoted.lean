import ReadNotify.Text.Printable
/-!
# Quoted Text

A text between double quotes. Five characters have escapes of their own, the
quote and the backslash are escaped by a backslash, and every other character
that would not show is written by its number in braces. The single quote is
left as it is.

## Main definitions

* `Quoted.escape`: The written form of one character.
* `Quoted.text`: A whole text between quotes.
-/

namespace ReadNotify

namespace Quoted

/-- The written form of one character. -/
def escape (c : Char) : List Char :=
  if c = '\x00' then ['\\', '0']
  else if c = '\t' then ['\\', 't']
  else if c = '\r' then ['\\', 'r']
  else if c = '\n' then ['\\', 'n']
  else if c = '"' then ['\\', '"']
  else if c = '\\' then ['\\', '\\']
  else if isShown c then [c]
  else ['\\', 'u', '\x7b'] ++ Nat.toDigits 16 c.toNat ++ ['\x7d']

/-- A text between quotes. -/
def text (s : String) : String :=
  String.ofList ('"' :: s.toList.flatMap escape ++ ['"'])

end Quoted

end ReadNotify
