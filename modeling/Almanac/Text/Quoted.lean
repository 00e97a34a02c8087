import Almanac.Text.ExtendingMark
import Almanac.Text.Ignorable
import Almanac.Text.Unshown
/-!
Texts in quotes, for messages: a quote, a backslash and the usual control characters are escaped by
a letter, and characters that do not show by themselves are named by number. These are the marks
that extend the character before them, the characters that are left out where they have no effect,
and all that is neither letter, mark, numeral, punctuation, symbol nor the space.
-/

namespace Almanac.Text

/-- Whether a character does not show by itself. -/
def isHidden (c : Char) : Bool :=
  isExtendingMark c || isIgnorable c || (isUnshown c && c ≠ ' ')

/-- A character named by its number, in lower case hexadecimal digits between braces. -/
def numbered (c : Char) : List Char :=
  '\\' :: 'u' :: '\x7b' :: Nat.toDigits 16 c.toNat ++ ['\x7d']

def quotedChar (c : Char) : List Char :=
  if c = '"' then ['\\', '"']
  else if c = '\\' then ['\\', '\\']
  else if c = '\n' then ['\\', 'n']
  else if c = '\r' then ['\\', 'r']
  else if c = '\t' then ['\\', 't']
  else if c = '\x00' then ['\\', '0']
  else if isHidden c then numbered c
  else [c]

def quote (s : String) : String :=
  "\"" ++ String.ofList (s.toList.flatMap quotedChar) ++ "\""

example : quotedChar 'é' = ['é'] := by decide +kernel
example : quotedChar '\u0301' = "\\u\x7b301\x7d".toList := by decide +kernel
example : quotedChar '\u3164' = "\\u\x7b3164\x7d".toList := by decide +kernel

end Almanac.Text
