import Almanac.Text.Ascii
/-!
Cache safety of range bounds, judged by their text alone.

A bound that mentions `now` moves with the present, unless a slash follows, which rounds it. Blanks
end the search for the slash.
-/

namespace Almanac.CacheSafety

def presentWord : List Char := ['N', 'O', 'W']

/-- The text after the first mention of the present, in any ASCII case. -/
def afterPresent? : List Char → Option (List Char)
  | [] => none
  | c :: cs =>
    match Text.afterLetters? presentWord (c :: cs) with
    | some rest => some rest
    | none => afterPresent? cs

/-- The blanks of ASCII that end the search. -/
def isBreak (c : Char) : Bool := c.isWhitespace || c = '\x0c'

/-- Whether a slash comes before the first blank. -/
def isRounded : List Char → Bool
  | [] => false
  | c :: cs => if c = '/' then true else if isBreak c then false else isRounded cs

/-- Whether the value of a bound may change from one request to the next. -/
def isUnsafe (text : List Char) : Bool :=
  match afterPresent? text with
  | none => false
  | some rest => !isRounded rest

end Almanac.CacheSafety
