import Almanac.Pattern
import Almanac.Pattern.Findings
import Almanac.Reading
import Almanac.Text.Blank
/-!
Reading a text by a date pattern, from left to right.

A run of blanks in the pattern stands for any run of blanks, also none, and other literal text for
itself, run by run; a percent sign is a run of its own. Numbers may have blanks in front and take
one digit up to their width, names ignore case, and the long names may be cut to three letters.
-/

namespace Almanac.Pattern

/-! ## Segments of a pattern -/

/-- A field, a run of blanks, or a run of other literal text. -/
inductive Segment where
  | field (f : Field)
  | blanks
  | literal (text : List Char)
deriving DecidableEq

/-- The literal text that stands alone. -/
def percent : List Char := ['%']

/-- Puts an item in front of segments; it joins a run of its own kind. -/
def addItem : Item → List Segment → List Segment
  | .field f, segments => .field f :: segments
  | .literal c, segments =>
    if Text.isBlank c then
      match segments with
      | .blanks :: rest => .blanks :: rest
      | _ => .blanks :: segments
    else if [c] = percent then .literal percent :: segments
    else
      match segments with
      | .literal cs :: rest =>
        if cs = percent then .literal [c] :: segments else .literal (c :: cs) :: rest
      | _ => .literal [c] :: segments

def segments (items : List Item) : List Segment := items.foldr addItem []

/-! ## Reading pieces of text -/

/-- A number of `least` to `most` digits. -/
def takeNumber (least most : Nat) (cs : List Char) : Except Mismatch (Nat × List Char) :=
  let digits := (cs.take most).takeWhile Char.isDigit
  if Text.byteLength cs < least then .error .tooShort
  else if digits.length < least then .error .invalid
  else if Word.greatest < Text.number digits then .error .outOfRange
  else .ok (Text.number digits, cs.drop digits.length)

/-- A number of one or two digits, with blanks in front. -/
def takeTwo (cs : List Char) : Except Mismatch (Nat × List Char) :=
  takeNumber 1 2 (Text.trimStart cs)

/-- A year, with blanks in front: up to four digits, or a sign and any number of them. -/
def takeYear (cs : List Char) : Except Mismatch (Int × List Char) :=
  match Text.trimStart cs with
  | '-' :: rest => do
    let (n, rest) ← takeNumber 1 rest.length rest
    return (-(n : Int), rest)
  | '+' :: rest => do
    let (n, rest) ← takeNumber 1 rest.length rest
    return ((n : Int), rest)
  | rest => do
    let (n, rest) ← takeNumber 1 4 rest
    return ((n : Int), rest)

/-- A fraction of exactly `digits` digits, in nanoseconds. -/
def takeFraction (digits : Nat) (cs : List Char) : Except Mismatch (Nat × List Char) := do
  let (n, rest) ← takeNumber digits digits cs
  return (n * powerOfTen (9 - digits), rest)

/-- One of the names, in any case, and its index; what follows begins after three letters. -/
def takeShortName (names : List String) (cs : List Char) : Except Mismatch (Nat × List Char) :=
  if Text.byteLength cs < 3 then .error .tooShort
  else
    match names.findIdx? fun name => (Text.afterLetters? (name.toList.take 3) cs).isSome with
    | some index => .ok (index, cs.drop 3)
    | none => .error .invalid

/-- One of the names in its short or long form. -/
def takeName (long : Bool) (names : List String) (cs : List Char) :
    Except Mismatch (Nat × List Char) := do
  let (index, rest) ← takeShortName names cs
  if long then
    let ending := (Field.nameAt names index).toList.drop 3
    return (index, (Text.afterLetters? ending rest).getD rest)
  else return (index, rest)

/-- The half of the day, in any case. -/
def takeHalf (cs : List Char) : Except Mismatch (Nat × List Char) :=
  if Text.byteLength cs < 2 then .error .tooShort
  else
    match Text.afterLetters? ['A', 'M'] cs, Text.afterLetters? ['P', 'M'] cs with
    | some rest, _ => .ok (0, rest)
    | none, some rest => .ok (1, rest)
    | none, none => .error .invalid

def takeLiteral (text : List Char) (cs : List Char) : Except Mismatch (List Char) :=
  if Text.byteLength cs < Text.byteLength text then .error .tooShort
  else
    match Text.after? text cs with
    | some rest => .ok rest
    | none => .error .invalid

/-! ## Offsets -/

/-- A sign: whether it is negative, and what follows it. -/
def takeSign : List Char → Except Mismatch (Bool × List Char)
  | [] => .error .tooShort
  | c :: rest =>
    if c = '+' then .ok (false, rest)
    else if c = '-' ∨ c = '\u2212' then .ok (true, rest)
    else .error .invalid

/-- The hours of an offset: two digits. -/
def takeOffsetHours (cs : List Char) : Except Mismatch (Nat × List Char) :=
  takeNumber 2 2 cs

/-- Whether a character may stand between hours and minutes of an offset. -/
def separatesOffset (c : Char) : Bool := c = ':' || Text.isBlank c

/-- The minutes of an offset: two digits below 60, or nothing at the end of the text. -/
def takeOffsetMinutes (cs : List Char) : Except Mismatch (Nat × List Char) :=
  if cs = [] then .ok (0, [])
  else do
    let (n, rest) ← takeNumber 2 2 cs
    if n < 60 then return (n, rest) else throw .outOfRange

/-- An offset after blanks, in seconds: `Z`, or a sign, hours and minutes. -/
def takeOffset (cs : List Char) : Except Mismatch (Int × List Char) :=
  match Text.trimStart cs with
  | 'Z' :: rest => .ok (0, rest)
  | 'z' :: rest => .ok (0, rest)
  | cs => do
    let (negative, rest) ← takeSign cs
    let (hours, rest) ← takeOffsetHours rest
    let (minutes, rest) ← takeOffsetMinutes (rest.dropWhile separatesOffset)
    let seconds : Int := hours * 3600 + minutes * 60
    return (if negative then -seconds else seconds, rest)

/-! ## Reading segments -/

/-- Takes a value from the text and adds it to the findings. -/
def taking {α : Type} (take : List Char → Except Mismatch (α × List Char))
    (set : α → Except Mismatch Findings) (cs : List Char) :
    Except Mismatch (Findings × List Char) := do
  let (value, rest) ← take cs
  return (← set value, rest)

def Field.read (f : Findings) : Field → List Char → Except Mismatch (Findings × List Char)
  | .year => taking takeYear f.setYear
  | .yearOfCentury => taking takeTwo f.setYearOfCentury
  | .month => taking takeTwo f.setMonth
  | .monthName long => taking (takeName long Field.monthNames) fun i => f.setMonth (i + 1)
  | .day => taking takeTwo f.setDay
  | .weekdayName long => taking (takeName long Field.weekdayNames) f.setWeekday
  | .hour => taking takeTwo f.setHour
  | .clockHour => taking takeTwo f.setClockHour
  | .half => taking takeHalf f.setHalf
  | .minute => taking takeTwo f.setMinute
  | .second => taking takeTwo f.setSecond
  | .fraction digits => taking (takeFraction digits) f.setNanos
  | .offset _ => taking takeOffset f.setOffset

def Segment.read (f : Findings) : Segment → List Char → Except Mismatch (Findings × List Char)
  | .field kind, cs => kind.read f cs
  | .blanks, cs => .ok (f, Text.trimStart cs)
  | .literal text, cs => do return (f, ← takeLiteral text cs)

/-- Reads segments in order, and no more text than that. -/
def readSegments (f : Findings) : List Segment → List Char → Except Mismatch Findings
  | [], [] => .ok f
  | [], _ :: _ => .error .tooLong
  | s :: segments, cs => do
    let (f, rest) ← s.read f cs
    readSegments f segments rest

/-! ## Fields that are left out -/

def has (items : List Item) (kind : Field → Bool) : Bool :=
  items.any fun item => match item with
    | .field f => kind f
    | .literal _ => false

/-- Sets a value unless the pattern has a field of a kind. -/
def unlessHas (items : List Item) (kind : Field → Bool)
    (set : Findings → Except Mismatch Findings) (f : Findings) : Except Mismatch Findings :=
  if has items kind then .ok f else set f

def isYear (f : Field) : Bool := f = .year || f = .yearOfCentury
def isMonth (f : Field) : Bool := f = .month || f = .monthName false || f = .monthName true
def isDay (f : Field) : Bool := f = .day
def isHour (f : Field) : Bool := f = .hour
def isClockHour (f : Field) : Bool := f = .clockHour
def isHalf (f : Field) : Bool := f = .half
def isMinute (f : Field) : Bool := f = .minute
def isOffset (f : Field) : Bool := f = .offset false || f = .offset true

/-- The half of the day of a clock hour without one is the first. -/
def fillHalf (items : List Item) (f : Findings) : Except Mismatch Findings :=
  if has items isClockHour && !has items isHalf then f.setHalf 0 else .ok f

/-- Fields that the pattern leaves out take their least value, and the year is 1970. -/
def fillDefaults (items : List Item) (f : Findings) : Except Mismatch Findings := do
  let f ← unlessHas items isYear (·.setYear 1970) f
  let f ← unlessHas items isMonth (·.setMonth 1) f
  let f ← unlessHas items isDay (·.setDay 1) f
  let f ← fillHalf items f
  let f ← unlessHas items (fun k => isHour k || isClockHour k || isHalf k) (·.setHour 0) f
  unlessHas items isMinute (·.setMinute 0) f

/-! ## The instant of the findings -/

def daySeconds : Int := 86400

/-- Milliseconds from the epoch to a date and time on a clock `offset` seconds ahead of UTC. The
offset must be less than a day, and in UTC too the date must lie in the calendar. -/
def onClock (date : Calendar.Date) (time : Findings.ClockTime) (offset : Int) :
    Except Mismatch Int :=
  if offset ≤ -daySeconds ∨ daySeconds ≤ offset then .error .outOfRange
  else
    let seconds := date.toDay * daySeconds + time.seconds - offset
    if Calendar.HasDay (seconds / daySeconds) then .ok (seconds * 1000 + time.millis)
    else .error .impossible

/-- Milliseconds from the epoch, and the offset in seconds, that a text says by a pattern. -/
def readParts (p : Pattern) (cs : List Char) : Except Mismatch (Int × Int) := do
  let f ← readSegments {} (segments p.items) cs
  let f ← fillDefaults p.items f
  let date ← f.date
  let time ← f.clockTime
  let offset := f.offset.getD 0
  return (← onClock date time offset, offset)

/-- The fault of a text that does not match a pattern. -/
def mismatchFault (p : Pattern) (text : List Char) (m : Mismatch) : Fault :=
  .malformedTimestamp (String.ofList text) ⟨0, Text.byteLength text⟩
    ("does not match pattern '" ++ String.ofList p.source ++ "': " ++ m.message)

/-- Reads a text by a pattern; its precision is the finest unit of the pattern. -/
def read (p : Pattern) (text : List Char) : Except Fault Reading := do
  let (millis, offset) ← (p.readParts text).mapError (p.mismatchFault text)
  return ⟨.nearest millis, p.precision, Int64.ofInt (offset * 1000)⟩

end Almanac.Pattern
