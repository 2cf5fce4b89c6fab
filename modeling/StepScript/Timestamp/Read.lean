/-
# Reading timestamps

A text is read as a timestamp in one of several forms, tried in turn: a full date and time with a
time-zone offset, a date and time without one, a date and time without seconds, a date alone, and a
number of seconds since the start of 1970.  The form with an offset wants every digit in its place;
the others allow white space in front of every number and shorter numbers.
-/
import StepScript.Text.Blank
import StepScript.Text.Search
import StepScript.Timestamp.Basic

namespace StepScript.Timestamp

/-! ## Numbers -/

/-- Reads `least` to `most` digits, as many as there are. -/
def readNumber? (least most : Nat) (s : List Char) : Option (Nat × List Char) :=
  let digits := (s.takeWhile Char.isDigit).take most
  if digits.length < least then none else some (digitsValue digits, s.drop digits.length)

/-- Reads the digits of a fraction as nanoseconds; digits after the ninth are passed over. -/
def readFraction? (s : List Char) : Option (Nat × List Char) :=
  let digits := s.takeWhile Char.isDigit
  if digits.isEmpty then none
  else
    let kept := digits.take 9
    some (digitsValue kept * Nat.pow 10 (9 - kept.length), s.drop digits.length)

/-- Reads a character that has to be there. -/
def readChar? (c : Char) : List Char → Option (List Char)
  | d :: rest => if d = c then some rest else none
  | [] => none

/-- Reads a fraction if there is a point. -/
def readOptionalFraction? : List Char → Option (Nat × List Char)
  | '.' :: rest => readFraction? rest
  | rest => some (0, rest)

/-! ## Assembling -/

/-- The day of a date that the calendar has. -/
def dayOf? (year : Int) (month day : Nat) : Option Int :=
  let date : Date := ⟨year, month, day⟩
  if date.isValid then some date.toDay else none

/-- The timestamp of a date and a time of day.  A second 60 is the leap second of its minute. -/
def assemble? (day : Int) (hour minute second nano : Nat) : Option Timestamp :=
  if 23 < hour ∨ 59 < minute ∨ 60 < second then none
  else if second = 60 then of? day (hour * 3600 + minute * 60 + 59) (nanosPerSecond + nano)
  else of? day (hour * 3600 + minute * 60 + second) nano

/-- A timestamp moved back by a number of seconds; the fraction stays. -/
def minusSeconds? (t : Timestamp) (seconds : Int) : Option Timestamp :=
  ofSeconds? (t.day * secondsPerDay + t.second - seconds) t.nano

/-! ## The form with an offset -/

/-- Reads a time-zone offset in seconds: `Z`, or a sign, two digits for the hours and two for the
minutes.  The sign may be a hyphen or a typographic minus. -/
def readOffset? : List Char → Option (Int × List Char)
  | [] => none
  | c :: rest =>
    if c = 'Z' ∨ c = 'z' then some (0, rest)
    else if c = '+' ∨ c = '-' ∨ c = '−' then do
      let (hours, rest) ← readNumber? 2 2 rest
      let rest ← readChar? ':' rest
      let (minutes, rest) ← readNumber? 2 2 rest
      if 23 < hours ∨ 59 < minutes then none
      let seconds : Int := hours * 3600 + minutes * 60
      some (if c = '+' then seconds else -seconds, rest)
    else none

/-- Reads a date and time with an offset; the result is the time without the offset. -/
def readZoned? (s : List Char) : Option Timestamp := do
  let (year, s) ← readNumber? 4 4 s
  let s ← readChar? '-' s
  let (month, s) ← readNumber? 2 2 s
  let s ← readChar? '-' s
  let (day, s) ← readNumber? 2 2 s
  let s ← match s with
    | c :: rest => if c = 'T' ∨ c = 't' ∨ c = ' ' then some rest else none
    | [] => none
  let (hour, s) ← readNumber? 2 2 s
  let s ← readChar? ':' s
  let (minute, s) ← readNumber? 2 2 s
  let s ← readChar? ':' s
  let (second, s) ← readNumber? 2 2 s
  let (nano, s) ← readOptionalFraction? s
  let (offset, s) ← readOffset? s
  if s.isEmpty then
    let t ← assemble? (← dayOf? year month day) hour minute second nano
    t.minusSeconds? offset
  else none

/-! ## The forms without an offset -/

/-- Reads a number of up to two digits, with white space allowed in front. -/
def readField? (s : List Char) : Option (Nat × List Char) :=
  readNumber? 1 2 (Text.trimStart s)

/-- Reads a year: up to four digits, or any number of digits behind a sign, with white space
allowed in front. -/
def readYear? (s : List Char) : Option (Int × List Char) :=
  match Text.trimStart s with
  | '-' :: rest => (readNumber? 1 rest.length rest).map fun (n, rest) => (-(n : Int), rest)
  | '+' :: rest => (readNumber? 1 rest.length rest).map fun (n, rest) => ((n : Int), rest)
  | rest => (readNumber? 1 4 rest).map fun (n, rest) => ((n : Int), rest)

/-- Reads a date. -/
def readDate? (s : List Char) : Option (Int × List Char) := do
  let (year, s) ← readYear? s
  let s ← readChar? '-' s
  let (month, s) ← readField? s
  let s ← readChar? '-' s
  let (day, s) ← readField? s
  some (← dayOf? year month day, s)

/-- Reads what separates a date from a time: the character itself, or any white space at all where
it is a blank. -/
def readSeparator? (separator : Char) (s : List Char) : Option (List Char) :=
  if separator = ' ' then some (Text.trimStart s) else readChar? separator s

/-- Reads a date and a time of day. -/
def readLocal? (separator : Char) (s : List Char) : Option Timestamp := do
  let (day, s) ← readDate? s
  let s ← readSeparator? separator s
  let (hour, s) ← readField? s
  let s ← readChar? ':' s
  let (minute, s) ← readField? s
  let s ← readChar? ':' s
  let (second, s) ← readField? s
  let (nano, s) ← readOptionalFraction? s
  if s.isEmpty then assemble? day hour minute second nano else none

/-- Reads a date and a time of day without seconds. -/
def readMinute? (separator : Char) (s : List Char) : Option Timestamp := do
  let (day, s) ← readDate? s
  let s ← readSeparator? separator s
  let (hour, s) ← readField? s
  let s ← readChar? ':' s
  let (minute, s) ← readField? s
  if s.isEmpty then assemble? day hour minute 0 0 else none

/-- Reads a date alone, as the start of its day. -/
def readDayOnly? (s : List Char) : Option Timestamp := do
  let (day, s) ← readDate? s
  if s.isEmpty then ofDay? day else none

/-- Reads a text without surrounding white space as a timestamp. -/
def read? (s : List Char) : Option Timestamp :=
  readZoned? s <|> readLocal? ' ' s <|> readLocal? 'T' s <|> readMinute? ' ' s <|>
    readMinute? 'T' s <|> readDayOnly? s <|> (readInteger? s).bind (ofSeconds? · 0)

end StepScript.Timestamp
