/-! # Dates

Seconds that are counted from the start of 1970 as days of the calendar and times of the day, and
how formats write them. -/

set_option autoImplicit false

namespace StorageBroker.Text

/-- A day of the calendar with a time of that day; years may lie before the first one. -/
structure Moment where
  year : Int
  month : Nat
  day : Nat
  hour : Nat
  minute : Nat
  second : Nat
  deriving DecidableEq, Repr

def isLeapYear (year : Int) : Bool := (year % 4 = 0 && year % 100 ≠ 0) || year % 400 = 0

def daysOfMonth (year : Int) (month : Nat) : Nat :=
  if month = 2 then if isLeapYear year then 29 else 28
  else if month ∈ [4, 6, 9, 11] then 30 else 31

/-- The days from the start of the year 0 to that of another one. -/
def daysBeforeYear (year : Int) : Int :=
  let before := year - 1
  365 * year + before / 4 - before / 100 + before / 400 + 1

def daysBeforeMonth (year : Int) (month : Nat) : Nat :=
  (List.range (month - 1)).foldl (fun sum n => sum + daysOfMonth year (n + 1)) 0

namespace Moment

/-- The day of the year, where the first is 1. -/
def dayOfYear (m : Moment) : Nat := daysBeforeMonth m.year m.month + m.day

def days (m : Moment) : Int :=
  daysBeforeYear m.year - daysBeforeYear 1970 + m.dayOfYear - 1

/-- The day of the week, where Sunday is 0. -/
def weekday (m : Moment) : Nat := ((m.days + 4) % 7).toNat

def seconds (m : Moment) : Int :=
  m.days * 86400 + m.hour * 3600 + m.minute * 60 + m.second

/-- The month and the day of a day of a year, where the first is 0, from a month on. -/
def monthAndDay (year : Int) : (months : Nat) → Nat → Nat × Nat
  | 0, day => (12, day + 1)
  | left + 1, day =>
    let month := 12 - left
    if day < daysOfMonth year month then (month, day + 1)
    else monthAndDay year left (day - daysOfMonth year month)

/-- The moment that is so many seconds from the start of 1970. -/
def ofSeconds (seconds : Int) : Moment :=
  let days := seconds / 86400 + daysBeforeYear 1970
  let guess := days * 400 / 146097
  let year := if days < daysBeforeYear guess then guess - 1
    else if daysBeforeYear (guess + 1) ≤ days then guess + 1 else guess
  let (month, day) := monthAndDay year 12 (days - daysBeforeYear year).toNat
  let time := (seconds % 86400).toNat
  { year, month, day, hour := time / 3600, minute := time / 60 % 60, second := time % 60 }

def weekFrom (m : Moment) (firstDay : Nat) : Nat :=
  (m.dayOfYear + 6 - (m.weekday + 7 - firstDay) % 7) / 7

/-- The weeks of a year of whole weeks, which start on Monday and belong to the year in which most of
their days lie. -/
def wholeWeeks (year : Int) : Nat :=
  let first := ({ year, month := 1, day := 1, hour := 0, minute := 0, second := 0 } : Moment).weekday
  if first = 4 || (first = 3 && isLeapYear year) then 53 else 52

def wholeWeek (m : Moment) : Int × Nat :=
  let week := (m.dayOfYear + 10 - (if m.weekday = 0 then 7 else m.weekday)) / 7
  if week = 0 then (m.year - 1, wholeWeeks (m.year - 1))
  else if wholeWeeks m.year < week then (m.year + 1, 1)
  else (m.year, week)

end Moment

/-! ## Formats of dates -/

def weekdayNames : List String :=
  ["Sunday", "Monday", "Tuesday", "Wednesday", "Thursday", "Friday", "Saturday"]

def monthNames : List String :=
  ["January", "February", "March", "April", "May", "June", "July", "August", "September",
   "October", "November", "December"]

/-- A number filled up to a width, unless nothing is asked for. -/
def paddedNumber (flag : Option Char) (usual : Char) (width : Nat) (n : Int) : String :=
  let digits := toString n.natAbs
  let sign := if n < 0 then "-" else ""
  match flag.getD usual with
  | '-' => sign ++ digits
  | '_' => "".pushn ' ' (width - (sign ++ digits).length) ++ sign ++ digits
  | ' ' => "".pushn ' ' (width - (sign ++ digits).length) ++ sign ++ digits
  | _ => sign ++ "".pushn '0' (width - (sign ++ digits).length) ++ digits

/-- What a letter of a format stands for: a text, or other directives. -/
inductive DatePart
  | text (s : String)
  | format (s : String)
  deriving DecidableEq, Repr

def datePart? (m : Moment) (nanoseconds : Nat) (flag : Option Char) (letter : Char) :
    Option DatePart :=
  let number (width : Nat) (n : Int) : Option DatePart :=
    some (.text (paddedNumber flag '0' width n))
  let spaced (n : Int) : Option DatePart := some (.text (paddedNumber flag ' ' 2 n))
  let hour := if m.hour % 12 = 0 then 12 else m.hour % 12
  let weekday := (weekdayNames[m.weekday]?).getD ""
  let month := (monthNames[m.month - 1]?).getD ""
  match letter with
  | '%' => some (.text "%")
  | 'n' => some (.text "\n")
  | 't' => some (.text "\t")
  | 'Y' => number 4 m.year
  | 'C' => number 2 (m.year / 100)
  | 'y' => number 2 (m.year % 100)
  | 'm' => number 2 m.month
  | 'd' => number 2 m.day
  | 'e' => spaced m.day
  | 'H' => number 2 m.hour
  | 'I' => number 2 hour
  | 'k' => spaced m.hour
  | 'l' => spaced hour
  | 'M' => number 2 m.minute
  | 'S' => number 2 m.second
  | 'N' => number 9 nanoseconds
  | 's' => number 1 m.seconds
  | 'j' => number 3 m.dayOfYear
  | 'q' => number 1 ((m.month + 2) / 3 : Nat)
  | 'u' => number 1 (if m.weekday = 0 then 7 else m.weekday : Nat)
  | 'w' => number 1 m.weekday
  | 'U' => number 2 (m.weekFrom 0)
  | 'W' => number 2 (m.weekFrom 1)
  | 'V' => number 2 m.wholeWeek.2
  | 'G' => number 4 m.wholeWeek.1
  | 'g' => number 2 (m.wholeWeek.1 % 100)
  | 'a' => some (.text (weekday.take 3).toString)
  | 'A' => some (.text weekday)
  | 'b' | 'h' => some (.text (month.take 3).toString)
  | 'B' => some (.text month)
  | 'p' => some (.text (if m.hour < 12 then "AM" else "PM"))
  | 'P' => some (.text (if m.hour < 12 then "am" else "pm"))
  | 'Z' => some (.text "UTC")
  | 'z' => some (.text "+0000")
  | 'F' => some (.format "%Y-%m-%d")
  | 'T' | 'X' => some (.format "%H:%M:%S")
  | 'R' => some (.format "%H:%M")
  | 'D' | 'x' => some (.format "%m/%d/%y")
  | 'r' => some (.format "%I:%M:%S %p")
  | 'c' => some (.format "%a %b %e %H:%M:%S %Y")
  | _ => none

def dateText (m : Moment) (nanoseconds : Nat) : (fuel : Nat) → List Char → List Char
  | 0, _ => []
  | _ + 1, [] => []
  | fuel + 1, '%' :: rest =>
    let flags := rest.takeWhile fun c => c ∈ ['-', '_', '0', '^']
    let padding := (flags.filter (· ≠ '^')).getLast?
    match rest.drop flags.length with
    | [] => '%' :: flags
    | letter :: after =>
      let made : List Char := match datePart? m nanoseconds padding letter with
        | some (.text s) => s.toList
        | some (.format s) => dateText m nanoseconds fuel s.toList
        | none => '%' :: flags ++ [letter]
      (if '^' ∈ flags then made.map Char.toUpper else made) ++ dateText m nanoseconds fuel after
  | fuel + 1, c :: rest => c :: dateText m nanoseconds fuel rest

def Moment.text (m : Moment) (nanoseconds : Nat) (format : String) : String :=
  String.ofList (dateText m nanoseconds (format.length + 32) format.toList)

/-! ## Dates in texts -/

def numbersBetween (sign : String) (text : String) : Option (List Nat) :=
  (text.splitOn sign).mapM fun part =>
    if !part.isEmpty && part.toList.all Char.isDigit then part.toNat? else none

def timeOfDay? (text : String) : Option (Nat × Nat × Nat) :=
  match numbersBetween ":" text with
  | some [hour, minute] => if hour < 24 && minute < 60 then some (hour, minute, 0) else none
  | some [hour, minute, second] =>
    if hour < 24 && minute < 60 && second < 61 then some (hour, minute, second) else none
  | _ => none

/-- The seconds from the start of 1970 that a text tells: it counts them itself, or gives a day,
maybe with a time. -/
def secondsOfText? (now : Int) (text : String) : Option Int :=
  let words := (text.toList.map fun c => if c = 'T' then ' ' else c)
  let words := ((String.ofList words).splitOn " ").filter fun w => !w.isEmpty && w ≠ "UTC" && w ≠ "Z"
  let today := now / 86400 * 86400
  let day? (word : String) : Option Int :=
    if word = "today" then some now
    else if word = "yesterday" then some (now - 86400)
    else if word = "tomorrow" then some (now + 86400)
    else match numbersBetween "-" word with
      | some [year, month, day] =>
        if 1 ≤ month && month ≤ 12 && 1 ≤ day && day ≤ daysOfMonth year month then
          some (Moment.seconds { year, month, day, hour := 0, minute := 0, second := 0 })
        else none
      | _ => none
  let withTime (start : Int) (word : String) : Option Int :=
    (timeOfDay? word).map fun (hour, minute, second) =>
      start / 86400 * 86400 + hour * 3600 + minute * 60 + second
  match words with
  | [] => some today
  | ["now"] => some now
  | [word] =>
    if word.startsWith "@" then (word.drop 1).toInt?
    else day? word <|> withTime now word
  | [day, time] => (day? day).bind fun start => withTime start time
  | _ => none

end StorageBroker.Text
