import Stencil.Calendar.Date
import Stencil.Decimal.Layout

/-!
# Date patterns

Patterns such as `%Y-%m-%d`. A directive is a percent sign and a letter; between them `-`, `0` or
`_` sets how a number is filled up. Some directives stand for several others.
-/

namespace Stencil.Calendar

/-- A moment on the clock of a zone. -/
structure Moment where
  date : Date
  /-- Seconds since midnight. -/
  clock : Nat
  /-- Seconds that the zone is ahead of the prime meridian. -/
  offset : Int
  /-- Seconds since the start of 1970 at the prime meridian. -/
  timestamp : Int

/-- The moment of a timestamp in a zone. -/
def Moment.ofTimestamp (timestamp offset : Int) : Moment :=
  let seconds := timestamp + offset
  ⟨Date.ofDays (seconds / 86400), (seconds % 86400).toNat, offset, timestamp⟩

/-- What a number is filled up with. -/
inductive Fill where
  | none
  | zero
  | space
deriving DecidableEq, Repr

/-- The numbers of a moment. -/
inductive Field where
  | year
  | century
  | yearOfCentury
  | weekYear
  | weekYearOfCentury
  | quarter
  | month
  | day
  | weekFromSunday
  | weekFromMonday
  | week
  | weekdayFromSunday
  | weekdayFromMonday
  | ordinal
  | hour
  | halfHour
  | minute
  | second
  | nanosecond
  | timestamp
deriving DecidableEq, Repr

/-- How precisely a zone is written. -/
inductive Precision where
  | hours
  | minutes
  | seconds
deriving DecidableEq, Repr

/-- A part of a pattern. -/
inductive Item where
  | literal (c : Char)
  | field (f : Field) (fill : Fill)
  | shortWeekday
  | longWeekday
  | shortMonth
  | longMonth
  | upperHalf
  | lowerHalf
  | fraction (dot : Bool) (digits : Nat)
  | zone (precision : Precision) (colons : Bool)
  | zoneName
  | full
deriving DecidableEq, Repr

/-- The fields of single letters, each with the fill that it has by itself. -/
def Field.ofLetter? : Char → Option (Field × Fill)
  | 'C' => some (century, .zero)
  | 'G' => some (weekYear, .zero)
  | 'H' => some (hour, .zero)
  | 'I' => some (halfHour, .zero)
  | 'M' => some (minute, .zero)
  | 'S' => some (second, .zero)
  | 'U' => some (weekFromSunday, .zero)
  | 'V' => some (week, .zero)
  | 'W' => some (weekFromMonday, .zero)
  | 'Y' => some (year, .zero)
  | 'd' => some (day, .zero)
  | 'e' => some (day, .space)
  | 'f' => some (nanosecond, .zero)
  | 'g' => some (weekYearOfCentury, .zero)
  | 'j' => some (ordinal, .zero)
  | 'k' => some (hour, .space)
  | 'l' => some (halfHour, .space)
  | 'm' => some (month, .zero)
  | 'q' => some (quarter, .none)
  | 's' => some (timestamp, .none)
  | 'u' => some (weekdayFromMonday, .none)
  | 'w' => some (weekdayFromSunday, .none)
  | 'y' => some (yearOfCentury, .zero)
  | _ => none

/-- Hours, minutes and seconds. -/
def Item.time : List Item :=
  [.field .hour .zero, .literal ':', .field .minute .zero, .literal ':', .field .second .zero]

/-- Month, day and year of the century. -/
def Item.date : List Item :=
  [.field .month .zero, .literal '/', .field .day .zero, .literal '/', .field .yearOfCentury .zero]

/-- What a letter stands for. -/
def Item.ofLetter? (c : Char) : Option (List Item) :=
  match Field.ofLetter? c with
  | some (f, fill) => some [field f fill]
  | none =>
    match c with
    | 'A' => some [longWeekday]
    | 'B' => some [longMonth]
    | 'D' => some date
    | 'F' =>
      some [field .year .zero, literal '-', field .month .zero, literal '-', field .day .zero]
    | 'P' => some [lowerHalf]
    | 'R' => some [field .hour .zero, literal ':', field .minute .zero]
    | 'T' => some time
    | 'X' => some time
    | 'Z' => some [zoneName]
    | 'a' => some [shortWeekday]
    | 'b' => some [shortMonth]
    | 'h' => some [shortMonth]
    | 'c' =>
      some ([shortWeekday, literal ' ', shortMonth, literal ' ', field .day .space, literal ' ']
        ++ time ++ [literal ' ', field .year .zero])
    | 'n' => some [literal '\n']
    | 'p' => some [upperHalf]
    | 'r' =>
      some [field .halfHour .zero, literal ':', field .minute .zero, literal ':',
        field .second .zero, literal ' ', upperHalf]
    | 't' => some [literal '\t']
    | 'v' => some [field .day .space, literal '-', shortMonth, literal '-', field .year .zero]
    | 'x' => some date
    | 'z' => some [zone .minutes false]
    | '+' => some [full]
    | '%' => some [literal '%']
    | _ => none

/-- A field with a fill of its own; only single fields may have one. -/
def Item.filled? (fill : Fill) (c : Char) : Option (List Item) :=
  (Field.ofLetter? c).map fun (f, _) => [field f fill]

/-- The parts of a pattern, if it is one. -/
def Item.ofPattern? : List Char → Option (List Item)
  | [] => some []
  | '%' :: ':' :: ':' :: ':' :: 'z' :: cs => (zone .hours false :: ·) <$> ofPattern? cs
  | '%' :: ':' :: ':' :: 'z' :: cs => (zone .seconds true :: ·) <$> ofPattern? cs
  | '%' :: ':' :: 'z' :: cs => (zone .minutes true :: ·) <$> ofPattern? cs
  | '%' :: '.' :: 'f' :: cs => ofPattern? cs
  | '%' :: '.' :: '3' :: 'f' :: cs => (fraction true 3 :: ·) <$> ofPattern? cs
  | '%' :: '.' :: '6' :: 'f' :: cs => (fraction true 6 :: ·) <$> ofPattern? cs
  | '%' :: '.' :: '9' :: 'f' :: cs => (fraction true 9 :: ·) <$> ofPattern? cs
  | '%' :: '3' :: 'f' :: cs => (fraction false 3 :: ·) <$> ofPattern? cs
  | '%' :: '6' :: 'f' :: cs => (fraction false 6 :: ·) <$> ofPattern? cs
  | '%' :: '9' :: 'f' :: cs => (fraction false 9 :: ·) <$> ofPattern? cs
  | '%' :: '-' :: c :: cs => do return (← filled? .none c) ++ (← ofPattern? cs)
  | '%' :: '0' :: c :: cs => do return (← filled? .zero c) ++ (← ofPattern? cs)
  | '%' :: '_' :: c :: cs => do return (← filled? .space c) ++ (← ofPattern? cs)
  | '%' :: c :: cs => do return (← ofLetter? c) ++ (← ofPattern? cs)
  | ['%'] => none
  | c :: cs => (literal c :: ·) <$> ofPattern? cs

/-- A number of one byte in two places. The first place of a number above 99 is the character that
many after the zero. -/
def twoPlaces (fill : Fill) (n : Nat) : List Char :=
  let ones := Char.ofNat (48 + n % 10)
  if n / 10 == 0 then
    match fill with
    | .none => [ones]
    | .space => [' ', ones]
    | .zero => ['0', ones]
  else [Char.ofNat (48 + n / 10), ones]

/-- A number in at least `width` places, which a sign adds one to if it must be there. -/
def places (fill : Fill) (width : Nat) (signed : Bool) (n : Int) : List Char :=
  let sign := if n < 0 then ['-'] else if signed then ['+'] else []
  let digits := Decimal.digits n.natAbs
  let width := if signed then width + 1 else width
  match fill with
  | .none => sign ++ digits
  | .zero => sign ++ Decimal.padLeft (width - sign.length) '0' digits
  | .space => Decimal.padLeft width ' ' (sign ++ digits)

/-- A year in at least four places, with a sign unless it is from 0 to 9999. -/
def yearPlaces (fill : Fill) (year : Int) : List Char :=
  if 1000 ≤ year ∧ year ≤ 9999 then Decimal.digits year.natAbs
  else places fill 4 (year < 0 || 9999 < year) year

/-- The hour on a clock of twelve hours. -/
def Moment.halfHour (m : Moment) : Nat :=
  let hour := m.clock / 3600 % 12
  if hour = 0 then 12 else hour

/-- The text of a field. -/
def Field.text (m : Moment) (fill : Fill) : Field → List Char
  | year => yearPlaces fill m.date.year
  | century => twoPlaces fill (m.date.year / 100 % 256).toNat
  | yearOfCentury => twoPlaces fill (m.date.year % 100).toNat
  | weekYear => yearPlaces fill m.date.isoWeek.1
  | weekYearOfCentury => twoPlaces fill (m.date.isoWeek.1 % 100).toNat
  | quarter => Decimal.digits ((m.date.month + 2) / 3)
  | month => twoPlaces fill m.date.month
  | day => twoPlaces fill m.date.day
  | weekFromSunday => twoPlaces fill (m.date.week m.date.weekday)
  | weekFromMonday => twoPlaces fill (m.date.week m.date.weekdayFromMonday)
  | week => twoPlaces fill m.date.isoWeek.2
  | weekdayFromSunday => Decimal.digits m.date.weekday
  | weekdayFromMonday => Decimal.digits (m.date.weekdayFromMonday + 1)
  | ordinal => places fill 3 false m.date.ordinal
  | hour => twoPlaces fill (m.clock / 3600)
  | halfHour => twoPlaces fill m.halfHour
  | minute => twoPlaces fill (m.clock / 60 % 60)
  | second => twoPlaces fill (m.clock % 60)
  | nanosecond => places fill 9 false 0
  | timestamp => places fill 9 false m.timestamp

/-- The names of the days of the week, Sunday first. -/
def weekdayNames : List String :=
  ["Sunday", "Monday", "Tuesday", "Wednesday", "Thursday", "Friday", "Saturday"]

/-- The names of the months. -/
def monthNames : List String :=
  ["January", "February", "March", "April", "May", "June", "July", "August", "September",
    "October", "November", "December"]

/-- The name of the day of the week. -/
def Moment.weekdayName (m : Moment) : List Char := (weekdayNames.getD m.date.weekday "").toList

/-- The name of the month. -/
def Moment.monthName (m : Moment) : List Char := (monthNames.getD (m.date.month - 1) "").toList

/-- The written form of a zone. Seconds that are not written round to the nearest minute, and
minutes that are not written are dropped. -/
def zoneText (precision : Precision) (colons : Bool) (offset : Int) : List Char :=
  let colon := if colons then [':'] else []
  let seconds := offset.natAbs
  let two := twoPlaces .zero
  let body :=
    match precision with
    | .hours => two (seconds / 3600)
    | .minutes =>
      let minutes := (seconds + 30) / 60
      two (minutes / 60) ++ colon ++ two (minutes % 60)
    | .seconds =>
      two (seconds / 3600) ++ colon ++ two (seconds / 60 % 60) ++ colon ++ two (seconds % 60)
  (if offset < 0 then '-' else '+') :: body

/-- The text of a part of a pattern. -/
def Item.text (m : Moment) : Item → List Char
  | literal c => [c]
  | field f fill => f.text m fill
  | shortWeekday => m.weekdayName.take 3
  | longWeekday => m.weekdayName
  | shortMonth => m.monthName.take 3
  | longMonth => m.monthName
  | upperHalf => if m.clock < 43200 then ['A', 'M'] else ['P', 'M']
  | lowerHalf => if m.clock < 43200 then ['a', 'm'] else ['p', 'm']
  | fraction dot digits => (if dot then ['.'] else []) ++ List.replicate digits '0'
  | zone precision colons => zoneText precision colons m.offset
  | zoneName => zoneText .minutes true m.offset
  | full =>
    let two := twoPlaces .zero
    yearPlaces .zero m.date.year ++ '-' :: two m.date.month ++ '-' :: two m.date.day
      ++ 'T' :: two (m.clock / 3600) ++ ':' :: two (m.clock / 60 % 60)
      ++ ':' :: two (m.clock % 60) ++ zoneText .minutes true m.offset

/-- The moment written after a pattern, if it is one. -/
def Moment.format? (m : Moment) (pattern : String) : Option String :=
  (Item.ofPattern? pattern.toList).map fun items => String.ofList (items.flatMap (Item.text m))

end Stencil.Calendar
