import StudyFlow.Shell.Octets

/-!
Dates of the civil calendar, in universal time, and how they are printed under a format.
-/

namespace StudyFlow.Shell

/-- A point in time by its parts. -/
structure Date where
  year : Int
  /-- From 1 to 12. -/
  month : Nat
  day : Nat
  hour : Nat
  minute : Nat
  second : Nat
  /-- Days since Sunday. -/
  weekday : Nat
  /-- Days since the first of January. -/
  yearday : Nat
  deriving Inhabited

namespace Date

def isLeap (year : Int) : Bool := (year % 4 == 0 && year % 100 != 0) || year % 400 == 0

/-- The days from the first of January 1970 to a date. -/
def daysFrom (year : Int) (month day : Nat) : Int :=
  let y := if month ≤ 2 then year - 1 else year
  let era := y / 400
  let yoe := y - era * 400
  let shifted : Int := (month + 9) % 12
  let doy := (153 * shifted + 2) / 5 + day - 1
  let doe := yoe * 365 + yoe / 4 - yoe / 100 + doy
  era * 146097 + doe - 719468

/-- The date of so many seconds since the start of 1970. -/
def ofSeconds (n : Int) : Date :=
  let days := n / 86400
  let rest := (n % 86400).toNat
  let z := days + 719468
  let era := z / 146097
  let doe := z - era * 146097
  let yoe := (doe - doe / 1460 + doe / 36524 - doe / 146096) / 365
  let doy := doe - (365 * yoe + yoe / 4 - yoe / 100)
  let mp := (5 * doy + 2) / 153
  let day := (doy - (153 * mp + 2) / 5 + 1).toNat
  let month := (if mp < 10 then mp + 3 else mp - 9).toNat
  let year := yoe + era * 400 + (if month ≤ 2 then 1 else 0)
  { year := year, month := month, day := day
    hour := rest / 3600, minute := rest / 60 % 60, second := rest % 60
    weekday := ((days + 4) % 7).toNat
    yearday := (days - daysFrom year 1 1).toNat }

/-- The seconds since the start of 1970. -/
def seconds (d : Date) : Int :=
  daysFrom d.year d.month d.day * 86400 + d.hour * 3600 + d.minute * 60 + d.second

def dayNames : List String := ["Sunday", "Monday", "Tuesday", "Wednesday", "Thursday", "Friday",
  "Saturday"]

def monthNames : List String :=
  ["January", "February", "March", "April", "May", "June", "July", "August", "September", "October",
   "November", "December"]

/-- The week of the year, whose first week holds its first Thursday, and the year it belongs to. -/
def isoWeek (d : Date) : Int × Nat :=
  let day := (d.weekday + 6) % 7
  let week : Int := ((d.yearday : Int) - day + 10) / 7
  let weeksOf (y : Int) : Int :=
    let p (y : Int) : Int := (y + y / 4 - y / 100 + y / 400) % 7
    if p y == 4 || p (y - 1) == 3 then 53 else 52
  if week < 1 then (d.year - 1, (weeksOf (d.year - 1)).toNat)
  else if weeksOf d.year < week then (d.year + 1, 1)
  else (d.year, week.toNat)

/-- How a number in a date is filled up. -/
inductive Padding where
  | zeros
  | blanks
  | nothing
  deriving DecidableEq

/-- A number with at least so many characters. -/
def padded (p : Padding) (width : Nat) (n : Int) : String :=
  let ds := n.natAbs.repr
  let sign := if n < 0 then "-" else ""
  match p with
  | .zeros => sign ++ repeated (width - sign.length - ds.length) '0' ++ ds
  | .blanks => padFront width (sign ++ ds)
  | .nothing => sign ++ ds

/-- What a letter of a format stands for; none if it stands for nothing. Formats of formats are
given as such. -/
def conversion (d : Date) (total : Int) (nanos : Nat) (padding : Option Padding) (c : Char) :
    Option String :=
  let number (width : Nat) (n : Int) : String := padded (padding.getD .zeros) width n
  let blank (width : Nat) (n : Int) : String := padded (padding.getD .blanks) width n
  let hour12 : Nat := if d.hour % 12 == 0 then 12 else d.hour % 12
  let dayName := dayNames.getD d.weekday ""
  let monthName := monthNames.getD (d.month - 1) ""
  let two (n : Nat) : String := padded .zeros 2 n
  let time := two d.hour ++ ":" ++ two d.minute ++ ":" ++ two d.second
  match c with
  | '%' => some "%"
  | 'n' => some "\n"
  | 't' => some "\t"
  | 'Y' => some (number 4 d.year)
  | 'C' => some (number 2 (d.year / 100))
  | 'y' => some (number 2 (d.year % 100))
  | 'G' => some (number 4 d.isoWeek.1)
  | 'g' => some (number 2 (d.isoWeek.1 % 100))
  | 'm' => some (number 2 d.month)
  | 'd' => some (number 2 d.day)
  | 'e' => some (blank 2 d.day)
  | 'H' => some (number 2 d.hour)
  | 'k' => some (blank 2 d.hour)
  | 'I' => some (number 2 hour12)
  | 'l' => some (blank 2 hour12)
  | 'M' => some (number 2 d.minute)
  | 'S' => some (number 2 d.second)
  | 'N' => some (number 9 nanos)
  | 's' => some (toString total)
  | 'j' => some (number 3 (d.yearday + 1))
  | 'u' => some (if d.weekday == 0 then "7" else d.weekday.repr)
  | 'w' => some d.weekday.repr
  | 'U' => some (number 2 ((d.yearday + 7 - d.weekday) / 7))
  | 'W' => some (number 2 ((d.yearday + 7 - (d.weekday + 6) % 7) / 7))
  | 'V' => some (number 2 d.isoWeek.2)
  | 'a' => some (takeFront 3 dayName)
  | 'A' => some dayName
  | 'b' | 'h' => some (takeFront 3 monthName)
  | 'B' => some monthName
  | 'p' => some (if d.hour < 12 then "AM" else "PM")
  | 'P' => some (if d.hour < 12 then "am" else "pm")
  | 'D' | 'x' => some (two d.month ++ "/" ++ two d.day ++ "/" ++ padded .zeros 2 (d.year % 100))
  | 'F' => some (padded .zeros 4 d.year ++ "-" ++ two d.month ++ "-" ++ two d.day)
  | 'T' | 'X' => some time
  | 'R' => some (two d.hour ++ ":" ++ two d.minute)
  | 'r' =>
    some (two hour12 ++ ":" ++ two d.minute ++ ":" ++ two d.second ++ " " ++
      (if d.hour < 12 then "AM" else "PM"))
  | 'c' =>
    some (takeFront 3 dayName ++ " " ++ takeFront 3 monthName ++ " " ++ padFront 2 d.day.repr ++
      " " ++ time ++ " " ++ padded .zeros 4 d.year)
  | 'Z' => some "UTC"
  | 'z' => some "+0000"
  | _ => none

def format (f : String) (d : Date) (total : Int) (nanos : Nat) : String :=
  let rec go : Nat → List Char → String → String
    | 0, _, acc => acc
    | _, [], acc => acc
    | fuel + 1, '%' :: rest, acc =>
      let flags := rest.takeWhile fun c => "-_0^#".toList.contains c
      let after := rest.drop flags.length
      let digits := after.takeWhile Char.isDigit
      let after := after.drop digits.length
      let padding := if flags.contains '-' then some Padding.nothing
        else if flags.contains '_' then
          some .blanks
        else if flags.contains '0' then some .zeros else none
      let shown (t : String) : String := if flags.contains '^' then t.toUpper else t
      match after with
      | ':' :: 'z' :: more => go fuel more (acc ++ "+00:00")
      | c :: more =>
        match conversion d total nanos padding c with
        | some t =>
          if c == 'N' && !digits.isEmpty then
            go fuel more (acc ++ takeFront (decimalOf (String.ofList digits)) t)
          else
            let width := decimalOf (String.ofList digits)
            let fill := if c.isAlpha && "aAbBhpPcxXDFTRrZ".toList.contains c then ' ' else '0'
            go fuel more (acc ++ repeated (width - t.length) fill ++ shown t)
        | none => go fuel more ((acc.push '%').push c)
      | [] => acc.push '%'
    | fuel + 1, c :: rest, acc => go fuel rest (acc.push c)
  go (f.length + 1) f.toList ""

end Date

end StudyFlow.Shell
