/- Calendar dates and times of day, as a timestamp in a data text gives them: a date alone, or a
   date with a time to the microsecond and an optional offset from UTC. Two times with offsets
   are the same when they name the same instant; a time without an offset is the same only as
   another without one, field by field; a date is never the same as a date with a time. -/
namespace Gamebook

/-- A time of day to the microsecond, with an optional offset from UTC in minutes. -/
structure Clock where
  hour : Nat
  minute : Nat
  second : Nat
  micro : Nat
  offset : Option Int
  deriving DecidableEq, Repr, Inhabited

/-- A date, and the time of day when there is one. -/
structure Stamp where
  year : Nat
  month : Nat
  day : Nat
  clock : Option Clock
  deriving DecidableEq, Repr, Inhabited

/-- `n` in decimal, with zeros in front up to `width` digits. -/
def padNat (width n : Nat) : String :=
  let d := toString n
  String.ofList (List.replicate (width - d.length) '0') ++ d

/-- Whether a year of the Gregorian calendar has a 29th of February. -/
def isLeapYear (y : Nat) : Bool := y % 4 == 0 && (y % 100 != 0 || y % 400 == 0)

/-- The number of days of a month (1 to 12) of a year. -/
def daysInMonth (y m : Nat) : Nat :=
  match m with
  | 2 => if isLeapYear y then 29 else 28
  | 4 | 6 | 9 | 11 => 30
  | _ => 31

/-- Days from the first of January of year 1 to the first of a month. -/
def daysBefore (y m : Nat) : Nat :=
  let py := y - 1
  py * 365 + py / 4 - py / 100 + py / 400 +
    (List.range (m - 1)).foldl (fun acc k => acc + daysInMonth y (k + 1)) 0

/-- A signed span of minutes as `+HH:MM` or `-HH:MM`. -/
def offsetText (m : Int) : String :=
  (if m < 0 then "-" else "+") ++ padNat 2 (m.natAbs / 60) ++ ":" ++ padNat 2 (m.natAbs % 60)

/-- A span of time written as its normalised days, seconds and microseconds. -/
def spanLiteral (micros : Int) : String :=
  let day : Int := 86400 * 1000000
  let days := micros / day
  let rest := micros % day
  let parts := (if days != 0 then ["days=" ++ toString days] else []) ++
    (if rest / 1000000 != 0 then ["seconds=" ++ toString (rest / 1000000)] else []) ++
    (if rest % 1000000 != 0 then ["microseconds=" ++ toString (rest % 1000000)] else [])
  "datetime.timedelta(" ++ (if parts.isEmpty then "0" else ", ".intercalate parts) ++ ")"

namespace Stamp

/-- The instant of a time, in microseconds from the start of year 1, counting its offset. -/
def instant (t : Stamp) (c : Clock) : Int :=
  let minutes : Int := ((daysBefore t.year t.month + t.day : Nat) * 24 + c.hour) * 60 + c.minute
  ((minutes - c.offset.getD 0) * 60 + c.second) * 1000000 + c.micro

/-- Whether two stamps are the same key. -/
def same (a b : Stamp) : Bool :=
  match a.clock, b.clock with
  | none, none => a.year == b.year && a.month == b.month && a.day == b.day
  | some ca, some cb =>
    match ca.offset, cb.offset with
    | none, none => a == b
    | some _, some _ => a.instant ca == b.instant cb
    | _, _ => false
  | _, _ => false

/-- The kind of a stamp, as error messages name it. -/
def typeName (t : Stamp) : String := if t.clock.isSome then "datetime" else "date"

/-- The text of a stamp: `YYYY-MM-DD`, then ` HH:MM:SS`, a fraction when there is one, and the
offset when there is one. -/
def text (t : Stamp) : String :=
  let date := padNat 4 t.year ++ "-" ++ padNat 2 t.month ++ "-" ++ padNat 2 t.day
  match t.clock with
  | none => date
  | some c =>
    date ++ " " ++ padNat 2 c.hour ++ ":" ++ padNat 2 c.minute ++ ":" ++ padNat 2 c.second ++
      (if c.micro == 0 then "" else "." ++ padNat 6 c.micro) ++
      (match c.offset with
        | some m => offsetText m
        | none => "")

/-- The literal of a stamp, as a constructor call; trailing zero seconds and microseconds are
left out. -/
def literal (t : Stamp) : String :=
  let date := toString t.year ++ ", " ++ toString t.month ++ ", " ++ toString t.day
  match t.clock with
  | none => "datetime.date(" ++ date ++ ")"
  | some c =>
    let time := [c.hour, c.minute] ++
      (if c.second == 0 && c.micro == 0 then [] else [c.second]) ++
      (if c.micro == 0 then [] else [c.micro])
    let zone := match c.offset with
      | none => ""
      | some 0 => ", tzinfo=datetime.timezone.utc"
      | some m => ", tzinfo=datetime.timezone(" ++ spanLiteral (m * 60 * 1000000) ++ ")"
    "datetime.datetime(" ++ date ++ String.join (time.map fun n => ", " ++ toString n) ++ zone ++ ")"

end Stamp

end Gamebook
