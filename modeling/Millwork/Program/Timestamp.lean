import Millwork.Number.Fixed

/-!
# Time stamps

A moment in coordinated universal time, as the head of a program records it. The fraction of a
second is written only when there is one. The offset is always `+00:00`: moments of a clock that is
set to another zone are left out, and no result about stamps speaks of them.
-/

namespace Millwork

structure Timestamp where
  year : Nat
  month : Nat
  day : Nat
  hour : Nat
  minute : Nat
  second : Nat
  microsecond : Nat
  deriving DecidableEq

namespace Timestamp

def isLeapYear (year : Nat) : Bool := year % 4 == 0 && (year % 100 != 0 || year % 400 == 0)

def daysOf (year month : Nat) : Nat :=
  match month with
  | 2 => if isLeapYear year then 29 else 28
  | 4 | 6 | 9 | 11 => 30
  | _ => 31

def next (stamp : Timestamp) : Timestamp :=
  if stamp.second < 59 then { stamp with second := stamp.second + 1 }
  else if stamp.minute < 59 then { stamp with second := 0, minute := stamp.minute + 1 }
  else if stamp.hour < 23 then { stamp with second := 0, minute := 0, hour := stamp.hour + 1 }
  else
    let stamp := { stamp with second := 0, minute := 0, hour := 0 }
    if stamp.day < daysOf stamp.year stamp.month then { stamp with day := stamp.day + 1 }
    else if stamp.month < 12 then { stamp with day := 1, month := stamp.month + 1 }
    else { stamp with day := 1, month := 1, year := stamp.year + 1 }

def padded (width n : Nat) : String :=
  let digits := Decimal.digits n
  .ofList (List.replicate (width - digits.length) '0' ++ digits)

def text (stamp : Timestamp) : String :=
  let date := s!"{padded 4 stamp.year}-{padded 2 stamp.month}-{padded 2 stamp.day}"
  let time := s!"{padded 2 stamp.hour}:{padded 2 stamp.minute}:{padded 2 stamp.second}"
  let fraction := if stamp.microsecond = 0 then "" else "." ++ padded 6 stamp.microsecond
  s!"{date}T{time}{fraction}+00:00"

end Timestamp

end Millwork
