/-!
# TOML moments — dates and times

A moment is a date, a time, or both, the latter possibly with an offset
from universal time. The day has to exist in its month; a second may be a
leap second. Only the extent of a moment matters here, not which one it is.
-/

namespace RestModel

namespace Toml

/-- A number of exactly so many digits, and what follows it. -/
def digits? (count : Nat) (s : List Char) : Option (Nat × List Char) :=
  let digits := s.take count
  if digits.length = count && digits.all Char.isDigit then
    some (digits.foldl (fun n d => n * 10 + (d.toNat - 48)) 0, s.drop count)
  else none

/-- What follows a given character. -/
def after? (c : Char) : List Char → Option (List Char)
  | x :: rest => if x = c then some rest else none
  | [] => none

/-- The number of days of a month. -/
def daysIn (year month : Nat) : Nat :=
  if month = 2 then
    if year % 4 = 0 && (year % 100 ≠ 0 || year % 400 = 0) then 29 else 28
  else if [4, 6, 9, 11].contains month then 30
  else 31

/-- What follows a date. -/
def date? (s : List Char) : Option (List Char) := do
  let (year, s) ← digits? 4 s
  let (month, s) ← digits? 2 (← after? '-' s)
  let (day, s) ← digits? 2 (← after? '-' s)
  if 1 ≤ month && month ≤ 12 && 1 ≤ day && day ≤ daysIn year month then some s else none

/-- What follows a time of day. -/
def time? (s : List Char) : Option (List Char) := do
  let (hour, s) ← digits? 2 s
  let (minute, s) ← digits? 2 (← after? ':' s)
  let (second, s) ← digits? 2 (← after? ':' s)
  if 24 ≤ hour || 60 ≤ minute || 60 < second then none
  match s with
  | '.' :: d :: rest => if d.isDigit then some (rest.dropWhile Char.isDigit) else none
  | '.' :: [] => none
  | _ => some s

/-- What follows an offset, if there is one. -/
def offset? (s : List Char) : Option (List Char) :=
  match s with
  | c :: rest =>
    if c = 'Z' || c = 'z' then some rest
    else if c = '+' || c = '-' then do
      let (hour, s) ← digits? 2 rest
      let (minute, s) ← digits? 2 (← after? ':' s)
      if hour < 24 && minute < 60 then some s else none
    else some s
  | [] => some s

/-- What follows a moment that begins here. -/
def afterMoment? (s : List Char) : Option (List Char) :=
  match date? s with
  | none => time? s
  | some rest =>
    match rest with
    | c :: more =>
      if c = 'T' || c = 't' then (time? more).bind offset?
      else if c = ' ' then
        match time? more with
        | none => some rest
        | some s => offset? s
      else some rest
    | [] => some rest

end Toml

end RestModel
