/-!
# Times and their ISO texts

A time is a number of milliseconds since 1970-01-01T00:00:00Z, on the proleptic Gregorian calendar.
-/

namespace Blackout

/-- The decimal digits of `n`, with zeros in front up to the width. -/
def padZeros (w n : Nat) : String :=
  let s := toString n
  String.ofList (List.replicate (w - s.length) '0') ++ s

/-- Year, month and day of a day number. Years are counted from March on, so that the day that a
leap year adds is the last one. -/
def civilFromDays (days : Int) : Int × Nat × Nat :=
  let z := days + 719468
  let era := z.fdiv 146097
  let doe := (z - era * 146097).toNat
  let yoe := (doe - doe / 1460 + doe / 36524 - doe / 146096) / 365
  let doy := doe - (365 * yoe + yoe / 4 - yoe / 100)
  let mp := (5 * doy + 2) / 153
  let month := if mp < 10 then mp + 3 else mp - 9
  let year := era * 400 + yoe + (if month ≤ 2 then 1 else 0)
  (year, month, doy - (153 * mp + 2) / 5 + 1)

/-- `new Date(ms).toISOString()`. -/
def toISOString (ms : Int) : String :=
  let days := ms.fdiv 86400000
  let t := (ms - days * 86400000).toNat
  let (y, m, d) := civilFromDays days
  let year :=
    if 0 ≤ y ∧ y ≤ 9999 then padZeros 4 y.toNat
    else (if y < 0 then "-" else "+") ++ padZeros 6 y.natAbs
  year ++ "-" ++ padZeros 2 m ++ "-" ++ padZeros 2 d ++ "T" ++ padZeros 2 (t / 3600000) ++ ":" ++
    padZeros 2 (t / 60000 % 60) ++ ":" ++ padZeros 2 (t / 1000 % 60) ++ "." ++
    padZeros 3 (t % 1000) ++ "Z"

example : toISOString 1709210096789 = "2024-02-29T12:34:56.789Z" := by decide

theorem toISOString_ne_empty (ms : Int) : toISOString ms ≠ "" := by
  simp [toISOString]

/-- The day number of a day, counted as in `civilFromDays`. -/
def daysFromCivil (year month day : Nat) : Int :=
  let y := if month ≤ 2 then year - 1 else year
  let doy := (153 * (if month ≤ 2 then month + 9 else month - 3) + 2) / 5 + day - 1
  y * 365 + y / 4 - y / 100 + y / 400 + doy - 719468

/-- `Date.parse` on the texts that `toISOString` gives for the years up to 9999. -/
def readISOString (text : List Nat) : Option Int :=
  let part i w := ((text.drop i).take w).foldl (fun n c => 10 * n + (c - 48)) 0
  let ms : Int := daysFromCivil (part 0 4) (part 5 2) (part 8 2) * 86400000 +
    part 11 2 * 3600000 + part 14 2 * 60000 + part 17 2 * 1000 + part 20 3
  if (toISOString ms).toList.map Char.toNat = text then some ms else none

example : readISOString ("2024-02-29T12:34:56.789Z".toList.map Char.toNat) = some 1709210096789 := by
  decide

end Blackout
