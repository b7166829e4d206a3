/-!
# Timestamps in YAML scalars

An untagged plain scalar (or one tagged `!!timestamp`) that starts with four digits and a
dash is tried as a timestamp, in these forms and in this order:

1. `Y-M-DTh:m:s[.frac]` followed by `Z` or `±hh:mm`;
2. the same with a lower-case `t`;
3. `Y-M-D h:m:s[.frac]`, the parts separated by one or more blanks, in UTC;
4. `Y-M-D`, midnight UTC.

The year has four digits; month, day, hour, minute and second one or two; the fraction any
number of digits after a point or a comma (nine are kept). Hours run to 23, minutes and
seconds to 59, the day must exist in its month; a zone offset may reach 24 hours and 60
minutes. The whole text must be used.

A timestamp prints as `YYYY-MM-DD hh:mm:ss[.frac] ±hhmm ZONE`, in the clock time it was
written in; the zone is `UTC` for `Z`, for no zone and for a zero offset, and the numeric
offset again otherwise.
-/

namespace SlotAllocation.Yaml

/-- Where a timestamp's clock time is reckoned: UTC (`Z` or no zone), the local zone (a zero
offset written out, local time being UTC), or a fixed offset in seconds. -/
inductive Zone where
  | utc
  | local
  | fixed (seconds : Int)
deriving DecidableEq, Repr, Inhabited

/-- A timestamp as written: civil date, clock time, nanoseconds and zone. -/
structure Stamp where
  year : Nat
  month : Nat
  day : Nat
  hour : Nat := 0
  minute : Nat := 0
  second : Nat := 0
  nanos : Nat := 0
  zone : Zone := .utc
deriving DecidableEq, Repr, Inhabited

namespace Stamp

/-- The days of month `m` in year `y`. -/
def monthDays (m y : Nat) : Nat :=
  if m == 2 then (if y % 4 == 0 && (y % 100 != 0 || y % 400 == 0) then 29 else 28)
  else if m == 4 || m == 6 || m == 9 || m == 11 then 30
  else 31

/-- The value of a run of decimal digits. -/
def digitsNat (ds : List Char) : Nat := ds.foldl (fun n d => n * 10 + (d.toNat - '0'.toNat)) 0

/-- A number of one or two digits at the front. -/
def shortNumber : List Char → Option (Nat × List Char)
  | a :: b :: rest =>
    if !a.isDigit then none
    else if b.isDigit then some (digitsNat [a, b], rest)
    else some (digitsNat [a], b :: rest)
  | [a] => if a.isDigit then some (digitsNat [a], []) else none
  | [] => none

/-- A number of exactly two digits. -/
def twoDigits (a b : Char) : Option Nat :=
  if a.isDigit && b.isDigit then some (digitsNat [a, b]) else none

/-- Consumes the character `c`. -/
def expectChar (c : Char) : List Char → Option (List Char)
  | d :: rest => if c == d then some rest else none
  | [] => none

/-- The date at the front: year, month in range, day. -/
def readDate (cs : List Char) : Option ((Nat × Nat × Nat) × List Char) := do
  let ys := cs.take 4
  if ys.length != 4 || !ys.all Char.isDigit then none
  let rest ← expectChar '-' (cs.drop 4)
  let (month, rest) ← shortNumber rest
  if month < 1 || month > 12 then none
  let rest ← expectChar '-' rest
  let (day, rest) ← shortNumber rest
  pure ((digitsNat ys, month, day), rest)

/-- The clock time at the front, with an optional fraction of a second. -/
def readClock (cs : List Char) : Option ((Nat × Nat × Nat × Nat) × List Char) := do
  let (hour, rest) ← shortNumber cs
  if hour > 23 then none
  let rest ← expectChar ':' rest
  let (minute, rest) ← shortNumber rest
  if minute > 59 then none
  let rest ← expectChar ':' rest
  let (second, rest) ← shortNumber rest
  if second > 59 then none
  match rest with
  | p :: d :: more =>
    if (p == '.' || p == ',') && d.isDigit then
      let ds := (d :: more).takeWhile Char.isDigit
      let nine := (ds ++ List.replicate 9 '0').take 9
      pure ((hour, minute, second, digitsNat nine), (d :: more).dropWhile Char.isDigit)
    else pure ((hour, minute, second, 0), rest)
  | _ => pure ((hour, minute, second, 0), rest)

/-- The zone at the front: `Z`, or a sign, two digits of hours, a colon and two digits of
minutes. -/
def readZone : List Char → Option (Zone × List Char)
  | 'Z' :: rest => some (.utc, rest)
  | s :: h1 :: h2 :: c :: m1 :: m2 :: rest => do
    if c != ':' then none
    let hh ← twoDigits h1 h2
    let mm ← twoDigits m1 m2
    if hh > 24 || mm > 60 then none
    let off : Int := ((hh * 60 + mm) * 60 : Nat)
    let off ← if s == '+' then some off else if s == '-' then some (-off) else none
    pure (if off == 0 then .local else .fixed off, rest)
  | _ => none

/-- A stamp from its parts, when the day exists in its month. -/
def checked (date : Nat × Nat × Nat) (clock : Nat × Nat × Nat × Nat) (zone : Zone) :
    Option Stamp :=
  let (y, m, d) := date
  let (hh, mm, ss, ns) := clock
  if d < 1 || d > monthDays m y then none
  else some ⟨y, m, d, hh, mm, ss, ns, zone⟩

/-- Reads a timestamp in one of the four forms. -/
def parse? (text : String) : Option Stamp :=
  let cs := text.toList
  let lead := cs.takeWhile Char.isDigit
  if lead.length != 4 || (cs.drop 4).head? != some '-' then none
  else
    let withZone (sep : Char) : Option Stamp := do
      let (date, rest) ← readDate cs
      let rest ← expectChar sep rest
      let (clock, rest) ← readClock rest
      let (zone, rest) ← readZone rest
      if !rest.isEmpty then none
      checked date clock zone
    let spaced : Option Stamp := do
      let (date, rest) ← readDate cs
      let blanks := rest.takeWhile (· == ' ')
      if blanks.isEmpty then none
      let (clock, rest) ← readClock (rest.drop blanks.length)
      if !rest.isEmpty then none
      checked date clock .utc
    let dateOnly : Option Stamp := do
      let (date, rest) ← readDate cs
      if !rest.isEmpty then none
      checked date (0, 0, 0, 0) .utc
    (withZone 'T').orElse fun _ => (withZone 't').orElse fun _ => spaced.orElse fun _ => dateOnly

/-- `n` in decimal, padded with zeros to `width` digits. -/
def padded (width n : Nat) : String :=
  let s := toString n
  String.ofList (List.replicate (width - s.length) '0') ++ s

/-- The offset of the zone in seconds. -/
def offsetSeconds : Zone → Int
  | .fixed s => s
  | _ => 0

/-- The zone offset as `±hhmm`. -/
def offsetText (z : Zone) : String :=
  let minutes := offsetSeconds z / 60
  let sign := if minutes < 0 then "-" else "+"
  let m := minutes.natAbs
  sign ++ padded 2 (m / 60) ++ padded 2 (m % 60)

/-- The fraction of a second as a point and its digits without trailing zeros, or nothing. -/
def fractionText (nanos : Nat) : String :=
  if nanos == 0 then ""
  else
    let ds := (padded 9 nanos).toList
    "." ++ String.ofList (ds.reverse.dropWhile (· == '0')).reverse

/-- The printed form of a timestamp. -/
def text (t : Stamp) : String :=
  padded 4 t.year ++ "-" ++ padded 2 t.month ++ "-" ++ padded 2 t.day ++ " " ++
    padded 2 t.hour ++ ":" ++ padded 2 t.minute ++ ":" ++ padded 2 t.second ++
    fractionText t.nanos ++ " " ++ offsetText t.zone ++ " " ++
    (match t.zone with
     | .fixed _ => offsetText t.zone
     | _ => "UTC")

/-- The English names of the months. -/
def monthNames : List String :=
  ["January", "February", "March", "April", "May", "June", "July", "August", "September",
   "October", "November", "December"]

/-- The timestamp as a constructor expression names it: `time.Date(y, time.Month, d, h, m,
s, ns, zone)`. -/
def syntaxText (t : Stamp) : String :=
  "time.Date(" ++ toString t.year ++ ", time." ++ monthNames.getD (t.month - 1) "" ++ ", " ++
    toString t.day ++ ", " ++ toString t.hour ++ ", " ++ toString t.minute ++ ", " ++
    toString t.second ++ ", " ++ toString t.nanos ++ ", " ++
    (match t.zone with
     | .utc => "time.UTC"
     | .local => "time.Local"
     | .fixed _ => "time.Location(\"\")") ++ ")"

end Stamp

end SlotAllocation.Yaml
