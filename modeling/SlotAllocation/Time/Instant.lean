/-!
# Instants and their RFC 3339 text

An `Instant` is a count of seconds since 1970-01-01T00:00:00Z with a nanosecond part. It is
written in UTC as `YYYY-MM-DDTHH:MM:SS[.fraction]Z`, the fraction without trailing zeros
and left out when zero.

`Instant.parse` reads `YYYY-MM-DDTHH:MM:SS[.digits]` followed by `Z` or `±hh:mm`. The hour
may have one digit; the year has exactly four digits. A part that cannot be read is reported with
the text from that point on and the layout element it was read as; a part out of range is
reported by name; text after the zone is reported as extra.
-/

namespace SlotAllocation

/-- A point in time: seconds since the Unix epoch and nanoseconds within the second. -/
structure Instant where
  seconds : Int
  nanos : Nat
deriving DecidableEq, Repr, Inhabited

namespace Instant

/-- Days since 1970-01-01 of a civil date (proleptic Gregorian). Years are counted in
400-year eras from March 1 of year 0; the era is found by floor division. -/
def daysFromCivil (y : Int) (m d : Nat) : Int :=
  let y := if m ≤ 2 then y - 1 else y
  let era := y.fdiv 400
  let yoe := y - era * 400
  let mp : Int := (m + 9) % 12
  let doy := (153 * mp + 2) / 5 + d - 1
  let doe := yoe * 365 + yoe / 4 - yoe / 100 + doy
  era * 146097 + doe - 719468

/-- The civil date of a day count since 1970-01-01. -/
def civilFromDays (z : Int) : Int × Nat × Nat :=
  let z := z + 719468
  let era := z.fdiv 146097
  let doe := z - era * 146097
  let yoe := (doe - doe / 1460 + doe / 36524 - doe / 146096) / 365
  let y := yoe + era * 400
  let doy := doe - (365 * yoe + yoe / 4 - yoe / 100)
  let mp := (5 * doy + 2) / 153
  let d := doy - (153 * mp + 2) / 5 + 1
  let m := if mp < 10 then mp + 3 else mp - 9
  ((if m ≤ 2 then y + 1 else y), m.toNat, d.toNat)

/-- Whether `y` is a leap year. -/
def isLeap (y : Int) : Bool := y % 4 == 0 && (y % 100 != 0 || y % 400 == 0)

/-- The days of month `m` in year `y`. -/
def daysIn (m : Nat) (y : Int) : Nat :=
  match m with
  | 2 => if isLeap y then 29 else 28
  | 4 | 6 | 9 | 11 => 30
  | _ => 31

private def pad (width : Nat) (n : Nat) : String :=
  let s := toString n
  String.ofList (List.replicate (width - s.length) '0') ++ s

/-- The instant in RFC 3339 form, in UTC, with the shortest fraction. -/
def rfc3339 (t : Instant) : String :=
  let days := t.seconds.fdiv 86400
  let secs := (t.seconds - days * 86400).toNat
  let (y, m, d) := civilFromDays days
  let yearText := if y < 0 then "-" ++ pad 4 y.natAbs else pad 4 y.toNat
  let frac :=
    if t.nanos = 0 then ""
    else
      let digits := pad 9 t.nanos
      "." ++ String.ofList (digits.toList.reverse.dropWhile (· == '0')).reverse
  yearText ++ "-" ++ pad 2 m ++ "-" ++ pad 2 d ++ "T" ++ pad 2 (secs / 3600) ++ ":" ++
    pad 2 (secs % 3600 / 60) ++ ":" ++ pad 2 (secs % 60) ++ frac ++ "Z"

/-- The civil year of the instant in UTC. -/
def year (t : Instant) : Int := (civilFromDays (t.seconds.fdiv 86400)).1

/-- Why the instant cannot be written as a JSON time, if it cannot: the written form has a
year of exactly four digits, so only years 0 to 9999 can be written. -/
def jsonProblem? (t : Instant) : Option String :=
  if 0 ≤ t.year && t.year ≤ 9999 then none
  else some "json: error calling MarshalJSON for type time.Time: Time.MarshalJSON: year outside of range [0,9999]"

/-- The instant of a civil time in UTC. -/
def ofCivil (y : Int) (m d hh mm ss : Nat) (nanos : Nat) : Instant :=
  ⟨daysFromCivil y m d * 86400 + hh * 3600 + mm * 60 + ss, nanos⟩

/-- 2024-01-01T00:00:00Z. -/
def newYear2024 : Instant := ofCivil 2024 1 1 0 0 0 0

/-- The zero time, 0001-01-01T00:00:00Z. -/
def zero : Instant := ofCivil 1 1 1 0 0 0 0

/-- Whether this is the zero time. -/
def isZero (t : Instant) : Bool := t == zero

end Instant

/-- Why a time text cannot be read. -/
inductive TimeError where
  /-- The text from `rest` on cannot be read as layout element `element`. -/
  | cannotParse (rest : String) (element : String)
  /-- A part named `what` is out of range. -/
  | outOfRange (what : String)
  /-- Text `rest` follows the complete time. -/
  | extraText (rest : String)

/-- The layout that times are read with, as named in messages. -/
def timeLayoutName : String := "2006-01-02T15:04:05.999999999Z07:00"

/-- A string in double quotes, with `"` and `\` escaped and bytes outside printable ASCII
written `\xNN`. -/
def quoteTimeText (s : String) : String :=
  let hex (n : Nat) : String :=
    let d := Nat.toDigits 16 n
    String.ofList (List.replicate (2 - d.length) '0' ++ d)
  let enc (c : Char) : String :=
    if c.toNat ≥ 0x80 || c.toNat < 0x20 then
      String.join ((String.singleton c).toUTF8.toList.map fun b => "\\x" ++ hex b.toNat)
    else if c = '"' || c = '\\' then "\\" ++ c.toString
    else c.toString
  "\"" ++ String.join (s.toList.map enc) ++ "\""

/-- The text of a time error for the input `value`. -/
def TimeError.message (value : String) : TimeError → String
  | .cannotParse rest element =>
    "parsing time " ++ quoteTimeText value ++ " as " ++ quoteTimeText timeLayoutName ++
      ": cannot parse " ++ quoteTimeText rest ++ " as " ++ quoteTimeText element
  | .outOfRange what => "parsing time " ++ quoteTimeText value ++ ": " ++ what ++ " out of range"
  | .extraText rest => "parsing time " ++ quoteTimeText value ++ ": extra text: " ++ quoteTimeText rest

private def clockDigits (cs : List Char) : Nat :=
  cs.foldl (fun acc c => acc * 10 + (c.toNat - '0'.toNat)) 0

/-- Reads a number of one or two digits (exactly two when `fixed`). -/
private def readNum (fixed : Bool) : List Char → Option (Nat × List Char)
  | a :: b :: rest =>
    if !a.isDigit then none
    else if b.isDigit then some (clockDigits [a, b], rest)
    else if fixed then none
    else some (clockDigits [a], b :: rest)
  | [a] => if a.isDigit && !fixed then some (clockDigits [a], []) else none
  | [] => none

/-- Consumes the literal `lit`, or reports the text where it fails. -/
private def expectLit (lit : String) (cs : List Char) : Except TimeError (List Char) :=
  let rec go : List Char → List Char → Except TimeError (List Char)
    | [], rest => .ok rest
    | l :: ls, c :: rest => if l = c then go ls rest else .error (.cannotParse (String.ofList (c :: rest)) lit)
    | _ :: _, [] => .error (.cannotParse "" lit)
  go lit.toList cs

/-- Reads an RFC 3339 time, any offset, any number of fraction digits. -/
def Instant.parse (text : String) : Except TimeError Instant := do
  let cs := text.toList
  -- year: exactly four digits
  let (yearCs, rest) := (cs.take 4, cs.drop 4)
  let year : Int ← do
    if yearCs.length < 4 || !yearCs.all Char.isDigit then throw (.cannotParse text "2006")
    pure (clockDigits yearCs : Int)
  let rest ← expectLit "-" rest
  let (month, rest) ← match readNum true rest with
    | some r => pure r
    | none => throw (.cannotParse (String.ofList rest) "01")
  if month < 1 || month > 12 then throw (.outOfRange "month")
  let rest ← expectLit "-" rest
  let (day, rest) ← match readNum true rest with
    | some r => pure r
    | none => throw (.cannotParse (String.ofList rest) "02")
  let rest ← expectLit "T" rest
  let (hour, rest) ← match readNum false rest with
    | some r => pure r
    | none => throw (.cannotParse (String.ofList rest) "15")
  if hour > 23 then throw (.outOfRange "hour")
  let rest ← expectLit ":" rest
  let (minute, rest) ← match readNum true rest with
    | some r => pure r
    | none => throw (.cannotParse (String.ofList rest) "04")
  if minute > 59 then throw (.outOfRange "minute")
  let rest ← expectLit ":" rest
  let (second, rest) ← match readNum true rest with
    | some r => pure r
    | none => throw (.cannotParse (String.ofList rest) "05")
  if second > 59 then throw (.outOfRange "second")
  -- optional fraction: a point or comma followed by digits
  let (nanos, rest) := match rest with
    | p :: d :: more =>
      if (p = '.' || p = ',') && d.isDigit then
        let ds := (d :: more).takeWhile Char.isDigit
        let nine := (ds ++ List.replicate 9 '0').take 9
        (clockDigits nine, (d :: more).dropWhile Char.isDigit)
      else (0, rest)
    | _ => (0, rest)
  -- zone
  let (offset, rest) ← match rest with
    | 'Z' :: more => pure ((0 : Int), more)
    | s :: h1 :: h2 :: c :: m1 :: m2 :: more =>
      if c != ':' then throw (.cannotParse (String.ofList rest) "Z07:00")
      -- the minutes are read only after good hours; a range problem (the minutes' checked
      -- last, so reported first) outranks unreadable digits and a bad sign
      let hours := readNum true [h1, h2]
      let minutes := if hours.isSome then readNum true [m1, m2] else none
      let hh := (hours.map (·.1)).getD 0
      let mm := (minutes.map (·.1)).getD 0
      if mm > 60 then throw (.outOfRange "time zone offset minute")
      if hh > 24 then throw (.outOfRange "time zone offset hour")
      if hours.isNone || minutes.isNone then throw (.cannotParse (String.ofList rest) "Z07:00")
      let off : Int := (hh * 60 + mm) * 60
      if s = '+' then pure (off, more)
      else if s = '-' then pure (-off, more)
      else throw (.cannotParse (String.ofList rest) "Z07:00")
    | _ => throw (.cannotParse (String.ofList rest) "Z07:00")
  if !rest.isEmpty then throw (.extraText (String.ofList rest))
  if day < 1 || day > Instant.daysIn month year then throw (.outOfRange "day")
  let t := Instant.ofCivil year month day hour minute second nanos
  pure ⟨t.seconds - offset, t.nanos⟩

end SlotAllocation
