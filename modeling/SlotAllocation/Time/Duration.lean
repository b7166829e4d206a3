/-!
# Durations and their text

A duration is a signed count of nanoseconds. Its text names hours, minutes and seconds
(`1h1m1.5s`, `1m30s`, `59.999999999s`); under one second it uses the largest of
milliseconds, microseconds (`µs`) and nanoseconds that fits (`1.5ms`, `1µs`, `999ns`). A
fraction keeps only its significant digits, and zero is `0s`.
-/

namespace SlotAllocation

/-- The fraction `v / Nat.pow 10 prec` as `.digits` without trailing zeros, and the whole part.
Nothing is written for a zero fraction. -/
def fracText (v : Nat) (prec : Nat) : String × Nat :=
  let whole := v / Nat.pow 10 prec
  let frac := v % Nat.pow 10 prec
  if frac = 0 then ("", whole)
  else
    let digits := toString frac
    let padded := String.ofList (List.replicate (prec - digits.length) '0') ++ digits
    ("." ++ String.ofList (padded.toList.reverse.dropWhile (· == '0')).reverse, whole)

/-- The text of a duration of `d` nanoseconds. -/
def durationText (d : Int) : String :=
  let u := d.natAbs
  let sign := if d < 0 then "-" else ""
  if u = 0 then "0s"
  else if u < 1000000000 then
    let (unit, prec) :=
      if u < 1000 then ("ns", 0)
      else if u < 1000000 then ("µs", 3)
      else ("ms", 6)
    let (frac, whole) := fracText u prec
    sign ++ toString whole ++ frac ++ unit
  else
    let (frac, secs) := fracText u 9
    let s := toString (secs % 60) ++ frac ++ "s"
    let mins := secs / 60
    if mins = 0 then sign ++ s
    else
      let m := toString (mins % 60) ++ "m" ++ s
      let hours := mins / 60
      if hours = 0 then sign ++ m else sign ++ toString hours ++ "h" ++ m

end SlotAllocation
