import SlotAllocation.Decimal.Shortest

/-!
# Decimal texts of doubles

Two layouts of the shortest digits of a double (`Float.shortest`):

* `Float.positionalText` writes every digit in place, with no exponent;
* `Float.generalText` does the same while the decimal exponent lies in `[-4, 6)`, and
  otherwise writes `d.ddde±xx`, with at least two exponent digits.

Both write `NaN`, `+Inf` and `-Inf` for the special values and keep the sign of zero.

`Float.fixedText x places` writes `x` with exactly `places` digits after the point, rounding
the exact binary value to nearest with ties to even.
-/

namespace SlotAllocation

/-- The digits of `n` with a decimal point inserted `pointAt` digits from the left
(`pointAt` may lie outside the digits: zeros are added). -/
def placePoint (digits : String) (pointAt : Int) : String :=
  let len : Int := digits.length
  if pointAt ≤ 0 then
    "0." ++ String.ofList (List.replicate (-pointAt).toNat '0') ++ digits
  else if pointAt ≥ len then
    digits ++ String.ofList (List.replicate (pointAt - len).toNat '0')
  else
    String.ofList (digits.toList.take pointAt.toNat) ++ "." ++
      String.ofList (digits.toList.drop pointAt.toNat)

/-- The text of a double that is not finite, or none. -/
def Float.specialText? (x : Float) : Option String :=
  if x.isNaN then some "NaN"
  else if x.isInf then some (if x > 0 then "+Inf" else "-Inf")
  else none

/-- Whether a double carries a minus sign (negative zero included). -/
def Float.signBit (x : Float) : Bool := x.toBits.toNat ≥ Nat.pow 2 63

/-- The shortest digits of a finite double, written in place. -/
def Float.positionalText (x : Float) : String :=
  match Float.specialText? x with
  | some t => t
  | none =>
    let sign := if Float.signBit x then "-" else ""
    if x == 0 then sign ++ "0"
    else
      let ax := if x < 0 then -x else x
      let (n, e) := Float.shortest ax
      let digits := toString n
      sign ++ placePoint digits (e + digits.length)

/-- The shortest digits of a double, in place for decimal exponents from -4 to 5 and as
`d.ddde±xx` otherwise. -/
def Float.generalText (x : Float) : String :=
  match Float.specialText? x with
  | some t => t
  | none =>
    let sign := if Float.signBit x then "-" else ""
    if x == 0 then sign ++ "0"
    else
      let ax := if x < 0 then -x else x
      let (n, e) := Float.shortest ax
      let digits := toString n
      let lead : Int := e + digits.length - 1
      if lead < -4 || lead ≥ 6 then
        let mant := if digits.length = 1 then digits
          else String.ofList (digits.toList.take 1) ++ "." ++ String.ofList (digits.toList.drop 1)
        let expDigits := toString lead.natAbs
        let expDigits := if expDigits.length < 2 then "0" ++ expDigits else expDigits
        sign ++ mant ++ "e" ++ (if lead < 0 then "-" else "+") ++ expDigits
      else sign ++ placePoint digits (e + digits.length)

/-- `num / den` rounded to the nearest whole number, ties to the even one. -/
def roundHalfEven (num den : Nat) : Nat :=
  let q := num / den
  let r := num % den
  if 2 * r > den then q + 1
  else if 2 * r < den then q
  else if q % 2 = 0 then q else q + 1

/-- A double with `places` digits after the decimal point, its exact value rounded to
nearest with ties to even. -/
def Float.fixedText (x : Float) (places : Nat) : String :=
  match Float.specialText? x with
  | some t => t
  | none =>
    let sign := if Float.signBit x then "-" else ""
    let (m, q, _) := Float.binary x
    let scaled := m * Nat.pow 10 places
    let n := if 0 ≤ q then scaled * Nat.pow 2 q.toNat else roundHalfEven scaled (Nat.pow 2 (-q).toNat)
    let digits := toString n
    let digits := String.ofList (List.replicate (places + 1 - digits.length) '0') ++ digits
    if places = 0 then sign ++ digits
    else sign ++ placePoint digits (digits.length - places)

end SlotAllocation
