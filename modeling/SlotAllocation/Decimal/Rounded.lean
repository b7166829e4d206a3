import SlotAllocation.Decimal.Format

/-!
# Rationals rounded to a binary precision

`roundedText neg num den` writes the rational `num / den` (negative when `neg`) the way a
binary floating-point number of arbitrary precision prints it in its general form:

1. the precision is 64 bits, or the bit length of the reduced numerator or denominator
   when larger, so whole numbers and short decimals stay exact;
2. the value is rounded to that many significant bits, ties to even;
3. its digits are the fewest that identify it: the exact decimal digits of the rounded
   value are walked from the first, next to those of the two midpoints to its neighbours
   (the midpoints themselves count when the rounded mantissa is even), and cut, rounded
   down or rounded up at the first place where that stays between them. The digits of the
   midpoints are compared place by place from their own first digits;
4. the digits are written in place while the decimal exponent lies in `[-4, 6)`, and as
   `d.ddde±xx` otherwise, with at least two exponent digits. Zero is `0`.
-/

namespace SlotAllocation

/-- The number of binary digits of `n` (0 for 0). -/
def bitLength (n : Nat) : Nat := if n = 0 then 0 else Nat.log2 n + 1

/-- Significant decimal digits of a positive value and its exponent: the value is
`0.d₁d₂… × 10 ^ exp`, trailing zeros removed. -/
structure Digits where
  mant : List Char
  exp : Int

/-- Drops trailing zeros. -/
def trimTrailingZeros (ds : List Char) : List Char := (ds.reverse.dropWhile (· == '0')).reverse

/-- The exact digits of `m * 2 ^ q`. -/
def Digits.ofBinary (m : Nat) (q : Int) : Digits :=
  if 0 ≤ q then
    let ds := (toString (m * Nat.pow 2 q.toNat)).toList
    ⟨trimTrailingZeros ds, ds.length⟩
  else
    let k := (-q).toNat
    let ds := (toString (m * Nat.pow 5 k)).toList
    ⟨trimTrailingZeros ds, (ds.length : Int) - k⟩

/-- The digit at place `i`, or `0` past the end. -/
def Digits.at (d : Digits) (i : Nat) : Char := d.mant.getD i '0'

/-- The digits cut to `n` places, trailing zeros removed. -/
def Digits.roundDown (d : Digits) (n : Nat) : Digits := ⟨trimTrailingZeros (d.mant.take n), d.exp⟩

/-- The digits cut to `n` places and raised by one unit in the last place kept. -/
def Digits.roundUp (d : Digits) (n : Nat) : Digits :=
  if n ≥ d.mant.length then d
  else
    let kept := (d.mant.take n).reverse.dropWhile (· == '9')
    match kept with
    | [] => ⟨['1'], d.exp + 1⟩
    | c :: rest => ⟨(Char.ofNat (c.toNat + 1) :: rest).reverse, d.exp⟩

/-- The digits rounded to `n` places, to nearest with an exact half going to the even
digit. -/
def Digits.round (d : Digits) (n : Nat) : Digits :=
  if n ≥ d.mant.length then d
  else
    let c := d.at n
    let up := if c == '5' && n + 1 == d.mant.length then
        n > 0 && (d.at (n - 1)).toNat % 2 == 1
      else c ≥ '5'
    if up then d.roundUp n else d.roundDown n

/-- The shortest digits of `x` between `lower` and `upper`, found by the walk described in
the module comment. -/
def Digits.shortest (x lower upper : Digits) (inclusive : Bool) : Digits :=
  go x.mant.length 0
where
  /-- Tries place `i` and the places after it. -/
  go : Nat → Nat → Digits
    | 0, _ => x
    | fuel + 1, i =>
      let l := lower.at i
      let u := upper.at i
      let m := x.at i
      let okDown := l != m || (inclusive && i + 1 == lower.mant.length)
      let okUp := m != u && (inclusive || m.toNat + 1 < u.toNat || i + 1 < upper.mant.length)
      if okDown && okUp then x.round (i + 1)
      else if okDown then x.roundDown (i + 1)
      else if okUp then x.roundUp (i + 1)
      else go fuel (i + 1)

/-- The general form of digits: in place for exponents in `[-4, 6)`, else with an
exponent. -/
def Digits.generalText (d : Digits) : String :=
  match d.mant with
  | [] => "0"
  | first :: rest =>
    let e := d.exp - 1
    if e < -4 || e ≥ 6 then
      let frac := if rest.isEmpty then "" else "." ++ String.ofList rest
      let expDigits := toString e.natAbs
      let expDigits := if expDigits.length < 2 then "0" ++ expDigits else expDigits
      String.singleton first ++ frac ++ "e" ++ (if e < 0 then "-" else "+") ++ expDigits
    else
      let whole := if d.exp > 0 then
          String.ofList ((List.range d.exp.toNat).map fun i => d.at i)
        else "0"
      let places := (d.mant.length - d.exp).toNat
      let frac := if places = 0 then ""
        else "." ++ String.ofList ((List.range places).map fun (i : Nat) =>
          let place : Int := d.exp + (i : Int)
          if place < 0 then '0' else d.at place.toNat)
      whole ++ frac

/-- The text of `num / den` (negative when `neg`) rounded to its binary precision. -/
def roundedText (neg : Bool) (num den : Nat) : String :=
  if num = 0 || den = 0 then "0"
  else
    let g := Nat.gcd num den
    let n := num / g
    let d := den / g
    let a := bitLength n
    let b := bitLength d
    let p := max 64 (max a b)
    -- `2 ^ (e - 1) ≤ n / d < 2 ^ e`
    let e : Int := if n * Nat.pow 2 b ≥ d * Nat.pow 2 a then (a : Int) - b + 1 else (a : Int) - b
    let shift : Int := p - e
    let m := if 0 ≤ shift then roundHalfEven (n * Nat.pow 2 shift.toNat) d
      else roundHalfEven n (d * Nat.pow 2 (-shift).toNat)
    let (m, e) := if m = Nat.pow 2 p then (Nat.pow 2 (p - 1), e + 1) else (m, e)
    let q : Int := e - p - 1
    let x := Digits.ofBinary (2 * m) q
    let lower := Digits.ofBinary (2 * m - 1) q
    let upper := Digits.ofBinary (2 * m + 1) q
    (if neg then "-" else "") ++ (x.shortest lower upper (m % 2 == 0)).generalText

end SlotAllocation
