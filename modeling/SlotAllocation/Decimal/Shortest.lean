/-!
# Shortest decimal digits of a double

`Float.shortest x` gives, for a finite positive double `x`, digits `n` and an exponent `d`
with `n * 10 ^ d` the decimal with the fewest significant digits that reads back as `x`
(rounding to nearest, ties to even). Among the decimals with that many digits it is the one
nearest to `x`; an exact tie goes to the even candidate.

The search is exact. `x` is `m * 2 ^ q`; the reals that round to `x` form an interval around
it whose ends are the midpoints to the neighbouring doubles, both ends included when `m` is
even. For each grid `10 ^ d`, from coarse to fine, only the two grid points next to `x` can
lie in that interval (any grid point inside lies between them), so it suffices to test
those two. Seventeen significant digits always reach a grid point inside.
-/

namespace SlotAllocation

/-- A non-negative rational `num / den` with `0 < den`. -/
private structure Frac where
  num : Nat
  den : Nat

private def Frac.lt (a b : Frac) : Bool := a.num * b.den < b.num * a.den

private def Frac.le (a b : Frac) : Bool := a.num * b.den ≤ b.num * a.den

private def Frac.sub (a b : Frac) : Frac := ⟨a.num * b.den - b.num * a.den, a.den * b.den⟩

/-- `2 ^ e` for an integer exponent. -/
private def pow2 (e : Int) : Frac :=
  if 0 ≤ e then ⟨Nat.pow 2 e.toNat, 1⟩ else ⟨1, Nat.pow 2 (-e).toNat⟩

/-- `c * 10 ^ e` for an integer exponent. -/
private def scaled10 (c : Nat) (e : Int) : Frac :=
  if 0 ≤ e then ⟨c * Nat.pow 10 e.toNat, 1⟩ else ⟨c, Nat.pow 10 (-e).toNat⟩

/-- The number of decimal digits of `n` (1 for 0). -/
def decimalLength (n : Nat) : Nat := (toString n).length

/-- Drops trailing zero digits of `n`, raising the exponent to match. -/
def trimZeros (n : Nat) (e : Int) (fuel : Nat := 400) : Nat × Int :=
  match fuel with
  | 0 => (n, e)
  | fuel + 1 => if n ≠ 0 ∧ n % 10 = 0 then trimZeros (n / 10) (e + 1) fuel else (n, e)

/-- Mantissa and binary exponent of a finite double `x = m * 2 ^ q`, with whether the gap
below `x` is half the gap above (the case of an exact power of two above the subnormals). -/
def Float.binary (x : Float) : Nat × Int × Bool :=
  let bits : Nat := x.toBits.toNat
  let frac : Nat := bits % Nat.pow 2 52
  let be : Nat := (bits / Nat.pow 2 52) % Nat.pow 2 11
  if be = 0 then (frac, -1074, false)
  else (frac + Nat.pow 2 52, (be : Int) - 1075, decide (frac = 0 ∧ be > 1))

/-- The decimal of fewest significant digits that reads back as the finite positive `x`, as
digits and exponent, trailing zeros removed. -/
def Float.shortest (x : Float) : Nat × Int :=
  let (m, q, narrow) := Float.binary x
  let v : Frac := ⟨m * (pow2 q).num, (pow2 q).den⟩
  -- interval ends, scaled by 4 to keep them whole
  let lo : Frac :=
    if narrow then ⟨(4 * m - 1) * (pow2 q).num, 4 * (pow2 q).den⟩
    else ⟨(2 * m - 1) * (pow2 q).num, 2 * (pow2 q).den⟩
  let hi : Frac := ⟨(2 * m + 1) * (pow2 q).num, 2 * (pow2 q).den⟩
  let inside (c : Frac) : Bool :=
    if m % 2 = 0 then lo.le c && c.le hi else lo.lt c && c.lt hi
  -- the exponent of the leading digit of x
  let lead : Int :=
    let whole := v.num / v.den
    if whole > 0 then (decimalLength whole : Int) - 1
    else
      -- x < 1: count the zeros after the point
      let rec zeros (k : Nat) (fuel : Nat) : Int :=
        match fuel with
        | 0 => -(k : Int) - 1
        | fuel + 1 => if (v.num * Nat.pow 10 (k + 1)) / v.den > 0 then -(k : Int) - 1 else zeros (k + 1) fuel
      zeros 0 400
  let rec search (k : Nat) (fuel : Nat) : Nat × Int :=
    match fuel with
    | 0 => (m, q)
    | fuel + 1 =>
      let d : Int := lead - k
      let step := scaled10 1 d
      let f := (v.num * step.den) / (v.den * step.num)
      let down := scaled10 f d
      let up := scaled10 (f + 1) d
      let okDown := inside down
      let okUp := inside up
      if okDown && okUp then
        let dd := v.sub down
        let du := up.sub v
        if dd.lt du then trimZeros f d
        else if du.lt dd then trimZeros (f + 1) d
        else if f % 2 = 0 then trimZeros f d else trimZeros (f + 1) d
      else if okDown then trimZeros f d
      else if okUp then trimZeros (f + 1) d
      else search (k + 1) fuel
  search 0 20

end SlotAllocation
