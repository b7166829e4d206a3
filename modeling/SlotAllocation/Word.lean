/-!
# Sixty-four-bit words

Counts, capacities and durations are signed 64-bit words, and arithmetic on them wraps
around: a result is the word equal to it modulo 2⁶⁴.
-/

namespace SlotAllocation

/-- `x` reduced to a signed 64-bit word (modulo 2⁶⁴ = 18446744073709551616), as two's-complement
arithmetic wraps it. -/
def wrap64 (x : Int) : Int := x.bmod 18446744073709551616

/-- The least signed 64-bit word, -2⁶³. -/
def minWord : Int := -9223372036854775808

/-- The greatest signed 64-bit word, 2⁶³ - 1. -/
def maxWord : Int := 9223372036854775807

/-- Whether `x` is a signed 64-bit word. -/
def isWord (x : Int) : Bool := minWord ≤ x && x ≤ maxWord

end SlotAllocation
