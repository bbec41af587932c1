/-!
# Seconds

A time is measured in nanoseconds and shown in seconds with three decimals. In between it is a
number of seconds in double precision. The number of nanoseconds beyond whole seconds is divided
first, so the value shown is not always the decimal nearest to the time that was measured.
-/

namespace Sentential

namespace CommandLine

/-- The whole number nearest to a fraction; of two that are equally near, the even one. -/
def nearest (numerator denominator : Nat) : Nat :=
  let below := numerator / denominator
  let excess := 2 * (numerator % denominator)
  if excess < denominator ∨ excess = denominator ∧ below % 2 = 0 then below else below + 1

/-- The thousandths of a number in double precision that is not negative, rounded to a whole number.
The number is its significand times a power of two, over the 1074th power of two. -/
def thousandths (number : Float) : Nat :=
  let bits := number.toBits.toNat
  let exponent := (bits >>> 52) % (1 <<< 11)
  let fraction := bits % (1 <<< 52)
  let significand := if exponent = 0 then fraction else fraction + (1 <<< 52)
  nearest ((1000 * significand) <<< (exponent - 1)) (1 <<< 1074)

/-- Nanoseconds as seconds in double precision. -/
def inSeconds (nanoseconds : Nat) : Float :=
  Float.ofNat (nanoseconds / 1000000000) + Float.ofNat (nanoseconds % 1000000000) / 1e9

/-- Thousandths of a second as seconds with three decimals. -/
def seconds (milliseconds : Nat) : String :=
  let fraction := toString (milliseconds % 1000)
  toString (milliseconds / 1000) ++ "." ++ "".pushn '0' (3 - fraction.length) ++ fraction

end CommandLine

end Sentential
