-- How long a query took, as text with two places: milliseconds, or seconds from
-- a thousand milliseconds on. The places are those of the exact binary value.
import CommitQuery.Time.Timestamp

namespace CommitQuery.Duration

/-! ## Two places -/

/-- A quotient to the nearest whole number; a half goes to the even one. -/
def roundQuotient (n d : Nat) : Nat :=
  let whole := n / d
  let rest := n % d
  if 2 * rest < d then whole
  else if d < 2 * rest then whole + 1
  else if whole % 2 = 0 then whole
  else whole + 1

/-- The hundredths in `mantissa * 2 ^ shift / 2 ^ 1074`. -/
def hundredths (mantissa shift : Nat) : Nat :=
  roundQuotient (100 * mantissa * Nat.pow 2 shift) (Nat.pow 2 1074)

/-- A number of hundredths with its point. -/
def hundredthsText (n : Nat) : List Char :=
  (toString (n / 100)).toList ++ '.' :: Timestamp.padded 2 (n % 100)

/-- How many fractions the bits of a double can hold. -/
def fractionSize : Nat := Nat.pow 2 52

/-- A double with two places after the point. Its sign stays, even at zero. -/
def twoPlaces (x : Float) : String :=
  let bits := x.toBits.toNat
  let negative := UInt64.size / 2 ≤ bits
  let exponent := bits / fractionSize % 2048
  let fraction := bits % fractionSize
  if exponent = 2047 then
    if fraction ≠ 0 then "NaN" else if negative then "-inf" else "inf"
  else
    let n :=
      if exponent = 0 then hundredths fraction 0
      else hundredths (fractionSize + fraction) (exponent - 1)
    String.ofList ((if negative then ['-'] else []) ++ hundredthsText n)

/-! ## Durations -/

/-- A number of milliseconds. -/
def ofMilliseconds (ms : Float) : String :=
  if ms ≥ 1000 then twoPlaces (ms / 1000) ++ "s" else twoPlaces ms ++ "ms"

/-- A number of nanoseconds, of which the seconds and the rest are doubles first. -/
def ofNanoseconds (n : Nat) : String :=
  let seconds := Float.ofNat (n / 1000000000) + Float.ofNat (n % 1000000000) / 1e9
  ofMilliseconds (seconds * 1000)

/-- The whole milliseconds in a number of nanoseconds. -/
def wholeMilliseconds (n : Nat) : UInt64 := UInt64.ofNat (n / 1000000)

end CommitQuery.Duration
