/-!
# Spans of time

A span is a number of seconds below 2⁶⁴ and a number of nanoseconds below one
second.
-/

namespace Framelink

/-- A span of time. -/
structure Duration where
  seconds : UInt64
  nanoseconds : Fin 1000000000
  deriving DecidableEq, Repr

namespace Duration

/-- No time at all. -/
def zero : Duration := ⟨0, 0⟩

/-- A number of whole seconds. -/
def ofSeconds (seconds : UInt64) : Duration := ⟨seconds, 0⟩

/-- Numbers of seconds and of nanoseconds, counted round where they are too great. -/
def wrapping (seconds nanoseconds : Nat) : Duration :=
  ⟨UInt64.ofNat seconds, Fin.ofNat _ nanoseconds⟩

/-- A number of milliseconds. -/
def ofMilliseconds (milliseconds : Nat) : Duration :=
  wrapping (milliseconds / 1000) (milliseconds % 1000 * 1000000)

/-- Whether the span is no time at all. -/
def isZero (duration : Duration) : Bool := duration == zero

/-- The span as a number of nanoseconds. -/
def inNanoseconds (duration : Duration) : Nat :=
  duration.seconds.toNat * 1000000000 + duration.nanoseconds.val

/-- The longer of two spans. -/
def longer (first second : Duration) : Duration :=
  if first.inNanoseconds ≤ second.inNanoseconds then second else first

/-- The digits of `value` out of `10 ^ width`, without the zeros at the end. -/
def fractionDigits (width value : Nat) : List Char :=
  let digits := Nat.toDigits 10 value
  let padded := List.replicate (width - digits.length) '0' ++ digits
  (padded.reverse.dropWhile (· == '0')).reverse

/-- A whole number and a fraction of `10 ^ width`, with the point only where
the fraction is not zero. -/
def decimal (whole width fraction : Nat) : String :=
  match fractionDigits width fraction with
  | [] => toString whole
  | digits => toString whole ++ "." ++ String.ofList digits

/-- A span in the largest unit of which it holds at least one: seconds,
milliseconds, microseconds, else nanoseconds. -/
def text (duration : Duration) : String :=
  let nanoseconds := duration.nanoseconds.val
  if duration.seconds ≠ 0 then
    decimal duration.seconds.toNat 9 nanoseconds ++ "s"
  else if 1000000 ≤ nanoseconds then
    decimal (nanoseconds / 1000000) 6 (nanoseconds % 1000000) ++ "ms"
  else if 1000 ≤ nanoseconds then
    decimal (nanoseconds / 1000) 3 (nanoseconds % 1000) ++ "µs"
  else
    decimal nanoseconds 0 0 ++ "ns"

end Duration
end Framelink
