import PageMarkup.Decimal

/-!
# Elapsed time

A span of time is shown in milliseconds, or in seconds from one second on, with three decimal
places. The conversion to milliseconds is done in double precision.
-/

namespace PageMarkup

/-- A span of time. -/
structure Elapsed where
  /-- The whole seconds. -/
  seconds : Nat
  /-- The nanoseconds beyond the whole seconds. -/
  nanoseconds : Nat
deriving DecidableEq, Repr

namespace Elapsed

/-- The span in milliseconds. -/
def milliseconds (elapsed : Elapsed) : Float :=
  (Float.ofNat elapsed.seconds + Float.ofNat elapsed.nanoseconds / 1000000000.0) * 1000.0

/-- A number in double precision with three decimal places. -/
def thousandths (number : Float) : String := Decimal.fixed 3 (.ofBits number.toBits)

/-- The span in writing. -/
def render (elapsed : Elapsed) : String :=
  let milliseconds := elapsed.milliseconds
  if milliseconds < 1000.0 then thousandths milliseconds ++ "ms"
  else thousandths (milliseconds / 1000.0) ++ "s"

end Elapsed

end PageMarkup
