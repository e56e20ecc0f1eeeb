import Stencil.Calendar.Pattern
import Stencil.Expr.EvalError

/-!
# Writing timestamps

The date of a timestamp in a zone. Zones are given as browsers tell them, in minutes behind the
prime meridian.
-/

namespace Stencil.Calendar

/-- The pattern of dates unless another is asked for. -/
def defaultPattern : String := "%c"

/-- The seconds that a zone is ahead of the prime meridian. A zone is less than a day off. -/
def zoneOffset? (minutesBehind : Int) : Option Int :=
  if (minutesBehind * 60).natAbs < 86400 then some (-(minutesBehind * 60)) else none

/-- The first timestamp that has a date. -/
def firstTimestamp : Int := -8334601228800

/-- The last timestamp that has a date. -/
def lastTimestamp : Int := 8210266876799

/-- The date of a timestamp, written after a pattern. -/
def timestampText (seconds minutesBehind : Int) (pattern : String) : Except CallFault String :=
  match zoneOffset? minutesBehind with
  | none => .error (.badZone minutesBehind)
  | some offset =>
    if seconds < firstTimestamp ∨ lastTimestamp < seconds then .error (.timeOutOfRange seconds)
    else
      match (Moment.ofTimestamp seconds offset).format? pattern with
      | some text => .ok text
      | none => .error (.badPattern pattern)

end Stencil.Calendar
