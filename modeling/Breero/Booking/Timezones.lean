import Breero.Lib.Transaction
import Breero.Common.Raised
import Mathlib.Data.List.Dedup

/-!
Wall-clock times, the instants they stand for, and the hours in which a visit may
take place.
-/

namespace Breero.Bookings
open Transaction

/-- A naive `datetime`: microseconds on the wall clock since 1970-01-01 00:00. -/
abbrev LocalTime := Int

/-- `timedelta(minutes=n)`. -/
def ofMinutes (n : Int) : Int := n * 60000000

def dayLength : Int := 86400000000

/-- `t.date()`, in days since 1970-01-01. -/
def dateOf (t : LocalTime) : Int := t / dayLength

/-- `t.time()`. -/
def timeOf (t : LocalTime) : Int := t % dayLength

/-- `t.weekday()`: Monday is 0, and 1970-01-01 was a Thursday. -/
def weekdayOf (t : LocalTime) : Int := (dateOf t + 3) % 7

/-- A `ZoneInfo`. -/
structure Zone where
  /-- the offset at an instant -/
  offsetAt : Instant → Int
  /-- the `fold` of the wall-clock time at an instant -/
  foldAt : Instant → Bool
  /-- `utcoffset()` of a wall-clock time with its `fold` -/
  utcoffset : LocalTime → Bool → Int

namespace Zone

/-- `.astimezone(zone)` -/
def toLocal (zone : Zone) (instant : Instant) : LocalTime := instant + zone.offsetAt instant

/-- `.replace(tzinfo=zone, fold=fold).astimezone(UTC)` -/
def toUtc (zone : Zone) (value : LocalTime) (fold : Bool) : Instant :=
  value - zone.utcoffset value fold

/-- A zone without transitions. -/
def fixed (offset : Int) : Zone := ⟨fun _ => offset, fun _ => false, fun _ _ => offset⟩

end Zone

abbrev Zones := String → Option Zone

def timezone (zones : Zones) (timezoneId : String) : Except Raised Zone :=
  orRaise (zones timezoneId)
    (.domainError "TIMEZONE_UNRESOLVED" "Service address timezone is invalid" 422)

/-- The folds with which the value is the wall-clock time of an instant. -/
def folds (zone : Zone) (value : LocalTime) : List Bool :=
  [false, true].filter fun fold =>
    zone.toLocal (zone.toUtc value fold) = value ∧ zone.foldAt (zone.toUtc value fold) = fold

/-- `local_to_utc`: resolve a naive wall-clock value without guessing across a DST
fold or gap. -/
def localToUtc (zones : Zones) (value : LocalTime) (timezoneId : String) (fold : Option Bool) :
    Except Raised Instant := do
  let zone ← timezone zones timezoneId
  let candidates := folds zone value
  let first ← orRaise candidates.head?
    (.domainError "NONEXISTENT_LOCAL_TIME" "Selected local time does not exist" 422)
  require (¬ (1 < (candidates.map (zone.utcoffset value)).dedup.length ∧ fold = none))
    (.domainError "AMBIGUOUS_LOCAL_TIME" "Selected local time occurs twice; choose an offset" 422)
  require (fold.getD first ∈ candidates)
    (.domainError "INVALID_LOCAL_TIME" "Selected local-time fold is invalid" 422)
  return zone.toUtc value (fold.getD first)

structure LocalizedInterval where
  startUtc : Instant
  endUtc : Instant
  timezoneId : String
  deriving DecidableEq, Repr

def localInterval (zones : Zones) (startLocal endLocal : LocalTime) (timezoneId : String)
    (startFold endFold : Option Bool) : Except Raised LocalizedInterval := do
  let startUtc ← localToUtc zones startLocal timezoneId startFold
  let endUtc ← localToUtc zones endLocal timezoneId endFold
  require (startUtc < endUtc)
    (.domainError "INVALID_TIME_RANGE" "Appointment end must follow its start" 422)
  return { startUtc, endUtc, timezoneId }

/-- `OPEN_LOCAL` -/
def openLocal : Int := ofMinutes (7 * 60)

/-- `CLOSE_LOCAL` -/
def closeLocal : Int := ofMinutes (19 * 60)

def enforceBreeroHours (startLocal endLocal : LocalTime) (serviceEmergencyEligible : Bool)
    (providerSundayEmergencyEnabled : Bool) (openAt closeAt : Int) (emergencyOnly : Option Bool) :
    Except Raised Unit := do
  require (dateOf startLocal = dateOf endLocal ∧ openAt ≤ timeOf startLocal ∧
      timeOf endLocal ≤ closeAt)
    (.domainError "OUTSIDE_OPERATING_HOURS"
      "The requested time is outside BREERO operating hours" 422)
  require (emergencyOnly.getD (weekdayOf startLocal = 6) = true →
      serviceEmergencyEligible ∧ providerSundayEmergencyEnabled)
    (.domainError "SUNDAY_EMERGENCY_ONLY"
      "Sunday scheduling is limited to eligible emergency service" 422)

/-! ## The day of a window -/

/-- A local day: its date, and the instants of its first and its last microsecond. -/
structure Day where
  date : Int
  start : Instant
  stop : Instant
  deriving DecidableEq, Repr

/-- The local day of an instant, as `_usage` bounds it. -/
def dayOf (zone : Zone) (instant : Instant) : Day :=
  let date := dateOf (zone.toLocal instant)
  { date
    start := zone.toUtc (date * dayLength) false
    stop := zone.toUtc (date * dayLength + (dayLength - 1)) false }

/-- `start < day_end and end > day_start`. -/
def Day.touches (day : Day) (start stop : Instant) : Prop := start < day.stop ∧ day.start < stop

instance (day : Day) (start stop : Instant) : Decidable (day.touches start stop) :=
  inferInstanceAs (Decidable (_ ∧ _))

end Breero.Bookings
