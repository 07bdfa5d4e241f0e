import Ilogtail.Go.Bytes

/-!
# The calls into Go's `time` package

`parseTimestamp` calls `time.ParseInLocation`, and `fixTimestampIfNeeded` calls
`time.Now` and `time.Date`. They belong to the standard library rather than to this
repository, so the parser takes them as a `TimeLib` and every theorem about the
parser holds for all of them.
-/

namespace Ilogtail.Go

/-- A `*time.Location`, known by its name. -/
structure Location where
  name : Bytes
deriving DecidableEq, Repr

/-- `time.UTC`. -/
def Location.utc : Location := ⟨bytesOf "UTC"⟩

/-- A `time.Time` by the civil fields its accessors return. The defaults are the
zero `time.Time{}`: January 1 of year 1, 00:00:00 UTC. -/
structure Time where
  year : Int := 1
  month : Nat := 1
  day : Nat := 1
  hour : Nat := 0
  minute : Nat := 0
  second : Nat := 0
  nanosecond : Nat := 0
  location : Location := Location.utc
deriving DecidableEq, Repr

/-- The functions of the `time` package the parser calls. -/
structure TimeLib where
  /-- `time.ParseInLocation(layout, value, loc)`: the time, or `none` where the call
  returns a non-nil error (together with the zero `time.Time{}`). -/
  parseInLocation : Bytes → Bytes → Location → Option Time
  /-- `time.Now()`. -/
  now : Time
  /-- `time.Date(year, month, day, hour, min, sec, nsec, loc)`. -/
  date : Int → Nat → Nat → Nat → Nat → Nat → Nat → Location → Time

end Ilogtail.Go
