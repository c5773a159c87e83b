/-!
# Times

A UTC-aware `datetime` is an `Int`, the number of microseconds since the epoch.  The line of times
is not cut at the years 1 and 9999, and a difference of two times is exact, as `total_seconds` is
below 270 years.  The ranges and the rounded `total_seconds` are in `DatetimeArithmetic`.
-/

namespace Lakehouse

/-- `timedelta(seconds=count)` in microseconds. -/
def seconds (count : Int) : Int := count * 1000000

/-- `timedelta(minutes=count)` in microseconds. -/
def minutes (count : Int) : Int := count * 60000000

/-- `timedelta(hours=count)` in microseconds. -/
def hours (count : Int) : Int := count * 3600000000

end Lakehouse
