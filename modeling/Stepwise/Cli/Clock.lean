import Stepwise.Value.Basic

namespace Stepwise.Cli

/-- The time, in milliseconds since the start of 1970 and by the calendar. -/
structure Clock where
  now : Int
  moment : Moment
deriving DecidableEq

namespace Clock

/-- The days from the first of March of year 0 to the start of 1970. -/
def daysBeforeEpoch : Int := 719468

/-- The year, month and day so many days after the first of March of year 0. A year starts in March
    here, so that the day a leap year adds is its last. -/
private def dateOf (days : Nat) : Nat × Nat × Nat :=
  let century := days / 146097
  let rest := days % 146097
  let year := (rest - rest / 1460 + rest / 36524 - rest / 146096) / 365
  let day := rest - (365 * year + year / 4 - year / 100)
  let month := (5 * day + 2) / 153
  let shown := if month < 10 then month + 3 else month - 9
  (400 * century + year + (if shown ≤ 2 then 1 else 0), shown, day - (153 * month + 2) / 5 + 1)

/-- The clock so many milliseconds after the start of 1970, in universal time. -/
def ofMilliseconds (now : Int) : Clock :=
  let seconds := (now / 1000).toNat
  let (year, month, day) := dateOf ((daysBeforeEpoch + seconds / 86400).toNat)
  let time : TimeOfDay :=
    ⟨seconds / 3600 % 24, seconds / 60 % 60, seconds % 60, (now % 1000).toNat * 1000, none⟩
  ⟨now, ⟨year, month, day, some time⟩⟩

/-- The calendar agrees with the count at a known moment. -/
example : (ofMilliseconds 1700000000000).moment = ⟨2023, 11, 14, some ⟨22, 13, 20, 0, none⟩⟩ := by
  decide

example : (ofMilliseconds 951782400000).moment = ⟨2000, 2, 29, some ⟨0, 0, 0, 0, none⟩⟩ := by
  decide

end Clock

end Stepwise.Cli
