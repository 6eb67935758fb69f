import PctlManager.Printf
import Mathlib.Data.Fintype.Pi
import Mathlib.Data.List.FinRange

/-!
# The stored play-timer settings

`PlayTimerSettings` of firmware 21.0.0 and later: 0x44 bytes, a four-byte header, one day
setting for the DAILY mode and seven for the EACH_DAY_OF_THE_WEEK mode. A flag byte counts as
set when it is not zero, and a day reads the slot that `week_used` selects for it.
-/

namespace PctlManager

/-- A weekday, Sunday first. -/
abbrev Day := Fin 7

/-- The first weekday. -/
def Day.sunday : Day := ⟨0, Nat.succ_pos 6⟩

/-- `PT_DAY_NOLIMIT` — the per-day value of a day without a configured limit. -/
def ptDayNoLimit : UInt16 := 0xFFFF

/-- `PT_MODE_ALARM` — notify only when time is up. -/
def ptModeAlarm : UInt8 := 0

/-- `PT_MODE_SUSPEND` — suspend the software when time is up. -/
def ptModeSuspend : UInt8 := 1

/-- `PtDaySetting` — the stored setting of one day. -/
structure PtDaySetting where
  /-- Bedtime alarm on for this day. -/
  bedtimeEnabled : UInt8
  /-- Hour of the alarm. -/
  bedtimeHour : UInt8
  /-- Minute of the alarm. -/
  bedtimeMinute : UInt8
  /-- Hour at which the restriction lifts. -/
  bedtimeResetHour : UInt8
  /-- Minute at which the restriction lifts. -/
  bedtimeResetMinute : UInt8
  /-- This day has a play-time limit. -/
  limitEnabled : UInt8
  /-- The limit; zero blocks the whole day. -/
  limitMinutes : UInt16
deriving DecidableEq

/-- `PtSettings` — the stored play-timer settings. -/
structure PtSettings where
  /-- Cleared and re-derived by pctl on a write. -/
  enabled : UInt8
  /-- `PT_MODE_ALARM` or `PT_MODE_SUSPEND`. -/
  restrictionMode : UInt8
  /-- Zero reads `daily`, anything else reads `weekly`. -/
  weekUsed : UInt8
  /-- The unused header byte. -/
  reserved : UInt8
  /-- The setting of every day in DAILY mode. -/
  daily : PtDaySetting
  /-- The settings of Sunday to Saturday otherwise. -/
  weekly : Day → PtDaySetting
deriving DecidableEq

/-- `PtBedtime` — a bedtime alarm as the UI handles it. -/
structure PtBedtime where
  /-- The alarm is on. -/
  enabled : Bool
  /-- Hour of the alarm. -/
  hour : UInt8
  /-- Minute of the alarm. -/
  minute : UInt8
  /-- Hour at which the restriction lifts. -/
  resetHour : UInt8
  /-- Minute at which the restriction lifts. -/
  resetMinute : UInt8
deriving DecidableEq

/-- `memset(d, 0, sizeof(*d))` on a day setting. -/
def PtDaySetting.zero : PtDaySetting := ⟨0, 0, 0, 0, 0, 0, 0⟩

/-- `memset(s, 0, sizeof(*s))` on the settings. -/
def PtSettings.zero : PtSettings := ⟨0, 0, 0, 0, .zero, fun _ => .zero⟩

/-- `memset(b, 0, sizeof(*b))` on a bedtime alarm. -/
def PtBedtime.zero : PtBedtime := ⟨false, 0, 0, 0, 0⟩

/-- The eight bytes of a day setting; the limit is little-endian. -/
def PtDaySetting.bytes (d : PtDaySetting) : List UInt8 :=
  [d.bedtimeEnabled, d.bedtimeHour, d.bedtimeMinute, d.bedtimeResetHour, d.bedtimeResetMinute,
    d.limitEnabled, d.limitMinutes.toUInt8, (d.limitMinutes >>> 8).toUInt8]

/-- The 0x44 bytes of the settings, in memory order. -/
def PtSettings.bytes (s : PtSettings) : List UInt8 :=
  [s.enabled, s.restrictionMode, s.weekUsed, s.reserved] ++ s.daily.bytes ++
    (List.finRange 7).flatMap fun n => (s.weekly n).bytes

/-- `day_slot` — the slot pctl uses for weekday `n`. -/
def daySlot (s : PtSettings) (n : Day) : PtDaySetting :=
  if s.weekUsed ≠ 0 then s.weekly n else s.daily

/-- `settings_configured` — a daily limit or a bedtime alarm on any day. -/
def settingsConfigured (s : PtSettings) : Bool :=
  (List.finRange 7).any fun n =>
    (daySlot s n).limitEnabled != 0 || (daySlot s n).bedtimeEnabled != 0

/-- `decode_bedtime` — the alarm of a slot as the UI handles it. -/
def decodeBedtime (d : PtDaySetting) : PtBedtime where
  enabled := d.bedtimeEnabled != 0
  hour := d.bedtimeHour
  minute := d.bedtimeMinute
  resetHour := d.bedtimeResetHour
  resetMinute := d.bedtimeResetMinute

/-- `same_bedtime` — two slots have the same alarm; the times of a disabled alarm are stale. -/
def sameBedtime (a b : PtDaySetting) : Bool :=
  if a.bedtimeEnabled ≠ b.bedtimeEnabled then false
  else a.bedtimeEnabled == 0 ||
    (a.bedtimeHour == b.bedtimeHour && a.bedtimeMinute == b.bedtimeMinute &&
      a.bedtimeResetHour == b.bedtimeResetHour && a.bedtimeResetMinute == b.bedtimeResetMinute)

/-- The settings take 0x44 bytes. -/
theorem PtSettings.length_bytes (s : PtSettings) : s.bytes.length = 0x44 := rfl

/-- `settings_configured` finds a day exactly when there is one. -/
theorem settingsConfigured_iff (s : PtSettings) : settingsConfigured s = true ↔
    ∃ n, (daySlot s n).limitEnabled ≠ 0 ∨ (daySlot s n).bedtimeEnabled ≠ 0 := by
  simp [settingsConfigured]

end PctlManager
