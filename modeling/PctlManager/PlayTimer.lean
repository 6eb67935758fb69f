import PctlManager.Ops

/-!
# The service layer: play timer

The play-timer half of `pctl_ops.c`. The query decodes the stored settings into a snapshot in
which every field has a default that a failed query leaves in place. Every setter reads the
stored settings, edits the weekly form of them and writes the result back.
-/

namespace PctlManager

/-- `PT_UNSUPPORTED`. -/
def ptUnsupported : Result := makeResult moduleLibnx libnxErrorIncompatSysVer

/-- `PtState` — a snapshot of the play-timer state. -/
structure PtState where
  /-- The firmware has the 0x44-byte commands. -/
  supported : Bool
  /-- 145601 answered. -/
  valid : Bool
  /-- 1453 answered true. -/
  enabled : Bool
  /-- 1455 answered true: today's limit is reached. -/
  restricted : Bool
  /-- 1454, in nanoseconds. -/
  remainingNs : UInt64
  /-- Minutes per day, or `PT_DAY_NOLIMIT`. -/
  dayMin : Day → UInt16
  /-- The alarm of the first day that has one, or of Sunday. -/
  bedtime : PtBedtime
  /-- The days have different alarms. -/
  bedtimeVaries : Bool
  /-- The stored mode. -/
  restrictionMode : UInt8
  /-- The settings exactly as read. -/
  raw : PtSettings

/-- The snapshot before any query: all zero, and no day with a limit. -/
def PtState.blank : PtState where
  supported := false
  valid := false
  enabled := false
  restricted := false
  remainingNs := 0
  dayMin := fun _ => ptDayNoLimit
  bedtime := .zero
  bedtimeVaries := false
  restrictionMode := 0
  raw := .zero

/-- `read_settings` — 145601 on a fresh session; the output is zero unless it succeeds. -/
def readSettings : PctlM (Reply PtSettings) := do
  let w ← get
  if pctlFwPlayTimerSupported w then
    let _ ← pctlOpsReinit
    serviceDispatchOut .getPlayTimerSettings .zero fun _ c => c.stored
  else pure ⟨ptUnsupported, .zero⟩

/-- What pctl does with a 195101 write: nothing without a PIN, and otherwise it stores the
settings with `enabled` re-derived, and with it the answers about the timer. -/
def setPlayTimerSettingsForDebug (s : PtSettings) (sys : Sysmodule) (c : Console) :
    Result × Console :=
  (0, if c.pinLength = 0 then c else sys.rearmed c s)

/-- `write_settings` — 195101 on a fresh session, with the bytes in the log. -/
def writeSettings (s : PtSettings) : PctlM Result := do
  let w ← get
  if pctlFwPlayTimerSupported w then
    let _ ← pctlOpsReinit
    let rc ← serviceDispatchIn .setPlayTimerSettingsForDebug s.bytes
      (setPlayTimerSettingsForDebug s)
    pctlLogf ("195101 SetPlayTimerSettingsForDebug rc=".toList ++ hexResult rc ++
      " data=".toList ++ s.bytes.flatMap hexByte)
    pure rc
  else pure ptUnsupported

/-- The companion app's defaults: suspend the software, an alarm would end at 06:00. -/
def defaultSettings : PtSettings :=
  { PtSettings.zero with
    restrictionMode := ptModeSuspend
    weekUsed := 1
    weekly := fun _ => { PtDaySetting.zero with bedtimeResetHour := 6 } }

/-- The form of the settings as read that `begin_patch` hands out: the defaults when nothing
is set, a DAILY configuration spread over the seven days, a weekly one as it is. -/
def patchForm (s : PtSettings) : PtSettings :=
  if ¬settingsConfigured s then defaultSettings
  else if s.weekUsed = 0 then
    { s with weekly := fun _ => s.daily, daily := .zero, weekUsed := 1 }
  else s

/-- `begin_patch` — the settings as stored, always in weekly mode; fails if they can't be
read. -/
def beginPatch : PctlM (Reply PtSettings) := do
  let reply ← readSettings
  if rFailed reply.rc then pure reply else pure ⟨0, patchForm reply.out⟩

/-- The form `finish_patch` writes: all zero when nothing is left configured. -/
def finishForm (s : PtSettings) : PtSettings :=
  if settingsConfigured s then { s with enabled := 1 } else .zero

/-- `finish_patch`. -/
def finishPatch (s : PtSettings) : PctlM Result := writeSettings (finishForm s)

/-- The body that the setters share: patch the settings as stored. -/
def patchSettings (edit : PtSettings → PtSettings) : PctlM Result := do
  let reply ← beginPatch
  if rFailed reply.rc then pure reply.rc else finishPatch (edit reply.out)

/-- The limit loop of `pctl_play_timer_set_days`. -/
def editDays (daysMin : Day → UInt16) (s : PtSettings) : PtSettings :=
  { s with weekly := fun n =>
      let enabled : UInt8 := if daysMin n ≠ ptDayNoLimit then 1 else 0
      { s.weekly n with
        limitEnabled := enabled
        limitMinutes := if enabled ≠ 0 then daysMin n else 0 } }

/-- The alarm loop of `pctl_play_timer_set_bedtime`. -/
def editBedtime (bed : PtBedtime) (s : PtSettings) : PtSettings :=
  { s with weekly := fun n =>
      { s.weekly n with
        bedtimeEnabled := if bed.enabled then 1 else 0
        bedtimeHour := if bed.enabled then bed.hour else 0
        bedtimeMinute := if bed.enabled then bed.minute else 0
        bedtimeResetHour := if bed.enabled then bed.resetHour else 6
        bedtimeResetMinute := if bed.enabled then bed.resetMinute else 0 } }

/-- The mode assignment of `pctl_play_timer_set_mode`. -/
def editMode (restrictionMode : UInt8) (s : PtSettings) : PtSettings :=
  { s with restrictionMode := if restrictionMode ≠ 0 then ptModeSuspend else ptModeAlarm }

/-- `pctl_play_timer_set_days`. -/
def pctlPlayTimerSetDays (daysMin : Day → UInt16) : PctlM Result :=
  patchSettings (editDays daysMin)

/-- `pctl_play_timer_set_uniform`. -/
def pctlPlayTimerSetUniform (minutes : UInt16) : PctlM Result :=
  pctlPlayTimerSetDays fun _ => minutes

/-- `pctl_play_timer_clear`. -/
def pctlPlayTimerClear : PctlM Result := pctlPlayTimerSetDays fun _ => ptDayNoLimit

/-- `pctl_play_timer_set_bedtime`. -/
def pctlPlayTimerSetBedtime (bed : PtBedtime) : PctlM Result :=
  patchSettings (editBedtime bed)

/-- `pctl_play_timer_set_mode`. -/
def pctlPlayTimerSetMode (restrictionMode : UInt8) : PctlM Result :=
  patchSettings (editMode restrictionMode)

/-- One turn of the backward scan of the query: the day's value, and the day itself when it
has an alarm. -/
def scanDay (s : PtSettings) (scanned : (Day → UInt16) × Day) (n : Day) : (Day → UInt16) × Day :=
  let d := daySlot s n
  (Function.update scanned.1 n (if d.limitEnabled ≠ 0 then d.limitMinutes else ptDayNoLimit),
    if d.bedtimeEnabled ≠ 0 then n else scanned.2)

/-- What the query reports of settings that were read. -/
def PtState.ofSettings (s : PtSettings) (out : PtState) : PtState :=
  let scanned := (List.finRange 7).reverse.foldl (scanDay s) (out.dayMin, 0)
  { out with
    valid := true
    dayMin := scanned.1
    bedtime := decodeBedtime (daySlot s scanned.2)
    bedtimeVaries := (List.finRange 7).any fun n =>
      !sameBedtime (daySlot s n) (daySlot s scanned.2)
    restrictionMode := s.restrictionMode
    raw := s }

/-- `pctl_play_timer_query`. -/
def pctlPlayTimerQuery : PctlM PtState := do
  let w ← get
  if pctlFwPlayTimerSupported w then
    let _ ← pctlOpsReinit
    let enabled ← serviceDispatchOut .isPlayTimerEnabled false fun sys c =>
      sys.isPlayTimerEnabled c.stored c.temporarilyUnlocked
    let restricted ← serviceDispatchOut .isRestrictedByPlayTimer false fun _ c =>
      c.restrictedByPlayTimer
    let rem ← serviceDispatchOut .getPlayTimerRemainingTime 0 fun _ c => c.remainingTime
    let out := { PtState.blank with
      supported := true
      enabled := if rSucceeded enabled.rc then enabled.out else false
      restricted := if rSucceeded restricted.rc then restricted.out else false
      remainingNs := if rSucceeded rem.rc then rem.out else 0 }
    let raw ← readSettings
    if rSucceeded raw.rc then pure (out.ofSettings raw.out) else pure { out with raw := raw.out }
  else pure PtState.blank

/-- `pctl_bedtime_readback` — the alarm as the system's own getters see it, with a flag that
is false if any of them failed. -/
def pctlBedtimeReadback : PctlM (PtBedtime × Bool) := do
  let w ← get
  if pctlFwPlayTimerSupported w then
    let _ ← pctlOpsReinit
    let en ← serviceDispatchOut .isBedtimeAlarmEnabled false fun sys c =>
      (sys.bedtimeAlarm c).enabled
    if rFailed en.rc then pure (.zero, false) else
    let h ← serviceDispatchOut .getBedtimeAlarmTimeHour 0 fun sys c => (sys.bedtimeAlarm c).hour
    if rFailed h.rc then pure (.zero, false) else
    let m ← serviceDispatchOut .getBedtimeAlarmTimeMinute 0 fun sys c =>
      (sys.bedtimeAlarm c).minute
    if rFailed m.rc then pure (.zero, false) else
    let rh ← serviceDispatchOut .getBedtimeAlarmResetTimeHour 0 fun sys c =>
      (sys.bedtimeAlarm c).resetHour
    if rFailed rh.rc then pure (.zero, false) else
    let rm ← serviceDispatchOut .getBedtimeAlarmResetTimeMinute 0 fun sys c =>
      (sys.bedtimeAlarm c).resetMinute
    if rFailed rm.rc then pure (.zero, false) else
    pure (⟨en.out, h.out, m.out, rh.out, rm.out⟩, true)
  else pure (.zero, false)

end PctlManager
