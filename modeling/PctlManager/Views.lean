import PctlManager.Clock
import PctlManager.PlayTimer

/-!
# The labels

`StatusPanel` above the main menu and `PtStateHeader` above the play-timer screens: what they
show of the answers of the console. A label that is formatted goes through a buffer of a fixed
size, which cuts what does not fit.
-/

namespace PctlManager

open Stateful

/-- The characters of a text that fit some bytes as a whole. -/
def fitting : Nat → Text → Text
  | _, [] => []
  | room, c :: text =>
    if c.utf8Size ≤ room then c :: fitting (room - c.utf8Size) text else []

/-- `std::snprintf` into a buffer of `size` bytes, which keeps one for the terminator. -/
def snprintf (size : Nat) (text : Text) : Text := fitting (size - 1) text

/-- `UNAVAILABLE`. -/
def unavailable : Text := "(unavailable)".toList

/-- `%+lld` — a signed number with its sign. -/
def signedDecimal : Int → Text
  | .ofNat n => '+' :: decimal n
  | .negSucc n => '-' :: decimal (n + 1)

/-- `fmt_pin`. -/
def fmtPin (s : PctlStatus) : Text :=
  if s.pinLengthOk = false then unavailable
  else if s.pinLength = 0 then "not set".toList
  else snprintf 32 ("set (".toList ++ decimal s.pinLength.toNat ++ " digits)".toList)

/-- `fmt_firmware`. -/
def fmtFirmware (w : World) : Text :=
  let hv := w.hosversion
  snprintf 48 (decimal (hosverMajor hv).toNat ++ ".".toList ++ decimal (hosverMinor hv).toNat ++
    ".".toList ++ decimal (hosverMicro hv).toNat ++
    if pctlFwPlayTimerSupported w then [] else "  (play timer needs 21.0.0+)".toList)

/-- `(long long)cs.network - (long long)cs.user`. -/
def ClockStatus.drift (cs : ClockStatus) : Int :=
  (cs.network.toInt64 - cs.user.toInt64).toInt

/-- `fmt_clock` of the clocks as they were read. -/
def ClockStatus.text (cs : ClockStatus) : Text :=
  if cs.networkOk = false then "NOT SET — timer won't count down".toList
  else if cs.userOk = true ∧ (cs.drift > 300 ∨ cs.drift < -300) then
    snprintf 48 ("set (".toList ++ signedDecimal (cs.drift.tdiv 60) ++ " min vs system)".toList)
  else "set".toList

/-- `fmt_clock`. -/
def fmtClock : PctlM Text := do
  let cs ← clockStatus
  pure cs.text

/-- A day has a limit. -/
def PtState.any (pt : PtState) : Bool :=
  (List.finRange 7).any fun i => pt.dayMin i != ptDayNoLimit

/-- Every day has the value of Sunday. -/
def PtState.uniform (pt : PtState) : Bool :=
  (List.finRange 7).all fun i => pt.dayMin i == pt.dayMin Day.sunday

/-- `fmt_play_timer`. -/
def fmtPlayTimer (pt : PtState) : Text :=
  if pt.supported = false then "n/a on this firmware".toList
  else if pt.valid = false then unavailable
  else if pt.enabled = false then "no".toList
  else if pt.any = false then "yes".toList
  else if pt.uniform = true ∧ pt.dayMin Day.sunday = 0 then "yes — every day blocked".toList
  else if pt.uniform then
    snprintf 32 ("yes — ".toList ++ decimal (pt.dayMin Day.sunday).toNat ++ " min/day".toList)
  else "yes — per-day limits".toList

/-- `StatusPanel` — its labels. -/
structure StatusPanel where
  /-- `firmware_value`. -/
  firmware : Text
  /-- `clock_value`. -/
  clock : Text
  /-- `pin_value`. -/
  pin : Text
  /-- `restrictions_value`. -/
  restrictions : Text
  /-- `play_timer_value`. -/
  playTimer : Text
deriving DecidableEq

/-- The labels as the layout has them. -/
def StatusPanel.initial : StatusPanel :=
  ⟨"—".toList, "—".toList, "—".toList, "—".toList, "—".toList⟩

/-- `restrictions_value` of a status. -/
def fmtRestrictions (s : PctlStatus) : Text :=
  if s.restrictionEnabledOk then (if s.restrictionEnabled then "yes".toList else "no".toList)
  else unavailable

/-- `StatusPanel::refresh`, with what `app::pctl_available` says. -/
def StatusPanel.refresh (available : Bool) : PctlM StatusPanel := do
  let w ← get
  let clock ← fmtClock
  if available = false then
    pure ⟨fmtFirmware w, clock, unavailable, unavailable, unavailable⟩
  else
    let s ← pctlStatusFetch
    let pt ← pctlPlayTimerQuery
    pure ⟨fmtFirmware w, clock, fmtPin s, fmtRestrictions s, fmtPlayTimer pt⟩

/-- `fmt_remaining`. -/
def fmtRemaining (pt : PtState) : Text :=
  if pt.enabled = false then "unknown".toList
  else if pt.remainingNs ≠ 0 then
    snprintf 32 ("~".toList ++ decimal (pt.remainingNs.toNat / 60000000000) ++ " min".toList)
  else "0".toList

/-- `ab` — the short names of the days. -/
def dayAbbreviations (d : Day) : Text :=
  ["Su".toList, "Mo".toList, "Tu".toList, "We".toList, "Th".toList, "Fr".toList,
    "Sa".toList].get d

/-- `part` — one day of the breakdown. -/
def fmtPart (pt : PtState) (d : Day) : Text :=
  snprintf 12 (" ".toList ++ dayAbbreviations d ++
    if pt.dayMin d = ptDayNoLimit then "-".toList
    else if pt.dayMin d = 0 then "X".toList
    else decimal (pt.dayMin d).toNat)

/-- `fmt_limits`. -/
def fmtLimits (pt : PtState) : Text :=
  if pt.any = false then
    if pt.bedtime.enabled then "no daily limit".toList else "not set (timer off)".toList
  else if pt.uniform = true ∧ pt.dayMin Day.sunday = 0 then "every day blocked".toList
  else if pt.uniform then
    snprintf 32 (decimal (pt.dayMin Day.sunday).toNat ++ " min (all days)".toList)
  else "per-day:".toList ++ (List.finRange 7).flatMap (fmtPart pt)

/-- `bedtime/varies`. -/
def bedtimeVariesText : Text := "(varies by day)".toList

/-- The alarm behind the limits of `fmt_configured`. -/
def fmtAlarm (b : PtBedtime) : Text :=
  snprintf 40 ("; bedtime ".toList ++ decimalZero 2 b.hour.toNat ++ ":".toList ++
    decimalZero 2 b.minute.toNat ++ "-".toList ++ decimalZero 2 b.resetHour.toNat ++
    ":".toList ++ decimalZero 2 b.resetMinute.toNat)

/-- `fmt_configured`. -/
def fmtConfigured (pt : PtState) : Text :=
  if pt.supported = false then "n/a — needs firmware 21.0.0+".toList
  else if pt.valid = false then unavailable
  else fmtLimits pt ++
    if pt.bedtime.enabled then
      fmtAlarm pt.bedtime ++
        if pt.bedtimeVaries then " ".toList ++ bedtimeVariesText else []
    else []

/-- `PtStateHeader` — its labels. -/
structure PtStateHeader where
  /-- `enabled_value`. -/
  enabled : Text
  /-- `restricted_value`. -/
  restricted : Text
  /-- `remaining_value`. -/
  remaining : Text
  /-- `configured_value`. -/
  configured : Text
deriving DecidableEq

/-- The labels as the layout has them. -/
def PtStateHeader.initial : PtStateHeader :=
  ⟨"—".toList, "—".toList, "—".toList, "—".toList⟩

/-- The labels of a snapshot. -/
def PtStateHeader.ofState (pt : PtState) : PtStateHeader where
  enabled := if pt.enabled then "yes".toList else "no".toList
  restricted :=
    if pt.restricted then "yes ('time's up' screen may be active)".toList else "no".toList
  remaining := fmtRemaining pt
  configured := fmtConfigured pt

/-- `PtStateHeader::refresh`. -/
def PtStateHeader.refresh : PctlM PtStateHeader := do
  let pt ← pctlPlayTimerQuery
  pure (.ofState pt)

end PctlManager
