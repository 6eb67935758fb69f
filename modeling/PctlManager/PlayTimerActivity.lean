import PctlManager.PerDay

/-!
# The play-timer screen

`PlayTimerActivity`: a header, the cells that set a limit for all days, the bedtime alarm and the
mode, and one that removes the limit. Every write goes through the guarded write. A cell that
opens a dialog records it, and each button of a dialog is an action of its own.
-/

namespace PctlManager

open Stateful

/-- What the screen opens or shows by itself. -/
inductive Popup
  /-- `mode/need_limit` — the mode has nothing to attach to yet. -/
  | needLimit
  /-- The dialog that offers the two modes. -/
  | mode
  /-- The dialog with the current alarm, that offers to set it or turn it off. -/
  | bedtime (current : Text)
  /-- The dialog that asks to confirm the removal. -/
  | remove
  /-- `bedtime/mismatch` — the system reads the alarm back differently. -/
  | mismatch (onOff time reset : Text)
deriving DecidableEq

/-- `PlayTimerActivity` on top of the UI. -/
structure PlayTimerActivity where
  /-- The UI below. -/
  app : App
  /-- `state_header`. -/
  header : PtStateHeader
  /-- The detail text of the cell `pt_mode`. -/
  detailText : Text
  /-- What the screen opened by itself, latest first. -/
  popups : List Popup

/-- A computation of the screen. -/
abbrev ScreenM := StateM PlayTimerActivity

/-- The UI below the screen. -/
def PlayTimerActivity.appPart : Part PlayTimerActivity App where
  view s := s.app
  update s app := { s with app }
  view_update _ _ := rfl

/-- A call of the UI from the screen. -/
def onApp {α : Type} (m : AppM α) : ScreenM α := zoom PlayTimerActivity.appPart m

/-- Open a dialog, or show a notice, of the screen. -/
def popup (p : Popup) : ScreenM Unit := modify fun s => { s with popups := p :: s.popups }

/-- `mode/alarm`. -/
def modeAlarmText : Text := "Notify only".toList

/-- `mode/suspend`. -/
def modeSuspendText : Text := "Suspend software".toList

/-- `bedtime/at`. -/
def bedtimeAtText : Text := "Bedtime: play is restricted from (HHMM)".toList

/-- `bedtime/reset`. -/
def bedtimeResetText : Text := "…until the next morning at (HHMM)".toList

/-- `bedtime/invalid`. -/
def bedtimeInvalidText : Text := "Not a valid time. Enter HHMM, 0000–2359".toList

/-- `guess_uniform_seed` — the value that all days share, or 60. -/
def guessUniformSeed : AppM UInt16 := do
  let pt ← pctl pctlPlayTimerQuery
  let sunday := pt.dayMin Day.sunday
  if pt.valid = false then pure 60
  else if (List.finRange 7).any fun i => pt.dayMin i != sunday then pure 60
  else pure (if sunday = ptDayNoLimit then 60 else sunday)

/-- `fmt_hm`. -/
def fmtHm (h m : UInt8) : Text :=
  decimalZero 2 h.toNat ++ ":".toList ++ decimalZero 2 m.toNat

/-- `is_configured` — a daily limit on any day, or the bedtime alarm. -/
def isConfigured (pt : PtState) : Bool :=
  pt.bedtime.enabled || (List.finRange 7).any fun i => pt.dayMin i != ptDayNoLimit

/-- `state_header->refresh()`. -/
def PlayTimerActivity.refreshHeader : ScreenM Unit := do
  let header ← onApp (pctl PtStateHeader.refresh)
  modify fun s => { s with header }

/-- `PlayTimerActivity::refresh_all` — nothing configured reads back as all zero, but the first
write defaults to suspending. -/
def PlayTimerActivity.refreshAll : ScreenM Unit := do
  PlayTimerActivity.refreshHeader
  let pt ← onApp (pctl pctlPlayTimerQuery)
  modify fun s => { s with
    detailText :=
      if isConfigured pt = true ∧ pt.restrictionMode = ptModeAlarm then modeAlarmText
      else modeSuspendText }

/-- The readback confirms the alarm. -/
def readbackMatches (sys bed : PtBedtime) : Bool :=
  sys.enabled == bed.enabled &&
    (!bed.enabled || (sys.hour == bed.hour && sys.minute == bed.minute &&
      sys.resetHour == bed.resetHour && sys.resetMinute == bed.resetMinute))

/-- The log line of the readback. -/
def readbackLine (sys bed : PtBedtime) : Text :=
  let flag (b : Bool) : Text := if b then "1".toList else "0".toList
  "bedtime readback: enabled=".toList ++ flag sys.enabled ++ " ".toList ++
    fmtHm sys.hour sys.minute ++ " reset ".toList ++ fmtHm sys.resetHour sys.resetMinute ++
    "  match=".toList ++ flag (readbackMatches sys bed)

/-- The text of a successful write of the alarm. -/
def bedtimeOkText (bed : PtBedtime) : Text :=
  if bed.enabled then
    "Bedtime alarm set: ".toList ++ fmtHm bed.hour bed.minute ++ " until ".toList ++
      fmtHm bed.resetHour bed.resetMinute ++ ".".toList
  else "Bedtime alarm turned off.".toList

/-- `write_bedtime` — write the alarm, then ask the system how it read it. -/
def writeBedtime (bed : PtBedtime) : ScreenM Unit := do
  let ok ← onApp (guardedWrite (pctlPlayTimerSetBedtime bed) (bedtimeOkText bed))
  if ok = false then pure ()
  else
    let readback ← onApp (pctl pctlBedtimeReadback)
    -- Getters unavailable: nothing to compare.
    if readback.2 = false then pure ()
    else
      let sys := readback.1
      onApp (pctl (pctlLogf (readbackLine sys bed)))
      if readbackMatches sys bed = false then
        popup (.mismatch (if sys.enabled then "on".toList else "off".toList)
          (fmtHm sys.hour sys.minute) (fmtHm sys.resetHour sys.resetMinute))
      else pure ()

/-- The time that the first prompt of `edit_bedtime` offers. -/
def atSeed (pt : PtState) : HourMinute :=
  if pt.bedtime.enabled then ⟨pt.bedtime.hour, pt.bedtime.minute⟩ else ⟨21, 0⟩

/-- The time that the second prompt of `edit_bedtime` offers. -/
def resetSeed (pt : PtState) : HourMinute :=
  if pt.bedtime.enabled then ⟨pt.bedtime.resetHour, pt.bedtime.resetMinute⟩ else ⟨6, 0⟩

/-- The alarm that the two prompts of `edit_bedtime` come to. -/
def promptBedtime (pt : PtState) (typists : List Typist) : Option PtBedtime :=
  let start := promptHhmm bedtimeAtText bedtimeInvalidText (atSeed pt) typists
  match start.outcome with
  | .yielded t =>
    match (promptHhmm bedtimeResetText bedtimeInvalidText (resetSeed pt) start.rest).outcome with
    | .yielded u => some ⟨true, t.hour, t.minute, u.hour, u.minute⟩
    | .cancelled => none
    | .waiting => none
  | .cancelled => none
  | .waiting => none

/-- `edit_bedtime` with the answers to its two prompts. -/
def editBedtimeAlarm (typists : List Typist) : ScreenM Unit := do
  let pt ← onApp (pctl pctlPlayTimerQuery)
  match promptBedtime pt typists with
  | some bed => writeBedtime bed
  | none => pure ()

namespace PlayTimerActivity

/-- The cell that sets the daily limit of all days. -/
def pressSetAll (typist : Typist) : ScreenM Unit := do
  let seed ← onApp guessUniformSeed
  match promptMinutes "Daily play-time limit for ALL days  (0 = block every day)".toList seed
    typist with
  | none => pure ()
  | some value =>
    let okText :=
      if value ≠ 0 then
        "Play-time limit written: ".toList ++ decimal value.toNat ++ " minute(s)/day.".toList
      else ("Play-time limit written: 0 minutes/day — no play allowed any day. " ++
        "(Use 'Remove play-time limit' to turn the limit off instead.)").toList
    let _ ← onApp (guardedWrite (pctlPlayTimerSetUniform value) okText)
    refreshAll

/-- The cell that sets the mode: without anything configured it is refused. -/
def pressMode : ScreenM Unit := do
  let pt ← onApp (pctl pctlPlayTimerQuery)
  if isConfigured pt = false then popup .needLimit else popup .mode

/-- A button of the mode's dialog. -/
def chooseMode (mode : UInt8) (okText : Text) : ScreenM Unit := do
  let _ ← onApp (guardedWrite (pctlPlayTimerSetMode mode) okText)
  refreshAll

/-- The button that notifies only. -/
def chooseAlarm : ScreenM Unit :=
  chooseMode ptModeAlarm "When time is up, only a notification will be shown.".toList

/-- The button that suspends the software. -/
def chooseSuspend : ScreenM Unit :=
  chooseMode ptModeSuspend "When time is up, the software will be suspended.".toList

/-- The text of the bedtime dialog. -/
def currentBedtime (pt : PtState) : Text :=
  (if pt.bedtime.enabled then
    "Bedtime alarm: on, ".toList ++ fmtHm pt.bedtime.hour pt.bedtime.minute ++ " until ".toList ++
      fmtHm pt.bedtime.resetHour pt.bedtime.resetMinute ++ ".".toList
  else "Bedtime alarm: off.".toList) ++
  if pt.bedtimeVaries then
    ("\n\nThe alarm differs from day to day (set in the companion app); shown above is the " ++
      "first day that has one. Set and Turn off apply to every day.").toList
  else []

/-- The cell of the bedtime alarm. -/
def pressBedtime : ScreenM Unit := do
  let pt ← onApp (pctl pctlPlayTimerQuery)
  popup (.bedtime (currentBedtime pt))

/-- The button that turns the alarm off. -/
def turnBedtimeOff : ScreenM Unit := do
  writeBedtime ⟨false, 0, 0, 6, 0⟩
  refreshAll

/-- The button that sets the alarm. -/
def setBedtime (typists : List Typist) : ScreenM Unit := do
  editBedtimeAlarm typists
  refreshAll

/-- The cell that removes the limit. -/
def pressRemove : ScreenM Unit := popup .remove

/-- The button that confirms the removal. -/
def confirmRemove : ScreenM Unit := do
  let _ ← onApp (guardedWrite pctlPlayTimerClear "Daily play-time limit removed.".toList)
  refreshAll

/-- `onContentAvailable`. -/
def onContentAvailable : ScreenM Unit := refreshAll

/-- `onResume`. -/
def onResume : ScreenM Unit := refreshAll

end PlayTimerActivity

end PctlManager
