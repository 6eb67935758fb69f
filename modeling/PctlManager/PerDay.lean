import PctlManager.Flow
import PctlManager.Numpad
import PctlManager.Views

/-!
# The per-day editor

`PlayTimerPerDayActivity`: seven cells that stage a limit for their day, and one that writes
all seven. `live` is the last snapshot, and `pending` is what the next save is going to write.
-/

namespace PctlManager

open Stateful

/-- `DAY_NAMES`. -/
def dayNames (d : Day) : Text :=
  ["Sunday".toList, "Monday".toList, "Tuesday".toList, "Wednesday".toList, "Thursday".toList,
    "Friday".toList, "Saturday".toList].get d

/-- `fmt_minutes`. -/
def fmtMinutes (m : UInt16) : Text :=
  if m = ptDayNoLimit then "no limit".toList
  else if m = 0 then "no play".toList
  else decimal m.toNat ++ " min".toList

/-- `PlayTimerPerDayActivity` on top of the UI. -/
structure PerDay where
  /-- The UI below. -/
  app : App
  /-- `state_header`. -/
  header : PtStateHeader
  /-- The detail texts of the cells `pt_d0` to `pt_d6`. -/
  dayLabels : Day → Text
  /-- `live` — the last-read configuration. -/
  live : PtState
  /-- `pending` — the staged configuration. -/
  pending : Day → UInt16

/-- A computation of the editor. -/
abbrev PerDayM := StateM PerDay

/-- The UI below the editor. -/
def PerDay.appPart : Part PerDay App where
  view e := e.app
  update e app := { e with app }
  view_update _ _ := rfl

/-- A call of the UI from the editor. -/
def ui {α : Type} (m : AppM α) : PerDayM α := zoom PerDay.appPart m

/-- `state_header->refresh()`. -/
def PerDay.refreshHeader : PerDayM Unit := do
  let header ← ui (pctl PtStateHeader.refresh)
  modify fun e => { e with header }

/-- The detail text of a day's cell: the staged value, marked where it differs from the last one
read. -/
def PerDay.dayLabel (e : PerDay) (d : Day) : Text :=
  fmtMinutes (e.pending d) ++ if e.pending d ≠ e.live.dayMin d then "  (*)".toList else []

/-- `rerender_day_labels`. -/
def PerDay.rerenderDayLabels : PerDayM Unit := modify fun e => { e with dayLabels := e.dayLabel }

/-- `reload_from_service` — refresh `live` and reseed `pending`. -/
def PerDay.reloadFromService : PerDayM Unit := do
  let live ← ui (pctl pctlPlayTimerQuery)
  modify fun e => { e with live, pending := live.dayMin }

/-- What is visible, anew. -/
def PerDay.refreshVisible : PerDayM Unit := do
  PerDay.refreshHeader
  PerDay.rerenderDayLabels

/-- `onContentAvailable`. -/
def PerDay.onContentAvailable : PerDayM Unit := do
  PerDay.reloadFromService
  PerDay.refreshVisible

/-- `onResume` — refresh what is visible, and keep the staged edits. -/
def PerDay.onResume : PerDayM Unit := PerDay.refreshVisible

/-- The button "no limit" of the day's dialog. -/
def PerDay.stageNoLimit (d : Day) : PerDayM Unit := do
  modify fun e => { e with pending := Function.update e.pending d ptDayNoLimit }
  PerDay.rerenderDayLabels

/-- The minutes that the number pad of the day's dialog yields; it offers the pending value, or
60 when the day has no limit. -/
def promptedMinutes (pending : Day → UInt16) (d : Day) (typist : Typist) : Option UInt16 :=
  promptMinutes (dayNames d ++ " limit  (0 = no play that day)".toList)
    (if pending d = ptDayNoLimit then 60 else pending d) typist

/-- The button "set minutes" of the day's dialog. -/
def PerDay.stageMinutes (d : Day) (typist : Typist) : PerDayM Unit := do
  let e ← get
  match promptedMinutes e.pending d typist with
  | none => pure ()
  | some v =>
    modify fun e => { e with pending := Function.update e.pending d v }
    PerDay.rerenderDayLabels

/-- Some day is staged with another value than the last one read. -/
def PerDay.changed (e : PerDay) : Bool :=
  (List.finRange 7).any fun i => e.pending i != e.live.dayMin i

/-- The text of a successful save. -/
def saveSummary (snapshot : Day → UInt16) : Text :=
  "Per-day limits written: ".toList ++ (List.finRange 7).flatMap fun d =>
    dayNames d ++ ": ".toList ++ fmtMinutes (snapshot d) ++ if d.val < 6 then "  ".toList else []

/-- `do_save`. -/
def PerDay.doSave : PerDayM Unit := do
  let e ← get
  if e.changed then
    let ok ← ui (guardedWrite (pctlPlayTimerSetDays e.pending) (saveSummary e.pending))
    if ok then PerDay.reloadFromService
    else
      let live ← ui (pctl pctlPlayTimerQuery)
      modify fun e => { e with live }
    PerDay.refreshVisible
  else ui (notify .noChanges)

end PctlManager
