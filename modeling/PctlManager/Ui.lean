import PctlManager.PlayTimerActivity
import PctlManager.PinGate

/-!
# The UI as a whole

Everything the tool keeps between two events: the gate and the process below it, the screens,
the activities and dialogs on top of each other, and the functions that `brls::sync` holds back
until the next turn of the main loop. The gate, the screens and the guarded write are parts of
it. A dialog that only has an OK button is recorded when it is shown, and not put on top of the
others: closing it does nothing but resume what is below, which is an event of its own.
-/

namespace PctlManager

open Stateful

/-- A dialog that offers a choice. -/
inductive Dialog
  /-- `dialog/delete_pc`. -/
  | deletePc
  /-- `dialog/unlink`. -/
  | unlink
  /-- `dialog/clock`. -/
  | clock
  /-- `dialog/clock_overwrite`. -/
  | clockOverwrite
  /-- `play_timer/mode`. -/
  | mode
  /-- `play_timer/bedtime`. -/
  | bedtime
  /-- `play_timer/dialog/remove`. -/
  | remove
  /-- The dialog of a day in the per-day editor. -/
  | day (d : Day)
deriving DecidableEq

/-- What is on the screen, one on top of the other. -/
inductive Layer
  /-- `PinGateActivity`. -/
  | pinGate
  /-- `InitErrorActivity`. -/
  | initError
  /-- `MainActivity`. -/
  | main
  /-- `PlayTimerActivity`. -/
  | playTimer
  /-- `PlayTimerPerDayActivity`. -/
  | perDay
  /-- A dialog. -/
  | dialog (d : Dialog)
deriving DecidableEq

/-- A function that waits in `brls::sync`. -/
inductive Deferred
  /-- The prompt of the gate. -/
  | gatePrompt
  /-- `check_network_clock`. -/
  | checkNetworkClock
  /-- The toast about the PIN. -/
  | setPinToast (rc : Result)
  /-- Notify only. -/
  | chooseAlarm
  /-- Suspend the software. -/
  | chooseSuspend
  /-- Turn the bedtime alarm off. -/
  | turnBedtimeOff
  /-- Set the bedtime alarm. -/
  | setBedtime
  /-- Remove the limit. -/
  | confirmRemove
  /-- Prompt for the minutes of a day. -/
  | promptDay (d : Day)
deriving DecidableEq

/-- A toast of the main menu, under its translation key. -/
inductive Toast
  /-- `toast/status_refreshed`. -/
  | statusRefreshed
  /-- `toast/delete_pc_ok`. -/
  | deletePcOk
  /-- `toast/delete_pc_err`. -/
  | deletePcErr (rc : Result)
  /-- `toast/unlink_ok`. -/
  | unlinkOk
  /-- `toast/unlink_err`. -/
  | unlinkErr (rc : Result)
  /-- `toast/set_pin_ok`. -/
  | setPinOk
  /-- `toast/set_pin_err`. -/
  | setPinErr (rc : Result)
  /-- `toast/clock_ok`. -/
  | clockOk
  /-- `toast/clock_err`. -/
  | clockErr (rc : Result)
  /-- `toast/diag_saved`. -/
  | diagSaved
  /-- `toast/diag_err`. -/
  | diagErr
deriving DecidableEq

/-- The tool with all its screens. -/
structure Ui where
  /-- The gate, and the process below it. -/
  tool : Tool
  /-- What is on the screen, the top first. -/
  layers : List Layer
  /-- What waits in `brls::sync`, the next one first. -/
  deferred : List Deferred
  /-- The labels above the main menu. -/
  panel : StatusPanel
  /-- The toasts of the main menu, latest first. -/
  toasts : List Toast
  /-- The static buffer of the diagnostic report. -/
  report : Report
  /-- `/switch/nx_pctl_dump.txt`. -/
  dumpFile : Option Text
  /-- What the user has been shown about writes, latest first. -/
  shown : List Notice
  /-- The worlds in which a write closure was invoked, with its results, latest first. -/
  writes : List (World × Result)
  /-- `state_header` of the play-timer screen. -/
  header : PtStateHeader
  /-- The detail text of the cell `pt_mode`. -/
  detailText : Text
  /-- What the play-timer screen opened by itself, latest first. -/
  popups : List Popup
  /-- `state_header` of the per-day editor. -/
  editorHeader : PtStateHeader
  /-- The detail texts of the cells of the days. -/
  dayLabels : Day → Text
  /-- `live` of the per-day editor. -/
  live : PtState
  /-- `pending` of the per-day editor. -/
  pending : Day → UInt16

/-- A computation of the whole tool. -/
abbrev UiM := StateM Ui

/-- The console and the session. -/
def Ui.world (u : Ui) : World := u.tool.process.world

namespace Ui

/-- The gate. -/
def toolPart : Part Ui Tool where
  view u := u.tool
  update u tool := { u with tool }
  view_update _ _ := rfl

/-- The service layer. -/
def worldPart : Part Ui World where
  view u := u.tool.process.world
  update u world := { u with tool.process.world := world }
  view_update _ _ := rfl

/-- The UI that the guarded write runs in. -/
def appPart : Part Ui App where
  view u := ⟨u.tool.process.world, u.shown, u.writes⟩
  update u app := { u with
    tool.process.world := app.world
    shown := app.shown
    writes := app.writes }
  view_update _ _ := rfl

/-- The play-timer screen. -/
def screenPart : Part Ui PlayTimerActivity where
  view u := ⟨appPart.view u, u.header, u.detailText, u.popups⟩
  update u screen := { appPart.update u screen.app with
    header := screen.header
    detailText := screen.detailText
    popups := screen.popups }
  view_update _ _ := rfl

/-- The per-day editor. -/
def perDayPart : Part Ui PerDay where
  view u := ⟨appPart.view u, u.editorHeader, u.dayLabels, u.live, u.pending⟩
  update u editor := { appPart.update u editor.app with
    editorHeader := editor.header
    dayLabels := editor.dayLabels
    live := editor.live
    pending := editor.pending }
  view_update _ _ := rfl

/-- The diagnostic report. -/
def dumpPart : Part Ui Dump where
  view u := ⟨u.tool.process.world, u.report⟩
  update u dump := { u with tool.process.world := dump.world, report := dump.report }
  view_update _ _ := rfl

/-- A call of the service layer. -/
def call {α : Type} (m : PctlM α) : UiM α := zoom worldPart m

/-- Put a layer on top. -/
def push (layer : Layer) : UiM Unit := modify fun u => { u with layers := layer :: u.layers }

/-- `brls::sync`. -/
def sync (later : Deferred) : UiM Unit :=
  modify fun u => { u with deferred := u.deferred ++ [later] }

/-- `brls::Application::notify` from the main menu. -/
def toast (t : Toast) : UiM Unit := modify fun u => { u with toasts := t :: u.toasts }

/-- `status_panel->refresh()`. -/
def refreshPanel : UiM Unit := do
  let u ← get
  let panel ← call (StatusPanel.refresh u.tool.process.ok)
  modify fun u => { u with panel }

/-- The dialog that the play-timer screen opens for a choice. -/
def popupLayers : Popup → List Layer
  | .mode => [.dialog .mode]
  | .bedtime _ => [.dialog .bedtime]
  | .remove => [.dialog .remove]
  | .needLimit | .mismatch .. => []

/-- Run a handler of the play-timer screen, and put the dialogs that it opened on top. -/
def onScreen (m : ScreenM Unit) : UiM Unit := do
  let u ← get
  zoom screenPart m
  modify fun v => { v with
    layers := (v.popups.take (v.popups.length - u.popups.length)).flatMap popupLayers ++
      v.layers }

/-- Run a handler of the per-day editor. -/
def onEditor (m : PerDayM Unit) : UiM Unit := zoom perDayPart m

end Ui

end PctlManager
