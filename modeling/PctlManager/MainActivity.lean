import PctlManager.Ui
import PctlManager.Logic.Region

/-!
# The main menu

`MainActivity`: the cells of the main menu, the buttons of their dialogs, and the network-clock
check that is deferred when the menu comes up. What happens outside of the tool while a handler
runs is a parameter.
-/

namespace PctlManager

open Stateful

/-- What happens outside of the tool during an event. -/
structure Outside where
  /-- The user in front of the number pad. -/
  typist : Typist
  /-- The users in front of the number pads of a prompt that may ask again. -/
  typists : List Typist
  /-- The answer of the time service to a clock that is set. -/
  timeSet : Result
  /-- The file of the report can be opened. -/
  fopen : Bool
  /-- The number of characters after which writing the report fails, if it does. -/
  fputs : Option Nat

/-- The cells of the three menus. -/
inductive Cell
  /-- `item_refresh`. -/
  | refresh
  /-- `item_play_timer`. -/
  | playTimer
  /-- `item_set_pin`. -/
  | setPin
  /-- `item_delete_pc`. -/
  | deletePc
  /-- `item_unlink`. -/
  | unlink
  /-- `item_clock`. -/
  | clock
  /-- `item_diag`. -/
  | diag
  /-- `pt_set_all`. -/
  | setAll
  /-- `pt_mode`. -/
  | mode
  /-- `pt_per_day`. -/
  | perDay
  /-- `pt_bedtime`. -/
  | bedtime
  /-- `pt_remove`. -/
  | remove
  /-- `pt_d0` to `pt_d6`. -/
  | day (d : Day)
  /-- `pt_save`. -/
  | save
deriving DecidableEq

namespace MainActivity

open Ui

/-- `run_destructive` after its dialog was confirmed. -/
def runDestructive (action : PctlM Result) (success : Toast) (error : Result → Toast) :
    UiM Unit := do
  let rc ← call action
  toast (if rSucceeded rc then success else error rc)
  refreshPanel

/-- `seed_network_clock`. -/
def seedNetworkClock (outside : Outside) : UiM Unit := do
  let rc ← call (clockSeedNetworkFromUser outside.timeSet)
  refreshPanel
  toast (if rSucceeded rc then .clockOk else .clockErr rc)

/-- `check_network_clock`. -/
def checkNetworkClock : UiM Unit := do
  let u ← get
  if pctlFwPlayTimerSupported u.world then
    let cs ← call clockStatus
    if cs.networkOk = true ∨ cs.userOk = false then pure () else push (.dialog .clock)
  else pure ()

/-- The cell that refreshes the panel. -/
def pressRefresh : UiM Unit := do
  refreshPanel
  toast .statusRefreshed

/-- The cell that sets the PIN. -/
def pressSetPin : UiM Unit := do
  let rc ← call pctlSetPin
  refreshPanel
  sync (.setPinToast rc)

/-- The cell that sets the network clock: if it is set, ask first. -/
def pressClock (outside : Outside) : UiM Unit := do
  let cs ← call clockStatus
  if cs.networkOk = false then seedNetworkClock outside else push (.dialog .clockOverwrite)

/-- `sizeof(buf)` of the diagnostic report. -/
def diagBufferSize : Nat := 8192

/-- The cell that saves the diagnostic report. -/
def pressDiag (outside : Outside) : UiM Unit := do
  zoom dumpPart (pctlPlayTimerDump 0 diagBufferSize)
  modify fun u =>
    let buf := Region.terminated '\x00' u.report.memory 0 diagBufferSize
    { u with dumpFile :=
        if outside.fopen then some (match outside.fputs with
          | none => buf
          | some count => buf.take count)
        else u.dumpFile }
  toast (if outside.fopen = true ∧ outside.fputs = none then .diagSaved else .diagErr)

/-- `onContentAvailable`. -/
def onContentAvailable : UiM Unit := do
  refreshPanel
  sync .checkNetworkClock

/-- `onResume`. -/
def onResume : UiM Unit := refreshPanel

end MainActivity

end PctlManager
