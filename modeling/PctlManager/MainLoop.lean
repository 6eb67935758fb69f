import PctlManager.MainActivity

/-!
# The main loop

`run` of `main.cpp` with everything that can happen in its loop, in any order: the user presses
a cell or a button of what is on top, backs out of it, a deferred function comes to its turn,
what is on top is resumed, or the console changes on its own.
-/

namespace PctlManager

open Stateful

/-- A button of a dialog. -/
inductive Button
  /-- Cancel, or later. -/
  | cancel
  /-- The button behind it. -/
  | first
  /-- The last of three buttons. -/
  | second
deriving DecidableEq

/-- The dialog has the button. -/
def Dialog.has : Dialog → Button → Bool
  | .mode, _ | .bedtime, _ | .day _, _ => true
  | _, .second => false
  | _, _ => true

/-- What reaches the tool from outside. -/
inductive UiEvent
  /-- A cell of the menu on top is clicked. -/
  | press (cell : Cell)
  /-- Button A on the gate. -/
  | enterPin
  /-- A button of the dialog on top. -/
  | choose (button : Button)
  /-- Button B. -/
  | back
  /-- The next deferred function comes to its turn. -/
  | tick
  /-- What is on top is resumed. -/
  | resume
  /-- The console changes on its own. -/
  | elsewhere (change : Console → Console)

namespace Ui

/-- Push an activity: it comes on top, and its content becomes available. -/
def pushActivity : Layer → UiM Unit
  | .pinGate => do
    push .pinGate
    sync .gatePrompt
  | .main => do
    push .main
    MainActivity.onContentAvailable
  | .playTimer => do
    push .playTimer
    onScreen PlayTimerActivity.onContentAvailable
  | .perDay => do
    push .perDay
    onEditor PerDay.onContentAvailable
  | layer => push layer

/-- The layer of an activity that start-up or the gate pushes. -/
def layerOf : Activity → Layer
  | .main => .main
  | .pinGate => .pinGate
  | .initError => .initError

/-- Run a part of start-up or of the gate, and put the activities that it pushed on top. -/
def onTool (m : ToolM Unit) : UiM Unit := do
  let u ← get
  zoom toolPart m
  let v ← get
  (v.tool.pushed.take (v.tool.pushed.length - u.tool.pushed.length)).reverse.forM
    fun activity => pushActivity (layerOf activity)

/-- A cell is clicked. -/
def press : Layer → Cell → Outside → UiM Unit
  | .main, .refresh, _ => MainActivity.pressRefresh
  | .main, .playTimer, _ => pushActivity .playTimer
  | .main, .setPin, _ => MainActivity.pressSetPin
  | .main, .deletePc, _ => push (.dialog .deletePc)
  | .main, .unlink, _ => push (.dialog .unlink)
  | .main, .clock, outside => MainActivity.pressClock outside
  | .main, .diag, outside => MainActivity.pressDiag outside
  | .playTimer, .setAll, outside => onScreen (PlayTimerActivity.pressSetAll outside.typist)
  | .playTimer, .mode, _ => onScreen PlayTimerActivity.pressMode
  | .playTimer, .perDay, _ => pushActivity .perDay
  | .playTimer, .bedtime, _ => onScreen PlayTimerActivity.pressBedtime
  | .playTimer, .remove, _ => onScreen PlayTimerActivity.pressRemove
  | .perDay, .day d, _ => push (.dialog (.day d))
  | .perDay, .save, _ => onEditor PerDay.doSave
  | _, _, _ => pure ()

/-- A button of a dialog is pressed; most writes are deferred until the dialog has closed. -/
def choose : Dialog → Button → Outside → UiM Unit
  | .deletePc, .first, _ =>
    MainActivity.runDestructive pctlDeleteParentalControls .deletePcOk .deletePcErr
  | .unlink, .first, _ => MainActivity.runDestructive pctlDeletePairing .unlinkOk .unlinkErr
  | .clock, .first, outside => MainActivity.seedNetworkClock outside
  | .clockOverwrite, .first, outside => MainActivity.seedNetworkClock outside
  | .mode, .first, _ => sync .chooseAlarm
  | .mode, .second, _ => sync .chooseSuspend
  | .bedtime, .first, _ => sync .turnBedtimeOff
  | .bedtime, .second, _ => sync .setBedtime
  | .remove, .first, _ => sync .confirmRemove
  | .day d, .first, _ => onEditor (PerDay.stageNoLimit d)
  | .day d, .second, _ => sync (.promptDay d)
  | _, _, _ => pure ()

/-- A deferred function. -/
def perform : Deferred → Outside → UiM Unit
  | .gatePrompt, outside => onTool (PinGate.prompt outside.typist)
  | .checkNetworkClock, _ => MainActivity.checkNetworkClock
  | .setPinToast rc, _ => toast (if rSucceeded rc then .setPinOk else .setPinErr rc)
  | .chooseAlarm, _ => onScreen PlayTimerActivity.chooseAlarm
  | .chooseSuspend, _ => onScreen PlayTimerActivity.chooseSuspend
  | .turnBedtimeOff, _ => onScreen PlayTimerActivity.turnBedtimeOff
  | .setBedtime, outside => onScreen (PlayTimerActivity.setBedtime outside.typists)
  | .confirmRemove, _ => onScreen PlayTimerActivity.confirmRemove
  | .promptDay d, outside => onEditor (PerDay.stageMinutes d outside.typist)

/-- What is on top is resumed. -/
def resume : Layer → UiM Unit
  | .pinGate => onTool PinGate.onResume
  | .main => MainActivity.onResume
  | .playTimer => onScreen PlayTimerActivity.onResume
  | .perDay => onEditor PerDay.onResume
  | .initError | .dialog _ => pure ()

/-- Button B: the gate and the error screen quit, everything else is popped, and popping the
last activity quits. -/
def back : Layer → List Layer → UiM Unit
  | .pinGate, _ | .initError, _ => onTool Application.quit
  | _, [] => onTool Application.quit
  | _, below => modify fun u => { u with layers := below }

/-- The reaction of the tool to an event. -/
def react (outside : Outside) (u : Ui) : UiEvent → Ui
  | .press cell => match u.layers with
    | top :: _ => after (press top cell outside) u
    | [] => u
  | .enterPin => match u.layers with
    | .pinGate :: _ => after (onTool (PinGate.prompt outside.typist)) u
    | _ => u
  | .choose button => match u.layers with
    | .dialog d :: below =>
      if d.has button then after (choose d button outside) { u with layers := below } else u
    | _ => u
  | .back => match u.layers with
    | top :: below => after (back top below) u
    | [] => u
  | .tick => match u.deferred with
    | next :: later => after (perform next outside) { u with deferred := later }
    | [] => u
  | .resume => match u.layers with
    | top :: _ => after (resume top) u
    | [] => u
  | .elsewhere change =>
    { u with tool.process.world.console := change u.tool.process.world.console }

/-- The reaction of the main loop, which ends when the tool was told to quit. -/
def step (u : Ui) (event : UiEvent × Outside) : Ui :=
  if u.tool.quit then u else u.react event.2 event.1

/-- The tool before start-up. -/
def fresh (process : Process) : Ui where
  tool := .fresh process
  layers := []
  deferred := []
  panel := .initial
  toasts := []
  report := ⟨fun _ => '\x00', 0, 0⟩
  dumpFile := none
  shown := []
  writes := []
  header := .initial
  detailText := []
  popups := []
  editorHeader := .initial
  dayLabels _ := []
  live := .blank
  pending := PtState.blank.dayMin

/-- The tool after start-up. -/
def started (process : Process) : Ui := after (onTool runStartUp) (fresh process)

/-- The tool after the main loop and `app::shutdown`. -/
def finished (u : Ui) : Process := after appShutdown u.tool.process

end Ui

end PctlManager
