import PctlManager.Lifecycle
import PctlManager.Numpad

/-!
# The PIN gate

Start-up and `PinGateActivity`. The tool can lift every restriction, so it asks for the
console's own PIN before it pushes the main menu, unless 1206 or 1208 says that there is none.
-/

namespace PctlManager

open Stateful

/-- The activities that start-up and the gate push. -/
inductive Activity
  /-- `MainActivity`. -/
  | main
  /-- `PinGateActivity`. -/
  | pinGate
  /-- `InitErrorActivity`. -/
  | initError
deriving DecidableEq

/-- What the status label of the gate shows, under its translation key. -/
inductive GateStatus
  /-- `pin_gate/hint`, as the layout has it. -/
  | hint
  /-- `pin_gate/read_failed`: Could not read the console's PIN … -/
  | readFailed (rc : Result)
  /-- `pin_gate/wrong`: Wrong PIN. … attempt(s) left. -/
  | wrong (left : Nat)
deriving DecidableEq

/-- The tool with the gate. -/
structure Tool where
  /-- The process below. -/
  process : Process
  /-- The activities pushed so far, latest first. -/
  pushed : List Activity
  /-- `attempts` — wrong entries so far. -/
  attempts : Nat
  /-- `passed` — the main menu was pushed on top of the gate. -/
  passed : Bool
  /-- The status label. -/
  status : GateStatus
  /-- `brls::Application::quit` was called. -/
  quit : Bool

/-- A computation of the tool. -/
abbrev ToolM := StateM Tool

/-- The process below the tool. -/
def Tool.processPart : Part Tool Process where
  view t := t.process
  update t process := { t with process }
  view_update _ _ := rfl

/-- A call of the service layer from the gate. -/
def service {α : Type} (m : PctlM α) : ToolM α :=
  zoom Tool.processPart (zoom Process.worldPart m)

/-- `brls::Application::pushActivity`. -/
def Application.pushActivity (activity : Activity) : ToolM Unit :=
  modify fun t => { t with pushed := activity :: t.pushed }

/-- `brls::Application::quit`. -/
def Application.quit : ToolM Unit := modify fun t => { t with quit := true }

/-- `this->status->setText`. -/
def setStatus (status : GateStatus) : ToolM Unit := modify fun t => { t with status }

/-- `run` up to the main loop. -/
def runStartUp : ToolM Unit := do
  let ok ← zoom Tool.processPart appInit
  if ok then
    let st ← service pctlStatusFetch
    Application.pushActivity (if st.pinLengthOk ∧ st.pinLength = 0 then .main else .pinGate)
  else Application.pushActivity .initError

/-- `MAX_ATTEMPTS`. -/
def maxAttempts : Nat := 5

/-- The header of the keypad, under its translation key. -/
def gateTitle : Text := "nx_pctl/pin_gate/title".toList

/-- The gate opens: `passed` is set, and the main menu goes on top. -/
def PinGate.letThrough : ToolM Unit := do
  modify fun t => { t with passed := true }
  Application.pushActivity .main

/-- The gate counts a wrong entry, and quits after the last one. -/
def PinGate.countWrong : ToolM Unit := do
  modify fun t => { t with attempts := t.attempts + 1 }
  let t ← get
  service (pctlLogf ("PIN gate: wrong PIN (attempt ".toList ++ decimal t.attempts ++
    "/".toList ++ decimal maxAttempts ++ ")".toList))
  if t.attempts ≥ maxAttempts then Application.quit
  else setStatus (.wrong (maxAttempts - t.attempts))

/-- `PinGateActivity::prompt`. -/
def PinGate.prompt (typist : Typist) : ToolM Unit := do
  let t ← get
  if t.passed then pure ()
  else
    let pin ← service (pctlGetPin pinBufferSize)
    if rFailed pin.rc then setStatus (.readFailed pin.rc)
    else if pin.len = 0 then
      service (pctlLogf "PIN gate: 1208 reports no PIN registered, skipping the gate".toList)
      PinGate.letThrough
    else
      match promptPin gateTitle typist with
      | none => pure ()
      | some entered =>
        if entered = pin.out.take pin.len.toNat then PinGate.letThrough else PinGate.countWrong

/-- `PinGateActivity::onResume` — backing out of the main menu is an exit. -/
def PinGate.onResume : ToolM Unit := do
  let t ← get
  if t.passed then Application.quit else pure ()

/-- What reaches the gate, with what the user does at the keypad if it is opened. -/
inductive GateEvent
  /-- The prompt that `onContentAvailable` defers. -/
  | deferredPrompt (typist : Typist)
  /-- Button A. -/
  | pressA (typist : Typist)
  /-- Button B. -/
  | pressB
  /-- The gate is resumed. -/
  | resume
  /-- Anything that happens to the console or the session in between. -/
  | elsewhere (change : World → World)

/-- The user at the keypad of an event that prompts. -/
def GateEvent.typist? : GateEvent → Option Typist
  | .deferredPrompt typist | .pressA typist => some typist
  | _ => none

/-- The reaction of the gate. -/
def Tool.react (t : Tool) : GateEvent → Tool
  | .deferredPrompt typist => after (PinGate.prompt typist) t
  | .pressA typist => after (PinGate.prompt typist) t
  | .pressB => after Application.quit t
  | .resume => after PinGate.onResume t
  | .elsewhere change => { t with process.world := change t.process.world }

/-- The gate was pushed, and the tool was not told to quit. -/
def Tool.Running (t : Tool) : Prop := t.quit = false ∧ .pinGate ∈ t.pushed

instance (t : Tool) : Decidable t.Running := inferInstanceAs (Decidable (_ ∧ _))

/-- The reaction of the tool: events reach the gate while it runs. -/
def Tool.step (t : Tool) (event : GateEvent) : Tool := if t.Running then t.react event else t

/-- The tool before start-up, with a fresh gate. -/
def Tool.fresh (process : Process) : Tool where
  process := process
  pushed := []
  attempts := 0
  passed := false
  status := .hint
  quit := false

/-- The tool after start-up. -/
def Tool.started (process : Process) : Tool := after runStartUp (.fresh process)

end PctlManager
