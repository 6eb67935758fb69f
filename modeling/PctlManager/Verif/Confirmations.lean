import PctlManager.Verif.GateRuns
import PctlManager.Verif.GuardedSetter

/-!
# What the user confirmed

The requests that change something are accounted for over whole runs. Each of the two actions
that cannot be undone was confirmed in its dialog, and each of these dialogs was opened by its
own cell, so neither happens more often than the user asked for it
(`destructive_only_confirmed`). Every setter runs inside a guarded write on a firmware that has
the commands and with a PIN registered, and the 195101 that were sent are those of these setters,
with their settings and in their order (`writes_accounted`).
-/

namespace PctlManager

open Stateful

/-! ## Counting what was asked for -/

section Counting

variable {counted : Event → Bool} {requests : Command → Prop} {α : Type}

/-- An operation that sends nothing that is counted does not raise the count. -/
theorem count_of_built (passive : ∀ event : Event, event.asks = true → counted event = false)
    (unsent : ∀ command event, requests command → event.requests command = true →
      counted event = false)
    {m : PctlM α} (built : Built requests m) (w : World) :
    (after m w).trace.countP counted = w.trace.countP counted := by
  obtain ⟨asked, trace, fine⟩ := built.trace w
  have none : asked.countP counted = 0 := by
    rw [List.countP_eq_zero]
    intro event mem
    rw [Bool.not_eq_true]
    obtain asks | ⟨command, sent, request⟩ := fine event mem
    · exact passive event asks
    · exact unsent command event sent request
  rw [trace, List.countP_append, none, Nat.zero_add]

end Counting

/-- The cell that is clicked. -/
def UiEvent.press? : UiEvent → Option Cell
  | .press cell => some cell
  | _ => none

/-- The button that is pressed. -/
def UiEvent.choose? : UiEvent → Option Button
  | .choose button => some button
  | _ => none

/-- The actions that need the user's word: two that cannot be undone, and a new PIN. -/
inductive Destructive
  /-- 1043. -/
  | deletePc
  /-- 1941. -/
  | unlink
  /-- The passcode applet. -/
  | setPin
deriving DecidableEq

namespace Destructive

/-- What libnx is asked for. -/
def sent : Destructive → Event → Bool
  | .deletePc, event => event.requests .deleteSettings
  | .unlink, event => event.requests .deletePairing
  | .setPin, .passcodeApplet _ => true
  | .setPin, _ => false

/-- What it changes. -/
def change : Destructive → Change
  | .deletePc => .deleteSettings
  | .unlink => .deletePairing
  | .setPin => .passcode

/-- The cell of the main menu. -/
def cell : Destructive → Cell
  | .deletePc => .deletePc
  | .unlink => .unlink
  | .setPin => .setPin

/-- The dialog that asks first. -/
def dialog : Destructive → Option Dialog
  | .deletePc => some .deletePc
  | .unlink => some .unlink
  | .setPin => none

/-- The user clicks the cell. -/
def Pressed (action : Destructive) (u : Ui) (event : UiEvent × Outside) : Prop :=
  u.tool.quit = false ∧ u.layers.head? = some .main ∧ event.1.press? = some action.cell

/-- The user gives the word: in the dialog, or with the click if there is none. -/
def Confirmed (action : Destructive) (u : Ui) (event : UiEvent × Outside) : Prop :=
  (∃ d ∈ action.dialog, u.tool.quit = false ∧ u.layers.head? = some (.dialog d) ∧
      event.1.choose? = some .first) ∨
    action.dialog = none ∧ action.Pressed u event

instance (action : Destructive) (u : Ui) (event : UiEvent × Outside) :
    Decidable (action.Pressed u event) := inferInstanceAs (Decidable (_ ∧ _ ∧ _))

instance (action : Destructive) (u : Ui) (event : UiEvent × Outside) :
    Decidable (action.Confirmed u event) :=
  inferInstanceAs (Decidable ((∃ _ ∈ _, _ ∧ _ ∧ _) ∨ _ ∧ _))

/-- The number of times that it was asked for so far. -/
def count (action : Destructive) (w : World) : Nat := w.trace.countP action.sent

variable {action : Destructive}

/-- An operation that does not send it does not raise its count. -/
theorem count_of_built {requests : Command → Prop} {α : Type} {m : PctlM α}
    (built : Built requests m) (unsent : requests .deleteSettings → action ≠ .deletePc)
    (unsent' : requests .deletePairing → action ≠ .unlink) (w : World) :
    action.count (after m w) = action.count w := by
  refine PctlManager.count_of_built (fun event asks => ?_) (fun command event sent request => ?_)
    built w
  · cases action <;> cases event <;> simp_all [Destructive.sent, Event.asks, Event.requests]
    · rintro rfl
      cases asks
    · rintro rfl
      cases asks
  · cases action <;> cases event <;> simp_all [Destructive.sent, Event.requests]
    · rintro rfl
      exact unsent sent
    · rintro rfl
      exact unsent' sent

/-- The passcode applet is asked for once by setting the PIN, and nothing else that counts. -/
theorem count_pctlSetPin (w : World) : action.count (after pctlSetPin w) =
    action.count w + if action = .setPin then 1 else 0 := by
  have trace : (after pctlSetPin w).trace = .acquire (result pctlInitialize
        (after pctlauthRegisterPasscode (after pctlExit w))) ::
      .passcodeApplet (result pctlauthRegisterPasscode (after pctlExit w)) ::
        .release :: w.trace := rfl
  unfold count
  rw [trace]
  simp only [List.countP_cons]
  cases action <;> simp [sent, Event.requests]

/-- What may not change by it keeps its count. -/
theorem law {may : Change → Prop} (kept : ¬may action.change) (n : Nat) :
    WorldLaw may fun w => action.count w = n := by
  refine .of_built (fun built w same => ?_) (fun allowed w same => ?_) fun answer _ w same => ?_
  · rw [count_of_built built ?_ ?_, same]
    · rintro sent rfl
      exact kept sent
    · rintro sent rfl
      exact kept sent
  · have other : action ≠ .setPin := by
      rintro rfl
      exact kept allowed
    rw [count_pctlSetPin, if_neg other, same, Nat.add_zero]
  · unfold count at same ⊢
    rw [(session_clockSeed answer w).2, same]

/-- A handler that may not do it does not raise its count. -/
theorem count_of_uiBuilt {may : Change → Prop} {m : UiM Unit} (built : UiBuilt may m)
    (kept : ¬may action.change) (u : Ui) : action.count (after m u).world = action.count u.world :=
  built.preserves_world (law kept (action.count u.world)) u rfl

/-! ## One event -/

/-- Of the cells, only its own may do it right away, if there is no dialog. -/
theorem of_cell_may {pending : Day → UInt16} {top : Layer} {cell : Cell}
    (allowed : cell.may pending top action.change) :
    action.dialog = none ∧ top = .main ∧ cell = action.cell := by
  cases action <;> cases top <;> cases cell <;>
    simp_all [Cell.may, change, dialog, Destructive.cell, timerMay, editorMay, noChange]

/-- Of the buttons, only the one behind cancel of its own dialog may do it. -/
theorem of_dialog_may {d : Dialog} {button : Button} (allowed : d.may button action.change) :
    action.dialog = some d ∧ button = .first := by
  cases action <;> cases d <;> cases button <;>
    simp_all [Dialog.may, change, dialog, editorMay, noChange]

/-- The gate may not do it. -/
theorem not_gateMay : ¬gateMay action.change := by cases action <;> exact id

/-- No deferred function may do it. -/
theorem not_deferred (next : Deferred) : ¬next.may action.change := by
  cases action <;> cases next <;>
    simp [Deferred.may, change, timerMay, editorMay, noChange, gateMay]

/-- Resuming may not do it. -/
theorem not_resumed (top : Layer) : ¬top.may action.change := by
  cases action <;> cases top <;> simp [Layer.may, change, timerMay, editorMay, noChange, gateMay]

/-- Only a confirmation may do it. -/
theorem confirmed_of_may {u : Ui} (running : u.tool.quit = false) {event : UiEvent}
    (outside : Outside) (allowed : u.may event action.change) :
    action.Confirmed u (event, outside) := by
  obtain ⟨cell, top, rfl, found, may⟩ | ⟨button, d, rfl, found, may⟩ | ⟨next, rfl, found, may⟩ |
    ⟨top, rfl, found, may⟩ | gate := Ui.may_cases allowed
  · obtain ⟨direct, rfl, rfl⟩ := of_cell_may may
    exact .inr ⟨direct, running, found, rfl⟩
  · obtain ⟨asked, rfl⟩ := of_dialog_may may
    exact .inl ⟨d, asked, running, found, rfl⟩
  · exact (not_deferred next may).elim
  · exact (not_resumed top may).elim
  · exact (not_gateMay gate).elim

/-- A request is counted once. -/
theorem count_of_trace {w v : World} {event : Event} (trace : v.trace = event :: w.trace)
    (counts : action.sent event = true) : action.count v = action.count w + 1 := by
  unfold count
  rw [trace, List.countP_cons_of_pos counts]

/-- A confirmed action is counted by its request alone. -/
theorem count_runDestructive (request : PctlM Result) (success : Toast) (error : Result → Toast)
    (u : Ui) : action.count (after (MainActivity.runDestructive request success error) u).world =
      action.count (after request u.world) := by
  have rest (rc : Result) : UiBuilt noChange (do
      Ui.toast (if rSucceeded rc then success else error rc)
      Ui.refreshPanel) := (UiBuilt.toast _).bind fun _ => UiBuilt.refreshPanel
  exact count_of_uiBuilt (rest (result request u.world)) id (after (Ui.call request) u)

/-- Setting the PIN is counted by its applet alone. -/
theorem count_pressSetPin (u : Ui) : action.count (after MainActivity.pressSetPin u).world =
    action.count (after pctlSetPin u.world) := by
  have rest (rc : Result) : UiBuilt noChange (do
      Ui.refreshPanel
      Ui.sync (.setPinToast rc)) := UiBuilt.refreshPanel.bind fun _ => UiBuilt.sync _
  exact count_of_uiBuilt (rest (result pctlSetPin u.world)) id (after (Ui.call pctlSetPin) u)

/-- A click on its cell runs the cell. -/
theorem step_of_pressed {u : Ui} {event : UiEvent × Outside} (pressed : action.Pressed u event) :
    u.step event = after (Ui.press .main action.cell event.2) u := by
  obtain ⟨event, outside⟩ := event
  obtain ⟨running, top, clicked⟩ := pressed
  have reacts : u.step (event, outside) = u.react outside event := if_neg (by simp [running])
  obtain ⟨below, layers⟩ := List.head?_eq_some_iff.mp top
  cases event with
  | press cell =>
    obtain rfl : cell = action.cell := by simpa [UiEvent.press?] using clicked
    rw [reacts, Ui.react]
    simp only [layers]
  | _ => simp [UiEvent.press?] at clicked

/-- A confirmation in its dialog closes the dialog, and runs the button. -/
theorem step_of_confirmed {u : Ui} {event : UiEvent × Outside} {d : Dialog}
    (asks : action.dialog = some d) (confirmed : action.Confirmed u event) :
    ∃ below, u.layers = .dialog d :: below ∧
      u.step event = after (Ui.choose d .first event.2) { u with layers := below } := by
  obtain ⟨event, outside⟩ := event
  obtain ⟨other, asked, running, top, chosen⟩ | ⟨direct, -⟩ := confirmed
  · obtain rfl : d = other := Option.some_inj.mp (asks.symm.trans asked)
    have reacts : u.step (event, outside) = u.react outside event := if_neg (by simp [running])
    obtain ⟨below, layers⟩ := List.head?_eq_some_iff.mp top
    refine ⟨below, layers, ?_⟩
    cases event with
    | choose button =>
      obtain rfl : button = .first := by simpa [UiEvent.choose?] using chosen
      have offered : d.has .first = true := by cases d <;> rfl
      rw [reacts, Ui.react]
      simp only [layers, offered, ↓reduceIte]
    | _ => simp [UiEvent.choose?] at chosen
  · rw [asks] at direct
    cases direct

/-- A confirmation does it, once. -/
theorem count_of_confirmed {u : Ui} {event : UiEvent × Outside}
    (confirmed : action.Confirmed u event) :
    action.count (u.step event).world = action.count u.world + 1 := by
  cases action with
  | deletePc =>
    obtain ⟨below, -, left⟩ := step_of_confirmed (d := .deletePc) rfl confirmed
    rw [left]
    exact (count_runDestructive _ _ _ _).trans (count_of_trace rfl rfl)
  | unlink =>
    obtain ⟨below, -, left⟩ := step_of_confirmed (d := .unlink) rfl confirmed
    rw [left]
    exact (count_runDestructive _ _ _ _).trans (count_of_trace rfl rfl)
  | setPin =>
    obtain ⟨d, none, -⟩ | ⟨-, pressed⟩ := confirmed
    · cases none
    · rw [step_of_pressed pressed]
      exact (count_pressSetPin u).trans (count_pctlSetPin u.world)

/-- An event raises the count by one exactly if it is a confirmation. -/
theorem count_step (u : Ui) (event : UiEvent × Outside) :
    action.count (u.step event).world =
      action.count u.world + if action.Confirmed u event then 1 else 0 := by
  by_cases confirmed : action.Confirmed u event
  · rw [if_pos confirmed, count_of_confirmed confirmed]
  · rw [if_neg confirmed, Nat.add_zero]
    cases running : u.tool.quit with
    | true => rw [show u.step event = u from if_pos running]
    | false =>
      exact u.world_step event (I := fun w => action.count w = action.count u.world)
        (law (fun allowed => confirmed (confirmed_of_may running event.2 allowed)) _)
        (fun _ _ same => same) rfl

/-! ## The dialogs -/

/-- The dialogs of the action that are open. -/
def openDialogs (action : Destructive) (u : Ui) : Nat :=
  match action.dialog with
  | some d => u.layers.count (.dialog d)
  | none => 0

/-- The gate opens no dialog. -/
theorem not_gate_dialog (d : Dialog) : ¬gateMay (.opens (.dialog d)) := by
  rintro ⟨activity, same⟩
  cases activity <;> cases same

/-- The dialog of an action is opened by the action's own cell only. -/
theorem pressed_of_opens {u : Ui} (running : u.tool.quit = false) {event : UiEvent}
    (outside : Outside) {d : Dialog} (asks : action.dialog = some d)
    (allowed : u.may event (.opens (.dialog d))) : action.Pressed u (event, outside) := by
  obtain ⟨cell, top, rfl, found, may⟩ | ⟨button, other, rfl, found, may⟩ |
    ⟨next, rfl, found, may⟩ | ⟨top, rfl, found, may⟩ | gate := Ui.may_cases allowed
  · obtain ⟨rfl, rfl⟩ : top = .main ∧ cell = action.cell := by
      cases action <;> cases asks <;> cases top <;> cases cell <;>
        simp_all [Cell.may, Destructive.cell, timerMay, editorMay, noChange]
    exact ⟨running, found, rfl⟩
  · cases action <;> cases asks <;> cases other <;> cases button <;>
      simp_all [Dialog.may, editorMay, noChange]
  · cases action <;> cases asks <;> cases next <;>
      simp_all [Deferred.may, timerMay, editorMay, noChange, not_gate_dialog]
  · cases action <;> cases asks <;> cases top <;>
      simp_all [Layer.may, timerMay, editorMay, noChange, not_gate_dialog]
  · exact (not_gate_dialog d gate).elim

/-- A handler that does not open the dialog leaves as many as there are. -/
theorem count_layers {may : Change → Prop} {m : UiM Unit} {layer : Layer}
    (built : UiBuilt may m) (kept : ¬may (.opens layer)) (u : Ui) :
    (after m u).layers.count layer = u.layers.count layer := by
  obtain ⟨top, layers, opens⟩ := built.layers u
  have none : top.count layer = 0 := List.count_eq_zero.mpr fun mem => kept (opens layer mem)
  rw [layers, List.count_append, none, Nat.zero_add]

/-- An event that is no click on its cell opens no dialog. -/
theorem openDialogs_step_le {u : Ui} {event : UiEvent × Outside}
    (other : ¬action.Pressed u event) :
    action.openDialogs (u.step event) ≤ action.openDialogs u := by
  unfold openDialogs
  cases asks : action.dialog with
  | none => exact Nat.le_refl 0
  | some d =>
    obtain same | ⟨change, -, left⟩ | ⟨running, -, reaction⟩ := u.step_cases event
    · rw [same]
    · rw [left]
    · obtain ⟨m, popped, built, same, left⟩ := reaction
      have kept := fun allowed => other (pressed_of_opens running event.2 asks allowed)
      simp only [left, count_layers built kept popped]
      obtain layers | ⟨top, layers, -⟩ := same.layers
      · rw [layers]
      · rw [layers]
        exact List.count_le_count_cons

/-- A click on its cell opens one dialog at most. -/
theorem openDialogs_of_pressed {u : Ui} {event : UiEvent × Outside}
    (pressed : action.Pressed u event) :
    action.openDialogs (u.step event) ≤ action.openDialogs u + 1 := by
  rw [step_of_pressed pressed]
  cases action with
  | setPin => exact Nat.zero_le _
  | _ => exact Nat.le_of_eq List.count_cons_self

/-- A confirmation closes the dialog that it was given in. -/
theorem openDialogs_of_confirmed {u : Ui} {event : UiEvent × Outside} {d : Dialog}
    (asks : action.dialog = some d) (confirmed : action.Confirmed u event) :
    action.openDialogs (u.step event) + 1 = action.openDialogs u := by
  obtain ⟨below, layers, left⟩ := step_of_confirmed asks confirmed
  have kept : ¬d.may .first (.opens (.dialog d)) := by
    cases action <;> cases asks <;> simp [Dialog.may]
  have closed := count_layers (built_choose d .first event.2) kept { u with layers := below }
  unfold openDialogs
  simp only [asks, left, closed, layers, List.count_cons_self]

/-- Every confirmation in a dialog uses up a click on the cell. -/
theorem openDialogs_step (u : Ui) (event : UiEvent × Outside) :
    action.openDialogs (u.step event) + (if action.Confirmed u event then 1 else 0) ≤
      action.openDialogs u + if action.Pressed u event then 1 else 0 := by
  by_cases confirmed : action.Confirmed u event
  · rw [if_pos confirmed]
    cases asks : action.dialog with
    | some d =>
      have spent := openDialogs_of_confirmed asks confirmed
      omega
    | none =>
      have pressed : action.Pressed u event := by
        obtain ⟨d, asked, -⟩ | ⟨-, pressed⟩ := confirmed
        · rw [asks] at asked
          cases asked
        · exact pressed
      rw [if_pos pressed]
      simp [openDialogs, asks]
  · rw [if_neg confirmed, Nat.add_zero]
    by_cases pressed : action.Pressed u event
    · rw [if_pos pressed]
      exact openDialogs_of_pressed pressed
    · rw [if_neg pressed, Nat.add_zero]
      exact openDialogs_step_le pressed

/-- No dialog is open after start-up. -/
theorem openDialogs_started (action : Destructive) (p : Process) :
    action.openDialogs (Ui.started p) = 0 := by
  obtain ⟨m, popped, built, same, left⟩ := reaction_started p
  have bare : popped.layers = [] := by
    obtain layers | ⟨top, layers, -⟩ := same.layers
    · exact layers
    · cases layers
  unfold openDialogs
  cases action.dialog with
  | none => rfl
  | some d => simp only [left, count_layers built (not_gate_dialog d), bare, List.count_nil]

end Destructive

/-! ## Whole runs -/

/-- In every run from start-up, 1043, 1941 and the passcode applet are asked for exactly as often
as the user confirmed it, and this is confirmed at most as often as its cell was clicked. -/
theorem destructive_only_confirmed (p : Process) (boot : p.world.AtBoot)
    (events : List (UiEvent × Outside)) (action : Destructive) :
    action.count (Runs.run Ui.step (Ui.started p) events).world =
        Runs.count Ui.step action.Confirmed (Ui.started p) events ∧
      Runs.count Ui.step action.Confirmed (Ui.started p) events ≤
        Runs.count Ui.step action.Pressed (Ui.started p) events := by
  have none : action.count (Ui.started p).world = 0 := by
    refine world_started p (Destructive.law Destructive.not_gateMay 0) ?_
    unfold Destructive.count
    rw [trace_appInit boot]
    cases action <;> rfl
  have closed : action.openDialogs (Ui.started p) = 0 := action.openDialogs_started p
  constructor
  · have counted := Runs.measure_run (fun u : Ui => action.count u.world)
      Destructive.count_step events (Ui.started p)
    rw [counted, none, Nat.zero_add]
  · have paid := Runs.count_le action.openDialogs Destructive.openDialogs_step events
      (Ui.started p)
    omega

/-- On the sample console: the gate is passed, and the deletion is confirmed once. -/
theorem destructive_only_confirmed_sample :
    let events := [(.enterPin, .typing [0x31, 0x32, 0x33, 0x34]), (.press .deletePc, .typing []),
      (.choose .first, .typing [])]
    Destructive.deletePc.count (Runs.run Ui.step (Ui.started (.booted .none)) events).world =
      Runs.count Ui.step Destructive.deletePc.Confirmed (Ui.started (.booted .none)) events :=
  (destructive_only_confirmed (.booted .none) ⟨rfl, rfl, rfl⟩ _ .deletePc).1

/-! ## The writes -/

/-- A setter that a guarded write called. -/
structure GuardedCall where
  /-- The setter. -/
  setter : SetterCall
  /-- The world that it found. -/
  found : World

/-- What was recorded of the writes, and what was sent, comes from these calls, latest first. -/
structure Accounted (w : World) (writes : List (World × Result)) (calls : List GuardedCall) :
    Prop where
  /-- The calls are those that were recorded, with what they returned. -/
  recorded : writes = calls.map fun call => (call.found, result call.setter.perform call.found)
  /-- Every 195101 was sent by one of them that could read the settings, with the bytes and the
  result of that call. -/
  sent : w.sent = calls.filterMap fun call => call.setter.sends call.found
  /-- Every call found a firmware with the commands and a console with a PIN. -/
  guarded : ∀ call ∈ calls, pctlFwPlayTimerSupported call.found = true ∧
    call.found.console.pinLength ≠ 0

/-- What the service layer is asked for outside of a guarded write sends no 195101. -/
theorem sent_serviceStep {may : Change → Prop} {α : Type} {m : PctlM α}
    (step : ServiceStep may α m) (w : World) : (after m w).sent = w.sent := by
  cases step with
  | ask built => exact built.sends_none id w
  | deleteSettings => exact built_pctlDeleteParentalControls.sends_none nofun w
  | deletePairing => exact built_pctlDeletePairing.sends_none nofun w
  | passcode => exact rfl
  | clock answer => exact congrArg (List.filterMap Event.write?) (session_clockSeed answer w).2

/-- A guarded write adds its call to the account, if it gets as far as the write. -/
theorem Accounted.guardedWrite {app : App} {calls : List GuardedCall}
    (account : Accounted app.world app.writes calls) (call : SetterCall) (okText : Text) :
    ∃ more, Accounted (after (guardedWrite call.perform okText) app).world
      (after (guardedWrite call.perform okText) app).writes (more ++ calls) := by
  have invoked := writes_guardedWrite_of_app call.perform okText app
  have sends := call.sent_guarded okText app
  by_cases writes : app.world.Writes
  · rw [if_pos writes, account.recorded] at invoked
    rw [if_pos writes, account.sent] at sends
    refine ⟨[⟨call, app.world.beforeWrite⟩], invoked, sends.trans ?_, ?_⟩
    · rw [List.singleton_append, List.filterMap_cons]
      cases call.sends app.world.beforeWrite <;> exact rfl
    · refine List.forall_mem_cons.mpr ⟨⟨?_, pinLength_beforeWrite writes⟩, account.guarded⟩
      rw [supported_beforeWrite]
      exact writes.1.1
  · rw [if_neg writes, List.nil_append] at invoked sends
    exact ⟨[], invoked.trans account.recorded, sends.trans account.sent, account.guarded⟩

/-- Every reaction keeps the account. -/
theorem Accounted.reaction {may : Change → Prop} {u v : Ui} (reaction : Ui.Reaction may u v)
    (held : ∃ calls, Accounted u.world u.writes calls) :
    ∃ calls, Accounted v.world v.writes calls := by
  obtain ⟨m, popped, built, same, rfl⟩ := reaction
  have found : popped.world = u.world := congrArg (fun t => t.process.world) same.tool
  have before : ∃ calls, Accounted popped.world popped.writes calls := by
    rw [found, same.writes]
    exact held
  refine built.preserves_ledger (J := fun w writes => ∃ calls, Accounted w writes calls)
    (fun writes step w account => ?_) (fun call okText _ app account => ?_) popped before
  · obtain ⟨calls, account⟩ := account
    exact ⟨calls, account.recorded, (sent_serviceStep step w).trans account.sent,
      account.guarded⟩
  · obtain ⟨calls, account⟩ := account
    obtain ⟨more, grown⟩ := account.guardedWrite call okText
    exact ⟨more ++ calls, grown⟩

/-- In every run from start-up, the setters that were called found a firmware that has the commands
and a console with a PIN, and the 195101 that were sent are those of these calls: one for each call
that could read the settings, with the settings and the result of the call, in the order of the
calls. -/
theorem writes_accounted (p : Process) (boot : p.world.AtBoot)
    (events : List (UiEvent × Outside)) :
    let u := Runs.run Ui.step (Ui.started p) events
    ∃ calls, Accounted u.world u.writes calls := by
  intro u
  have none : (Ui.started p).world.sent = [] := by
    refine world_started (I := fun w => w.sent = []) p
      (.of_quiet (fun _ => id) fun built w same => (built.sends_none id w).trans same) ?_
    unfold World.sent
    rw [trace_appInit boot]
    exact rfl
  have writes : (Ui.started p).writes = [] := (reaction_started p).writes fun call => id
  have started : ∃ calls, Accounted (Ui.started p).world (Ui.started p).writes calls :=
    ⟨[], writes, none, fun _ missing => absurd missing List.not_mem_nil⟩
  refine Runs.run_preserves (fun u : Ui => ∃ calls, Accounted u.world u.writes calls)
    (fun v event _ held => ?_) events _ (Runs.along_of_forall (fun _ _ => trivial) _ _) started
  obtain same | ⟨change, -, left⟩ | ⟨-, -, reaction⟩ := v.step_cases event
  · rw [same]
    exact held
  · obtain ⟨calls, account⟩ := held
    rw [left]
    exact ⟨calls, account.recorded, account.sent, account.guarded⟩
  · exact Accounted.reaction reaction held

/-- On the sample console, the gate is passed and every day is limited to 30 minutes: one call was
recorded, and its settings were sent. -/
theorem writes_accounted_sample :
    let u := Runs.run Ui.step (Ui.started (.booted .none))
      [(.enterPin, .typing [0x31, 0x32, 0x33, 0x34]), (.press .playTimer, .typing []),
        (.press .setAll, .typing [0x33, 0x30])]
    (∃ call, Accounted u.world u.writes [call]) ∧
      u.world.sent = [(((SetterCall.setUniform 30).written .zero).bytes, 0)] := by
  intro u
  obtain ⟨calls, account⟩ := writes_accounted (.booted .none) ⟨rfl, rfl, rfl⟩
    [(.enterPin, .typing [0x31, 0x32, 0x33, 0x34]), (.press .playTimer, .typing []),
      (.press .setAll, .typing [0x33, 0x30])]
  have one : calls.length = 1 := by
    have count := congrArg List.length account.recorded
    rw [List.length_map] at count
    exact count.symm
  obtain ⟨call, rfl⟩ := List.length_eq_one_iff.mp one
  exact ⟨⟨call, account⟩, by decide⟩

end PctlManager
