import PctlManager.Verif.SettingsRuns

/-!
# The rest of the console over whole runs

Beside the play-timer settings, the temporary unlock and what the console answers about the timer,
the tool changes the network clock, and nothing else of what the console holds: the PIN, the
safety level and the restrictions stay as they are unless they change elsewhere
(`rest_of_console_kept`). The clocks are what the events that seed the network clock make of them,
and a network clock that is set is only overwritten after the user confirmed it
(`clocks_refined`).
-/

namespace PctlManager

open Stateful

/-! ## What no write touches -/

/-- The settings, the temporary unlock and the answers about the timer are no part of the
observation. -/
structure Unwritten {γ : Type} (observe : Console → γ) : Prop where
  /-- The settings. -/
  stored : ∀ c s, observe { c with stored := s } = observe c
  /-- The temporary unlock. -/
  unlocked : ∀ c b, observe { c with temporarilyUnlocked := b } = observe c
  /-- The answers about the timer. -/
  answers : ∀ c a, observe { c with toTimerAnswers := a } = observe c

/-- No deletion and no new PIN touches the observation. -/
structure World.Spares {γ : Type} (observe : Console → γ) (w : World) : Prop where
  /-- 1043. -/
  deleteSettings : ∀ c, observe (w.sys.deleteSettings c) = observe c
  /-- 1941. -/
  deletePairing : ∀ c, observe (w.sys.deletePairing c) = observe c
  /-- The passcode applet. -/
  passcode : ∀ n c, observe ((w.faults.passcode.get n).2 c) = observe c

/-- Whatever the tool does, deletions and new PINs do as before. -/
theorem World.Spares.law {γ : Type} (observe : Console → γ) (may : Change → Prop) :
    WorldLaw may (World.Spares observe) := by
  refine .of_built (fun built => ?_) (fun _ => ?_) fun answer _ => ?_
  · refine built.preserves fun α m step => ?_
    cases step <;>
      exact fun w spares => ⟨spares.deleteSettings, spares.deletePairing, spares.passcode⟩
  · intro w spares
    exact ⟨spares.deleteSettings, spares.deletePairing, fun n => spares.passcode (n + 1)⟩
  · intro w spares
    obtain ⟨line, left⟩ := after_clockSeed answer w
    rw [left]
    exact ⟨spares.deleteSettings, spares.deletePairing, spares.passcode⟩

namespace Unwritten

variable {γ : Type} {observe : Console → γ}

/-- A request that leaves the observation as it finds it. -/
theorem request_at (observe : Console → γ) (command : Command) (input : List UInt8)
    (perform : Sysmodule → Console → Result × Console) (w : World)
    (same : observe (perform w.sys w.console).2 = observe w.console) :
    observe (after (serviceDispatchIn command input perform) w).console = observe w.console := by
  change observe (if _ then _ else _) = _
  split
  · exact same
  · rfl

/-- A request that keeps the observation on every console. -/
theorem request {command : Command} {input : List UInt8}
    {perform : Sysmodule → Console → Result × Console}
    (same : ∀ sys c, observe (perform sys c).2 = observe c) :
    Keeps (fun w : World => observe w.console) (serviceDispatchIn command input perform) :=
  fun w => request_at observe command input perform w (same w.sys w.console)

/-- An operation without requests. -/
theorem ask {α : Type} {m : PctlM α} (built : Built noRequest m) :
    Keeps (fun w : World => observe w.console) m := fun w => congrArg observe (built.console w)

/-- The end of the temporary unlock. -/
theorem revert (unwritten : Unwritten observe) :
    Keeps (fun w : World => observe w.console) pctlRevertTemporaryUnlock := by
  have reverted (sys : Sysmodule) (c : Console) : observe (sys.reverted c) = observe c :=
    (unwritten.answers _ _).trans (unwritten.unlocked c _)
  exact .bind (ask .reopen) fun _ => .bind (request reverted) fun _ =>
    .bind (ask (.log _)) fun _ => .pure _

/-- The temporary unlock. -/
theorem unlock (unwritten : Unwritten observe) :
    Keeps (fun w : World => observe w.console) pctlUnlockRestrictionTemporarily := by
  have unlocked (sys : Sysmodule) (c : Console) : observe (sys.unlocked c) = observe c :=
    (unwritten.answers _ _).trans (unwritten.unlocked c true)
  refine .bind (ask .reopen) fun _ => .bind (ask (built_pctlGetPin _)) fun _ => .ite ?_ (.ite ?_ ?_)
  · exact ask ((Built.log _).bind fun _ => .pure _)
  · exact ask ((Built.log _).bind fun _ => .pure _)
  · exact .bind (request unlocked) fun _ => .bind (ask (.log _)) fun _ => .pure _

/-- Writing the settings. -/
theorem writeSettings (unwritten : Unwritten observe) (s : PtSettings) :
    Keeps (fun w : World => observe w.console) (PctlManager.writeSettings s) := by
  refine .bind (ask .get) fun _ => .ite (.bind (ask .reopen) fun _ => .bind ?_ fun _ =>
    .bind (ask (.log _)) fun _ => .pure _) (.pure _)
  refine request fun sys c => ?_
  unfold setPlayTimerSettingsForDebug
  split
  · rfl
  · exact (unwritten.answers _ _).trans (unwritten.stored c _)

/-- Every setter. -/
theorem setter (unwritten : Unwritten observe) (call : SetterCall) :
    Keeps (fun w : World => observe w.console) call.perform := by
  rw [call.perform_eq]
  exact .bind (ask built_beginPatch) fun _ => .ite (.pure _) (unwritten.writeSettings _)

/-- A guarded write. -/
theorem guarded (unwritten : Unwritten observe) (call : SetterCall) (okText : Text) (v : γ) :
    Preserves (fun app : App => observe app.world.console = v)
      (guardedWrite call.perform okText) := by
  have holds {α : Type} {m : PctlM α} (kept : Keeps (fun w : World => observe w.console) m) :
      Preserves (fun w => observe w.console = v) m := fun w held => (kept w).trans held
  refine (built_guardedWrite call okText).preserves fun α m step => ?_
  cases step with
  | get => exact fun _ held => held
  | ask built => exact (holds (ask built)).zoom App.worldPart
  | unlock => exact (holds unwritten.unlock).zoom App.worldPart
  | revert => exact (holds unwritten.revert).zoom App.worldPart
  | tell more => exact fun _ held => held
  | invoke =>
    intro app held
    rw [after_invoke]
    exact holds (unwritten.setter call) app.world held

/-- Whatever a handler does, if a confirmed action spares the observation, and so does the seeding
of a clock. -/
theorem law (unwritten : Unwritten observe) {may : Change → Prop}
    (seeded : may .clock → ∀ answer,
      Keeps (fun w : World => observe w.console) (clockSeedNetworkFromUser answer)) (v : γ) :
    WorldLaw may fun w => ((∃ action : Destructive, may action.change) → w.Spares observe) ∧
      observe w.console = v where
  served step w held := by
    have spares := (World.Spares.law observe may).served step w
    refine ⟨fun confirms => spares (held.1 confirms), Eq.trans ?_ held.2⟩
    cases step with
    | ask built => exact ask built w
    | deleteSettings allowed =>
      have spared := (held.1 ⟨.deletePc, allowed⟩).deleteSettings w.console
      exact request_at observe _ [] (fun sys c => (0, sys.deleteSettings c)) w spared
    | deletePairing allowed =>
      have spared := (held.1 ⟨.unlink, allowed⟩).deletePairing w.console
      exact request_at observe _ [] (fun sys c => (0, sys.deletePairing c)) w spared
    | passcode allowed => exact (held.1 ⟨.setPin, allowed⟩).passcode 0 w.console
    | clock answer allowed => exact seeded allowed answer w
  guarded call okText allowed app held := by
    have spares := (World.Spares.law observe may).guarded call okText allowed app
    exact ⟨fun confirms => spares (held.1 confirms), unwritten.guarded call okText v app held.2⟩

end Unwritten

/-! ## The clocks -/

/-- The clocks are not part of what a write touches. -/
theorem unwritten_clock : Unwritten Console.clock :=
  ⟨fun _ _ => rfl, fun _ _ => rfl, fun _ _ => rfl⟩

/-- What happens to the clocks. -/
inductive ClockEvent
  /-- The network clock is seeded, and the time service answers. -/
  | seed (answer : Result)
  /-- They change elsewhere. -/
  | elsewhere (clock : TimeType → Result × UInt64)

/-- The clocks after an event: seeding sets the network clock to the user's time, if that can be
read and the time service accepts it. -/
def ClockEvent.react (clock : TimeType → Result × UInt64) : ClockEvent → TimeType → Result × UInt64
  | .seed answer =>
    if rSucceeded (clock .userSystemClock).1 ∧ rSucceeded answer then
      Function.update clock .networkSystemClock (0, (clock .userSystemClock).2)
    else clock
  | .elsewhere clock => clock

/-- Seeding the network clock. -/
theorem clock_clockSeed (answer : Result) (w : World) :
    (after (clockSeedNetworkFromUser answer) w).console.clock =
      ClockEvent.react w.console.clock (.seed answer) := by
  obtain ⟨line, left⟩ := after_clockSeed answer w
  have seen := congrArg (fun v : World => v.console.clock) left
  exact seen

/-- The PIN, the safety level and the restrictions. -/
structure Console.Rest where
  /-- 1032. -/
  safetyLevel : UInt32
  /-- 1206. -/
  pinLength : UInt32
  /-- 1208. -/
  pinCode : UInt32 × List UInt8
  /-- 1031. -/
  restrictionEnabled : Bool

/-- The PIN, the safety level and the restrictions of a console. -/
def Console.rest (c : Console) : Console.Rest :=
  ⟨c.safetyLevel, c.pinLength, c.pinCode, c.restrictionEnabled⟩

/-- A write does not touch the rest. -/
theorem unwritten_rest : Unwritten Console.rest :=
  ⟨fun _ _ => rfl, fun _ _ => rfl, fun _ _ => rfl⟩

/-- Seeding the network clock does not touch the rest. -/
theorem rest_clockSeed (answer : Result) (w : World) :
    (after (clockSeedNetworkFromUser answer) w).console.rest = w.console.rest := by
  obtain ⟨line, left⟩ := after_clockSeed answer w
  have seen := congrArg (fun v : World => v.console.rest) left
  exact seen

/-! ## What seeds the network clock -/

/-- The answer that the time service is going to give, if the event asks it to set the network
clock: the cell does so when the network clock cannot be read, and otherwise a dialog asks. -/
def Ui.seeds (u : Ui) (event : UiEvent × Outside) : Option Result :=
  match event.1 with
  | .press .clock =>
    if u.layers.head? = some .main ∧ rFailed (u.world.console.clock .networkSystemClock).1 then
      some event.2.timeSet
    else none
  | .choose .first =>
    if u.layers.head? = some (.dialog .clock) ∨ u.layers.head? = some (.dialog .clockOverwrite) then
      some event.2.timeSet
    else none
  | _ => none

/-- What the clocks see of an event. -/
def Ui.clockEvents (u : Ui) (event : UiEvent × Outside) : List ClockEvent :=
  if u.tool.quit then []
  else match event.1 with
    | .elsewhere change => [.elsewhere (change u.world.console).clock]
    | _ => ((u.seeds event).map ClockEvent.seed).toList

/-- Seeding from the main menu seeds. -/
theorem clock_seedNetworkClock (outside : Outside) (u : Ui) :
    (after (MainActivity.seedNetworkClock outside) u).world.console.clock =
      ClockEvent.react u.world.console.clock (.seed outside.timeSet) := by
  have refreshed : Keeps (fun u : Ui => u.world.console.clock) Ui.refreshPanel := by
    intro v
    have built := built_StatusPanel_refresh v.tool.process.ok
    exact congrArg Console.clock (built.console v.world)
  have seeded := clock_clockSeed outside.timeSet u.world
  unfold MainActivity.seedNetworkClock
  rw [after_bind, after_bind]
  exact (refreshed _).trans seeded

/-- The cell of the clock seeds it if it cannot be read, and asks otherwise. -/
theorem clock_pressClock (outside : Outside) (u : Ui) :
    (after (MainActivity.pressClock outside) u).world.console.clock =
      if rFailed (u.world.console.clock .networkSystemClock).1 then
        ClockEvent.react u.world.console.clock (.seed outside.timeSet)
      else u.world.console.clock := by
  have same : after (Ui.call clockStatus) u = u := rfl
  have read : (result (Ui.call clockStatus) u).networkOk = false ↔
      rFailed (u.world.console.clock .networkSystemClock).1 := decide_eq_false_iff_not
  unfold MainActivity.pressClock
  rw [after_bind, same, after_ite]
  by_cases unset : rFailed (u.world.console.clock .networkSystemClock).1
  · rw [if_pos unset, if_pos (read.mpr unset)]
    exact clock_seedNetworkClock outside u
  · rw [if_neg unset, if_neg (mt read.mp unset)]
    exact rfl

/-- An event that may not seed a clock leaves the clocks alone. -/
theorem Ui.Reaction.clock {may : Change → Prop} {u v : Ui} (reaction : Ui.Reaction may u v)
    (spares : (∃ action : Destructive, may action.change) → u.world.Spares Console.clock)
    (unseeded : ¬may .clock) :
    v.world.console.clock = u.world.console.clock :=
  (reaction.preserves_world
    (unwritten_clock.law (fun allowed => (unseeded allowed).elim) u.world.console.clock)
    ⟨spares, rfl⟩).2

/-- A click seeds the network clock as `Ui.seeds` says. -/
theorem clock_press (top : Layer) (cell : Cell) (outside : Outside) (u : Ui)
    (spares : (∃ action : Destructive, cell.may u.pending top action.change) →
      u.world.Spares Console.clock) (found : u.layers.head? = some top) :
    (after (Ui.press top cell outside) u).world.console.clock =
      Runs.run ClockEvent.react u.world.console.clock
        ((u.seeds (.press cell, outside)).map ClockEvent.seed).toList := by
  have quiet (unseeded : ¬cell.may u.pending top .clock)
      (other : u.seeds (.press cell, outside) = none) :
      (after (Ui.press top cell outside) u).world.console.clock =
        Runs.run ClockEvent.react u.world.console.clock
          ((u.seeds (.press cell, outside)).map ClockEvent.seed).toList := by
    rw [(reaction_press top cell outside u).clock spares unseeded, other]
    exact rfl
  cases cell with
  | clock =>
    by_cases main : top = .main
    · subst main
      have seeds : u.seeds (.press .clock, outside) =
          if rFailed (u.world.console.clock .networkSystemClock).1 then some outside.timeSet
          else none := by
        unfold Ui.seeds
        simp only [found, true_and]
      refine (clock_pressClock outside u).trans ?_
      rw [seeds]
      split <;> exact rfl
    · refine quiet ?_ (if_neg fun both => main (Option.some_inj.mp (found.symm.trans both.1)))
      cases top <;> first | exact id | exact absurd rfl main
  | _ => cases top <;> exact quiet (by simp [Cell.may, timerMay, editorMay, noChange]) rfl

/-- A button of a dialog seeds the network clock as `Ui.seeds` says. -/
theorem clock_choose (d : Dialog) (button : Button) (outside : Outside) (u v : Ui)
    (spares : (∃ action : Destructive, d.may button action.change) →
      v.world.Spares Console.clock)
    (found : u.layers.head? = some (.dialog d)) (same : v.world = u.world) :
    (after (Ui.choose d button outside) v).world.console.clock =
      Runs.run ClockEvent.react u.world.console.clock
        ((u.seeds (.choose button, outside)).map ClockEvent.seed).toList := by
  have quiet (unseeded : ¬d.may button .clock) (other : u.seeds (.choose button, outside) = none) :
      (after (Ui.choose d button outside) v).world.console.clock =
        Runs.run ClockEvent.react u.world.console.clock
          ((u.seeds (.choose button, outside)).map ClockEvent.seed).toList := by
    rw [(Ui.Reaction.of_built (built_choose d button outside) v).clock spares unseeded, other, same]
    exact rfl
  have seeds (asks : d = .clock ∨ d = .clockOverwrite) :
      u.seeds (.choose .first, outside) = some outside.timeSet := by
    refine if_pos ?_
    rw [found]
    obtain rfl | rfl := asks
    · exact .inl rfl
    · exact .inr rfl
  cases button with
  | first =>
    by_cases asks : d = .clock ∨ d = .clockOverwrite
    · have seeded := clock_seedNetworkClock outside v
      rw [same] at seeded
      rw [seeds asks]
      obtain rfl | rfl := asks <;> exact seeded
    · refine quiet ?_ (if_neg fun open_ => asks ?_)
      · cases d <;> simp_all [Dialog.may, editorMay, noChange]
      · rw [found] at open_
        exact open_.imp (fun top => by cases top; rfl) fun top => by cases top; rfl
  | _ => exact quiet (by cases d <;> exact id) rfl

/-! ## One event -/

/-- Only clicks on a cell and the buttons of a dialog may seed a clock. -/
theorem seeds_of_clock {u : Ui} {event : UiEvent} (allowed : u.may event .clock) :
    (∃ cell, event = .press cell) ∨ ∃ button, event = .choose button := by
  obtain ⟨cell, top, rfl, -, -⟩ | ⟨button, d, rfl, -, -⟩ | ⟨next, -, -, may⟩ |
    ⟨top, -, -, may⟩ | gate := Ui.may_cases allowed
  · exact .inl ⟨cell, rfl⟩
  · exact .inr ⟨button, rfl⟩
  · cases next <;> cases may
  · cases top <;> cases may
  · exact gate.elim

/-- An event of the tool seeds the network clock as `Ui.seeds` says. -/
theorem clock_react (u : Ui) (event : UiEvent) (outside : Outside) (own : ¬event.Foreign)
    (spares : (∃ action : Destructive, u.may event action.change) →
      u.world.Spares Console.clock) :
    (u.react outside event).world.console.clock =
      Runs.run ClockEvent.react u.world.console.clock
        ((u.seeds (event, outside)).map ClockEvent.seed).toList := by
  have quiet (unseeded : ¬u.may event .clock) (other : u.seeds (event, outside) = none) :
      (u.react outside event).world.console.clock =
        Runs.run ClockEvent.react u.world.console.clock
          ((u.seeds (event, outside)).map ClockEvent.seed).toList := by
    rw [(reaction_react outside u event own).clock spares unseeded, other]
    exact rfl
  cases event with
  | press cell =>
    cases found : u.layers with
    | nil =>
      refine quiet ?_ ?_
      · unfold Ui.may
        rw [found]
        exact id
      · unfold Ui.seeds
        simp only [found]
        cases cell <;> rfl
    | cons top below =>
      unfold Ui.may at spares
      simp only [found] at spares
      have pressed := clock_press top cell outside u spares (congrArg List.head? found)
      unfold Ui.react
      simp only [found]
      exact pressed
  | choose button =>
    have idle (left : u.react outside (.choose button) = u)
        (other : u.seeds (.choose button, outside) = none) :
        (u.react outside (.choose button)).world.console.clock =
          Runs.run ClockEvent.react u.world.console.clock
            ((u.seeds (.choose button, outside)).map ClockEvent.seed).toList := by
      rw [left, other]
      exact rfl
    cases found : u.layers with
    | nil =>
      refine idle ?_ ?_
      · simp only [Ui.react, found]
      · cases button <;> simp [Ui.seeds, found]
    | cons top below =>
      cases top with
      | dialog d =>
        by_cases offered : d.has button = true
        · unfold Ui.may at spares
          simp only [found] at spares
          have chosen := clock_choose d button outside u { u with layers := below } spares
            (congrArg List.head? found) rfl
          unfold Ui.react
          simp only [found, if_pos offered]
          exact chosen
        · refine idle ?_ ?_
          · simp only [Ui.react, found, if_neg offered]
          · cases button with
            | first => cases d <;> exact absurd rfl offered
            | _ => rfl
      | _ =>
        refine idle ?_ ?_
        · simp only [Ui.react, found]
        · cases button <;> simp [Ui.seeds, found]
  | elsewhere change => exact (own trivial).elim
  | _ =>
    refine quiet (fun allowed => ?_) rfl
    obtain ⟨_, other⟩ | ⟨_, other⟩ := seeds_of_clock allowed <;> cases other

/-- Every event does to the clocks what they see of it. -/
theorem clock_step (u : Ui) (event : UiEvent × Outside) (spares : u.world.Spares Console.clock) :
    (u.step event).world.console.clock =
      Runs.run ClockEvent.react u.world.console.clock (u.clockEvents event) := by
  obtain ⟨event, outside⟩ := event
  unfold Ui.clockEvents
  by_cases running : u.tool.quit = true
  · rw [if_pos running, Ui.step, if_pos running]
    exact rfl
  · rw [if_neg running, Ui.step, if_neg running]
    cases event with
    | elsewhere change => exact rfl
    | _ => exact clock_react u _ outside id fun _ => spares

/-- Every event leaves it to the deletions and the new PINs whether they touch the clocks. -/
theorem spares_step {γ : Type} {observe : Console → γ} (u : Ui) (event : UiEvent × Outside)
    (spares : u.world.Spares observe) : (u.step event).world.Spares observe := by
  refine u.world_step event (World.Spares.law observe _) (fun w console held => ?_) spares
  exact ⟨held.deleteSettings, held.deletePairing, held.passcode⟩

/-- An undisturbed event leaves the rest of the console alone. -/
theorem rest_step (u : Ui) (event : UiEvent × Outside) (calm : ¬u.Disturbed event) :
    (u.step event).world.console.rest = u.world.console.rest := by
  obtain same | ⟨change, foreign, -⟩ | ⟨running, -, reaction⟩ := u.step_cases event
  · rw [same]
  · exact (calm (.inl (foreign ▸ trivial))).elim
  · have unconfirmed : ¬∃ action : Destructive, u.may event.1 action.change :=
      not_exists.mpr (Ui.calm_of_undisturbed running calm)
    exact (reaction.preserves_world (unwritten_rest.law (fun _ => rest_clockSeed)
      u.world.console.rest) ⟨fun confirms => (unconfirmed confirms).elim, rfl⟩).2

/-! ## Whole runs -/

/-- Deletions and new PINs do after start-up as they did before. -/
theorem spares_started {γ : Type} {observe : Console → γ} {p : Process}
    (spares : p.world.Spares observe) : (Ui.started p).world.Spares observe :=
  world_started p (World.Spares.law observe gateMay)
    ⟨spares.deleteSettings, spares.deletePairing, spares.passcode⟩

/-- On a console whose deletions and new PINs leave the clocks alone, over every run: the clocks
are those before start-up, after the seedings of the events and after what changed them elsewhere;
and a network clock that can be read is only changed by an event elsewhere or by the button of a
dialog that asks for it. -/
theorem clocks_refined (p : Process) (spares : p.world.Spares Console.clock)
    (events : List (UiEvent × Outside)) :
    let u := Runs.run Ui.step (Ui.started p) events
    u.world.console.clock = Runs.run ClockEvent.react p.world.console.clock
        (Runs.translated Ui.step Ui.clockEvents (Ui.started p) events) ∧
      (rSucceeded (u.world.console.clock .networkSystemClock).1 → ∀ event, ¬event.1.Foreign →
        (u.step event).world.console.clock ≠ u.world.console.clock →
          event.1 = .choose .first ∧ (u.layers.head? = some (.dialog .clock) ∨
            u.layers.head? = some (.dialog .clockOverwrite))) := by
  intro u
  have started := spares_started spares
  have kept : u.world.Spares Console.clock :=
    Runs.run_preserves (fun u : Ui => u.world.Spares Console.clock)
      (fun u event _ => spares_step u event) events _
      (Runs.along_of_forall (fun _ _ => trivial) _ _) started
  constructor
  · rw [← console_started p]
    exact Runs.run_refines (fun u : Ui => u.world.Spares Console.clock)
      (fun u : Ui => u.world.console.clock) spares_step clock_step events _ started
  · rintro set ⟨event, outside⟩ own changed
    have step := clock_step u (event, outside) kept
    unfold Ui.clockEvents at step
    cases found : u.seeds (event, outside) with
    | none =>
      cases event with
      | elsewhere change => exact (own trivial).elim
      | _ =>
        simp only [found, Option.map_none, Option.toList_none, ite_self] at step
        exact (changed step).elim
    | some answer =>
      unfold Ui.seeds at found
      split at found
      · split at found
        · rename_i unset
          exact (unset.2 set).elim
        · cases found
      · rename_i asked
        split at found
        · rename_i dialog
          exact ⟨asked, dialog⟩
        · cases found
      · cases found

/-- The sample process, on a console whose network clock was never set. -/
def Process.clockless : Process :=
  { Process.booted .none with
    world := { (Process.booted .none).world with
      console := { Console.sample .zero false with
        clock := fun type => if type = .networkSystemClock then (1, 0) else (0, 100) } } }

/-- Without a network clock, parental controls are deleted and then the network clock is seeded: it
shows the time of the user's clock, and it is the seeding that set it. -/
theorem clocks_refined_sample :
    let u := Runs.run Ui.step (Ui.started .clockless)
      [(.enterPin, .typing [0x31, 0x32, 0x33, 0x34]), (.press .deletePc, .typing []),
        (.choose .first, .typing []), (.press .clock, .typing [])]
    u.world.console.pinLength = 0 ∧ u.world.console.clock .networkSystemClock = (0, 100) := by
  intro u
  have seen := (clocks_refined .clockless ⟨fun _ => rfl, fun _ => rfl, fun _ _ => rfl⟩
    [(.enterPin, .typing [0x31, 0x32, 0x33, 0x34]), (.press .deletePc, .typing []),
      (.choose .first, .typing []), (.press .clock, .typing [])]).1
  have events : Runs.translated Ui.step Ui.clockEvents (Ui.started .clockless)
      [(.enterPin, .typing [0x31, 0x32, 0x33, 0x34]), (.press .deletePc, .typing []),
        (.choose .first, .typing []), (.press .clock, .typing [])] = [.seed 0] := rfl
  rw [events] at seen
  exact ⟨rfl, congrFun seen .networkSystemClock⟩

/-- Over a run without disturbances, the PIN, the safety level and the restrictions are as they
were before start-up. -/
theorem rest_of_console_kept (p : Process) (events : List (UiEvent × Outside))
    (calm : Runs.Along Ui.step (fun u event => ¬u.Disturbed event) (Ui.started p) events) :
    (Runs.run Ui.step (Ui.started p) events).world.console.rest = p.world.console.rest := by
  rw [← console_started p]
  exact Runs.run_preserves (fun u : Ui => u.world.console.rest = _)
    (fun u event calm held => (rest_step u event calm).trans held) events _ calm rfl

/-- The sample console: a limit is set on every day, and the PIN stays as it was. -/
theorem rest_of_console_kept_sample :
    (Runs.run Ui.step (Ui.started (.booted .none)) [(.enterPin, .typing [0x31, 0x32, 0x33, 0x34]),
      (.press .playTimer, .typing []), (.press .setAll, .typing [0x33, 0x30])]).world.console.rest =
        (Process.booted .none).world.console.rest :=
  rest_of_console_kept (.booted .none) [(.enterPin, .typing [0x31, 0x32, 0x33, 0x34]),
    (.press .playTimer, .typing []), (.press .setAll, .typing [0x33, 0x30])]
    ⟨by decide, by decide, by decide, trivial⟩

end PctlManager
