import PctlManager.Verif.Confirmations
import PctlManager.Verif.BedtimeEditor
import PctlManager.Verif.PerDay

/-!
# The guarded writes that events ask for

`Ui.asked` says which guarded write an event comes to: the cell or button that asks for it, with
what the number pads yield. An event of the tool that is no confirmed action does to the console
what the guarded write does that it asks for, and nothing else but to seed a clock
(`unclocked_react`).
-/

namespace PctlManager

open Stateful

/-! ## Handlers without writes -/

/-- A handler of a screen that may not change anything below keeps the console. -/
theorem ScreenBuilt.console {τ α : Type} {part : Part τ App} {m : StateM τ α}
    (built : ScreenBuilt part noChange m) :
    Keeps (fun t => (part.view t).world.console) m := by
  refine built.keeps fun α m step => ?_
  cases step with
  | get => exact fun _ => rfl
  | keep f kept => exact fun t => congrArg (fun app => app.world.console) (kept t)
  | below step =>
    intro t
    simp only [after_zoom, part.view_update]
    cases step with
    | ask built => exact built.console (part.view t).world
    | tell more => rfl
    | guarded call okText allowed => exact allowed.elim

/-! ## What the screens ask for -/

/-- What of the console is no clock. -/
def Console.unclocked (c : Console) : Console := { c with clock := fun _ => (0, 0) }

/-- Seeding the network clock changes nothing else. -/
theorem unclocked_clockSeed (answer : Result) (w : World) :
    (after (clockSeedNetworkFromUser answer) w).console.unclocked = w.console.unclocked := by
  obtain ⟨line, left⟩ := after_clockSeed answer w
  have seen := congrArg (fun v : World => v.console.unclocked) left
  exact seen

/-- A reaction without a write and without a confirmed action changes a clock at most. -/
theorem Ui.Reaction.unclocked {may : Change → Prop} {u v : Ui} (reaction : Ui.Reaction may u v)
    (calm : ∀ action : Destructive, ¬may action.change) (quiet : ∀ call, ¬may (.write call)) :
    v.world.console.unclocked = u.world.console.unclocked := by
  refine reaction.preserves_world (I := fun w => w.console.unclocked = u.world.console.unclocked)
    ⟨fun step w same => ?_, fun call _ allowed => (quiet call allowed).elim⟩ rfl
  cases step with
  | ask built => exact (congrArg Console.unclocked (built.console w)).trans same
  | deleteSettings allowed => exact (calm .deletePc allowed).elim
  | deletePairing allowed => exact (calm .unlink allowed).elim
  | passcode allowed => exact (calm .setPin allowed).elim
  | clock answer => exact (unclocked_clockSeed answer w).trans same

/-! ## What an event asks for -/

/-- The guarded write that the cell for all days asks for. -/
def PlayTimerActivity.setAllAsked (typist : Typist) (app : App) : Option (SetterCall × App) :=
  (promptMinutes "Daily play-time limit for ALL days  (0 = block every day)".toList
    (result guessUniformSeed app) typist).map fun value =>
      (.setUniform value, after guessUniformSeed app)

/-- The guarded write that the bedtime dialog asks for. -/
def PlayTimerActivity.bedtimeAsked (typists : List Typist) (app : App) :
    Option (SetterCall × App) :=
  (promptBedtime (result pctlPlayTimerQuery app.world) typists).map fun bed =>
    (.setBedtime bed, after (pctl pctlPlayTimerQuery) app)

/-- The guarded write that saving asks for. -/
def PerDay.saveAsked (e : PerDay) : Option (SetterCall × App) :=
  if e.changed then some (.setDays e.pending, e.app) else none

/-- The guarded write that a deferred function asks for. -/
def Deferred.asked (outside : Outside) (app : App) : Deferred → Option (SetterCall × App)
  | .chooseAlarm => some (.setMode ptModeAlarm, app)
  | .chooseSuspend => some (.setMode ptModeSuspend, app)
  | .turnBedtimeOff => some (.setBedtime ⟨false, 0, 0, 6, 0⟩, app)
  | .setBedtime => PlayTimerActivity.bedtimeAsked outside.typists app
  | .confirmRemove => some (.clear, app)
  | _ => none

/-- The guarded write that a click on a cell asks for. -/
def Cell.asked (outside : Outside) (u : Ui) : Layer → Cell → Option (SetterCall × App)
  | .playTimer, .setAll => PlayTimerActivity.setAllAsked outside.typist (Ui.appPart.view u)
  | .perDay, .save => (Ui.perDayPart.view u).saveAsked
  | _, _ => none

/-- The guarded write that an event asks for. -/
def Ui.asked (u : Ui) (event : UiEvent × Outside) : Option (SetterCall × App) :=
  match event.1 with
  | .press cell => u.layers.head?.bind fun top => cell.asked event.2 u top
  | .tick => u.deferred.head?.bind fun next => next.asked event.2 (Ui.appPart.view u)
  | _ => none

/-! ## What a guarded write leaves -/

/-- What becomes of the console by the guarded write that is asked for. -/
def carriedOut (c : Console) : Option (SetterCall × App) → Console
  | none => c
  | some (call, app) => (after (guardedWrite call.perform []) app).world.console

/-- The text of a guarded write does not matter to the world. -/
theorem world_guardedWrite_text (write : PctlM Result) (okText okText' : Text) (app : App) :
    (after (guardedWrite write okText) app).world =
      (after (guardedWrite write okText') app).world := by
  by_cases writes : app.world.Writes
  · rw [world_guardedWrite_of_app write okText app writes,
      world_guardedWrite_of_app write okText' app writes]
  · by_cases supported : pctlFwPlayTimerSupported app.world = true
    · by_cases admitted : app.world.Admitted
      · have refused : app.world.Refused := not_not.mp fun allowed => writes ⟨admitted, allowed⟩
        rw [(guardedWrite_of_refused write okText app admitted refused).2,
          (guardedWrite_of_refused write okText' app admitted refused).2]
      · rw [(guardedWrite_of_no_pin write okText app supported admitted).2,
          (guardedWrite_of_no_pin write okText' app supported admitted).2]
    · rw [(guardedWrite_of_unsupported write okText app supported).2,
        (guardedWrite_of_unsupported write okText' app supported).2]

/-- A guarded write of a setter is carried out. -/
theorem console_guardedWrite (call : SetterCall) (okText : Text) (app : App) (c : Console) :
    (after (guardedWrite call.perform okText) app).world.console =
      carriedOut c (some (call, app)) :=
  congrArg World.console (world_guardedWrite_text call.perform okText [] app)

section Screens

variable (screen : PlayTimerActivity) (c : Console)

/-- Refreshing the screen leaves the console alone. -/
theorem console_refreshAll :
    (after PlayTimerActivity.refreshAll screen).app.world.console = screen.app.world.console := by
  have built : TimerBuilt noChange PlayTimerActivity.refreshAll := built_refreshAll
  exact built.console screen

/-- A guess at the value of all days only asks. -/
theorem preserves_guess {I : World → Prop}
    (kept : ∀ {α : Type} {m : PctlM α}, Built noRequest m → Preserves I m) :
    Preserves (fun app : App => I app.world) guessUniformSeed := by
  have built : AppBuilt noChange guessUniformSeed := built_guessUniformSeed
  refine built.preserves fun α m step => ?_
  cases step with
  | ask built => exact (kept built).zoom App.worldPart
  | tell more => exact fun _ held => held
  | guarded call okText allowed => exact allowed.elim

/-- A guess at the value of all days leaves the console alone. -/
theorem console_guess (app : App) :
    (after guessUniformSeed app).world.console = app.world.console :=
  preserves_guess (I := fun w => w.console = app.world.console)
    (fun built w same => (built.console w).trans same) app rfl

/-- A guarded write, and then a refreshed screen. -/
theorem console_then (call : SetterCall) (okText : Text) :
    (after (do
      let _ ← onApp (guardedWrite call.perform okText)
      PlayTimerActivity.refreshAll) screen).app.world.console =
      carriedOut c (some (call, screen.app)) := by
  rw [← console_guardedWrite call okText screen.app, after_bind]
  exact console_refreshAll _

/-- Setting all days carries out what the number pad yields. -/
theorem console_pressSetAll (typist : Typist) :
    (after (PlayTimerActivity.pressSetAll typist) screen).app.world.console =
      carriedOut screen.app.world.console
        (PlayTimerActivity.setAllAsked typist screen.app) := by
  have guessed : result (onApp guessUniformSeed) screen = result guessUniformSeed screen.app := rfl
  unfold PlayTimerActivity.pressSetAll PlayTimerActivity.setAllAsked
  simp only [after_bind, guessed]
  cases prompted : promptMinutes "Daily play-time limit for ALL days  (0 = block every day)".toList
    (result guessUniformSeed screen.app) typist with
  | none => exact console_guess screen.app
  | some value => exact console_then (after (onApp guessUniformSeed) screen) _ (.setUniform value) _

/-- Writing an alarm carries it out. -/
theorem console_writeBedtime (bed : PtBedtime) :
    (after (writeBedtime bed) screen).app.world.console =
      carriedOut c (some (.setBedtime bed, screen.app)) := by
  rw [← console_guardedWrite (.setBedtime bed) (bedtimeOkText bed) screen.app]
  exact (after_writeBedtime bed screen).2.2

/-- Setting the alarm carries out what the prompts come to. -/
theorem console_setBedtime (typists : List Typist) :
    (after (PlayTimerActivity.setBedtime typists) screen).app.world.console =
      carriedOut screen.app.world.console
        (PlayTimerActivity.bedtimeAsked typists screen.app) := by
  have refreshed : (after (PlayTimerActivity.setBedtime typists) screen).app.world.console =
      (after (editBedtimeAlarm typists) screen).app.world.console := console_refreshAll _
  rw [refreshed]
  unfold PlayTimerActivity.bedtimeAsked
  cases entered : promptBedtime (result pctlPlayTimerQuery screen.app.world) typists with
  | none =>
    rw [after_editBedtimeAlarm_of_none entered]
    exact built_pctlPlayTimerQuery.console screen.app.world
  | some bed =>
    rw [after_editBedtimeAlarm_of_some entered]
    exact console_writeBedtime (after (onApp (pctl pctlPlayTimerQuery)) screen) _ bed

/-- Turning the alarm off carries out that it is off. -/
theorem console_turnBedtimeOff :
    (after PlayTimerActivity.turnBedtimeOff screen).app.world.console =
      carriedOut c (some (.setBedtime ⟨false, 0, 0, 6, 0⟩, screen.app)) := by
  rw [← console_writeBedtime screen c]
  exact console_refreshAll _

/-- Saving carries out the staged limits, if some day was changed. -/
theorem console_doSave (e : PerDay) :
    (after PerDay.doSave e).app.world.console = carriedOut e.app.world.console e.saveAsked := by
  have queried (app : App) : (after (pctl pctlPlayTimerQuery) app).world.console =
      app.world.console := built_pctlPlayTimerQuery.console app.world
  unfold PerDay.saveAsked PerDay.doSave
  by_cases changed : e.changed = true
  · have wrote := console_guardedWrite (.setDays e.pending) (saveSummary e.pending) e.app
      e.app.world.console
    rw [if_pos changed, ← wrote]
    simp only [after_bind, result_get, after_get, changed, ↓reduceIte, ui, result_zoom,
      PerDay.appPart, after_zoom, after_ite]
    split
    · exact (PerDay.console_refreshVisible _).trans (queried _)
    · exact (PerDay.console_refreshVisible _).trans (queried _)
  · rw [if_neg changed]
    simp only [after_bind, result_get, after_get, if_neg changed]
    exact rfl

end Screens

/-! ## What an event leaves -/

/-- A deferred function carries out what it asks for. -/
theorem unclocked_perform (next : Deferred) (outside : Outside) (u : Ui) :
    (after (Ui.perform next outside) u).world.console.unclocked =
      (carriedOut u.world.console (next.asked outside (Ui.appPart.view u))).unclocked := by
  have quiet (none : ∀ call, ¬next.may (.write call)) :
      (after (Ui.perform next outside) u).world.console.unclocked = u.world.console.unclocked :=
    (Ui.Reaction.of_built (built_perform next outside) u).unclocked
      (fun _ => Destructive.not_deferred next) none
  have wrote {c d : Console} (same : c = d) : c.unclocked = d.unclocked :=
    congrArg Console.unclocked same
  cases next with
  | gatePrompt => exact quiet fun _ => id
  | checkNetworkClock => exact quiet fun _ same => by cases same
  | setPinToast rc => exact quiet fun _ => id
  | promptDay d => exact quiet fun _ => id
  | chooseAlarm => exact wrote (console_then (Ui.screenPart.view u) _ (.setMode ptModeAlarm) _)
  | chooseSuspend => exact wrote (console_then (Ui.screenPart.view u) _ (.setMode ptModeSuspend) _)
  | turnBedtimeOff => exact wrote (console_turnBedtimeOff (Ui.screenPart.view u) _)
  | setBedtime => exact wrote (console_setBedtime (Ui.screenPart.view u) outside.typists)
  | confirmRemove => exact wrote (console_then (Ui.screenPart.view u) _ .clear _)

/-- A click on a cell carries out what it asks for, if it is not a confirmed action. -/
theorem unclocked_press (top : Layer) (cell : Cell) (outside : Outside) (u : Ui)
    (calm : ∀ action : Destructive, ¬cell.may u.pending top action.change) :
    (after (Ui.press top cell outside) u).world.console.unclocked =
      (carriedOut u.world.console (cell.asked outside u top)).unclocked := by
  have quiet (none : ∀ call, ¬cell.may u.pending top (.write call)) :
      (after (Ui.press top cell outside) u).world.console.unclocked =
        u.world.console.unclocked :=
    (reaction_press top cell outside u).unclocked calm none
  cases top with
  | playTimer =>
    cases cell with
    | setAll =>
      exact congrArg Console.unclocked (console_pressSetAll (Ui.screenPart.view u) outside.typist)
    | _ => exact quiet fun _ => id
  | perDay =>
    cases cell with
    | save => exact congrArg Console.unclocked (console_doSave (Ui.perDayPart.view u))
    | _ => exact quiet fun _ same => by cases same
  | main => cases cell <;> exact quiet fun _ same => by simp [Cell.may, timerMay, noChange] at same
  | _ => exact quiet fun _ => id

/-- Settings are written when a cell is clicked or a deferred function comes to its turn. -/
theorem asks_of_writes {u : Ui} {event : UiEvent} {call : SetterCall}
    (allowed : u.may event (.write call)) :
    (∃ cell, event = .press cell) ∨ event = .tick := by
  obtain ⟨cell, top, rfl, -, -⟩ | ⟨button, d, -, -, may⟩ | ⟨next, rfl, -, -⟩ |
    ⟨top, -, -, may⟩ | gate := Ui.may_cases allowed
  · exact .inl ⟨cell, rfl⟩
  · cases d <;> cases button <;> cases may
  · exact .inr rfl
  · cases top <;> cases may
  · exact gate.elim

/-- An event of the tool that is no confirmed action carries out what it asks for, and changes a
clock at most beside it. -/
theorem unclocked_react (u : Ui) (event : UiEvent) (outside : Outside) (own : ¬event.Foreign)
    (calm : ∀ action : Destructive, ¬u.may event action.change) :
    (u.react outside event).world.console.unclocked =
      (carriedOut u.world.console (u.asked (event, outside))).unclocked := by
  have quiet (none : ∀ call, ¬u.may event (.write call)) :
      (u.react outside event).world.console.unclocked = u.world.console.unclocked :=
    (reaction_react outside u event own).unclocked calm none
  cases event with
  | press cell =>
    unfold Ui.may at calm
    unfold Ui.react Ui.asked
    cases found : u.layers with
    | nil => exact rfl
    | cons top below =>
      simp only [found] at calm
      exact unclocked_press top cell outside u calm
  | tick =>
    unfold Ui.react Ui.asked
    cases u.deferred with
    | nil => exact rfl
    | cons next later => exact unclocked_perform next outside { u with deferred := later }
  | elsewhere change => exact (own trivial).elim
  | _ =>
    refine quiet fun call allowed => ?_
    obtain ⟨cell, other⟩ | other := asks_of_writes allowed <;> cases other

/-- Until a guarded write is asked for, the service layer was only asked. -/
theorem asked_preserves {I : World → Prop}
    (kept : ∀ {α : Type} {m : PctlM α}, Built noRequest m → Preserves I m) {u : Ui}
    {event : UiEvent × Outside} {call : SetterCall} {app : App} (held : I u.world)
    (asked : u.asked event = some (call, app)) : I app.world := by
  unfold Ui.asked at asked
  split at asked
  · obtain ⟨top, -, clicked⟩ := Option.bind_eq_some_iff.mp asked
    unfold Cell.asked at clicked
    split at clicked
    · obtain ⟨value, -, same⟩ := Option.map_eq_some_iff.mp clicked
      cases same
      exact preserves_guess kept (Ui.appPart.view u) held
    · unfold PerDay.saveAsked at clicked
      split at clicked
      · cases clicked
        exact held
      · cases clicked
    · cases clicked
  · obtain ⟨next, -, performed⟩ := Option.bind_eq_some_iff.mp asked
    cases next with
    | setBedtime =>
      obtain ⟨bed, -, same⟩ := Option.map_eq_some_iff.mp performed
      cases same
      exact kept built_pctlPlayTimerQuery u.world held
    | chooseAlarm | chooseSuspend | turnBedtimeOff | confirmRemove =>
      cases performed
      exact held
    | _ => cases performed
  · cases asked

/-- What is asked for is asked of the console as it is. -/
theorem console_asked {u : Ui} {event : UiEvent × Outside} {call : SetterCall} {app : App}
    (asked : u.asked event = some (call, app)) : app.world.console = u.world.console :=
  asked_preserves (I := fun w => w.console = u.world.console)
    (fun built w same => (built.console w).trans same) rfl asked

end PctlManager
