import PctlManager.MainLoop
import PctlManager.Logic.Zoom
import PctlManager.Verif.Session

/-!
# What the handlers are put together from

Every handler of the tool is put together from a few kinds of steps (`UiStep`): looking at the
state, bookkeeping of the UI, an operation of the service layer, a guarded write, and the
diagnostic report. What a handler may change is a parameter of the notion, so one lemma for each
handler serves every invariant of the whole tool: an invariant has to be checked of the steps
only. The guarded write is put together from finer steps of its own (`WriteStep`).
-/

namespace PctlManager

open Stateful

/-- What an event can change: on the console, or of what the UI keeps. -/
inductive Change
  /-- 1043. -/
  | deleteSettings
  /-- 1941. -/
  | deletePairing
  /-- A guarded write of a setter. -/
  | write (call : SetterCall)
  /-- The passcode applet. -/
  | passcode
  /-- The network clock. -/
  | clock
  /-- The staged limits of the per-day editor. -/
  | stage
  /-- An activity or a dialog comes on top. -/
  | opens (layer : Layer)
  /-- The gate above the process. -/
  | gate

/-- Nothing may be changed. -/
def noChange (_ : Change) : Prop := False

/-! ## The guarded write -/

/-- The steps that a guarded write of a setter takes. -/
inductive WriteStep (call : SetterCall) : (α : Type) → AppM α → Prop
  | get : WriteStep call App get
  | ask {α : Type} {m : PctlM α} (built : Built noRequest m) : WriteStep call α (pctl m)
  | unlock : WriteStep call Result (pctl pctlUnlockRestrictionTemporarily)
  | revert : WriteStep call Result (pctl pctlRevertTemporaryUnlock)
  | tell (more : List Notice → List Notice) :
      WriteStep call Unit (modify fun app => { app with shown := more app.shown })
  | invoke : WriteStep call Result (invoke call.perform)

/-- A part of the guarded write is put together from these steps. -/
abbrev WriteBuilt (call : SetterCall) {α : Type} (m : AppM α) : Prop :=
  Composed (WriteStep call) α m

/-- The service layer is a part of the UI. -/
theorem App.lawful_worldPart : App.worldPart.Lawful := ⟨fun _ => rfl, fun _ _ _ => rfl⟩

namespace WriteBuilt

variable {call : SetterCall} {α : Type}

/-- An operation without requests. -/
theorem ask {m : PctlM α} (built : Built noRequest m) : WriteBuilt call (pctl m) :=
  .step (.ask built)

/-- A toast. -/
theorem notify (message : Message) : WriteBuilt call (PctlManager.notify message) :=
  .step (.tell (.toast message :: ·))

/-- A dialog with an OK button. -/
theorem showDialog (message : Message) : WriteBuilt call (PctlManager.showDialog message) :=
  .step (.tell (.dialog message :: ·))

/-- The re-lock. -/
theorem relockConfirmed : WriteBuilt call (pctl PctlManager.relockConfirmed) := by
  have still : WriteBuilt call (pctl (do
      let still ← pctlIsTemporarilyUnlocked
      pure (decide (rSucceeded still.rc ∧ still.out = false)))) :=
    ask (built_pctlIsTemporarilyUnlocked.bind fun _ => .pure _)
  unfold pctl PctlManager.relockConfirmed
  rw [zoom_bind App.lawful_worldPart]
  refine .bind (.step .revert) fun rrc => ?_
  split
  · exact still
  · exact ask (.pure _)

end WriteBuilt

/-- The write and the re-lock. -/
theorem built_writeAndRelock (call : SetterCall) (okText : Text) (relock : Bool) :
    WriteBuilt call (writeAndRelock call.perform okText relock) := by
  have told (rc : Result) (relocked : Bool) : WriteBuilt call (do
      notify (if rFailed rc then .writeFailed rc else .okText okText)
      if relocked = false then showDialog .relockFailed else pure ()
      pure (decide (rSucceeded rc))) := by
    refine (WriteBuilt.notify _).bind fun _ => .ite ?_ (.pure _)
    exact (WriteBuilt.showDialog _).bind fun _ => .pure _
  refine .bind (.step .invoke) fun rc => .ite ?_ (told rc true)
  exact WriteBuilt.relockConfirmed.bind fun relocked => told rc relocked

/-- A guarded write of a setter. -/
theorem built_guardedWrite (call : SetterCall) (okText : Text) :
    WriteBuilt call (guardedWrite call.perform okText) := by
  refine .bind (.step .get) fun app =>
    .ite ?_ ((WriteBuilt.showDialog _).bind fun _ => .pure _)
  refine (WriteBuilt.ask built_pctlStatusFetch).bind fun st =>
    .ite ((WriteBuilt.showDialog _).bind fun _ => .pure _) <|
      (WriteBuilt.ask built_pctlPlayTimerQuery).bind fun pt => .ite ?_ ?_
  · refine .bind (.step .unlock) fun urc => (WriteBuilt.ask built_pctlPlayTimerQuery).bind
      fun later => .ite ((WriteBuilt.notify _).bind fun _ => .ite ?_ (.pure _)) ?_
    · exact .bind (.step .revert) fun _ => .pure _
    · exact built_writeAndRelock call _ _
  · exact (WriteBuilt.ask built_pctlIsTemporarilyUnlocked).bind fun _ =>
      built_writeAndRelock call _ _

/-! ## Steps of the UI below the screens -/

/-- The operations of the service layer that the UI calls outside of a guarded write. -/
inductive ServiceStep (may : Change → Prop) : (α : Type) → PctlM α → Prop
  | ask {α : Type} {m : PctlM α} (built : Built noRequest m) : ServiceStep may α m
  | deleteSettings (allowed : may .deleteSettings) :
      ServiceStep may Result pctlDeleteParentalControls
  | deletePairing (allowed : may .deletePairing) : ServiceStep may Result pctlDeletePairing
  | passcode (allowed : may .passcode) : ServiceStep may Result pctlSetPin
  | clock (answer : Result) (allowed : may .clock) :
      ServiceStep may Result (clockSeedNetworkFromUser answer)

/-- Reading the clocks only asks. -/
theorem built_clockStatus : Built noRequest clockStatus :=
  (Built.get.bind fun _ => .pure _).bind fun _ => (Built.get.bind fun _ => .pure _).bind fun _ =>
    .pure _

/-- Refreshing the panel only asks. -/
theorem built_StatusPanel_refresh (available : Bool) :
    Built noRequest (StatusPanel.refresh available) :=
  Built.get.bind fun _ => (built_clockStatus.bind fun _ => .pure _).bind fun _ =>
    .ite (.pure _) <| built_pctlStatusFetch.bind fun _ =>
      built_pctlPlayTimerQuery.bind fun _ => .pure _

/-- The labels of a header only ask. -/
theorem built_PtStateHeader_refresh : Built noRequest PtStateHeader.refresh :=
  built_pctlPlayTimerQuery.bind fun _ => .pure _

/-- The steps that a screen takes below. -/
inductive AppStep (may : Change → Prop) : (α : Type) → AppM α → Prop
  | ask {α : Type} {m : PctlM α} (built : Built noRequest m) : AppStep may α (pctl m)
  | tell (more : List Notice → List Notice) :
      AppStep may Unit (modify fun app => { app with shown := more app.shown })
  | guarded (call : SetterCall) (okText : Text) (allowed : may (.write call)) :
      AppStep may Bool (guardedWrite call.perform okText)

/-- What a screen does below is put together from these steps. -/
abbrev AppBuilt (may : Change → Prop) {α : Type} (m : AppM α) : Prop := Composed (AppStep may) α m

namespace AppBuilt

variable {may : Change → Prop} {α : Type}

/-- An operation without requests. -/
theorem ask {m : PctlM α} (built : Built noRequest m) : AppBuilt may (pctl m) :=
  .step (.ask built)

/-- A toast. -/
theorem notify (message : Message) : AppBuilt may (PctlManager.notify message) :=
  .step (.tell (.toast message :: ·))

/-- A guarded write. -/
theorem guarded (call : SetterCall) (allowed : may (.write call)) (okText : Text) :
    AppBuilt may (guardedWrite call.perform okText) := .step (.guarded call okText allowed)

end AppBuilt

/-- Guessing a value to start from only asks. -/
theorem built_guessUniformSeed {may : Change → Prop} : AppBuilt may guessUniformSeed :=
  .bind (AppBuilt.ask built_pctlPlayTimerQuery) fun _ => .ite (.pure _) (.ite (.pure _) (.pure _))

/-! ## Steps of a screen -/

/-- The steps of a screen: what it does below, and bookkeeping of its own. -/
inductive ScreenStep {τ : Type} (part : Part τ App) (may : Change → Prop) :
    (α : Type) → StateM τ α → Prop
  | get : ScreenStep part may τ get
  | below {α : Type} {m : AppM α} (step : AppStep may α m) : ScreenStep part may α (zoom part m)
  | keep (f : τ → τ) (kept : ∀ t, part.view (f t) = part.view t) :
      ScreenStep part may Unit (modify f)

/-- The handler of a screen is put together from these steps. -/
abbrev ScreenBuilt {τ : Type} (part : Part τ App) (may : Change → Prop) {α : Type}
    (m : StateM τ α) : Prop := Composed (ScreenStep part may) α m

/-- The UI is a part of the play-timer screen. -/
theorem PlayTimerActivity.lawful_appPart : PlayTimerActivity.appPart.Lawful :=
  ⟨fun _ => rfl, fun _ _ _ => rfl⟩

/-- The UI is a part of the per-day editor. -/
theorem PerDay.lawful_appPart : PerDay.appPart.Lawful := ⟨fun _ => rfl, fun _ _ _ => rfl⟩

section PlayTimerScreen

variable {may : Change → Prop} {α : Type}

/-- A handler of the play-timer screen. -/
abbrev TimerBuilt (may : Change → Prop) {α : Type} (m : ScreenM α) : Prop :=
  ScreenBuilt PlayTimerActivity.appPart may m

/-- What the play-timer screen does below. -/
theorem TimerBuilt.below {m : AppM α} (built : AppBuilt may m) : TimerBuilt may (onApp m) :=
  built.zoom PlayTimerActivity.lawful_appPart fun _ _ step => .step (.below step)

/-- What the play-timer screen asks. -/
theorem TimerBuilt.ask {m : PctlM α} (built : Built noRequest m) :
    TimerBuilt may (onApp (pctl m)) := .below (.ask built)

/-- A dialog or a notice of the play-timer screen. -/
theorem TimerBuilt.popup (p : Popup) : TimerBuilt may (PctlManager.popup p) :=
  .step (.keep (fun s : PlayTimerActivity => { s with popups := p :: s.popups }) fun _ => rfl)

/-- Refreshing the header only asks. -/
theorem built_refreshHeader : TimerBuilt may PlayTimerActivity.refreshHeader :=
  (TimerBuilt.ask built_PtStateHeader_refresh).bind fun _ => .step (.keep _ fun _ => rfl)

/-- Refreshing the screen only asks. -/
theorem built_refreshAll : TimerBuilt may PlayTimerActivity.refreshAll :=
  built_refreshHeader.bind fun _ =>
    (TimerBuilt.ask built_pctlPlayTimerQuery).bind fun _ => .step (.keep _ fun _ => rfl)

/-- Writing the alarm is a guarded write and a readback. -/
theorem built_writeBedtime (bed : PtBedtime) (set : may (.write (.setBedtime bed))) :
    TimerBuilt may (writeBedtime bed) := by
  refine (TimerBuilt.below (AppBuilt.guarded (.setBedtime bed) set _)).bind fun ok =>
    .ite (.pure _) ?_
  refine (TimerBuilt.ask built_pctlBedtimeReadback).bind fun readback => .ite (.pure _) ?_
  exact (TimerBuilt.ask (.log _)).bind fun _ => .ite (TimerBuilt.popup _) (.pure _)

/-- Editing the alarm writes what the two prompts come to. -/
theorem built_editBedtimeAlarm (typists : List Typist)
    (set : ∀ pt, ∀ bed ∈ promptBedtime pt typists, may (.write (.setBedtime bed))) :
    TimerBuilt may (editBedtimeAlarm typists) := by
  refine .bind (TimerBuilt.ask built_pctlPlayTimerQuery) fun pt => ?_
  cases prompted : promptBedtime pt typists with
  | none => exact .pure _
  | some bed => exact built_writeBedtime bed (set pt bed prompted)

/-- The cell that sets all days writes the minutes of the prompt. -/
theorem built_pressSetAll (typist : Typist)
    (set : ∀ header seed, ∀ value ∈ promptMinutes header seed typist,
      may (.write (.setUniform value))) :
    TimerBuilt may (PlayTimerActivity.pressSetAll typist) := by
  refine .bind (TimerBuilt.below built_guessUniformSeed) fun seed => ?_
  cases prompted : promptMinutes "Daily play-time limit for ALL days  (0 = block every day)".toList
    seed typist with
  | none => exact .pure _
  | some value =>
    have written := set _ seed value prompted
    exact (TimerBuilt.below (AppBuilt.guarded (.setUniform value) written _)).bind fun _ =>
      built_refreshAll

/-- The cell of the mode asks, and opens its dialog. -/
theorem built_pressMode : TimerBuilt may PlayTimerActivity.pressMode :=
  (TimerBuilt.ask built_pctlPlayTimerQuery).bind fun _ =>
    .ite (TimerBuilt.popup _) (TimerBuilt.popup _)

/-- A button of the mode's dialog writes its mode. -/
theorem built_chooseMode (mode : UInt8) (set : may (.write (.setMode mode)))
    (okText : Text) : TimerBuilt may (PlayTimerActivity.chooseMode mode okText) :=
  (TimerBuilt.below (AppBuilt.guarded (.setMode mode) set okText)).bind fun _ => built_refreshAll

/-- The cell of the alarm asks, and opens its dialog. -/
theorem built_pressBedtime : TimerBuilt may PlayTimerActivity.pressBedtime :=
  .bind (TimerBuilt.ask built_pctlPlayTimerQuery) fun _ => TimerBuilt.popup _

/-- Turning the alarm off writes that it is off. -/
theorem built_turnBedtimeOff (set : may (.write (.setBedtime ⟨false, 0, 0, 6, 0⟩))) :
    TimerBuilt may PlayTimerActivity.turnBedtimeOff :=
  (built_writeBedtime _ set).bind fun _ => built_refreshAll

/-- Setting the alarm writes what the two prompts come to. -/
theorem built_setBedtime (typists : List Typist)
    (set : ∀ pt, ∀ bed ∈ promptBedtime pt typists, may (.write (.setBedtime bed))) :
    TimerBuilt may (PlayTimerActivity.setBedtime typists) :=
  (built_editBedtimeAlarm typists set).bind fun _ => built_refreshAll

/-- Confirming the removal clears the limits. -/
theorem built_confirmRemove (set : may (.write .clear)) :
    TimerBuilt may PlayTimerActivity.confirmRemove :=
  .bind (TimerBuilt.below (AppBuilt.guarded .clear set _)) fun _ => built_refreshAll

end PlayTimerScreen

section PerDayEditor

variable {may : Change → Prop} {α : Type}

/-- A handler of the per-day editor. -/
abbrev EditorBuilt (may : Change → Prop) {α : Type} (m : PerDayM α) : Prop :=
  ScreenBuilt PerDay.appPart may m

/-- What the per-day editor does below. -/
theorem EditorBuilt.below {m : AppM α} (built : AppBuilt may m) : EditorBuilt may (ui m) :=
  built.zoom PerDay.lawful_appPart fun _ _ step => .step (.below step)

/-- Reloading only asks. -/
theorem built_reloadFromService : EditorBuilt may PerDay.reloadFromService :=
  .bind (EditorBuilt.below (AppBuilt.ask built_pctlPlayTimerQuery)) fun _ =>
    .step (.keep _ fun _ => rfl)

/-- Rendering the labels of the days changes nothing below. -/
theorem built_rerenderDayLabels : EditorBuilt may PerDay.rerenderDayLabels :=
  .step (.keep _ fun _ => rfl)

/-- Refreshing what is visible only asks. -/
theorem built_refreshVisible : EditorBuilt may PerDay.refreshVisible := by
  have header : EditorBuilt may PerDay.refreshHeader :=
    .bind (EditorBuilt.below (AppBuilt.ask built_PtStateHeader_refresh)) fun _ =>
      .step (.keep _ fun _ => rfl)
  exact header.bind fun _ => built_rerenderDayLabels

/-- Coming up only asks. -/
theorem built_PerDay_onContentAvailable : EditorBuilt may PerDay.onContentAvailable :=
  built_reloadFromService.bind fun _ => built_refreshVisible

/-- Staging a value for a day changes nothing below. -/
theorem built_stage (d : Day) (value : UInt16) : EditorBuilt may (do
    modify fun e : PerDay => { e with pending := Function.update e.pending d value }
    PerDay.rerenderDayLabels) :=
  .bind (.step (.keep _ fun _ => rfl)) fun _ => built_rerenderDayLabels

/-- Staging the minutes of a day changes nothing below. -/
theorem built_stageMinutes (d : Day) (typist : Typist) :
    EditorBuilt may (PerDay.stageMinutes d typist) := by
  refine .bind (.step .get) fun e => ?_
  cases promptedMinutes e.pending d typist with
  | none => exact .pure _
  | some v => exact built_stage d v

/-- What saving does in a state writes the staged limits of that state. -/
theorem built_doSave_of {e : PerDay} (set : may (.write (.setDays e.pending))) :
    EditorBuilt may (if e.changed then do
        let ok ← ui (guardedWrite (pctlPlayTimerSetDays e.pending) (saveSummary e.pending))
        if ok then PerDay.reloadFromService
        else
          let live ← ui (pctl pctlPlayTimerQuery)
          modify fun e => { e with live }
        PerDay.refreshVisible
      else ui (notify .noChanges)) := by
  have written := EditorBuilt.below (AppBuilt.guarded (.setDays e.pending) set
    (saveSummary e.pending))
  refine .ite (written.bind fun ok => ?_) (EditorBuilt.below (AppBuilt.notify _))
  refine .ite (built_reloadFromService.bind fun _ => built_refreshVisible) ?_
  exact .bind (EditorBuilt.below (AppBuilt.ask built_pctlPlayTimerQuery)) fun _ =>
    .bind (.step (.keep _ fun _ => rfl)) fun _ => built_refreshVisible

end PerDayEditor

/-! ## Steps of the whole tool -/

/-- Bookkeeping that changes nothing on the console, and of the UI what it may. -/
structure Keeping (may : Change → Prop) (u v : Ui) : Prop where
  /-- The process stays as it is. -/
  process : v.tool.process = u.tool.process
  /-- The gate stays as it is. -/
  gate : v.tool = u.tool ∨ may .gate
  /-- Nothing is written. -/
  writes : v.writes = u.writes
  /-- Nothing is staged. -/
  staged : v.pending = u.pending ∨ may .stage
  /-- What comes on top comes on top of what is there. -/
  layers : ∃ top, v.layers = top ++ u.layers ∧ ∀ layer ∈ top, may (.opens layer)

/-- The steps of the whole tool. -/
inductive UiStep (may : Change → Prop) : (α : Type) → UiM α → Prop
  | get : UiStep may Ui get
  | keep (f : Ui → Ui) (kept : ∀ u, Keeping may u (f u)) : UiStep may Unit (modify f)
  | serve {α : Type} {m : PctlM α} (step : ServiceStep may α m) : UiStep may α (Ui.call m)
  | guarded (call : SetterCall) (okText : Text) (allowed : may (.write call)) :
      UiStep may Bool (zoom Ui.appPart (guardedWrite call.perform okText))
  | dump : UiStep may Unit (zoom Ui.dumpPart (pctlPlayTimerDump 0 MainActivity.diagBufferSize))

/-- The handler is put together from these steps. -/
abbrev UiBuilt (may : Change → Prop) {α : Type} (m : UiM α) : Prop := Composed (UiStep may) α m

/-- The parts of the whole tool are lawful. -/
theorem Ui.lawful_parts : Ui.toolPart.Lawful ∧ Ui.worldPart.Lawful ∧ Ui.screenPart.Lawful ∧
    Ui.perDayPart.Lawful :=
  ⟨⟨fun _ => rfl, fun _ _ _ => rfl⟩, ⟨fun _ => rfl, fun _ _ _ => rfl⟩,
    ⟨fun _ => rfl, fun _ _ _ => rfl⟩, ⟨fun _ => rfl, fun _ _ _ => rfl⟩⟩

/-- What the play-timer screen may change: it writes, and opens its own dialogs. -/
def timerMay (sets : SetterCall → Prop) : Change → Prop
  | .write call => sets call
  | .opens layer => layer ∈ [.playTimer, .dialog .mode, .dialog .bedtime, .dialog .remove]
  | _ => False

/-- What the per-day editor may change: it writes, and stages limits. -/
def editorMay (sets : SetterCall → Prop) : Change → Prop
  | .write call => sets call
  | .stage => True
  | .opens layer => layer = .perDay
  | _ => False

namespace UiBuilt

variable {may : Change → Prop} {α : Type}

/-- An operation without requests. -/
theorem ask {m : PctlM α} (built : Built noRequest m) : UiBuilt may (Ui.call m) :=
  .step (.serve (.ask built))

/-- Bookkeeping without consequences. -/
theorem keep (f : Ui → Ui)
    (kept : ∀ u, (f u).tool = u.tool ∧ (f u).writes = u.writes ∧
      (f u).pending = u.pending ∧ (f u).layers = u.layers) :
    UiBuilt may (modify f : UiM Unit) := by
  refine .step (.keep f fun u => ?_)
  obtain ⟨tool, writes, pending, layers⟩ := kept u
  exact ⟨congrArg Tool.process tool, .inl tool, writes, .inl pending, [], layers,
    fun _ none => by cases none⟩

/-- An activity or a dialog on top. -/
theorem push (layer : Layer) (allowed : may (.opens layer)) : UiBuilt may (Ui.push layer) := by
  refine .step (.keep _ fun u => ⟨rfl, .inl rfl, rfl, .inl rfl, [layer], rfl, fun _ top => ?_⟩)
  rw [List.mem_singleton.mp top]
  exact allowed

/-- A deferred function. -/
theorem sync (later : Deferred) : UiBuilt may (Ui.sync later) :=
  keep _ fun _ => ⟨rfl, rfl, rfl, rfl⟩

/-- A toast of the main menu. -/
theorem toast (t : Toast) : UiBuilt may (Ui.toast t) := keep _ fun _ => ⟨rfl, rfl, rfl, rfl⟩

/-- Refreshing the panel only asks. -/
theorem refreshPanel : UiBuilt may Ui.refreshPanel :=
  .bind (.step .get) fun _ => (ask (built_StatusPanel_refresh _)).bind fun _ =>
    keep _ fun _ => ⟨rfl, rfl, rfl, rfl⟩

/-- What a screen does below. -/
theorem app {m : AppM α} (step : AppStep may α m) : UiBuilt may (zoom Ui.appPart m) := by
  cases step with
  | ask built => exact ask built
  | tell more =>
    exact keep (fun u => { u with shown := more u.shown }) fun _ => ⟨rfl, rfl, rfl, rfl⟩
  | guarded call okText allowed => exact .step (.guarded call okText allowed)

/-- The handler of a screen that is a part of the whole tool. -/
theorem screen {τ : Type} {outer : Part Ui τ} {part : Part τ App} (lawful : outer.Lawful)
    (inner : outer.comp part = Ui.appPart)
    (frame : ∀ u t, (outer.update u t).tool =
        { u.tool with process.world := (part.view t).world } ∧
      (outer.update u t).writes = (part.view t).writes ∧
      (outer.update u t).layers = u.layers ∧
      ((outer.update u t).pending = u.pending ∨ may .stage))
    {m : StateM τ α} (built : ScreenBuilt part may m) : UiBuilt may (zoom outer m) := by
  refine Composed.zoom lawful (fun α m step => ?_) built
  cases step with
  | get =>
    rw [zoom_get lawful]
    exact .bind (.step .get) fun _ => .pure _
  | below step =>
    rw [zoom_zoom, inner]
    exact app step
  | keep f kept =>
    refine .step (.keep (fun u => outer.update u (f (outer.view u))) fun u => ?_)
    have view : part.view (outer.view u) = Ui.appPart.view u :=
      congrFun (congrArg Part.view inner) u
    obtain ⟨tool, writes, layers, pending⟩ := frame u (f (outer.view u))
    rw [kept, view] at tool writes
    exact ⟨congrArg Tool.process tool, .inl tool, writes, pending, [], layers,
      fun _ none => by cases none⟩

/-- The play-timer screen opens its own dialogs only. -/
theorem mem_popupLayers {popups : List Popup} {layer : Layer}
    (opened : layer ∈ popups.flatMap Ui.popupLayers) :
    layer ∈ [.playTimer, .dialog .mode, .dialog .bedtime, .dialog .remove] := by
  obtain ⟨p, -, found⟩ := List.mem_flatMap.mp opened
  cases p <;> simp_all [Ui.popupLayers]

/-- A handler of the play-timer screen. -/
theorem onScreen {sets : SetterCall → Prop} {m : ScreenM Unit}
    (built : TimerBuilt (timerMay sets) m) : UiBuilt (timerMay sets) (Ui.onScreen m) := by
  refine .bind (.step .get) fun u => .bind ?_ fun _ => .step (.keep _ fun v => ?_)
  · exact screen Ui.lawful_parts.2.2.1 rfl (fun _ _ => ⟨rfl, rfl, rfl, .inl rfl⟩) built
  · exact ⟨rfl, .inl rfl, rfl, .inl rfl, _, rfl, fun _ opened => mem_popupLayers opened⟩

/-- A handler of the per-day editor. -/
theorem onEditor {sets : SetterCall → Prop} {m : PerDayM Unit}
    (built : EditorBuilt (editorMay sets) m) : UiBuilt (editorMay sets) (Ui.onEditor m) :=
  screen Ui.lawful_parts.2.2.2 rfl (fun _ _ => ⟨rfl, rfl, rfl, .inr trivial⟩) built

/-- The main menu that comes up only asks. -/
theorem pushMain (allowed : may (.opens .main)) : UiBuilt may (Ui.pushActivity .main) :=
  (push _ allowed).bind fun _ => refreshPanel.bind fun _ => sync _

/-- The play-timer screen that comes up only asks. -/
theorem pushPlayTimer (sets : SetterCall → Prop) :
    UiBuilt (timerMay sets) (Ui.pushActivity .playTimer) := by
  have allowed : timerMay sets (.opens .playTimer) := List.mem_cons_self
  exact (push _ allowed).bind fun _ => onScreen built_refreshAll

/-- The per-day editor that comes up only asks, and stages what it read. -/
theorem pushPerDay (sets : SetterCall → Prop) :
    UiBuilt (editorMay sets) (Ui.pushActivity .perDay) := by
  have allowed : editorMay sets (.opens .perDay) := rfl
  exact (push _ allowed).bind fun _ => onEditor built_PerDay_onContentAvailable

/-- An activity that start-up or the gate pushes only asks. -/
theorem pushLayerOf {activity : Activity} (allowed : may (.opens (Ui.layerOf activity))) :
    UiBuilt may (Ui.pushActivity (Ui.layerOf activity)) := by
  cases activity with
  | main => exact pushMain allowed
  | pinGate => exact (push _ allowed).bind fun _ => sync _
  | initError => exact push _ allowed

end UiBuilt

/-! ## The gate -/

/-- The steps of the gate. -/
inductive GateStep : (α : Type) → ToolM α → Prop
  | get : GateStep Tool get
  | ask {α : Type} {m : PctlM α} (built : Built noRequest m) : GateStep α (service m)
  | keep (f : Tool → Tool) (kept : ∀ t, (f t).process = t.process) : GateStep Unit (modify f)

/-- A part of the gate is put together from its steps. -/
abbrev GateBuilt {α : Type} (m : ToolM α) : Prop := Composed GateStep α m

/-- Letting the user through changes nothing below. -/
theorem built_letThrough : GateBuilt PinGate.letThrough :=
  .bind (.step (.keep _ fun _ => rfl)) fun _ => .step (.keep _ fun _ => rfl)

/-- Quitting changes nothing below. -/
theorem built_quit : GateBuilt Application.quit := .step (.keep _ fun _ => rfl)

/-- The status label changes nothing below. -/
theorem built_setStatus (status : GateStatus) : GateBuilt (setStatus status) :=
  .step (.keep _ fun _ => rfl)

/-- Counting a wrong entry writes a line into the log. -/
theorem built_countWrong : GateBuilt PinGate.countWrong :=
  .bind (.step (.keep _ fun _ => rfl)) fun _ => .bind (.step .get) fun _ =>
    .bind (.step (.ask (.log _))) fun _ => .ite built_quit (built_setStatus _)

/-- The prompt reads the PIN, and changes nothing on the console. -/
theorem built_prompt (typist : Typist) : GateBuilt (PinGate.prompt typist) := by
  refine .bind (.step .get) fun t => .ite (.pure _) ?_
  refine .bind (.step (.ask (built_pctlGetPin _))) fun pin => .ite (built_setStatus _) ?_
  refine .ite (.bind (.step (.ask (.log _))) fun _ => built_letThrough) ?_
  split
  · exact .pure _
  · exact .ite built_letThrough built_countWrong

/-- Returning to the gate changes nothing below. -/
theorem built_PinGate_onResume : GateBuilt PinGate.onResume :=
  .bind (.step .get) fun _ => .ite built_quit (.pure _)

/-- What the gate may change: itself, and the activities on top. -/
def gateMay : Change → Prop
  | .gate => True
  | .opens layer => ∃ activity, layer = Ui.layerOf activity
  | _ => False

/-- What the gate does changes the gate only. -/
theorem UiBuilt.onTool {m : ToolM Unit} (built : GateBuilt m) : UiBuilt gateMay (Ui.onTool m) := by
  refine .bind (.step .get) fun u => .bind ?_ fun _ => .bind (.step .get) fun v => ?_
  · refine Composed.zoom Ui.lawful_parts.1 (fun α m step => ?_) built
    cases step with
    | get =>
      rw [zoom_get Ui.lawful_parts.1]
      exact .bind (.step .get) fun _ => .pure _
    | ask built => exact UiBuilt.ask built
    | keep f kept =>
      refine .step (.keep (fun u => { u with tool := f u.tool }) fun u => ?_)
      exact ⟨kept u.tool, .inr trivial, rfl, .inl rfl, [], rfl, fun _ none => by cases none⟩
  · exact Composed.forM (fun activity => UiBuilt.pushLayerOf ⟨activity, rfl⟩) _

end PctlManager
