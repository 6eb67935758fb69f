import PctlManager.Verif.Asked

/-!
# The settings over whole runs

The play-timer settings, seen as registers, over whole runs of the tool. Every run writes the
registers that its events ask for, in order, as far as the guarded writes get through, and
nothing else writes them but the console on its own and the confirmed actions
(`settings_refined`). So limits of more than a day and alarms at no time of day never come from
the tool: settings that are sane stay sane, and so does what the per-day editor stages
(`settings_stay_sane`).
-/

namespace PctlManager

open Stateful Spec

/-! ## Register writes -/

/-- The registers of the play timer. -/
def World.registers (w : World) : Registers Day UInt16 Alarm := registersOf w.console.stored

/-- What happens to the registers. -/
inductive RegisterEvent
  /-- A setter is called and gets through. -/
  | call (setter : SetterCall)
  /-- They change without the tool's setters. -/
  | elsewhere (r : Registers Day UInt16 Alarm)

/-- The registers after an event. -/
def RegisterEvent.react (r : Registers Day UInt16 Alarm) : RegisterEvent →
    Registers Day UInt16 Alarm
  | .call setter => setter.spec r
  | .elsewhere left => left

/-- The register writes of a guarded write that is asked for in a state: one, if it gets through
there. -/
def written : Option (SetterCall × App) → List RegisterEvent
  | none => []
  | some (call, app) => if app.world.Stores then [.call call] else []

/-- A guarded write that is asked for. -/
theorem written_some (call : SetterCall) (app : App) :
    written (some (call, app)) = if app.world.Stores then [.call call] else [] := rfl

/-- A guarded write writes the registers if it gets through. -/
theorem registers_guardedWrite (call : SetterCall) (okText : Text) (app : App) :
    (after (guardedWrite call.perform okText) app).world.registers =
      Runs.run RegisterEvent.react app.world.registers (written (some (call, app))) := by
  rw [written_some]
  by_cases stores : app.world.Stores
  · rw [if_pos stores]
    exact call.registersOf_guarded okText app stores
  · rw [if_neg stores]
    exact congrArg registersOf (call.stored_guarded_of_not_stores okText app stores)

/-! ## One event -/

instance : ∀ event : UiEvent, Decidable event.Foreign
  | .elsewhere _ => .isTrue trivial
  | .press _ | .enterPin | .choose _ | .back | .tick | .resume => .isFalse id

/-- The settings may change without a setter: the console changes on its own, or an action was
confirmed that may delete them. -/
def Ui.Disturbed (u : Ui) (event : UiEvent × Outside) : Prop :=
  event.1.Foreign ∨ ∃ action ∈ [Destructive.deletePc, .unlink, .setPin], action.Confirmed u event

instance (u : Ui) (event : UiEvent × Outside) : Decidable (u.Disturbed event) :=
  inferInstanceAs (Decidable (_ ∨ ∃ _ ∈ _, _))

/-- What the registers see of an event. -/
def Ui.registerEvents (u : Ui) (event : UiEvent × Outside) : List RegisterEvent :=
  if u.tool.quit then []
  else if u.Disturbed event then [.elsewhere (u.step event).world.registers]
  else written (u.asked event)

/-- What is carried out writes the registers if it gets through. -/
theorem registers_carriedOut {c : Console} {asked : Option (SetterCall × App)}
    (here : ∀ call app, asked = some (call, app) → app.world.console = c) :
    registersOf (carriedOut c asked).stored =
      Runs.run RegisterEvent.react (registersOf c.stored) (written asked) := by
  cases asked with
  | none => rfl
  | some write =>
    obtain ⟨call, app⟩ := write
    have wrote := registers_guardedWrite call [] app
    unfold World.registers at wrote
    rw [here call app rfl] at wrote
    exact wrote

/-- An event of the tool that is no confirmed action writes what it asks for. -/
theorem registers_react (u : Ui) (event : UiEvent) (outside : Outside) (own : ¬event.Foreign)
    (calm : ∀ action : Destructive, ¬u.may event action.change) :
    (u.react outside event).world.registers =
      Runs.run RegisterEvent.react u.world.registers (written (u.asked (event, outside))) := by
  have left := unclocked_react u event outside own calm
  have stored := congrArg Console.stored left
  rw [World.registers, World.registers, ← registers_carriedOut fun _ _ => console_asked]
  exact congrArg registersOf stored

/-- A running tool whose event is no disturbance confirms no action. -/
theorem Ui.calm_of_undisturbed {u : Ui} (running : u.tool.quit = false)
    {event : UiEvent × Outside} (calm : ¬u.Disturbed event) (action : Destructive) :
    ¬u.may event.1 action.change := by
  intro allowed
  have confirmed : action.Confirmed u event :=
    Destructive.confirmed_of_may running event.2 allowed
  exact calm (.inr ⟨action, by cases action <;> decide, confirmed⟩)

/-- Every event does to the registers what they see of it. -/
theorem registers_step (u : Ui) (event : UiEvent × Outside) :
    (u.step event).world.registers =
      Runs.run RegisterEvent.react u.world.registers (u.registerEvents event) := by
  unfold Ui.registerEvents
  by_cases running : u.tool.quit = true
  · rw [if_pos running, Ui.step, if_pos running]
    exact rfl
  · by_cases disturbed : u.Disturbed event
    · rw [if_neg running, if_pos disturbed]
      exact rfl
    · rw [if_neg running, if_neg disturbed, Ui.step, if_neg running]
      exact registers_react u event.1 event.2 (fun foreign => disturbed (.inl foreign))
        (Ui.calm_of_undisturbed (Bool.eq_false_iff.mpr running) disturbed)

/-- Start-up leaves the console alone. -/
theorem console_started (p : Process) : (Ui.started p).world.console = p.world.console := by
  have law : WorldLaw gateMay fun w => w.console = p.world.console :=
    .of_quiet (fun _ => id) fun built w same => (built.console w).trans same
  refine world_started p law ?_
  rw [(result_appInit p).2.1]
  exact rfl

/-- Start-up leaves the registers alone. -/
theorem registers_started (p : Process) :
    (Ui.started p).world.registers = p.world.registers :=
  congrArg (fun c : Console => registersOf c.stored) (console_started p)

/-- Over every run of the tool, the registers are those before start-up, after the setters that
the events asked for and that got through, in order, and after what changed them elsewhere. -/
theorem settings_refined (p : Process) (events : List (UiEvent × Outside)) :
    (Runs.run Ui.step (Ui.started p) events).world.registers =
      Runs.run RegisterEvent.react p.world.registers
        (Runs.translated Ui.step Ui.registerEvents (Ui.started p) events) := by
  rw [← registers_started p]
  exact Runs.run_refines (fun _ => True) (fun u : Ui => u.world.registers) (fun _ _ _ => trivial)
    (fun u event _ => registers_step u event) events _ trivial

/-! ## What may be written -/

/-- A limit of a day at most. -/
def LimitSane (minutes : UInt16) : Prop := minutes.toNat ≤ 1440

/-- An alarm at times of day. -/
def Alarm.Sane (a : Alarm) : Prop :=
  HourMinute.Valid ⟨a.hour, a.minute⟩ ∧ HourMinute.Valid ⟨a.resetHour, a.resetMinute⟩

/-- The minutes of every day are no limit, or a limit of a day at most. -/
def DaysSane (minutes : Day → UInt16) : Prop :=
  ∀ d, ∀ limit ∈ Sentinel.decode ptDayNoLimit (minutes d), LimitSane limit

/-- The registers hold limits of a day at most, and alarms at times of day. -/
def RegistersSane (r : Registers Day UInt16 Alarm) : Prop := r.All LimitSane Alarm.Sane

/-- The setter writes limits of a day at most, and alarms at times of day. -/
def SetterCall.Sane : SetterCall → Prop
  | .setDays minutes => DaysSane minutes
  | .setUniform minutes => DaysSane fun _ => minutes
  | .setBedtime bed => bed.Valid
  | .clear | .setMode _ => True

/-- Such a call keeps the registers sane. -/
theorem SetterCall.Sane.spec {call : SetterCall} (fine : call.Sane)
    {r : Registers Day UInt16 Alarm} (sane : RegistersSane r) : RegistersSane (call.spec r) := by
  cases call with
  | setDays minutes => exact sane.setLimits fine
  | setUniform minutes => exact sane.setLimits fine
  | clear => exact sane.setLimits fun d limit none => by cases none
  | setBedtime bed =>
    refine sane.setAlarms fun _ alarm rings => ?_
    unfold PtBedtime.alarm at rings
    split at rings
    · rename_i enabled
      cases rings
      exact fine enabled
    · cases rings
  | setMode mode => exact sane.setSuspend _

/-- A guarded write of such a call keeps them sane too. -/
theorem RegistersSane.written {r : Registers Day UInt16 Alarm} (sane : RegistersSane r)
    {asked : Option (SetterCall × App)} (fine : ∀ call app, asked = some (call, app) → call.Sane) :
    RegistersSane (Runs.run RegisterEvent.react r (written asked)) := by
  cases asked with
  | none => exact sane
  | some write =>
    obtain ⟨call, app⟩ := write
    have now : call.Sane := fine call app rfl
    rw [written_some]
    split
    · exact now.spec sane
    · exact sane

/-- A word of a day at most reads as a limit of a day at most. -/
theorem limitSane_of_le {minutes : UInt16} (bound : minutes.toNat ≤ 1440) :
    ∀ limit ∈ Sentinel.decode ptDayNoLimit minutes, LimitSane limit := by
  intro limit decoded
  unfold Sentinel.decode at decoded
  split at decoded
  · cases decoded
  · cases decoded
    exact bound

/-- A limit that is staged has to be sane. -/
theorem DaysSane.update {minutes : Day → UInt16} (sane : DaysSane minutes) (d : Day)
    {word : UInt16} (fine : ∀ limit ∈ Sentinel.decode ptDayNoLimit word, LimitSane limit) :
    DaysSane (Function.update minutes d word) := by
  intro n
  by_cases same : n = d
  · subst same
    rw [Function.update_self]
    exact fine
  · rw [Function.update_of_ne same]
    exact sane n

/-- A snapshot of sane settings is sane, also when nothing can be read. -/
theorem daysSane_query {w : World} (sane : RegistersSane w.registers) :
    DaysSane (result pctlPlayTimerQuery w).dayMin := by
  intro d limit decoded
  by_cases reads : w.Reads
  · rw [dayMin_of_reads reads] at decoded
    have stored := (sane d).1
    rw [World.registers, limits_registersOf] at stored
    cases found : limitOf (daySlot w.console.stored d) with
    | none =>
      rw [found, Sentinel.encode, Sentinel.decode_reserved] at decoded
      cases decoded
    | some minutes =>
      rw [found] at decoded
      exact limitSane_of_le (stored minutes found) limit decoded
  · have invalid := mt (valid_iff_reads w).mp reads
    rw [dayMin_pctlPlayTimerQuery w (Bool.not_eq_true _ ▸ invalid), Sentinel.decode_reserved]
      at decoded
    cases decoded

/-- Whatever a deferred function asks for is sane. -/
theorem Deferred.sane_asked {next : Deferred} {outside : Outside} {app found : App}
    {call : SetterCall} (asked : next.asked outside app = some (call, found)) : call.Sane := by
  cases next with
  | chooseAlarm =>
    cases asked
    exact trivial
  | chooseSuspend =>
    cases asked
    exact trivial
  | turnBedtimeOff =>
    cases asked
    exact fun on => by cases on
  | setBedtime =>
    obtain ⟨bed, entered, same⟩ := Option.map_eq_some_iff.mp asked
    cases same
    exact valid_of_promptBedtime entered
  | confirmRemove =>
    cases asked
    exact trivial
  | _ => cases asked

/-- Whatever a click asks for is sane, if what is staged is. -/
theorem Cell.sane_asked {u : Ui} (staged : DaysSane u.pending) {cell : Cell} {top : Layer}
    {outside : Outside} {found : App} {call : SetterCall}
    (asked : cell.asked outside u top = some (call, found)) : call.Sane := by
  unfold Cell.asked at asked
  split at asked
  · obtain ⟨value, entered, same⟩ := Option.map_eq_some_iff.mp asked
    cases same
    exact fun _ => limitSane_of_le (promptMinutes_le entered)
  · unfold PerDay.saveAsked at asked
    split at asked
    · cases asked
      exact staged
    · cases asked
  · cases asked

/-- Whatever an event asks for is sane, if what is staged is. -/
theorem sane_asked {u : Ui} (staged : DaysSane u.pending) {event : UiEvent × Outside}
    {call : SetterCall} {found : App} (asked : u.asked event = some (call, found)) :
    call.Sane := by
  unfold Ui.asked at asked
  split at asked
  · obtain ⟨top, -, clicked⟩ := Option.bind_eq_some_iff.mp asked
    exact Cell.sane_asked staged clicked
  · obtain ⟨next, -, performed⟩ := Option.bind_eq_some_iff.mp asked
    exact Deferred.sane_asked performed
  · cases asked

/-! ## What is staged -/

/-- A handler that may not stage anything leaves the staged limits alone. -/
theorem UiBuilt.pending {may : Change → Prop} {α : Type} {m : UiM α} (built : UiBuilt may m)
    (closed : ¬may .stage) : Keeps Ui.pending m := by
  have below {τ β : Type} (part : Part Ui τ) {n : StateM τ β}
      (frame : ∀ u t, (part.update u t).pending = u.pending) :
      Keeps Ui.pending (zoom part n) := fun u => frame u _
  refine built.keeps fun α m step => ?_
  cases step with
  | get => exact fun _ => rfl
  | keep f kept => exact fun u => (kept u).staged.resolve_right closed
  | serve step => exact below Ui.worldPart fun _ _ => rfl
  | guarded call okText allowed => exact below Ui.appPart fun _ _ => rfl
  | dump => exact below Ui.dumpPart fun _ _ => rfl

/-- Saving sane limits leaves sane limits staged. -/
theorem daysSane_doSave (e : PerDay) (sane : RegistersSane e.app.world.registers)
    (staged : DaysSane e.pending) : DaysSane (after PerDay.doSave e).pending := by
  by_cases saves : e.Saves
  · rw [(e.doSave_of_saves saves).1]
    refine daysSane_query ?_
    have wrote := registers_guardedWrite (.setDays e.pending) (saveSummary e.pending) e.app
    refine Eq.symm wrote ▸ sane.written fun call app same => ?_
    cases same
    exact staged
  · rw [(e.doSave_of_not_saves saves).1]
    exact staged

/-- Staging the minutes of a day stages sane limits. -/
theorem daysSane_stageMinutes (d : Day) (typist : Typist) (e : PerDay)
    (staged : DaysSane e.pending) : DaysSane (after (PerDay.stageMinutes d typist) e).pending := by
  unfold PerDay.stageMinutes
  rw [after_bind]
  simp only [result_get, after_get]
  split
  · exact staged
  · rename_i minutes entered
    exact staged.update d (limitSane_of_le (promptMinutes_le entered))

/-- A click keeps the staged limits sane. -/
theorem daysSane_press (top : Layer) (cell : Cell) (outside : Outside) (u : Ui)
    (sane : RegistersSane u.world.registers) (staged : DaysSane u.pending) :
    DaysSane (after (Ui.press top cell outside) u).pending := by
  have quiet (closed : ¬cell.may u.pending top .stage) :
      DaysSane (after (Ui.press top cell outside) u).pending := by
    obtain ⟨m, popped, built, same, left⟩ := reaction_press top cell outside u
    rw [left, built.pending closed popped, same.pending]
    exact staged
  cases top with
  | playTimer =>
    cases cell with
    | perDay => exact daysSane_query (w := u.world) sane
    | _ => exact quiet id
  | perDay =>
    cases cell with
    | save => exact daysSane_doSave (Ui.perDayPart.view u) sane staged
    | _ => exact quiet fun same => by cases same
  | main => cases cell <;> exact quiet fun same => by simp [Cell.may, timerMay, noChange] at same
  | _ => exact quiet id

/-- A handler that may not stage anything keeps the staged limits sane. -/
theorem DaysSane.quiet {may : Change → Prop} {u : Ui} (staged : DaysSane u.pending)
    {m : UiM Unit} (built : UiBuilt may m) (closed : ¬may .stage) :
    DaysSane (after m u).pending := by
  rw [built.pending closed u]
  exact staged

/-- A button of a dialog keeps the staged limits sane. -/
theorem daysSane_choose (d : Dialog) (button : Button) (outside : Outside) (u : Ui)
    (staged : DaysSane u.pending) : DaysSane (after (Ui.choose d button outside) u).pending := by
  have quiet := staged.quiet (built_choose d button outside)
  cases d with
  | day d =>
    cases button with
    | first => exact staged.update d fun limit none => by cases none
    | _ => exact quiet id
  | _ => cases button <;> exact quiet fun same => by cases same

/-- A deferred function keeps the staged limits sane. -/
theorem daysSane_perform (next : Deferred) (outside : Outside) (u : Ui)
    (staged : DaysSane u.pending) : DaysSane (after (Ui.perform next outside) u).pending := by
  have quiet := staged.quiet (built_perform next outside)
  cases next with
  | promptDay d => exact daysSane_stageMinutes d outside.typist (Ui.perDayPart.view u) staged
  | checkNetworkClock => exact quiet fun same => by cases same
  | _ => exact quiet id

/-- Resuming keeps the staged limits sane. -/
theorem daysSane_resume (top : Layer) (u : Ui) (staged : DaysSane u.pending) :
    DaysSane (after (Ui.resume top) u).pending := by
  have quiet := staged.quiet (built_resume top)
  cases top with
  | perDay => exact staged
  | _ => exact quiet id

/-- Every event of the tool keeps the staged limits sane. -/
theorem daysSane_react (u : Ui) (event : UiEvent) (outside : Outside)
    (sane : RegistersSane u.world.registers) (staged : DaysSane u.pending) :
    DaysSane (u.react outside event).pending := by
  unfold Ui.react
  cases event with
  | press cell =>
    cases u.layers with
    | nil => exact staged
    | cons top below => exact daysSane_press top cell outside u sane staged
  | choose button =>
    cases u.layers with
    | nil => exact staged
    | cons top below =>
      cases top with
      | dialog d =>
        by_cases offered : d.has button = true
        · simp only [if_pos offered]
          exact daysSane_choose d button outside { u with layers := below } staged
        · simp only [if_neg offered]
          exact staged
      | _ => exact staged
  | tick =>
    cases u.deferred with
    | nil => exact staged
    | cons next later =>
      exact daysSane_perform next outside { u with deferred := later } staged
  | resume =>
    cases u.layers with
    | nil => exact staged
    | cons top below => exact daysSane_resume top u staged
  | enterPin =>
    cases u.layers with
    | nil => exact staged
    | cons top below =>
      cases top with
      | pinGate => exact staged.quiet (.onTool (built_prompt _)) id
      | _ => exact staged
  | back =>
    cases found : u.layers with
    | nil => exact staged
    | cons top below =>
      obtain ⟨m, popped, built, same, left⟩ := reaction_back top below u found
      have closed : ¬top.mayBack below .stage := by cases top <;> cases below <;> exact id
      simp only [left, built.pending closed popped, same.pending]
      exact staged
  | elsewhere change => exact staged

/-! ## Sane settings -/

/-- What is stored and what is staged is sane. -/
structure Ui.SettingsSane (u : Ui) : Prop where
  /-- The stored settings. -/
  stored : RegistersSane u.world.registers
  /-- The staged limits. -/
  staged : DaysSane u.pending

/-- Every event keeps the settings sane, if what else changes them does. -/
theorem Ui.SettingsSane.step {u : Ui} (sane : u.SettingsSane) {event : UiEvent × Outside}
    (kept : u.Disturbed event → RegistersSane (u.step event).world.registers) :
    (u.step event).SettingsSane := by
  constructor
  · rw [registers_step]
    unfold Ui.registerEvents
    split
    · exact sane.stored
    · split
      · exact kept ‹u.Disturbed event›
      · exact sane.stored.written fun call app asked => sane_asked sane.staged asked
  · unfold Ui.step
    split
    · exact sane.staged
    · exact daysSane_react u event.1 event.2 sane.stored sane.staged

/-- Settings that are sane before start-up stay sane over every run, and so does what the
per-day editor stages, if every change of the console on its own and every confirmed action
leaves sane settings. A snapshot then always stands for the limits that it read. -/
theorem settings_stay_sane (p : Process) (sane : RegistersSane p.world.registers)
    (events : List (UiEvent × Outside))
    (kept : Runs.Along Ui.step (fun u event => u.Disturbed event →
      RegistersSane (u.step event).world.registers) (Ui.started p) events) :
    let u := Runs.run Ui.step (Ui.started p) events
    u.SettingsSane ∧ (pctlFwPlayTimerSupported u.world = true →
      u.world.Reaches 2 .getPlayTimerSettings 0 → ∀ d, u.world.Shows d) := by
  intro u
  have started : (Ui.started p).SettingsSane := by
    refine ⟨(registers_started p).symm ▸ sane, ?_⟩
    obtain ⟨m, popped, built, same, left⟩ := reaction_started p
    rw [left, built.pending id popped, same.pending]
    exact fun d limit none => by cases none
  have settled : u.SettingsSane := Runs.run_preserves Ui.SettingsSane
    (fun _ _ kept sane => sane.step kept) events _ kept started
  refine ⟨settled, fun supported reaches d => ?_⟩
  rw [World.Shows, if_pos ⟨supported, reaches⟩]
  intro hidden
  have stored := (settled.stored d).1
  rw [World.registers, limits_registersOf] at stored
  have bound : (0xFFFF : UInt16).toNat ≤ 1440 := stored _ hidden
  exact absurd bound (by decide)

/-- The sample console has nothing stored, and the user sets a limit on every day. -/
theorem settings_stay_sane_sample :
    (Runs.run Ui.step (Ui.started (.booted .none)) [(.enterPin, .typing [0x31, 0x32, 0x33, 0x34]),
      (.press .playTimer, .typing []), (.press .setAll, .typing [0x33, 0x30])]).SettingsSane := by
  have empty : (Process.booted .none).world.registers = none := by decide
  have sane : RegistersSane (Process.booted .none).world.registers := by
    rw [empty]
    intro d
    constructor
    · exact fun _ missing => by cases missing
    · exact fun _ missing => by cases missing
  exact (settings_stay_sane (.booted .none) sane [(.enterPin, .typing [0x31, 0x32, 0x33, 0x34]),
      (.press .playTimer, .typing []), (.press .setAll, .typing [0x33, 0x30])]
    ⟨fun disturbed => absurd disturbed (by decide), fun disturbed => absurd disturbed (by decide),
      fun disturbed => absurd disturbed (by decide), trivial⟩).1

end PctlManager
