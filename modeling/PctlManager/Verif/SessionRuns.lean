import PctlManager.Verif.MainLoop
import PctlManager.Verif.PinGate
import PctlManager.Verif.Promises

/-!
# The session over whole runs

What holds of the world below the tool, whatever the user does: a law of the service layer
(`WorldLaw`) is kept by every handler that may do nothing else, and so by every reaction. The
first such law is that the tool holds at most one reference to the session. It holds over every
run from start-up to `app::shutdown` (`session_in_every_run`), and a tool that could not open
the service asks nothing of it.
-/

namespace PctlManager

open Stateful

/-! ## What is asked for -/

/-- libnx is only asked for something. -/
def Event.asks : Event → Bool
  | .dispatch command _ _ => command.asks
  | .passcodeApplet _ => false
  | .acquire _ | .release => true

/-- The request of a command. -/
def Event.requests (command : Command) : Event → Bool
  | .dispatch sent _ _ => sent = command
  | _ => false

/-! ## Laws of the world below -/

/-- The commands that a handler may send, by what it may change. -/
def sends (may : Change → Prop) : Command → Prop
  | .deleteSettings => may .deleteSettings
  | .deletePairing => may .deletePairing
  | .revertRestrictionTemporaryUnlocked | .unlockRestrictionTemporarily
  | .setPlayTimerSettingsForDebug => ∃ call, may (.write call)
  | _ => False

/-- What is kept of the world by everything that a handler may do to it. -/
structure WorldLaw (may : Change → Prop) (I : World → Prop) : Prop where
  /-- An operation of the service layer keeps it. -/
  served : ∀ {α : Type} {m : PctlM α}, ServiceStep may α m → Preserves I m
  /-- A guarded write keeps it. -/
  guarded : ∀ (call : SetterCall) (okText : Text), may (.write call) →
    Preserves (fun app : App => I app.world) (guardedWrite call.perform okText)

section Laws

variable {may : Change → Prop} {I : World → Prop} {α : Type}

/-- Operations that send a command may send more. -/
theorem Built.sent {requests : Command → Prop} {command : Command} {m : PctlM α}
    (built : Built (· = command) m) (allowed : requests command) : Built requests m := by
  refine built.mono fun α m step => ?_
  cases step with
  | get => exact .get
  | reopen => exact .reopen
  | log line => exact .log line
  | query initial answer asks => exact .query initial answer asks
  | request input perform sent => exact .request input perform (sent ▸ allowed)

/-- What an operation asks libnx for: it only asks, or it sends one of its commands. -/
theorem Built.trace {requests : Command → Prop} {m : PctlM α} (built : Built requests m)
    (w : World) : ∃ asked, (after m w).trace = asked ++ w.trace ∧ ∀ event ∈ asked,
      event.asks = true ∨ ∃ command, requests command ∧ event.requests command = true := by
  refine built.preserves (I := fun v : World => ∃ asked, v.trace = asked ++ w.trace ∧
    ∀ event ∈ asked, event.asks = true ∨ ∃ command, requests command ∧
      event.requests command = true) (fun α m step => ?_) w ⟨[], rfl, fun _ none => by cases none⟩
  rintro v ⟨asked, grown, fine⟩
  -- A step that puts one more event on top of the trace.
  have more {u : World} (event : Event) (trace : u.trace = event :: v.trace)
      (last : event.asks = true ∨ ∃ command, requests command ∧ event.requests command = true) :
      ∃ asked, u.trace = asked ++ w.trace ∧ ∀ event ∈ asked, event.asks = true ∨
        ∃ command, requests command ∧ event.requests command = true := by
    refine ⟨event :: asked, by rw [trace, grown, List.cons_append], fun other mem => ?_⟩
    obtain rfl | old := List.mem_cons.mp mem
    · exact last
    · exact fine other old
  cases step with
  | get => exact ⟨asked, grown, fine⟩
  | reopen =>
    refine ⟨.acquire (result pctlOpsReinit v) :: .release :: asked, ?_, ?_⟩
    · exact congrArg (fun old => Event.acquire (result pctlOpsReinit v) :: .release :: old) grown
    · intro event mem
      rw [List.mem_cons, List.mem_cons] at mem
      obtain rfl | rfl | old := mem
      · exact .inl rfl
      · exact .inl rfl
      · exact fine event old
  | log line => exact ⟨asked, grown, fine⟩
  | query initial answer asks => exact more _ rfl (.inl asks)
  | request input perform sent => exact more _ rfl (.inr ⟨_, sent, decide_eq_true rfl⟩)

/-- What every operation that sends the allowed commands keeps, the guarded write keeps. -/
theorem preserves_guardedWrite (built : ∀ {α : Type} {m : PctlM α}, Built (sends may) m →
      Preserves I m) (call : SetterCall) (okText : Text) (allowed : may (.write call)) :
    Preserves (fun app : App => I app.world) (guardedWrite call.perform okText) := by
  have writes : ∃ call, may (.write call) := ⟨call, allowed⟩
  refine (built_guardedWrite call okText).preserves fun α m step => ?_
  cases step with
  | get => exact fun _ held => held
  | ask asked => exact (built asked.any).zoom App.worldPart
  | unlock =>
    exact (built (built_pctlUnlockRestrictionTemporarily.sent writes)).zoom App.worldPart
  | revert => exact (built (built_pctlRevertTemporaryUnlock.sent writes)).zoom App.worldPart
  | tell more => exact fun _ held => held
  | invoke =>
    intro app held
    rw [after_invoke]
    exact built (call.built.sent writes) app.world held

/-- What every operation that sends the allowed commands keeps is a law, if the applet and the
clock keep it where they are allowed. -/
theorem WorldLaw.of_built (built : ∀ {α : Type} {m : PctlM α}, Built (sends may) m → Preserves I m)
    (passcode : may .passcode → Preserves I pctlSetPin)
    (clock : ∀ answer, may .clock → Preserves I (clockSeedNetworkFromUser answer)) :
    WorldLaw may I where
  served step := by
    cases step with
    | ask asked => exact built asked.any
    | deleteSettings allowed => exact built (built_pctlDeleteParentalControls.sent allowed)
    | deletePairing allowed => exact built (built_pctlDeletePairing.sent allowed)
    | passcode allowed => exact passcode allowed
    | clock answer allowed => exact clock answer allowed
  guarded := preserves_guardedWrite built

/-- The report only asks, so it keeps what every operation without requests keeps. -/
theorem Dumped.world_law {m : DumpM α} (dumped : Dumped m)
    (asked : ∀ {β : Type} {n : PctlM β}, Built noRequest n → Preserves I n) :
    Preserves (fun d : Dump => I d.world) m := by
  refine dumped.preserves fun α m step => ?_
  cases step with
  | ask built => exact (asked built).zoom Dump.worldPart
  | _ => exact fun _ held => held

/-- Every handler keeps a law of the world and the recorded writes that asking keeps, and what
it may do below. -/
theorem UiBuilt.preserves_ledger {m : UiM α} {J : World → List (World × Result) → Prop}
    (served : ∀ {β : Type} {n : PctlM β} (writes : List (World × Result)),
      ServiceStep may β n → Preserves (fun w => J w writes) n)
    (guarded : ∀ (call : SetterCall) (okText : Text), may (.write call) →
      Preserves (fun app : App => J app.world app.writes) (guardedWrite call.perform okText))
    (built : UiBuilt may m) : Preserves (fun u : Ui => J u.world u.writes) m := by
  refine built.preserves fun α m step => ?_
  cases step with
  | get => exact fun _ held => held
  | keep f kept =>
    intro u held
    have same : (f u).world = u.world := congrArg Process.world (kept u).process
    rw [after_modify, same, (kept u).writes]
    exact held
  | serve step => exact fun u held => served u.writes step u.world held
  | guarded call okText allowed => exact (guarded call okText allowed).zoom Ui.appPart
  | dump =>
    intro u held
    have asked : Preserves (fun d : Dump => J d.world u.writes)
        (pctlPlayTimerDump 0 MainActivity.diagBufferSize) :=
      (dumped_pctlPlayTimerDump _ _).world_law fun built => served u.writes (.ask built)
    have kept := asked (Ui.dumpPart.view u) held
    simp only [after_zoom]
    generalize after (pctlPlayTimerDump 0 MainActivity.diagBufferSize) (Ui.dumpPart.view u) = d
      at kept ⊢
    exact kept

/-- Every handler keeps the law. -/
theorem UiBuilt.preserves_world {m : UiM α} (law : WorldLaw may I) (built : UiBuilt may m) :
    Preserves (fun u : Ui => I u.world) m :=
  built.preserves_ledger (fun _ step => law.served step) law.guarded

/-- No handler changes whether the service could be opened. -/
theorem UiBuilt.ok {m : UiM α} (built : UiBuilt may m) :
    Keeps (fun u : Ui => u.tool.process.ok) m := by
  have below {τ β : Type} (part : Part Ui τ) {n : StateM τ β}
      (frame : ∀ u t, (part.update u t).tool.process.ok = u.tool.process.ok) :
      Keeps (fun u : Ui => u.tool.process.ok) (zoom part n) := fun u => frame u _
  refine built.keeps fun α m step => ?_
  cases step with
  | get => exact fun _ => rfl
  | keep f kept => exact fun u => congrArg Process.ok (kept u).process
  | serve step => exact below Ui.worldPart fun _ _ => rfl
  | guarded call okText allowed => exact below Ui.appPart fun _ _ => rfl
  | dump => exact below Ui.dumpPart fun _ _ => rfl

/-- Every reaction keeps the law. -/
theorem Ui.Reaction.preserves_world {u v : Ui} (law : WorldLaw may I)
    (reaction : Ui.Reaction may u v) (held : I u.world) : I v.world := by
  obtain ⟨m, popped, built, same, rfl⟩ := reaction
  have found : popped.world = u.world := congrArg (fun t => t.process.world) same.tool
  have before : I popped.world := found ▸ held
  exact built.preserves_world law popped before

/-- No reaction changes whether the service could be opened. -/
theorem Ui.Reaction.ok {u v : Ui} (reaction : Ui.Reaction may u v) :
    v.tool.process.ok = u.tool.process.ok := by
  obtain ⟨m, popped, built, same, rfl⟩ := reaction
  exact (built.ok popped).trans (congrArg (fun t => t.process.ok) same.tool)

end Laws

/-! ## One event -/

/-- What an event does: nothing, the console changes on its own, or the tool reacts. -/
theorem Ui.step_cases (u : Ui) (event : UiEvent × Outside) :
    u.step event = u ∨
      (∃ change, event.1 = .elsewhere change ∧ u.step event =
        { u with tool.process.world.console := change u.tool.process.world.console }) ∨
      u.tool.quit = false ∧ ¬event.1.Foreign ∧
        Ui.Reaction (u.may event.1) u (u.step event) := by
  obtain ⟨event, outside⟩ := event
  unfold step
  split
  · exact .inl rfl
  · rename_i running
    cases event with
    | elsewhere change => exact .inr (.inl ⟨change, rfl, rfl⟩)
    | _ => exact .inr (.inr ⟨Bool.eq_false_iff.mpr running, id, reaction_react outside u _ id⟩)

/-- An event keeps what it may not change, if the console on its own does not change it. -/
theorem Ui.world_step {I : World → Prop} (u : Ui) (event : UiEvent × Outside)
    (law : WorldLaw (u.may event.1) I)
    (elsewhere : ∀ w console, I w → I { w with console }) (held : I u.world) :
    I (u.step event).world := by
  obtain same | ⟨change, -, left⟩ | ⟨-, -, reaction⟩ := u.step_cases event
  · rw [same]
    exact held
  · rw [left]
    exact elsewhere _ _ held
  · exact reaction.preserves_world law held

/-- No event changes whether the service could be opened. -/
theorem Ui.ok_step (u : Ui) (event : UiEvent × Outside) :
    (u.step event).tool.process.ok = u.tool.process.ok := by
  obtain same | ⟨change, -, left⟩ | ⟨-, -, reaction⟩ := u.step_cases event
  · rw [same]
  · rw [left]
  · exact reaction.ok

/-! ## Start-up -/

/-- Start-up pushes what the gate below says, and does nothing else to the world. -/
theorem reaction_started (p : Process) :
    Ui.Reaction gateMay { Ui.fresh p with tool := .started p } (Ui.started p) :=
  ⟨_, _, Composed.forM (fun activity => UiBuilt.pushLayerOf ⟨activity, rfl⟩) _, .refl _, rfl⟩

/-- The process after start-up: after `app::init`, the status was fetched if it succeeded. -/
theorem process_toolStarted (p : Process) : (Tool.started p).process =
    if result appInit p = true then
      { after appInit p with world := after pctlStatusFetch (after appInit p).world }
    else after appInit p := by
  unfold Tool.started runStartUp
  simp only [after_bind, result_zoom, Tool.processPart, Tool.fresh]
  by_cases opened : result appInit p = true
  · simp only [opened, ↓reduceIte, after_bind, after_zoom, Application.pushActivity,
      after_modify, after_service]
  · simp only [opened, after_zoom, Application.pushActivity, after_modify, Bool.false_eq_true,
      ↓reduceIte]

/-- After `app::init`, libnx was asked for the session and nothing else. -/
theorem trace_appInit {p : Process} (boot : p.world.AtBoot) :
    (after appInit p).world.trace = [.acquire (result pctlInitialize p.world)] := by
  rw [(result_appInit p).2.1]
  exact congrArg (List.cons _) boot.trace

/-- What `app::init` leaves and the operations without requests keep, start-up leaves. -/
theorem world_started {I : World → Prop} (p : Process) (law : WorldLaw gateMay I)
    (held : I (after appInit p).world) : I (Ui.started p).world := by
  refine (reaction_started p).preserves_world law ?_
  change I (Tool.started p).process.world
  rw [process_toolStarted]
  split
  · exact law.served (.ask built_pctlStatusFetch) _ held
  · exact held

/-- Start-up records whether the service could be opened. -/
theorem ok_started (p : Process) : (Ui.started p).tool.process.ok = result appInit p := by
  rw [(reaction_started p).ok, (result_appInit p).1]
  change (Tool.started p).process.ok = _
  rw [process_toolStarted]
  split <;> rfl

/-! ## The session -/

/-- Seeding the network clock sets that clock at most, to the user's time if that can be read and
the time service accepts it, and logs a line. -/
theorem after_clockSeed (answer : Result) (w : World) : ∃ line,
    after (clockSeedNetworkFromUser answer) w = { after (pctlLogf line) w with
      console := { w.console with
        clock :=
          if rSucceeded (w.console.clock .userSystemClock).1 ∧ rSucceeded answer then
            Function.update w.console.clock .networkSystemClock
              (0, (w.console.clock .userSystemClock).2)
          else w.console.clock } } := by
  unfold clockSeedNetworkFromUser
  simp only [after_bind, timeGetCurrentTime, result_bind, result_get, after_get, result_pure,
    after_pure, after_ite, timeSetCurrentTime, pctlLogf, after_modify]
  by_cases read : rSucceeded (w.console.clock .userSystemClock).1
  · by_cases accepted : rSucceeded answer
    · simp only [read, accepted, and_self, ↓reduceIte]
      exact ⟨_, rfl⟩
    · simp only [read, accepted, and_false, ↓reduceIte]
      exact ⟨_, rfl⟩
  · simp only [read, false_and, ↓reduceIte]
    exact ⟨_, rfl⟩

/-- Seeding the clock asks nothing of the pctl service. -/
theorem session_clockSeed (answer : Result) (w : World) :
    (after (clockSeedNetworkFromUser answer) w).guard = w.guard ∧
      (after (clockSeedNetworkFromUser answer) w).trace = w.trace := by
  obtain ⟨line, left⟩ := after_clockSeed answer w
  rw [left]
  exact ⟨rfl, rfl⟩

/-- Holding at most one reference is a law of everything that the tool does. -/
theorem balanced_law (may : Change → Prop) : WorldLaw may World.Balanced :=
  .of_built (fun built => built.balanced) (fun _ => balanced_pctlSetPin) fun answer _ w balanced =>
    have ⟨guard, trace⟩ := session_clockSeed answer w
    balanced.of_same guard (congrArg (List.findSome? Event.acquired) trace)
      (congrArg (List.countP _) trace)

/-- The session is balanced in every run. -/
theorem Ui.balanced_run {u : Ui} (events : List (UiEvent × Outside))
    (balanced : u.world.Balanced) : (Runs.run Ui.step u events).world.Balanced :=
  Runs.run_preserves (fun u : Ui => u.world.Balanced)
    (fun u event _ held => u.world_step event (balanced_law _)
      (fun _ _ balanced => balanced.of_same rfl rfl rfl) held)
    events u (Runs.along_of_forall (fun _ _ => trivial) _ _) balanced

/-- The statics stay as start-up left them in every run. -/
theorem Ui.ok_run (u : Ui) (events : List (UiEvent × Outside)) :
    (Runs.run Ui.step u events).tool.process.ok = u.tool.process.ok :=
  Runs.run_preserves (fun v : Ui => v.tool.process.ok = u.tool.process.ok)
    (fun v event _ held => (v.ok_step event).trans held)
    events u (Runs.along_of_forall (fun _ _ => trivial) _ _) rfl

/-! ## A tool that could not open the service -/

/-- A part of the gate that pushes nothing changes the gate only. -/
theorem Ui.after_onTool (u : Ui) {m : ToolM Unit}
    (same : (after m u.tool).pushed = u.tool.pushed) :
    after (onTool m) u = { u with tool := after m u.tool } := by
  unfold onTool
  simp only [after_bind, result_get, after_get, after_zoom, toolPart, same, Nat.sub_self,
    List.take_zero, List.reverse_nil]
  rfl

/-- A part of the gate that pushes one activity puts it on top. -/
theorem Ui.after_onTool_push (u : Ui) {m : ToolM Unit} {activity : Activity}
    (one : (after m u.tool).pushed = activity :: u.tool.pushed) :
    after (onTool m) u =
      after (pushActivity (layerOf activity)) { u with tool := after m u.tool } := by
  have count : (activity :: u.tool.pushed).length - u.tool.pushed.length = 1 := by
    rw [List.length_cons]
    omega
  unfold onTool
  simp only [after_bind, result_get, after_get, after_zoom, toolPart, one, count]
  rfl

/-- Only the error screen is there, nothing waits, and nothing was asked for since. -/
structure Ui.Failed (trace : List Event) (u : Ui) : Prop where
  /-- The error screen is all there is. -/
  layers : u.layers = [.initError]
  /-- Nothing waits. -/
  deferred : u.deferred = []
  /-- Nothing was asked for. -/
  trace : u.world.trace = trace

/-- No event changes that. -/
theorem Ui.Failed.step {trace : List Event} {u : Ui} (failed : u.Failed trace)
    (event : UiEvent × Outside) : (u.step event).Failed trace := by
  obtain ⟨event, outside⟩ := event
  have quits : (after (onTool Application.quit) u).Failed trace := by
    rw [u.after_onTool rfl]
    exact ⟨failed.layers, failed.deferred, failed.trace⟩
  unfold Ui.step
  split
  · exact failed
  · cases event with
    | elsewhere change => exact ⟨failed.layers, failed.deferred, failed.trace⟩
    | back =>
      unfold Ui.react
      simp only [failed.layers]
      exact quits
    | _ =>
      unfold Ui.react
      simp only [failed.layers, failed.deferred]
      exact failed

/-- A tool that could not open the service asks nothing of it. -/
theorem Ui.failed_started (p : Process) (failed : result appInit p = false) :
    (Ui.started p).Failed (after appInit p).world.trace := by
  have process := process_toolStarted p
  rw [if_neg (by simp [failed])] at process
  have pushed : (Tool.started p).pushed = [.initError] := by
    obtain ⟨q, fresh⟩ := started_fresh p
    rw [fresh]
    simp [Process.firstActivity, failed]
  have shown : Ui.started p =
      after (pushActivity (layerOf .initError)) { Ui.fresh p with tool := .started p } :=
    (fresh p).after_onTool_push pushed
  rw [shown]
  exact ⟨rfl, rfl, congrArg (fun q => q.world.trace) process⟩

/-! ## Whole runs -/

/-- In no run does a tool that could not open the service ask for anything but that one
attempt. -/
theorem Ui.trace_of_failed (p : Process) (boot : p.world.AtBoot)
    (failed : result appInit p = false) (events : List (UiEvent × Outside)) :
    ∃ rc, rFailed rc ∧ (Runs.run Ui.step (Ui.started p) events).world.trace = [.acquire rc] := by
  obtain ⟨returned, -, ok⟩ := result_appInit p
  have lost : rFailed (result pctlInitialize p.world) := fun succeeded =>
    Bool.false_ne_true (failed.symm.trans (returned.trans (ok.mpr succeeded)))
  have still := Runs.run_preserves (Ui.Failed (after appInit p).world.trace)
    (fun _ event _ held => held.step event) events _
    (Runs.along_of_forall (fun _ _ => trivial) _ _) (Ui.failed_started p failed)
  exact ⟨_, lost, still.trace.trans (trace_appInit boot)⟩

/-- Whatever the user does and whatever fails, from start-up on the tool's use of the session is
in order after every event, and `app::shutdown` leaves no session open and every one that was
opened accounted for. If `app::init` could not open the service, the only thing that libnx is
ever asked for is that one attempt. -/
theorem session_in_every_run (p : Process) (boot : p.world.AtBoot)
    (events : List (UiEvent × Outside)) :
    let u := Runs.run Ui.step (Ui.started p) events
    u.tool.process.InOrder ∧
      u.finished.world.guard.session = none ∧
      u.finished.world.guard.opened = u.finished.world.acquireCount ∧
      (result appInit p = false →
        ∃ rc, rFailed rc ∧ u.finished.world.trace = [.acquire rc]) := by
  intro u
  have opened : (after appInit p).world.Balanced := by
    rw [(result_appInit p).2.1]
    exact boot.free.acquire.2.2
  have balanced : u.world.Balanced :=
    Ui.balanced_run events (world_started p (balanced_law _) opened)
  have ok : u.tool.process.ok = result appInit p := (Ui.ok_run _ events).trans (ok_started p)
  have unheld : u.tool.process.ok = false → u.world.guard.refCount = 0 := by
    intro failed
    obtain ⟨rc, lost, trace⟩ := Ui.trace_of_failed p boot (ok.symm.trans failed) events
    have bound := balanced.count
    have last : ¬u.world.guard.refCount = 1 := by
      rw [balanced.latest, World.latestAcquire, trace]
      exact fun some => lost (Option.some_inj.mp some)
    omega
  have finished := after_appShutdown u.tool.process
  have world : u.finished.world =
      if u.tool.process.ok then after pctlExit u.world else u.world :=
    congrArg Process.world finished
  refine ⟨.of_balanced balanced unheld, ?_, ?_, fun failed => ?_⟩
  · rw [world]
    cases succeeded : u.tool.process.ok with
    | true => exact balanced.exit.1
    | false =>
      have closed : ¬u.world.guard.session.isSome = true := by
        rw [u.world.guard.held, unheld succeeded]
        exact Nat.lt_irrefl 0
      exact Option.not_isSome_iff_eq_none.mp closed
  · rw [world]
    cases u.tool.process.ok with
    | true => exact balanced.exit.2.fresh
    | false => exact balanced.fresh
  · rw [world, ok, failed]
    exact Ui.trace_of_failed p boot failed events

/-- The user types this wherever there is a keyboard, and nothing else happens outside. -/
def Outside.typing (typed : List UInt8) : Outside where
  typist := fun _ => ⟨0, 0, typed⟩
  typists := []
  timeSet := 0
  fopen := true
  fputs := none

/-- The PIN is entered and then set, and the session cannot be taken back: at the end no session
is open. -/
theorem session_in_every_run_losing :
    (Runs.run Ui.step (Ui.started (.booted .losing))
      [(.enterPin, .typing [0x31, 0x32, 0x33, 0x34]),
        (.press .setPin, .typing [])]).finished.world.guard.session = none :=
  (session_in_every_run (.booted .losing) ⟨rfl, rfl, rfl⟩ _).2.1

end PctlManager
