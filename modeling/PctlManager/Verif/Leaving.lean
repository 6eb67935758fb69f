import PctlManager.Verif.GateRuns

/-!
# Leaving the tool

The main loop runs until the tool is told to quit, and from then on nothing happens. A run quits
exactly at the first of its events that is button B on the gate, on the error screen or on the
last layer, the wrong entry that uses up the last attempt, or the gate that is resumed after it
was passed (`what_quits`).
-/

namespace PctlManager

open Stateful

/-! ## What quits -/

/-- The event tells the tool to quit: button B on the gate, the error screen or the last layer,
the last wrong entry, or the gate that is resumed after it was passed. -/
def Ui.Quits (u : Ui) (event : UiEvent × Outside) : Prop :=
  (event.1 = .back ∧ (u.layers.head? = some .pinGate ∨ u.layers.head? = some .initError ∨
    u.layers.length = 1)) ∨
  (∃ reached ∈ u.gateEvent event, ∃ typist ∈ reached.typist?,
    u.world.Rejects typist ∧ u.tool.passed = false ∧ maxAttempts ≤ u.tool.attempts + 1) ∨
  (event.1 = .resume ∧ u.layers.head? = some .pinGate ∧ u.tool.passed = true)

/-- Whether the tool was told to quit is up to the part of the gate. -/
theorem quit_onTool (m : ToolM Unit) (u : Ui) :
    (after (Ui.onTool m) u).tool.quit = (after m u.tool).quit := by
  have built (activities : List Activity) : UiBuilt (fun c => ∃ layer, c = .opens layer)
      (activities.forM fun activity => Ui.pushActivity (Ui.layerOf activity)) :=
    Composed.forM (fun activity => UiBuilt.pushLayerOf ⟨_, rfl⟩) activities
  have kept (activities : List Activity) (v : Ui) :
      (after (activities.forM fun activity => Ui.pushActivity (Ui.layerOf activity)) v).tool.quit =
        v.tool.quit := by
    have ungated : ¬∃ layer, Change.gate = .opens layer := by
      rintro ⟨layer, gate⟩
      cases gate
    obtain ⟨world, tool⟩ := (built activities).tool ungated v
    have quit := congrArg Tool.quit tool
    exact quit
  unfold Ui.onTool
  simp only [after_bind, result_get, after_get, after_zoom, Ui.toolPart, kept]

/-- A reaction that may not change the gate quits nothing. -/
theorem Ui.Reaction.quit {may : Change → Prop} {u v : Ui} (reaction : Ui.Reaction may u v)
    (closed : ¬may .gate) : v.tool.quit = u.tool.quit := by
  obtain ⟨m, popped, built, same, rfl⟩ := reaction
  obtain ⟨world, tool⟩ := built.tool closed popped
  rw [tool, same.tool]

/-- A prompt quits exactly when the last attempt is used up. -/
theorem quit_prompt {u : Ui} (running : u.tool.quit = false) (typist : Typist) :
    (after (Ui.onTool (PinGate.prompt typist)) u).tool.quit = true ↔
      u.world.Rejects typist ∧ u.tool.passed = false ∧ maxAttempts ≤ u.tool.attempts + 1 := by
  rw [quit_onTool]
  cases closed : u.tool.passed with
  | true =>
    rw [after_prompt_of_passed u.tool typist closed, running]
    simp
  | false =>
    rw [(prompt_spec u.tool typist closed).2.2.2, running]
    simp [Ui.world]

section Events

variable {u : Ui} (running : u.tool.quit = false) (outside : Outside)

include running

/-- Button A on the gate quits with the last wrong entry. -/
theorem quit_enterPin : (u.react outside .enterPin).tool.quit = true ↔
    u.Quits (.enterPin, outside) := by
  unfold Ui.react Ui.Quits Ui.gateEvent
  cases found : u.layers with
  | nil => simp [running]
  | cons top below =>
    cases top with
    | pinGate =>
      simp only [quit_prompt running]
      simp [GateEvent.typist?]
    | _ => simp [running]

/-- A deferred function quits if it is the prompt, with the last wrong entry. -/
theorem quit_tick : (u.react outside .tick).tool.quit = true ↔ u.Quits (.tick, outside) := by
  unfold Ui.react Ui.Quits Ui.gateEvent
  cases found : u.deferred with
  | nil => simp [running]
  | cons next later =>
    by_cases prompts : next = .gatePrompt
    · subst prompts
      simp only [Ui.perform, quit_prompt (u := { u with deferred := later }) running]
      simp [GateEvent.typist?, Ui.world]
    · have kept := (Ui.Reaction.of_built (built_perform next outside)
        { u with deferred := later }).quit (Deferred.not_gate prompts).1
      simp only [kept, running]
      simp [prompts]

/-- What is resumed quits if it is the gate, after it was passed. -/
theorem quit_resume : (u.react outside .resume).tool.quit = true ↔ u.Quits (.resume, outside) := by
  unfold Ui.react Ui.Quits Ui.gateEvent
  cases found : u.layers with
  | nil => simp [running]
  | cons top below =>
    by_cases gate : top = .pinGate
    · subst gate
      simp only [Ui.resume, quit_onTool, PinGate.onResume, after_bind, result_get, after_get,
        after_ite, Application.quit, after_modify, after_pure]
      cases passed : u.tool.passed <;> simp [running, GateEvent.typist?]
    · have kept := (Ui.Reaction.of_built (built_resume top) u).quit (Layer.not_gate gate).1
      simp only [kept, running]
      simp [gate]

/-- Button B quits on the gate, on the error screen, and on the last layer. -/
theorem quit_back : (u.react outside .back).tool.quit = true ↔ u.Quits (.back, outside) := by
  unfold Ui.react Ui.Quits Ui.gateEvent
  cases found : u.layers with
  | nil => simp [running]
  | cons top below =>
    have quits : (after (Ui.onTool Application.quit) u).tool.quit = true := by
      rw [quit_onTool]
      exact rfl
    cases top with
    | pinGate => simp [Ui.back, quits]
    | initError => simp [Ui.back, quits]
    | _ => cases below <;> simp [Ui.back, quits, running]

end Events

/-- A running tool is told to quit by these events, and by no other. -/
theorem Ui.quits_iff {u : Ui} (running : u.tool.quit = false) (event : UiEvent × Outside) :
    (u.step event).tool.quit = true ↔ u.Quits event := by
  obtain ⟨event, outside⟩ := event
  rw [Ui.step, if_neg (Bool.eq_false_iff.mp running)]
  have stays {v : Ui} {may : Change → Prop} (reaction : Ui.Reaction may u v) (closed : ¬may .gate)
      (other : ¬u.Quits (event, outside)) : v.tool.quit = true ↔ u.Quits (event, outside) := by
    rw [reaction.quit closed, running]
    exact iff_of_false Bool.false_ne_true other
  cases event with
  | press cell =>
    refine stays (reaction_react outside u (.press cell) id) ?_ (by simp [Quits, gateEvent])
    unfold Ui.may
    cases u.layers with
    | nil => exact id
    | cons top below => exact (Cell.not_gate u.pending top cell).1
  | choose button =>
    refine stays (reaction_react outside u (.choose button) id) ?_ (by simp [Quits, gateEvent])
    unfold Ui.may
    cases u.layers with
    | nil => exact id
    | cons top below =>
      cases top with
      | dialog d => exact (d.not_gate button).1
      | _ => exact id
  | enterPin => exact quit_enterPin running outside
  | tick => exact quit_tick running outside
  | resume => exact quit_resume running outside
  | back => exact quit_back running outside
  | elsewhere change =>
    have same : (u.react outside (.elsewhere change)).tool.quit = u.tool.quit := rfl
    rw [same, running]
    simp [Quits, gateEvent]

/-! ## Whole runs -/

/-- Start-up does not quit. -/
theorem quit_started (p : Process) : (Ui.started p).tool.quit = false := by
  obtain ⟨process, fresh⟩ := started_fresh p
  have quit : (Tool.started p).quit = false := by
    rw [fresh]
    exact rfl
  exact (quit_onTool runStartUp (Ui.fresh p)).trans quit

/-- A run quits exactly at the first of its events that quits the tool in the state that it finds:
button B on the gate, the error screen or the last layer, the last wrong entry, or the gate that is
resumed after it was passed. What comes after it changes nothing. -/
theorem what_quits (p : Process) (events : List (UiEvent × Outside)) :
    (Runs.run Ui.step (Ui.started p) events).tool.quit = true ↔
      ∃ early event late, events = early ++ event :: late ∧
        ¬(Runs.run Ui.step (Ui.started p) early).tool.quit = true ∧
        (Runs.run Ui.step (Ui.started p) early).Quits event ∧
        Runs.run Ui.step (Ui.started p) events =
          (Runs.run Ui.step (Ui.started p) early).step event := by
  have final (u : Ui) (event : UiEvent × Outside) (quit : u.tool.quit = true) :
      u.step event = u := if_pos quit
  have stops (u : Ui) (event : UiEvent × Outside) (running : ¬u.tool.quit = true) :
      (u.step event).tool.quit = true ↔ u.Quits event :=
    Ui.quits_iff (Bool.eq_false_iff.mpr running) event
  have running : ¬(Ui.started p).tool.quit = true := Bool.eq_false_iff.mp (quit_started p)
  exact Runs.run_stops_iff final stops events (Ui.started p) running

end PctlManager
