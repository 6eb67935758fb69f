import PctlManager.Verif.SessionRuns

/-!
# The gate over whole runs

The tool with all its screens refines the gate on its own: every event of the main loop is what
the gate does with it, followed by what happens to the world (`gate_refined`), so everything
that holds of every run of the gate holds of the tool. Until a prompt lets the user through, the
gate is all that there is on the screen, and nothing is changed on the console
(`nothing_before_pin`).
-/

namespace PctlManager

open Stateful

/-! ## What a handler does to the gate and to the screen -/

section Handlers

variable {may : Change → Prop} {α : Type} {m : UiM α}

/-- A handler that may not change the gate leaves it alone, and the world below aside. -/
theorem UiBuilt.tool (built : UiBuilt may m) (closed : ¬may .gate) (u : Ui) :
    ∃ world, (after m u).tool = { u.tool with process.world := world } := by
  have below {τ β : Type} (part : Part Ui τ) {n : StateM τ β}
      (frame : ∀ v t, ∃ world, (part.update v t).tool = { v.tool with process.world := world }) :
      Preserves (fun v : Ui => ∃ world, v.tool = { u.tool with process.world := world })
        (zoom part n) := by
    rintro v ⟨world, same⟩
    obtain ⟨later, frame⟩ := frame v (after n (part.view v))
    refine ⟨later, ?_⟩
    rw [after_zoom, frame, same]
  refine built.preserves
    (I := fun v : Ui => ∃ world, v.tool = { u.tool with process.world := world })
    (fun α m step => ?_) u ⟨u.world, rfl⟩
  cases step with
  | get => exact fun _ held => held
  | keep f kept =>
    rintro v ⟨world, same⟩
    exact ⟨world, ((kept v).gate.resolve_right closed).trans same⟩
  | serve step => exact below Ui.worldPart fun _ t => ⟨t, rfl⟩
  | guarded call okText allowed => exact below Ui.appPart fun _ t => ⟨t.world, rfl⟩
  | dump => exact below Ui.dumpPart fun _ t => ⟨t.world, rfl⟩

/-- A handler puts on top what it may, and nothing else. -/
theorem UiBuilt.layers (built : UiBuilt may m) (u : Ui) :
    ∃ top, (after m u).layers = top ++ u.layers ∧ ∀ layer ∈ top, may (.opens layer) := by
  have below {τ β : Type} (part : Part Ui τ) {n : StateM τ β}
      (frame : ∀ v t, (part.update v t).layers = v.layers) :
      Preserves (fun v : Ui => ∃ top, v.layers = top ++ u.layers ∧
        ∀ layer ∈ top, may (.opens layer)) (zoom part n) := by
    rintro v ⟨top, same, allowed⟩
    exact ⟨top, (frame _ _).trans same, allowed⟩
  refine built.preserves (I := fun v : Ui => ∃ top, v.layers = top ++ u.layers ∧
    ∀ layer ∈ top, may (.opens layer)) (fun α m step => ?_) u ⟨[], rfl, fun _ none => by cases none⟩
  cases step with
  | get => exact fun _ held => held
  | keep f kept =>
    rintro v ⟨top, same, allowed⟩
    obtain ⟨more, found, opens⟩ := (kept v).layers
    refine ⟨more ++ top, ?_, fun layer mem => ?_⟩
    · rw [after_modify, found, same, List.append_assoc]
    · exact (List.mem_append.mp mem).elim (opens layer) (allowed layer)
  | serve step => exact below Ui.worldPart fun _ _ => rfl
  | guarded call okText allowed => exact below Ui.appPart fun _ _ => rfl
  | dump => exact below Ui.dumpPart fun _ _ => rfl

end Handlers

/-! ## The events of the gate -/

/-- What an event is to the gate, if the gate reacts to it. -/
def Ui.gateEvent (u : Ui) : UiEvent × Outside → Option GateEvent
  | (.enterPin, outside) =>
    if u.layers.head? = some .pinGate then some (.pressA outside.typist) else none
  | (.tick, outside) =>
    if u.deferred.head? = some .gatePrompt then some (.deferredPrompt outside.typist) else none
  | (.back, _) => if u.layers.head? = some .pinGate then some .pressB else none
  | (.resume, _) => if u.layers.head? = some .pinGate then some .resume else none
  | _ => none

/-- The events of the gate that an event stands for: its own part in it, and what becomes of the
world. -/
def Ui.gateEvents (u : Ui) (event : UiEvent × Outside) : List GateEvent :=
  (u.gateEvent event).toList ++ [.elsewhere fun _ => (u.step event).world]

/-- The tool was started with the gate, which is still below everything. -/
structure Ui.Gated (u : Ui) : Prop where
  /-- The gate was pushed. -/
  pushed : .pinGate ∈ u.tool.pushed
  /-- It is below everything. -/
  bottom : u.layers.getLast? = some .pinGate
  /-- There is no error screen. -/
  error : .initError ∉ u.layers
  /-- Until it is passed there is nothing else. -/
  closed : u.tool.passed = false → u.layers = [.pinGate] ∧ ∀ next ∈ u.deferred, next = .gatePrompt

/-- The world that is there may be put in its place. -/
theorem Tool.elsewhere_same (t : Tool) :
    t.step (.elsewhere fun _ => t.process.world) = t := by
  unfold Tool.step
  split <;> rfl

/-- A change of the world in a running tool. -/
theorem Tool.elsewhere_running {t : Tool} (running : t.Running) (world : World) :
    t.step (.elsewhere fun _ => world) = { t with process.world := world } := if_pos running

/-- A tool that was told to quit does not react. -/
theorem Tool.step_of_quit {t : Tool} (quit : t.quit = true) (event : GateEvent) :
    t.step event = t :=
  if_neg fun running => Bool.false_ne_true (running.1.symm.trans quit)

/-- What the tool does with an event as the gate sees it. -/
def Ui.RefinesAt (u v : Ui) (events : List GateEvent) : Prop :=
  v.tool = Runs.run Tool.step u.tool (events ++ [.elsewhere fun _ => v.world])

section Gate

variable {u : Ui}

/-- A reaction that pushes nothing is the reaction of the gate. -/
theorem Ui.RefinesAt.of_same {event : GateEvent} {m : ToolM Unit}
    (reacts : u.tool.step event = after m u.tool)
    (same : (after m u.tool).pushed = u.tool.pushed) :
    u.RefinesAt (after (onTool m) u) [event] := by
  have left := u.after_onTool same
  unfold RefinesAt
  rw [List.singleton_append, Runs.run_cons, reacts, Runs.run_cons, Runs.run_nil, left]
  exact (Tool.elsewhere_same _).symm

/-- Activities and dialogs on top of a gate that was passed change nothing about it. -/
theorem Ui.Gated.on_top (gated : u.Gated) {v : Ui} {top : List Layer}
    (pushed : .pinGate ∈ v.tool.pushed) (passed : v.tool.passed = true)
    (layers : v.layers = top ++ u.layers) (error : .initError ∉ top) : v.Gated where
  pushed := pushed
  bottom := by
    rw [layers, List.getLast?_append, gated.bottom]
    rfl
  error := by
    rw [layers, List.mem_append, not_or]
    exact ⟨error, gated.error⟩
  closed shut := by
    rw [passed] at shut
    cases shut

/-- A change of the gate that pushes nothing leaves it below everything. -/
theorem Ui.Gated.of_tool (gated : u.Gated) {tool : Tool} (pushed : tool.pushed = u.tool.pushed)
    (passed : tool.passed = u.tool.passed) : Ui.Gated { u with tool } where
  pushed := pushed ▸ gated.pushed
  bottom := gated.bottom
  error := gated.error
  closed shut := gated.closed (passed.symm.trans shut)

/-- Nobody is let through and turned away. -/
theorem World.Admits.not_rejects {w : World} {typist : Typist} (admits : w.Admits typist) :
    ¬w.Rejects typist := by
  rintro ⟨-, registered, other, typed', wrong⟩
  obtain ⟨-, missing | ⟨entered, typed, right⟩⟩ := admits
  · exact registered missing
  · rw [Option.mem_def] at typed typed'
    rw [typed] at typed'
    cases typed'
    exact wrong right

/-- A prompt that lets the user through puts the main menu on top, and the gate sees only its
own part of that. -/
theorem Ui.Gated.prompt_through (gated : u.Gated) (running : u.tool.quit = false)
    {typist : Typist} (closed : u.tool.passed = false)
    (admits : u.tool.process.world.Admits typist)
    {event : GateEvent} (step : u.tool.step event = after (PinGate.prompt typist) u.tool) :
    (after (onTool (PinGate.prompt typist)) u).Gated ∧
      u.RefinesAt (after (onTool (PinGate.prompt typist)) u) [event] := by
  obtain ⟨pushed, passed, -, quits⟩ := prompt_spec u.tool typist closed
  rw [if_pos admits] at pushed
  have left := u.after_onTool_push pushed
  generalize after (PinGate.prompt typist) u.tool = through at *
  have main : UiBuilt (fun c => .opens .main = c) (pushActivity .main) := UiBuilt.pushMain rfl
  obtain ⟨world, tool⟩ := main.tool (by simp) { u with tool := through }
  obtain ⟨top, layers, opens⟩ := main.layers { u with tool := through }
  have open' : through.passed = true := passed.mpr admits
  have going : ¬through.quit = true := fun quit => (quits.mp quit).elim (by simp [running])
    fun late => admits.not_rejects late.1
  have still : through.Running := by
    refine ⟨Bool.eq_false_iff.mpr going, ?_⟩
    rw [pushed]
    exact List.mem_cons_of_mem _ gated.pushed
  have menu : after (onTool (PinGate.prompt typist)) u =
      after (pushActivity .main) { u with tool := through } := left
  have below : (after (pushActivity .main) { u with tool := through }).world = world :=
    congrArg (fun t => t.process.world) tool
  rw [menu]
  constructor
  · refine gated.on_top ?_ ?_ layers fun error => by cases opens _ error
    · rw [tool]
      exact still.2
    · rw [tool]
      exact open'
  · unfold RefinesAt
    rw [List.singleton_append, Runs.run_cons, step, Runs.run_cons, Runs.run_nil, below, tool]
    exact (Tool.elsewhere_running still world).symm

/-- A prompt that does not let the user through leaves everything but the gate as it is. -/
theorem Ui.Gated.prompt_stays (gated : u.Gated) {typist : Typist}
    (closed : u.tool.passed = false) (kept : ¬u.tool.process.world.Admits typist)
    {event : GateEvent} (step : u.tool.step event = after (PinGate.prompt typist) u.tool) :
    (after (onTool (PinGate.prompt typist)) u).Gated ∧
      u.RefinesAt (after (onTool (PinGate.prompt typist)) u) [event] := by
  obtain ⟨pushed, passed, -, -⟩ := prompt_spec u.tool typist closed
  rw [if_neg kept] at pushed
  have shut : (after (PinGate.prompt typist) u.tool).passed = u.tool.passed := by
    rw [closed, Bool.eq_false_iff]
    exact mt passed.mp kept
  refine ⟨?_, .of_same step pushed⟩
  rw [u.after_onTool pushed]
  exact gated.of_tool pushed shut

/-- A prompt at a gate that was passed does nothing. -/
theorem after_prompt_of_passed (t : Tool) (typist : Typist) (passed : t.passed = true) :
    after (PinGate.prompt typist) t = t := by
  simp only [PinGate.prompt, after_bind, result_get, after_get, passed, ↓reduceIte, after_pure]

/-- A prompt is what the gate does with it. -/
theorem Ui.Gated.prompt (gated : u.Gated) (running : u.tool.quit = false) (typist : Typist)
    {event : GateEvent} (reacts : u.tool.react event = after (PinGate.prompt typist) u.tool) :
    (after (onTool (PinGate.prompt typist)) u).Gated ∧
      u.RefinesAt (after (onTool (PinGate.prompt typist)) u) [event] := by
  have step : u.tool.step event = after (PinGate.prompt typist) u.tool :=
    (if_pos ⟨running, gated.pushed⟩).trans reacts
  cases closed : u.tool.passed with
  | true =>
    have idle := after_prompt_of_passed u.tool typist closed
    have same : (after (PinGate.prompt typist) u.tool).pushed = u.tool.pushed :=
      congrArg Tool.pushed idle
    refine ⟨?_, .of_same step same⟩
    rw [u.after_onTool same, idle]
    exact gated
  | false =>
    by_cases admits : u.tool.process.world.Admits typist
    · exact gated.prompt_through running closed admits step
    · exact gated.prompt_stays closed admits step

/-- Quitting, and returning to the gate, are what the gate does with them. -/
theorem Ui.Gated.leave (gated : u.Gated) (running : u.tool.quit = false) {m : ToolM Unit}
    {event : GateEvent} (reacts : u.tool.react event = after m u.tool)
    (pushed : (after m u.tool).pushed = u.tool.pushed)
    (passed : (after m u.tool).passed = u.tool.passed) :
    (after (onTool m) u).Gated ∧ u.RefinesAt (after (onTool m) u) [event] := by
  refine ⟨?_, .of_same ((if_pos ⟨running, gated.pushed⟩).trans reacts) pushed⟩
  rw [u.after_onTool pushed]
  exact gated.of_tool pushed passed

/-- An event that does nothing. -/
theorem Ui.RefinesAt.idle (u : Ui) : u.RefinesAt u [] := (Tool.elsewhere_same u.tool).symm

/-- What does not reach the gate leaves it below everything, and happens to the world. -/
theorem Ui.Gated.other (gated : u.Gated) (running : u.tool.quit = false)
    (passed : u.tool.passed = true) {may : Change → Prop} {v : Ui}
    (reaction : Ui.Reaction may u v) (shut : ¬may .gate) (error : ¬may (.opens .initError)) :
    v.Gated ∧ u.RefinesAt v [] := by
  obtain ⟨m, popped, built, same, rfl⟩ := reaction
  obtain ⟨world, tool⟩ := built.tool shut popped
  obtain ⟨top, layers, opens⟩ := built.layers popped
  rw [same.tool] at tool
  have below : (after m popped).world = world := congrArg (fun t => t.process.world) tool
  have left : Ui.Gated { u with layers := popped.layers } := by
    obtain kept | ⟨first, found, last⟩ := same.layers
    · rw [kept]
      exact gated
    · refine ⟨gated.pushed, ?_, ?_, fun closed => ?_⟩
      · have bottom := gated.bottom
        rw [found] at bottom
        cases under : popped.layers with
        | nil =>
          obtain ⟨d, rfl⟩ := last under
          rw [under] at bottom
          cases bottom
        | cons layer rest =>
          rw [under, List.getLast?_cons_cons] at bottom
          exact bottom
      · exact fun mem => gated.error (found ▸ List.mem_cons_of_mem _ mem)
      · rw [passed] at closed
        cases closed
  refine ⟨left.on_top ?_ ?_ layers fun mem => error (opens _ mem), ?_⟩
  · rw [tool]
    exact gated.pushed
  · rw [tool]
    exact passed
  · unfold RefinesAt
    rw [List.nil_append, Runs.run_cons, Runs.run_nil, below, tool]
    exact (Tool.elsewhere_running ⟨running, gated.pushed⟩ world).symm

end Gate

/-! ## One event -/

/-- The cells leave the gate alone, and open no error screen. -/
theorem Cell.not_gate (pending : Day → UInt16) (top : Layer) (cell : Cell) :
    ¬cell.may pending top .gate ∧ ¬cell.may pending top (.opens .initError) := by
  cases top <;> cases cell <;> simp [Cell.may, timerMay, editorMay, noChange]

/-- The buttons of the dialogs leave the gate alone, and open no error screen. -/
theorem Dialog.not_gate (d : Dialog) (button : Button) :
    ¬d.may button .gate ∧ ¬d.may button (.opens .initError) := by
  cases d <;> cases button <;> simp [Dialog.may, editorMay, noChange]

/-- All deferred functions but the prompt leave the gate alone, and open no error screen. -/
theorem Deferred.not_gate {next : Deferred} (other : next ≠ .gatePrompt) :
    ¬next.may .gate ∧ ¬next.may (.opens .initError) := by
  cases next <;> simp_all [Deferred.may, timerMay, editorMay, noChange]

/-- All activities but the gate leave it alone when they are resumed, and open no error screen. -/
theorem Layer.not_gate {top : Layer} (other : top ≠ .pinGate) :
    ¬top.may .gate ∧ ¬top.may (.opens .initError) := by
  cases top <;> simp_all [Layer.may, timerMay, editorMay, noChange]

/-- What does not reach the gate leaves it alone, and opens no error screen. -/
theorem Ui.Gated.not_gate {u : Ui} (gated : u.Gated) {event : UiEvent} {outside : Outside}
    (other : u.gateEvent (event, outside) = none) :
    ¬u.may event .gate ∧ ¬u.may event (.opens .initError) := by
  have bottom := gated.bottom
  have error := gated.error
  have silent : ¬noChange .gate ∧ ¬noChange (.opens .initError) := ⟨id, id⟩
  cases event with
  | press cell =>
    unfold may
    cases u.layers with
    | nil => exact silent
    | cons top below => exact cell.not_gate u.pending top
  | choose button =>
    unfold may
    cases u.layers with
    | nil => exact silent
    | cons top below =>
      cases top with
      | dialog d => exact d.not_gate button
      | _ => exact silent
  | enterPin =>
    unfold gateEvent at other
    unfold may
    cases found : u.layers with
    | nil => exact silent
    | cons top below =>
      cases top with
      | pinGate => simp [found] at other
      | _ => exact silent
  | back =>
    unfold gateEvent at other
    unfold may
    cases found : u.layers with
    | nil => exact silent
    | cons top below =>
      rw [found] at bottom error other
      cases below with
      | nil =>
        -- The last layer is the gate, and that one was not on top.
        rw [List.getLast?_singleton] at bottom
        simp [Option.some_inj.mp bottom] at other
      | cons layer rest =>
        cases top with
        | pinGate => simp at other
        | initError => simp at error
        | _ => exact silent
  | tick =>
    unfold gateEvent at other
    unfold may
    cases found : u.deferred with
    | nil => exact silent
    | cons next later => exact next.not_gate fun same => by simp [found, same] at other
  | resume =>
    unfold gateEvent at other
    unfold may
    cases found : u.layers with
    | nil => exact silent
    | cons top below => exact top.not_gate fun same => by simp [found, same] at other
  | elsewhere change => exact silent

/-- Until the gate is passed, only its own events do something. -/
theorem Ui.Gated.shut {u : Ui} (gated : u.Gated) (closed : u.tool.passed = false)
    {event : UiEvent} {outside : Outside} (own : ¬event.Foreign)
    (other : u.gateEvent (event, outside) = none) : u.react outside event = u := by
  obtain ⟨layers, deferred⟩ := gated.closed closed
  cases event with
  | press cell =>
    unfold react
    rw [layers]
    rfl
  | choose button =>
    unfold react
    rw [layers]
  | tick =>
    unfold gateEvent at other
    unfold react
    cases found : u.deferred with
    | nil => rfl
    | cons next later =>
      have prompt := deferred next (found ▸ List.mem_cons_self)
      simp [found, prompt] at other
  | elsewhere change => exact (own trivial).elim
  | _ => simp [gateEvent, layers] at other

/-- An event of the gate is what the gate does with it. -/
theorem Ui.Gated.own {u : Ui} (gated : u.Gated) (running : u.tool.quit = false)
    {event : UiEvent} {outside : Outside} {reached : GateEvent}
    (found : u.gateEvent (event, outside) = some reached) :
    (u.react outside event).Gated ∧ u.RefinesAt (u.react outside event) [reached] := by
  cases event with
  | enterPin =>
    simp only [gateEvent, Option.ite_none_right_eq_some, Option.some.injEq] at found
    obtain ⟨top, rfl⟩ := found
    unfold react
    obtain ⟨below, layers⟩ := List.head?_eq_some_iff.mp top
    simp only [layers]
    exact gated.prompt running outside.typist rfl
  | tick =>
    simp only [gateEvent, Option.ite_none_right_eq_some, Option.some.injEq] at found
    obtain ⟨top, rfl⟩ := found
    unfold react
    obtain ⟨later, deferred⟩ := List.head?_eq_some_iff.mp top
    simp only [deferred]
    have left : Ui.Gated { u with deferred := later } := by
      refine ⟨gated.pushed, gated.bottom, gated.error, fun closed => ?_⟩
      obtain ⟨alone, prompts⟩ := gated.closed closed
      exact ⟨alone, fun next mem => prompts next (deferred ▸ List.mem_cons_of_mem _ mem)⟩
    exact left.prompt running outside.typist rfl
  | back =>
    simp only [gateEvent, Option.ite_none_right_eq_some, Option.some.injEq] at found
    obtain ⟨top, rfl⟩ := found
    unfold react
    obtain ⟨below, layers⟩ := List.head?_eq_some_iff.mp top
    simp only [layers]
    exact gated.leave running rfl rfl rfl
  | resume =>
    simp only [gateEvent, Option.ite_none_right_eq_some, Option.some.injEq] at found
    obtain ⟨top, rfl⟩ := found
    unfold react
    obtain ⟨below, layers⟩ := List.head?_eq_some_iff.mp top
    simp only [layers]
    have kept : (after PinGate.onResume u.tool).pushed = u.tool.pushed ∧
        (after PinGate.onResume u.tool).passed = u.tool.passed := by
      unfold PinGate.onResume
      simp only [after_bind, result_get, after_get, after_ite, Application.quit, after_modify,
        after_pure]
      split <;> exact ⟨rfl, rfl⟩
    exact gated.leave running rfl kept.1 kept.2
  | _ => simp [gateEvent] at found

/-- Every event leaves the gate below everything, and is what the gate does with it. -/
theorem Ui.Gated.step {u : Ui} (gated : u.Gated) (event : UiEvent × Outside) :
    (u.step event).Gated ∧
      (u.step event).tool = Runs.run Tool.step u.tool (u.gateEvents event) := by
  obtain ⟨event, outside⟩ := event
  unfold gateEvents
  cases running : u.tool.quit with
  | true =>
    have same : u.step (event, outside) = u := if_pos running
    have still : ∀ events, Runs.run Tool.step u.tool events = u.tool := by
      intro events
      induction events with
      | nil => rfl
      | cons first events ih => rw [Runs.run_cons, Tool.step_of_quit running, ih]
    rw [same, still]
    exact ⟨gated, rfl⟩
  | false =>
    have reacts : u.step (event, outside) = u.react outside event := if_neg (by simp [running])
    rw [reacts]
    cases found : u.gateEvent (event, outside) with
    | some reached => exact gated.own running found
    | none =>
      by_cases foreign : event.Foreign
      · cases event with
        | elsewhere change =>
          refine ⟨⟨gated.pushed, gated.bottom, gated.error, gated.closed⟩, ?_⟩
          exact (Tool.elsewhere_running ⟨running, gated.pushed⟩ _).symm
        | _ => exact foreign.elim
      · cases passed : u.tool.passed with
        | true =>
          obtain ⟨shut, error⟩ := gated.not_gate found
          exact gated.other running passed (reaction_react outside u event foreign) shut error
        | false =>
          rw [gated.shut passed foreign found]
          exact ⟨gated, Ui.RefinesAt.idle u⟩

/-! ## Whole runs -/

/-- Start-up with a PIN leaves the gate, and its prompt waiting. -/
theorem Ui.gated_started (p : Process) (first : p.firstActivity = .pinGate) :
    (Ui.started p).Gated ∧ (Ui.started p).tool = Tool.started p := by
  obtain ⟨process, fresh⟩ := started_fresh p
  rw [first] at fresh
  have pushed : (Tool.started p).pushed = .pinGate :: (Ui.fresh p).tool.pushed :=
    congrArg Tool.pushed fresh
  have shown : Ui.started p =
      after (pushActivity (layerOf .pinGate)) { Ui.fresh p with tool := .started p } :=
    (Ui.fresh p).after_onTool_push pushed
  have tool : (Ui.started p).tool = Tool.started p := congrArg Ui.tool shown
  have layers : (Ui.started p).layers = [.pinGate] := congrArg Ui.layers shown
  have deferred : (Ui.started p).deferred = [.gatePrompt] := congrArg Ui.deferred shown
  refine ⟨⟨?_, ?_, ?_, fun _ => ⟨layers, ?_⟩⟩, tool⟩
  · rw [tool, pushed]
    exact List.mem_cons_self
  · rw [layers]
    rfl
  · simp [layers]
  · simp [deferred]

/-- The gate is below everything in every run. -/
theorem Ui.Gated.run {u : Ui} (gated : u.Gated) (events : List (UiEvent × Outside)) :
    (Runs.run Ui.step u events).Gated :=
  Runs.run_preserves Ui.Gated (fun _ event _ gated => (gated.step event).1) events u
    (Runs.along_of_forall (fun _ _ => trivial) _ _) gated

/-- Every run of the tool that starts with the gate is a run of the gate on its own, with the
changes of the world in between; at most one main menu is pushed and at most five entries are
turned away; and as long as the gate is not passed, there is nothing else on the screen. -/
theorem gate_refined (p : Process) (first : p.firstActivity = .pinGate)
    (events : List (UiEvent × Outside)) :
    let u := Runs.run Ui.step (Ui.started p) events
    u.tool = Runs.run Tool.step (Tool.started p)
        (Runs.translated Ui.step Ui.gateEvents (Ui.started p) events) ∧
      u.tool.Sound ∧
      (u.tool.passed = false → u.layers = [.pinGate]) := by
  intro u
  obtain ⟨gated, started⟩ := Ui.gated_started p first
  have refined : u.tool = Runs.run Tool.step (Tool.started p)
      (Runs.translated Ui.step Ui.gateEvents (Ui.started p) events) := by
    rw [← started]
    exact Runs.run_refines Ui.Gated Ui.tool (fun _ event gated => (gated.step event).1)
      (fun _ event gated => (gated.step event).2) events _ gated
  refine ⟨refined, ?_, fun shut => ((gated.run events).closed shut).1⟩
  rw [refined]
  exact (Tool.sound_started p).run _

/-! ## Before the gate is passed -/

/-- The event is a prompt that lets the user through. -/
def Ui.LetsThrough (u : Ui) (event : UiEvent × Outside) : Prop :=
  ∃ reached ∈ u.gateEvent event, ∃ typist ∈ reached.typist?, u.world.Admits typist

instance (u : Ui) (event : UiEvent × Outside) : Decidable (u.LetsThrough event) :=
  inferInstanceAs (Decidable (∃ _ ∈ _, ∃ _ ∈ _, _))

/-- A handler that changes the gate at most keeps what every operation without requests keeps. -/
theorem WorldLaw.of_quiet {may : Change → Prop} {I : World → Prop}
    (quiet : ∀ c, may c → gateMay c)
    (asked : ∀ {α : Type} {m : PctlM α}, Built noRequest m → Preserves I m) : WorldLaw may I where
  served step := by
    cases step with
    | ask built => exact asked built
    | deleteSettings allowed => exact (quiet _ allowed).elim
    | deletePairing allowed => exact (quiet _ allowed).elim
    | passcode allowed => exact (quiet _ allowed).elim
    | clock answer allowed => exact (quiet _ allowed).elim
  guarded call okText allowed := (quiet _ allowed).elim

/-- A reaction that may not write writes nothing. -/
theorem Ui.Reaction.writes {may : Change → Prop} {u v : Ui} (reaction : Ui.Reaction may u v)
    (silent : ∀ call, ¬may (.write call)) : v.writes = u.writes := by
  obtain ⟨m, popped, built, same, rfl⟩ := reaction
  have below {τ β : Type} (part : Part Ui τ) {n : StateM τ β}
      (frame : ∀ v t, (part.update v t).writes = v.writes) :
      Keeps Ui.writes (zoom part n) := fun v => frame v _
  have kept : Keeps Ui.writes m := by
    refine built.keeps fun α m step => ?_
    cases step with
    | get => exact fun _ => rfl
    | keep f kept => exact fun v => (kept v).writes
    | serve step => exact below Ui.worldPart fun _ _ => rfl
    | guarded call okText allowed => exact (silent call allowed).elim
    | dump => exact below Ui.dumpPart fun _ _ => rfl
  exact (kept popped).trans same.writes

/-- An operation without requests only asks. -/
theorem asks_of_built {α : Type} {m : PctlM α} (built : Built noRequest m) :
    Preserves (fun w : World => ∀ event ∈ w.trace, event.asks = true) m := by
  intro w held event mem
  obtain ⟨asked, trace, fine⟩ := built.trace w
  rw [trace, List.mem_append] at mem
  obtain new | old := mem
  · exact (fine event new).elim id fun ⟨_, sent, _⟩ => sent.elim
  · exact held event old

/-- Until the gate is passed, an event changes the gate at most. -/
theorem Ui.Gated.quiet {u : Ui} (gated : u.Gated) (closed : u.tool.passed = false)
    (event : UiEvent) (c : Change) (allowed : u.may event c) : gateMay c := by
  obtain ⟨layers, deferred⟩ := gated.closed closed
  cases event with
  | tick =>
    unfold may at allowed
    cases found : u.deferred with
    | nil =>
      rw [found] at allowed
      exact allowed.elim
    | cons next later =>
      have prompt := deferred next (found ▸ List.mem_cons_self)
      rw [found, prompt] at allowed
      exact allowed
  | press cell =>
    unfold may at allowed
    rw [layers] at allowed
    cases cell <;> exact allowed.elim
  | choose button =>
    unfold may at allowed
    rw [layers] at allowed
    exact allowed.elim
  | elsewhere change => exact allowed.elim
  | _ =>
    unfold may at allowed
    rw [layers] at allowed
    exact allowed

/-- The gate is still to be passed, and nothing was changed so far. -/
structure Ui.Locked (u : Ui) : Prop where
  /-- The gate is below everything. -/
  gated : u.Gated
  /-- It is not passed. -/
  closed : u.tool.passed = false
  /-- Nothing was written. -/
  writes : u.writes = []
  /-- libnx was only asked for something. -/
  asked : ∀ event ∈ u.world.trace, event.asks = true

/-- An event that lets nobody through leaves the gate to be passed. -/
theorem Ui.Locked.passed {u : Ui} (locked : u.Locked) {event : UiEvent × Outside}
    (kept : ¬u.LetsThrough event) : (u.step event).tool.passed = false := by
  have opens (t : Tool) (world : World) : ¬t.Opens (.elsewhere fun _ => world) := by
    simp [Tool.Opens, GateEvent.typist?]
  rw [(locked.gated.step event).2]
  unfold gateEvents
  cases found : u.gateEvent event with
  | none =>
    rw [Option.toList_none, List.nil_append, Runs.run_cons, Runs.run_nil, Bool.eq_false_iff,
      Ne, (Tool.obeys _ _).passed]
    simp [locked.closed, opens]
  | some reached =>
    have shut : ¬u.tool.Opens reached := fun through =>
      kept ⟨reached, found, through.2.2⟩
    rw [Option.toList_some, List.singleton_append, Runs.run_cons, Runs.run_cons, Runs.run_nil,
      Bool.eq_false_iff, Ne, (Tool.obeys _ _).passed, (Tool.obeys _ _).passed]
    simp [locked.closed, opens, shut]

/-- Until the gate is passed, the tool changes nothing on the console. -/
theorem Ui.Locked.console {u : Ui} (locked : u.Locked) (event : UiEvent × Outside)
    (own : ¬event.1.Foreign) : (u.step event).world.console = u.world.console := by
  obtain same | ⟨change, foreign, -⟩ | ⟨-, -, reaction⟩ := u.step_cases event
  · rw [same]
  · rw [foreign] at own
    exact (own trivial).elim
  · exact reaction.preserves_world (I := fun w => w.console = u.world.console)
      (.of_quiet (locked.gated.quiet locked.closed event.1)
        fun built w same => (built.console w).trans same) rfl

/-- An event that lets nobody through leaves the tool locked, and nothing changed. -/
theorem Ui.Locked.step {u : Ui} (locked : u.Locked) {event : UiEvent × Outside}
    (kept : ¬u.LetsThrough event) : (u.step event).Locked := by
  refine ⟨(locked.gated.step event).1, locked.passed kept, ?_, ?_⟩
  · obtain same | ⟨change, -, left⟩ | ⟨-, -, reaction⟩ := u.step_cases event
    · rw [same]
      exact locked.writes
    · rw [left]
      exact locked.writes
    · exact (reaction.writes fun call allowed =>
        locked.gated.quiet locked.closed event.1 _ allowed).trans locked.writes
  · exact u.world_step event
      (.of_quiet (locked.gated.quiet locked.closed event.1) asks_of_built)
      (fun _ _ asked => asked) locked.asked

/-- Until a prompt lets the user through, the gate is all that there is on the screen, libnx is
only asked for something, nothing is written, and no event changes the console unless it changes
on its own. -/
theorem nothing_before_pin (p : Process) (boot : p.world.AtBoot)
    (first : p.firstActivity = .pinGate) (events : List (UiEvent × Outside))
    (shut : Runs.Along Ui.step (fun u event => ¬u.LetsThrough event) (Ui.started p) events) :
    let u := Runs.run Ui.step (Ui.started p) events
    u.layers = [.pinGate] ∧ u.writes = [] ∧ (∀ event ∈ u.world.trace, event.asks = true) ∧
      ∀ event : UiEvent × Outside, ¬event.1.Foreign →
        (u.step event).world.console = u.world.console := by
  intro u
  obtain ⟨gated, tool⟩ := Ui.gated_started p first
  have closed : (Ui.started p).tool.passed = false := by
    obtain ⟨process, fresh⟩ := started_fresh p
    rw [tool, fresh]
    rfl
  have asked : ∀ event ∈ (Ui.started p).world.trace, event.asks = true := by
    refine world_started p (.of_quiet (fun _ => id) asks_of_built) fun event mem => ?_
    rw [trace_appInit boot, List.mem_singleton] at mem
    exact mem ▸ rfl
  have writes : (Ui.started p).writes = [] :=
    (reaction_started p).writes fun call => id
  have locked : u.Locked := Runs.run_preserves Ui.Locked
    (fun _ _ kept locked => locked.step kept) events _ shut ⟨gated, closed, writes, asked⟩
  exact ⟨(locked.gated.closed locked.closed).1, locked.writes, locked.asked, locked.console⟩

/-- On the sample console, a wrong and then the right PIN are entered: the gate of the tool is where
these two entries lead the gate on its own, passed with one wrong entry counted. -/
theorem gate_refined_sample :
    let events : List (UiEvent × Outside) := [(.enterPin, .typing [0x31, 0x32, 0x33, 0x35]),
      (.enterPin, .typing [0x31, 0x32, 0x33, 0x34])]
    let u := Runs.run Ui.step (Ui.started (.booted .none)) events
    u.tool = Runs.run Tool.step (Tool.started (.booted .none))
        (Runs.translated Ui.step Ui.gateEvents (Ui.started (.booted .none)) events) ∧
      u.tool.passed = true ∧ u.tool.attempts = 1 := by
  intro events u
  exact ⟨(gate_refined (.booted .none) (by decide) events).1, by decide, by decide⟩

/-- On the sample console, a wrong PIN leaves the gate where it is. -/
theorem nothing_before_pin_sample : (Runs.run Ui.step (Ui.started (.booted .none))
    [(.enterPin, .typing [0x31, 0x32, 0x33, 0x35])]).layers = [.pinGate] :=
  (nothing_before_pin (.booted .none) ⟨rfl, rfl, rfl⟩ (by decide)
    [(.enterPin, .typing [0x31, 0x32, 0x33, 0x35])] ⟨by decide, trivial⟩).1

end PctlManager
