import PctlManager.Verif.Secrecy
import PctlManager.Verif.Confirmations

/-!
# The PIN stays secret in every run

The whole tool on two consoles that differ in nothing but the digits of the PIN, with users who
do the same except that each enters a PIN of their own at the gate. Over every run, everything
the tool shows, logs, saves and stages is the same on both, as long as the entries at the gate
are right or wrong alike; so the only thing it tells about the PIN, besides its length, is
whether an entry was right (`pin_stays_secret`).
-/

namespace PctlManager

open Stateful

variable {digits digits' : List UInt8}

/-! ## The gate -/

/-- The tool with the gate is the same, on worlds that differ only in the digits. -/
def Tool.Alike (digits digits' : List UInt8) (t t' : Tool) : Prop :=
  ∃ world, t.process.world.Alike digits digits' world ∧ t' = { t with process.world := world }

/-- A call of the service layer from the gate. -/
theorem related_service {α : Type} {V : α → α → Prop} {m : PctlM α}
    (related : Related (World.Alike digits digits') V m m) :
    Related (Tool.Alike digits digits') V (service m) (service m) := by
  rintro t _ ⟨world, alike, rfl⟩
  obtain ⟨values, left⟩ := related _ _ alike
  exact ⟨values, _, left, rfl⟩

/-- An update of what does not belong to the process. -/
theorem same_toolUpdate {f : Tool → Tool}
    (apart : ∀ t world, f { t with process.world := world } =
      { f t with process.world := world }) (kept : ∀ t, (f t).process = t.process) :
    Same (Tool.Alike digits digits') (modify f) := by
  refine Related.modified ?_
  rintro t _ ⟨world, alike, rfl⟩
  refine ⟨world, ?_, apart t world⟩
  rw [kept t]
  exact alike

/-- An activity is pushed on both. -/
theorem same_pushActivity (activity : Activity) :
    Same (Tool.Alike digits digits') (Application.pushActivity activity) :=
  same_toolUpdate (fun _ _ => rfl) fun _ => rfl

/-- Both tools are told to quit. -/
theorem same_quit : Same (Tool.Alike digits digits') Application.quit :=
  same_toolUpdate (fun _ _ => rfl) fun _ => rfl

/-- The label of the gate is the same. -/
theorem same_setStatus (status : GateStatus) :
    Same (Tool.Alike digits digits') (setStatus status) :=
  same_toolUpdate (fun _ _ => rfl) fun _ => rfl

/-- Both gates open. -/
theorem same_letThrough : Same (Tool.Alike digits digits') PinGate.letThrough :=
  Same.bind (same_toolUpdate (fun _ _ => rfl) fun _ => rfl) fun _ => same_pushActivity _

/-- Both gates count a wrong entry. -/
theorem same_countWrong : Same (Tool.Alike digits digits') PinGate.countWrong := by
  unfold PinGate.countWrong
  refine Same.bind (same_toolUpdate (fun _ _ => rfl) fun _ => rfl) fun _ => Related.get_bind ?_
  rintro t _ ⟨world, alike, rfl⟩
  exact Same.bind (related_service (alike_pctlLogf _)) fun _ =>
    Same.ite same_quit (same_setStatus _)

/-- What the gate reads of the PINs: each reads its own. -/
structure PinReply.OfBoth (digits digits' : List UInt8) (p p' : PinReply) : Prop where
  /-- The same code. -/
  rc : p'.rc = p.rc
  /-- The same length. -/
  len : p'.len = p.len
  /-- The digits of the first PIN. -/
  digits : p.rc = 0 → p.out.take p.len.toNat = digits
  /-- The digits of the second PIN. -/
  digits' : p'.rc = 0 → p'.out.take p'.len.toNat = digits'

/-- A PIN that is read is that of the console. -/
theorem digits_pctlGetPin {w : World} {digits : List UInt8}
    (registered : w.console.Registered digits)
    (succeeded : (result (pctlGetPin pinBufferSize) w).rc = 0) :
    (result (pctlGetPin pinBufferSize) w).out.take
      (result (pctlGetPin pinBufferSize) w).len.toNat = digits := by
  obtain ⟨length, front⟩ := front_pctlGetPin registered succeeded
  have shorter := congrArg (List.take (result (pctlGetPin pinBufferSize) w).len.toNat) front
  rw [List.take_take, Nat.min_eq_left (Nat.le_succ _), length, List.take_left] at shorter
  rw [length]
  exact shorter

/-- The gate reads the PIN of each console. -/
theorem related_gatePin : Related (World.Alike digits digits') (PinReply.OfBoth digits digits')
    (pctlGetPin pinBufferSize) (pctlGetPin pinBufferSize) := by
  refine alike_of_twin ?_ (built_pctlGetPin pinBufferSize).sys
  intro w w' twin
  obtain ⟨pins, left⟩ := related_pctlGetPin w w' twin
  have registered := twin.1.console.registered
  have registered' := twin.1.console.registered'
  exact ⟨⟨pins.rc.symm, pins.len.symm, digits_pctlGetPin registered,
    digits_pctlGetPin registered'⟩, left⟩

/-- Two users who answer every keyboard alike that is not for a PIN, and whose entries at the gate
are right or wrong alike. -/
structure Typist.BothRight (digits digits' : List UInt8) (typist typist' : Typist) : Prop where
  /-- Everything else than a PIN. -/
  alike : typist.Alike typist'
  /-- The entry at the gate, if there is one. -/
  entry : (promptPin gateTitle typist').map (fun entered => decide (entered = digits')) =
    (promptPin gateTitle typist).map fun entered => decide (entered = digits)

/-- The prompts come to the same. -/
theorem related_prompt {typist typist' : Typist}
    (right : typist.BothRight digits digits' typist') :
    Related (Tool.Alike digits digits') Eq (PinGate.prompt typist) (PinGate.prompt typist') := by
  unfold PinGate.prompt
  refine Related.get_bind ?_
  rintro t _ ⟨world, -, rfl⟩
  refine Related.ite (.pure rfl) (Related.bind (related_service related_gatePin) ?_)
  intro p p' pins
  have code := pins.rc
  by_cases failed : rFailed p.rc
  · have failed' : rFailed p'.rc := by rwa [code]
    rw [if_pos failed, if_pos failed', code]
    exact same_setStatus _
  · have failed' : ¬rFailed p'.rc := by rwa [code]
    have read := pins.digits (not_not.mp failed)
    have read' := pins.digits' (not_not.mp failed')
    rw [if_neg failed, if_neg failed', read, read', pins.len]
    refine Related.ite (Same.bind (related_service (alike_pctlLogf _)) fun _ => same_letThrough) ?_
    have entry := right.entry
    cases typed : promptPin gateTitle typist with
    | none =>
      cases typed' : promptPin gateTitle typist' with
      | none => exact .pure rfl
      | some entered' => simp [typed, typed'] at entry
    | some entered =>
      cases typed' : promptPin gateTitle typist' with
      | none => simp [typed, typed'] at entry
      | some entered' =>
        have verdict : entered' = digits' ↔ entered = digits := by
          simpa [typed, typed'] using entry
        by_cases correct : entered = digits
        · have correct' := verdict.mpr correct
          simp only [if_pos correct, if_pos correct']
          exact same_letThrough
        · have correct' := mt verdict.mp correct
          simp only [if_neg correct, if_neg correct']
          exact same_countWrong

/-- Resuming the gate is the same. -/
theorem same_gateResume : Same (Tool.Alike digits digits') PinGate.onResume := by
  unfold PinGate.onResume
  refine Related.get_bind ?_
  rintro t _ ⟨world, -, rfl⟩
  exact Same.ite same_quit (.pure _)

/-! ## The whole tool -/

/-- The tools show, hold back and stage the same, on worlds that differ only in the digits. What
each recorded about its writes is left out. -/
def Ui.Alike (digits digits' : List UInt8) (u u' : Ui) : Prop :=
  ∃ world writes, u.world.Alike digits digits' world ∧
    u' = { u with tool.process.world := world, writes := writes }

/-- An update of what the user sees. -/
theorem same_uiUpdate {f : Ui → Ui}
    (apart : ∀ u world writes, f { u with tool.process.world := world, writes := writes } =
      { f u with tool.process.world := world, writes := writes })
    (kept : ∀ u, (f u).world = u.world) : Same (Ui.Alike digits digits') (modify f) := by
  refine Related.modified ?_
  rintro u _ ⟨world, writes, alike, rfl⟩
  refine ⟨world, writes, ?_, apart u world writes⟩
  rw [kept u]
  exact alike

/-- A call of the service layer. -/
theorem same_call {α : Type} {m : PctlM α} (same : Same (World.Alike digits digits') m) :
    Same (Ui.Alike digits digits') (Ui.call m) := by
  rintro u _ ⟨world, writes, alike, rfl⟩
  obtain ⟨values, left⟩ := same _ _ alike
  exact ⟨values, _, writes, left, rfl⟩

/-- A layer is put on top of both. -/
theorem same_push (layer : Layer) : Same (Ui.Alike digits digits') (Ui.push layer) :=
  same_uiUpdate (fun _ _ _ => rfl) fun _ => rfl

/-- A function is held back on both. -/
theorem same_sync (later : Deferred) : Same (Ui.Alike digits digits') (Ui.sync later) :=
  same_uiUpdate (fun _ _ _ => rfl) fun _ => rfl

/-- Both show a toast. -/
theorem same_toast (t : Toast) : Same (Ui.Alike digits digits') (Ui.toast t) :=
  same_uiUpdate (fun _ _ _ => rfl) fun _ => rfl

/-- The panel is refreshed alike. -/
theorem same_refreshPanel : Same (Ui.Alike digits digits') Ui.refreshPanel := by
  have read (available : Bool) : Same (World.Alike digits digits')
      (StatusPanel.refresh available) :=
    alike_of_built (same_StatusPanel_refresh available) (built_StatusPanel_refresh available)
  unfold Ui.refreshPanel
  refine Related.get_bind ?_
  rintro u _ ⟨world, writes, -, rfl⟩
  exact Same.bind (same_call (read _)) fun panel =>
    same_uiUpdate (fun _ _ _ => rfl) fun _ => rfl

/-- A handler of the play-timer screen runs alike. -/
theorem related_screen {m n : ScreenM Unit}
    (related : Related (PlayTimerActivity.Alike digits digits') Eq m n) :
    Related (Ui.Alike digits digits') Eq (zoom Ui.screenPart m) (zoom Ui.screenPart n) := by
  refine related.zoom Ui.screenPart ?_ ?_
  · rintro u _ ⟨world, writes, alike, rfl⟩
    exact ⟨⟨alike, rfl⟩, rfl, rfl, rfl⟩
  · rintro u _ ⟨world, writes, -, rfl⟩ s ⟨⟨world', shown', writes'⟩, header', text', popups'⟩
      ⟨⟨worlds, shown⟩, header, text, popups⟩
    simp only at shown header text popups
    subst shown header text popups
    exact ⟨world', writes', worlds, rfl⟩

/-- The dialogs that it opens come on top alike. -/
theorem related_onScreen {m n : ScreenM Unit}
    (related : Related (PlayTimerActivity.Alike digits digits') Eq m n) :
    Related (Ui.Alike digits digits') Eq (Ui.onScreen m) (Ui.onScreen n) := by
  unfold Ui.onScreen
  refine Related.get_bind ?_
  rintro u _ ⟨world, writes, -, rfl⟩
  exact Related.bind (related_screen related) fun _ _ _ =>
    same_uiUpdate (fun _ _ _ => rfl) fun _ => rfl

/-- A handler of the per-day editor. -/
theorem related_onEditor {m n : PerDayM Unit}
    (related : Related (PerDay.Alike digits digits') Eq m n) :
    Related (Ui.Alike digits digits') Eq (Ui.onEditor m) (Ui.onEditor n) := by
  refine related.zoom Ui.perDayPart ?_ ?_
  · rintro u _ ⟨world, writes, alike, rfl⟩
    exact ⟨⟨alike, rfl⟩, rfl, rfl, rfl, rfl⟩
  · rintro u _ ⟨world, writes, -, rfl⟩ e
      ⟨⟨world', shown', writes'⟩, header', dayLabels', live', pending'⟩ alike
    obtain ⟨⟨worlds, shown⟩, header, dayLabels, live, pending⟩ := alike
    simp only at shown header dayLabels live pending
    subst shown header dayLabels live pending
    exact ⟨world', writes', worlds, rfl⟩

/-- An activity comes up alike. -/
theorem same_pushUi (layer : Layer) : Same (Ui.Alike digits digits') (Ui.pushActivity layer) := by
  cases layer with
  | pinGate => exact Same.bind (same_push _) fun _ => same_sync _
  | main => exact Same.bind (same_push _) fun _ => Same.bind same_refreshPanel fun _ => same_sync _
  | playTimer => exact Same.bind (same_push _) fun _ => related_onScreen same_refreshAll
  | perDay =>
    exact Same.bind (same_push _) fun _ => related_onEditor same_PerDay_onContentAvailable
  | initError => exact same_push _
  | dialog d => exact same_push _

/-- A part of start-up or of the gate runs alike. -/
theorem related_tool {m n : ToolM Unit} (related : Related (Tool.Alike digits digits') Eq m n) :
    Related (Ui.Alike digits digits') Eq (zoom Ui.toolPart m) (zoom Ui.toolPart n) := by
  refine related.zoom Ui.toolPart ?_ ?_
  · rintro u _ ⟨world, writes, alike, rfl⟩
    exact ⟨world, alike, rfl⟩
  · rintro u _ ⟨world, writes, -, rfl⟩ t _ ⟨world', worlds, rfl⟩
    exact ⟨world', writes, worlds, rfl⟩

/-- The activities that it pushed come on top alike. -/
theorem related_onTool {m n : ToolM Unit} (related : Related (Tool.Alike digits digits') Eq m n) :
    Related (Ui.Alike digits digits') Eq (Ui.onTool m) (Ui.onTool n) := by
  unfold Ui.onTool
  refine Related.get_bind ?_
  rintro u _ ⟨world, writes, -, rfl⟩
  refine Related.bind (related_tool related) fun _ _ _ => Related.get_bind ?_
  rintro v _ ⟨world', writes', -, rfl⟩
  exact Same.forM (fun _ => same_pushUi _) _

/-! ## The main menu -/

/-- Seeding the clock is the same. -/
theorem same_seedNetworkClock {o o' : Outside} (same : o'.timeSet = o.timeSet) :
    Related (Ui.Alike digits digits') Eq (MainActivity.seedNetworkClock o)
      (MainActivity.seedNetworkClock o') := by
  unfold MainActivity.seedNetworkClock
  rw [same]
  exact Same.bind (same_call (same_clockSeed _)) fun _ => Same.bind same_refreshPanel fun _ =>
    same_toast _

/-- The clocks are the same. -/
theorem same_callClocks : Same (Ui.Alike digits digits') (Ui.call clockStatus) :=
  same_call (alike_of_built same_clockStatus built_clockStatus)

/-- The deferred check of the clock is the same. -/
theorem same_checkNetworkClock :
    Same (Ui.Alike digits digits') MainActivity.checkNetworkClock := by
  unfold MainActivity.checkNetworkClock
  refine Related.get_bind ?_
  rintro u _ ⟨world, writes, alike, rfl⟩
  have supported : pctlFwPlayTimerSupported world = pctlFwPlayTimerSupported u.world :=
    alike.1.1.supported
  change Related (Ui.Alike digits digits') Eq _
    (if pctlFwPlayTimerSupported world then _ else _)
  rw [supported]
  exact Same.ite (Same.bind same_callClocks fun _ => Same.ite (.pure _) (same_push _)) (.pure _)

/-- The report is the same. -/
theorem same_dump : Same (Ui.Alike digits digits')
    (zoom Ui.dumpPart (pctlPlayTimerDump 0 MainActivity.diagBufferSize)) := by
  have dumped := dumped_pctlPlayTimerDump 0 MainActivity.diagBufferSize
  have kept : Preserves (fun d : Dump => d.world.sys.ArmsBlindly)
      (pctlPlayTimerDump 0 MainActivity.diagBufferSize) := by
    refine dumped.preserves fun α m step d arms => ?_
    cases step with
    | get => exact arms
    | ask built =>
      have sys := built.sys d.world
      change Sysmodule.ArmsBlindly (after _ d.world).sys
      rw [sys]
      exact arms
    | say text => exact arms
    | start change => exact arms
  have same : Same (Dump.Twin digits digits') (pctlPlayTimerDump 0 MainActivity.diagBufferSize) :=
    same_pctlPlayTimerDump _ _
  refine (same.also kept).zoom Ui.dumpPart ?_ ?_
  · rintro u _ ⟨world, writes, ⟨twin, arms⟩, rfl⟩
    exact ⟨⟨twin, rfl⟩, arms⟩
  · rintro u _ ⟨world, writes, -, rfl⟩ d ⟨world', report⟩ ⟨⟨twin, reports⟩, arms⟩
    obtain rfl := reports
    exact ⟨world', writes, ⟨twin, arms⟩, rfl⟩

/-! ## One event -/

/-- What happens outside of both tools during an event: the users do the same, but each enters a
PIN of their own. -/
structure Outside.Alike (digits digits' : List UInt8) (o o' : Outside) : Prop where
  /-- The users in front of the number pad. -/
  typist : o.typist.BothRight digits digits' o'.typist
  /-- Everything else is the same. -/
  others : o' = { o with typist := o'.typist }

/-- The cell that saves the report. -/
theorem related_pressDiag {o o' : Outside} (alike : o.Alike digits digits' o') :
    Related (Ui.Alike digits digits') Eq (MainActivity.pressDiag o)
      (MainActivity.pressDiag o') := by
  have opened : o'.fopen = o.fopen := by rw [alike.others]
  have written : o'.fputs = o.fputs := by rw [alike.others]
  unfold MainActivity.pressDiag
  rw [opened, written]
  exact Same.bind same_dump fun _ => Same.bind (same_uiUpdate (fun _ _ _ => rfl) fun _ => rfl)
    fun _ => same_toast _

/-- The cell of the clock. -/
theorem related_pressClock {o o' : Outside} (alike : o.Alike digits digits' o') :
    Related (Ui.Alike digits digits') Eq (MainActivity.pressClock o)
      (MainActivity.pressClock o') := by
  have answered : o'.timeSet = o.timeSet := by rw [alike.others]
  unfold MainActivity.pressClock
  refine Related.bind same_callClocks ?_
  rintro cs _ rfl
  exact Related.ite (same_seedNetworkClock answered) (same_push _)

/-- A click that registers no new PIN. -/
theorem related_press {o o' : Outside} (alike : o.Alike digits digits' o') (top : Layer)
    (cell : Cell) (spared : ¬(top = .main ∧ cell = .setPin)) :
    Related (Ui.Alike digits digits') Eq (Ui.press top cell o) (Ui.press top cell o') := by
  have idle : Related (Ui.Alike digits digits') Eq (pure () : UiM Unit) (pure ()) := .pure rfl
  cases top with
  | main =>
    cases cell with
    | refresh => exact Same.bind same_refreshPanel fun _ => same_toast _
    | playTimer => exact same_pushUi _
    | setPin => exact (spared ⟨rfl, rfl⟩).elim
    | deletePc => exact same_push _
    | unlink => exact same_push _
    | clock => exact related_pressClock alike
    | diag => exact related_pressDiag alike
    | _ => exact idle
  | playTimer =>
    cases cell with
    | setAll => exact related_onScreen (related_pressSetAll alike.typist.alike)
    | mode => exact related_onScreen same_pressMode
    | perDay => exact same_pushUi _
    | bedtime => exact related_onScreen same_pressBedtime
    | remove => exact related_onScreen (same_popup _)
    | _ => exact idle
  | perDay =>
    cases cell with
    | day d => exact same_push _
    | save => exact related_onEditor same_doSave
    | _ => exact idle
  | _ => exact idle

/-- A button that confirms no deletion. -/
theorem related_choose {o o' : Outside} (alike : o.Alike digits digits' o') (d : Dialog)
    (button : Button) (spared : ¬(button = .first ∧ (d = .deletePc ∨ d = .unlink))) :
    Related (Ui.Alike digits digits') Eq (Ui.choose d button o) (Ui.choose d button o') := by
  have answered : o'.timeSet = o.timeSet := by rw [alike.others]
  have idle : Related (Ui.Alike digits digits') Eq (pure () : UiM Unit) (pure ()) := .pure rfl
  cases button with
  | cancel => cases d <;> exact idle
  | first =>
    cases d with
    | deletePc => exact (spared ⟨rfl, .inl rfl⟩).elim
    | unlink => exact (spared ⟨rfl, .inr rfl⟩).elim
    | clock => exact same_seedNetworkClock answered
    | clockOverwrite => exact same_seedNetworkClock answered
    | mode => exact same_sync _
    | bedtime => exact same_sync _
    | remove => exact same_sync _
    | day d => exact related_onEditor (same_staged d _)
  | second =>
    cases d with
    | mode => exact same_sync _
    | bedtime => exact same_sync _
    | day d => exact same_sync _
    | _ => exact idle

/-- A deferred function. -/
theorem related_perform {o o' : Outside} (alike : o.Alike digits digits' o') (next : Deferred) :
    Related (Ui.Alike digits digits') Eq (Ui.perform next o) (Ui.perform next o') := by
  have typists : o'.typists = o.typists := by rw [alike.others]
  cases next with
  | gatePrompt => exact related_onTool (related_prompt alike.typist)
  | checkNetworkClock => exact same_checkNetworkClock
  | setPinToast rc => exact same_toast _
  | chooseAlarm => exact related_onScreen (same_chooseMode _ _)
  | chooseSuspend => exact related_onScreen (same_chooseMode _ _)
  | turnBedtimeOff =>
    exact related_onScreen (Same.bind (same_writeBedtime _) fun _ => same_refreshAll)
  | setBedtime =>
    have edited : Related (PlayTimerActivity.Alike digits digits') Eq
        (PlayTimerActivity.setBedtime o.typists) (PlayTimerActivity.setBedtime o'.typists) := by
      rw [typists]
      exact Same.bind (same_editBedtimeAlarm _) fun _ => same_refreshAll
    exact related_onScreen edited
  | confirmRemove => exact related_onScreen same_confirmRemove
  | promptDay d => exact related_onEditor (related_stageMinutes d alike.typist.alike)

/-- What is on top is resumed. -/
theorem same_resume (top : Layer) : Same (Ui.Alike digits digits') (Ui.resume top) := by
  cases top with
  | pinGate => exact related_onTool same_gateResume
  | main => exact same_refreshPanel
  | playTimer => exact related_onScreen same_refreshAll
  | perDay => exact related_onEditor same_refreshVisible
  | initError => exact .pure _
  | dialog d => exact .pure _

/-- Button B. -/
theorem same_back (top : Layer) (below : List Layer) :
    Same (Ui.Alike digits digits') (Ui.back top below) := by
  have quit : Same (Ui.Alike digits digits') (Ui.onTool Application.quit) :=
    related_onTool same_quit
  have popped : Same (Ui.Alike digits digits')
      (modify fun u : Ui => { u with layers := below }) :=
    same_uiUpdate (fun _ _ _ => rfl) fun _ => rfl
  cases top <;> cases below <;> first | exact quit | exact popped

/-- Nothing happens to the PIN: no deletion and no new PIN is confirmed, and a change of the
console on its own changes both consoles alike. -/
def Ui.SparesPin (digits digits' : List UInt8) (u : Ui) (event : UiEvent × Outside) : Prop :=
  (∀ action : Destructive, ¬action.Confirmed u event) ∧
    ∀ change, event.1 = .elsewhere change → ∀ c c' : Console, c.SameButDigits digits digits' c' →
      (change c).SameButDigits digits digits' (change c')

/-- The same is on the screen. -/
theorem Ui.Alike.layers {u u' : Ui} (alike : u.Alike digits digits' u') :
    u'.layers = u.layers := by
  obtain ⟨world, writes, -, rfl⟩ := alike
  rfl

/-- The same is held back. -/
theorem Ui.Alike.deferred {u u' : Ui} (alike : u.Alike digits digits' u') :
    u'.deferred = u.deferred := by
  obtain ⟨world, writes, -, rfl⟩ := alike
  rfl

/-- A change of both consoles that keeps their difference. -/
theorem Ui.Alike.elsewhere {u u' : Ui} (alike : u.Alike digits digits' u')
    {change : Console → Console} (kept : ∀ c c' : Console, c.SameButDigits digits digits' c' →
      (change c).SameButDigits digits digits' (change c')) :
    Ui.Alike digits digits' { u with tool.process.world.console := change u.world.console }
      { u' with tool.process.world.console := change u'.world.console } := by
  obtain ⟨world, writes, ⟨⟨same, blind⟩, arms⟩, rfl⟩ := alike
  have changed := kept _ _ same.console
  exact ⟨{ world with console := change world.console }, writes, ⟨⟨⟨same.hosversion, same.guard,
    changed, same.sys, same.faults, same.log⟩, blind⟩, arms⟩, rfl⟩

/-- The tools react alike. -/
theorem Ui.Alike.react {u u' : Ui} (alike : u.Alike digits digits' u')
    (running : u.tool.quit = false) {o o' : Outside} (outside : o.Alike digits digits' o')
    (event : UiEvent) (spared : u.SparesPin digits digits' (event, o)) :
    (u.react o event).Alike digits digits' (u'.react o' event) := by
  have layers := alike.layers
  cases event with
  | press cell =>
    unfold Ui.react
    rw [layers]
    cases found : u.layers with
    | nil => exact alike
    | cons top below =>
      refine (related_press outside top cell ?_ _ _ alike).2
      rintro ⟨rfl, rfl⟩
      have clicked : Destructive.setPin.Pressed u (.press .setPin, o) :=
        ⟨running, congrArg List.head? found, rfl⟩
      exact spared.1 .setPin (.inr ⟨rfl, clicked⟩)
  | enterPin =>
    unfold Ui.react
    rw [layers]
    cases u.layers with
    | nil => exact alike
    | cons top below =>
      cases top with
      | pinGate => exact (related_onTool (related_prompt outside.typist) _ _ alike).2
      | _ => exact alike
  | choose button =>
    unfold Ui.react
    rw [layers]
    cases found : u.layers with
    | nil => exact alike
    | cons top below =>
      cases top with
      | dialog d =>
        have closed : Same (Ui.Alike digits digits')
            (modify fun u : Ui => { u with layers := below }) :=
          same_uiUpdate (fun _ _ _ => rfl) fun _ => rfl
        have below := (closed u u' alike).2
        have confirms (action : Destructive) (asks : action.dialog = some d)
            (first : button = .first) : action.Confirmed u (.choose button, o) :=
          .inl ⟨d, asks, running, congrArg List.head? found, congrArg some first⟩
        dsimp only
        split
        · refine (related_choose outside d button ?_ _ _ below).2
          rintro ⟨first, rfl | rfl⟩
          · exact spared.1 .deletePc (confirms .deletePc rfl first)
          · exact spared.1 .unlink (confirms .unlink rfl first)
        · exact alike
      | _ => exact alike
  | back =>
    unfold Ui.react
    rw [layers]
    cases u.layers with
    | nil => exact alike
    | cons top below => exact (same_back top below _ _ alike).2
  | tick =>
    unfold Ui.react
    rw [alike.deferred]
    cases u.deferred with
    | nil => exact alike
    | cons next later =>
      have taken : Same (Ui.Alike digits digits')
          (modify fun u : Ui => { u with deferred := later }) :=
        same_uiUpdate (fun _ _ _ => rfl) fun _ => rfl
      exact (related_perform outside next _ _ (taken u u' alike).2).2
  | resume =>
    unfold Ui.react
    rw [layers]
    cases u.layers with
    | nil => exact alike
    | cons top below => exact (same_resume top _ _ alike).2
  | elsewhere change => exact alike.elsewhere (spared.2 change rfl)

/-! ## Whole runs -/

/-- The same event on both, with what happens outside of each tool. -/
def EventsAlike (digits digits' : List UInt8) (event event' : UiEvent × Outside) : Prop :=
  event'.1 = event.1 ∧ event.2.Alike digits digits' event'.2

/-- One step of the main loop of both. -/
theorem alike_step {u u' : Ui} {event event' : UiEvent × Outside}
    (spared : u.SparesPin digits digits' event) (same : EventsAlike digits digits' event event')
    (alike : u.Alike digits digits' u') :
    (u.step event).Alike digits digits' (u'.step event') := by
  obtain ⟨event, o⟩ := event
  obtain ⟨event', o'⟩ := event'
  obtain ⟨rfl, outside⟩ := same
  have quit : u'.tool.quit = u.tool.quit := by
    obtain ⟨world, writes, -, rfl⟩ := alike
    rfl
  unfold Ui.step
  rw [quit]
  split
  · exact alike
  · rename_i running
    exact alike.react (Bool.not_eq_true _ ▸ running) outside _ spared

/-- Processes on worlds that differ only in the digits. -/
def Process.Alike (digits digits' : List UInt8) (p p' : Process) : Prop :=
  ∃ world, p.world.Alike digits digits' world ∧ p' = { p with world := world }

/-- Start-up is the same. -/
theorem alike_started {p p' : Process} (alike : p.Alike digits digits' p') :
    (Ui.started p).Alike digits digits' (Ui.started p') := by
  obtain ⟨world, worlds, rfl⟩ := alike
  have acquired : Same (World.Alike digits digits') pctlOpsInit :=
    alike_of_twin same_pctlInitialize fun _ => rfl
  have opened : Same (Tool.Alike digits digits') (zoom Tool.processPart appInit) := by
    rintro t _ ⟨world, alike, rfl⟩
    obtain ⟨code, left⟩ := acquired _ _ alike
    have code' : result pctlOpsInit world = result pctlOpsInit t.process.world := code.symm
    refine ⟨?_, after pctlOpsInit world, left, ?_⟩
    · change decide (rSucceeded (result pctlOpsInit t.process.world)) =
        decide (rSucceeded (result pctlOpsInit world))
      rw [code']
    · change (⟨⟨after pctlOpsInit world, decide (rSucceeded (result pctlOpsInit world)),
        result pctlOpsInit world⟩, _, _, _, _, _⟩ : Tool) = _
      rw [code']
      exact rfl
  have status : Related (Tool.Alike digits digits') Eq (service pctlStatusFetch)
      (service pctlStatusFetch) :=
    related_service (alike_of_built same_pctlStatusFetch built_pctlStatusFetch)
  have startUp : Same (Tool.Alike digits digits') runStartUp :=
    Same.bind opened fun _ => Same.ite (Same.bind status fun _ => same_pushActivity _)
      (same_pushActivity _)
  have fresh : (Ui.fresh p).Alike digits digits' (Ui.fresh { p with world := world }) :=
    ⟨world, [], worlds, rfl⟩
  exact (related_onTool startUp _ _ fresh).2

/-- Two consoles that differ in nothing but the digits of the PIN, and users who do the same but
enter a PIN of their own at the gate, right or wrong alike: over every run that spares the PIN,
everything the tool shows, logs, saves, holds back and stages is the same on both, and so is
everything that the consoles hold except the digits. -/
theorem pin_stays_secret (digits digits' : List UInt8) (p p' : Process)
    (alike : p.Alike digits digits' p') (events events' : List (UiEvent × Outside))
    (paired : List.Forall₂ (EventsAlike digits digits') events events')
    (spared : Runs.Along Ui.step (Ui.SparesPin digits digits') (Ui.started p) events) :
    (Runs.run Ui.step (Ui.started p) events).Alike digits digits'
      (Runs.run Ui.step (Ui.started p') events') := by
  have started := alike_started alike
  have kept (u u' : Ui) (event event' : UiEvent × Outside)
      (spares : u.SparesPin digits digits' event) (same : EventsAlike digits digits' event event')
      (alike : u.Alike digits digits' u') :
      (u.step event).Alike digits digits' (u'.step event') := alike_step spares same alike
  exact Runs.run_related kept paired _ _ spared started

/-- The documented sysmodule arms the play timer by the clock alone. -/
theorem Sysmodule.documented_arms : Sysmodule.documented.ArmsBlindly where
  rearm same s := by
    rw [same.others]
    exact rfl
  revertTemporaryUnlock _ := rfl

/-- An event of the tool that neither presses a button of a dialog nor sets the PIN spares it. -/
theorem Ui.sparesPin_of {u : Ui} {event : UiEvent × Outside} (own : ¬event.1.Foreign)
    (unchosen : event.1.choose? = none) (other : event.1.press? ≠ some .setPin) :
    u.SparesPin digits digits' event := by
  refine ⟨fun action confirmed => ?_, fun change foreign => ?_⟩
  · obtain ⟨d, -, -, -, chosen⟩ | ⟨direct, -, -, pressed⟩ := confirmed
    · rw [unchosen] at chosen
      cases chosen
    · cases action with
      | setPin => exact other pressed
      | _ => cases direct
  · rw [foreign] at own
    exact (own trivial).elim

/-- A user who enters a PIN at the gate and something else on every other keyboard. -/
def Outside.entering (pin typed : List UInt8) : Outside :=
  { Outside.typing typed with
    typist := fun config => ⟨0, 0, if config.password then pin else typed⟩ }

/-- The sample process on the console with the other PIN. -/
def Process.otherBooted : Process :=
  { Process.booted .none with
    world := { (Process.booted .none).world with console := .otherSample } }

/-- The user enters the PIN, saves the report and limits every day to 30 minutes. -/
def sampleSession (pin : List UInt8) : List (UiEvent × Outside) :=
  [(.enterPin, .entering pin [0x33, 0x30]), (.press .diag, .entering pin [0x33, 0x30]),
    (.press .playTimer, .entering pin [0x33, 0x30]), (.press .setAll, .entering pin [0x33, 0x30])]

/-- On the sample consoles with the PINs 1234 and 9876, each entered by its user, the log and the
saved report are the same. -/
theorem pin_stays_secret_sample :
    let u := Runs.run Ui.step (Ui.started (.booted .none)) (sampleSession [0x31, 0x32, 0x33, 0x34])
    let u' := Runs.run Ui.step (Ui.started .otherBooted) (sampleSession [0x39, 0x38, 0x37, 0x36])
    u'.world.log = u.world.log ∧ u'.dumpFile = u.dumpFile := by
  have outside : (Outside.entering [0x31, 0x32, 0x33, 0x34] [0x33, 0x30]).Alike
      [0x31, 0x32, 0x33, 0x34] [0x39, 0x38, 0x37, 0x36]
      (.entering [0x39, 0x38, 0x37, 0x36] [0x33, 0x30]) := by
    refine ⟨⟨fun config other => ?_, by decide⟩, rfl⟩
    change (⟨0, 0, if config.password then _ else _⟩ : Swkbd) =
      ⟨0, 0, if config.password then _ else _⟩
    rw [other]
    exact rfl
  have alike : (Process.booted .none).Alike [0x31, 0x32, 0x33, 0x34] [0x39, 0x38, 0x37, 0x36]
      .otherBooted :=
    ⟨Process.otherBooted.world, ⟨⟨⟨rfl, rfl, Console.sameButDigits_sample, rfl, rfl, rfl⟩,
      Sysmodule.documented_blind⟩, Sysmodule.documented_arms⟩, rfl⟩
  have secret := pin_stays_secret [0x31, 0x32, 0x33, 0x34] [0x39, 0x38, 0x37, 0x36]
    (.booted .none) .otherBooted alike (sampleSession [0x31, 0x32, 0x33, 0x34])
    (sampleSession [0x39, 0x38, 0x37, 0x36])
    (.cons ⟨rfl, outside⟩ (.cons ⟨rfl, outside⟩ (.cons ⟨rfl, outside⟩ (.cons ⟨rfl, outside⟩ .nil))))
    ⟨Ui.sparesPin_of id rfl nofun, Ui.sparesPin_of id rfl nofun, Ui.sparesPin_of id rfl nofun,
      Ui.sparesPin_of id rfl nofun, trivial⟩
  obtain ⟨world, writes, worlds, same⟩ := secret
  have log := congrArg (fun u : Ui => u.world.log) same
  have file := congrArg Ui.dumpFile same
  exact ⟨log.trans worlds.1.1.log, file⟩

end PctlManager
