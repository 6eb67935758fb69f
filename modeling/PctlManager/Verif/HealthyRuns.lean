import PctlManager.Spec.Timer
import PctlManager.Verif.ConsoleRuns
import PctlManager.Verif.Healthy

/-!
# Whole runs on a healthy console

Where nothing fails, a PIN is registered and the firmware has the commands, no write that the
user asks for is refused. Over every run without disturbances the console then is the timer of
`Spec.Timer`: each guarded write that is asked for stores its registers, each accepted seeding
sets the clock, and nothing else happens (`healthy_runs`).
-/

namespace PctlManager

open Stateful Spec

/-! ## A healthy console -/

/-- Nothing fails on a documented console with a PIN, and the firmware has the commands of the
play timer. -/
structure World.Healthy (digits : List UInt8) (w : World) : Prop where
  /-- The firmware has the commands. -/
  supported : pctlFwPlayTimerSupported w = true
  /-- Nothing fails. -/
  fine : w.NothingFails
  /-- The sysmodule decides as documented. -/
  documented : w.sys.Documented
  /-- The PIN. -/
  registered : w.console.Registered digits

section Healthy

variable {digits : List UInt8}

/-- Asking keeps the console healthy. -/
theorem healthy_ask {α : Type} {m : PctlM α} (built : Built noRequest m) :
    Preserves (World.Healthy digits) m := by
  intro w healthy
  have registered : (after m w).console.Registered digits := by
    rw [built.console]
    exact healthy.registered
  have documented : (after m w).sys.Documented := by
    rw [built.sys]
    exact healthy.documented
  exact ⟨(built.supported w).trans healthy.supported, built.nothingFails w healthy.fine,
    documented, registered⟩

/-- Seeding the network clock keeps the world healthy. -/
theorem healthy_clockSeed (answer : Result) :
    Preserves (World.Healthy digits) (clockSeedNetworkFromUser answer) := by
  intro w healthy
  obtain ⟨line, left⟩ := after_clockSeed answer w
  have pin := healthy.registered
  rw [left]
  exact ⟨healthy.supported, ⟨healthy.fine.opens, healthy.fine.sends⟩, healthy.documented,
    ⟨pin.ascii, pin.length, pin.pinLength, pin.pinCodeLength, pin.pinCode⟩⟩

/-- With something shown before, a guarded write leaves the same world. -/
theorem world_guardedWrite_enter (write : PctlM Result) (okText : Text) {app : App}
    (writes : app.world.Writes) : (after (guardedWrite write okText) app).world =
      (after (guardedWrite write okText) (.enter app.world)).world := by
  rw [world_guardedWrite_of_app write okText app writes]
  exact (world_guardedWrite_of_writes write okText app.world writes).symm

/-- A guarded write keeps it healthy. -/
theorem healthy_guardedWrite (call : SetterCall) (okText : Text) :
    Preserves (fun app : App => app.world.Healthy digits) (guardedWrite call.perform okText) := by
  intro app healthy
  obtain ⟨supported, fine, documented, registered⟩ := healthy
  have writes := writes_of_nothingFails supported fine documented registered
  obtain ⟨answers, left⟩ := console_guardedSetter call okText supported fine documented registered
  have sys := sys_guardedSetter call okText writes
  rw [← world_guardedWrite_enter call.perform okText writes] at left sys
  have wrote := call.built.nothingFails _ (nothingFails_beforeWrite fine)
  have still : pctlFwPlayTimerSupported (after call.perform app.world.beforeWrite) = true :=
    (call.built.supported _).trans ((supported_beforeWrite _).trans supported)
  refine ⟨?_, ?_, ?_, ?_⟩
  · rw [world_guardedWrite_of_app _ okText app writes]
    split
    · exact (built_relockConfirmed.supported _).trans still
    · exact still
  · rw [world_guardedWrite_of_app _ okText app writes]
    split
    · exact built_relockConfirmed.nothingFails _ wrote
    · exact wrote
  · rw [sys]
    exact documented
  · rw [left]
    exact ⟨registered.ascii, registered.length, registered.pinLength, registered.pinCodeLength,
      registered.pinCode⟩

/-- Whatever a handler does that confirms no action keeps it healthy. -/
theorem healthy_law {may : Change → Prop} (calm : ∀ action : Destructive, ¬may action.change) :
    WorldLaw may (World.Healthy digits) where
  served step := by
    cases step with
    | ask built => exact healthy_ask built
    | deleteSettings allowed => exact (calm .deletePc allowed).elim
    | deletePairing allowed => exact (calm .unlink allowed).elim
    | passcode allowed => exact (calm .setPin allowed).elim
    | clock answer => exact healthy_clockSeed answer
  guarded call okText _ := healthy_guardedWrite call okText

/-- Every event that is no disturbance keeps it healthy. -/
theorem healthy_step {u : Ui} {event : UiEvent × Outside} (calm : ¬u.Disturbed event)
    (healthy : u.world.Healthy digits) : (u.step event).world.Healthy digits := by
  obtain same | ⟨change, foreign, -⟩ | ⟨running, -, reaction⟩ := u.step_cases event
  · rw [same]
    exact healthy
  · exact (calm (.inl (foreign ▸ trivial))).elim
  · exact reaction.preserves_world (healthy_law (Ui.calm_of_undisturbed running calm)) healthy

end Healthy

/-! ## The timer of a console -/

/-- The timer that a console stands for. -/
def Console.timer (c : Console) : Timer Day UInt16 Alarm where
  registers := registersOf c.stored
  armed := c.stored.enabled != 0
  paused := c.temporarilyUnlocked
  clock := decide (rSucceeded (c.clock .networkSystemClock).1)

/-- The registers are on exactly if something is configured. -/
theorem isSome_registersOf (s : PtSettings) : (registersOf s).isSome = settingsConfigured s := by
  have off := registersOf_eq_none_iff s
  cases configured : settingsConfigured s with
  | true =>
    rw [configured] at off
    exact Option.isSome_iff_ne_none.mpr fun none => off.mp none rfl
  | false =>
    rw [configured] at off
    rw [off.mpr Bool.false_ne_true]
    rfl

/-- A guarded write on a healthy console stores its registers. -/
theorem timer_guardedWrite {digits : List UInt8} (call : SetterCall) (okText : Text) {app : App}
    (healthy : app.world.Healthy digits) :
    (after (guardedWrite call.perform okText) app).world.console.timer =
      app.world.console.timer.store (call.spec (registersOf app.world.console.stored)) := by
  obtain ⟨supported, fine, documented, registered⟩ := healthy
  have writes := writes_of_nothingFails supported fine documented registered
  obtain ⟨answers, left⟩ := console_guardedSetter call okText supported fine documented registered
  have stored := call.registersOf_written app.world.console.stored
  have configured := isSome_registersOf (call.written app.world.console.stored)
  have asked := enabled_written call app.world.console.stored
  rw [← world_guardedWrite_enter call.perform okText writes] at left
  rw [left]
  unfold Console.timer Timer.store
  rw [← stored, configured]
  by_cases clock : rSucceeded (app.world.console.clock .networkSystemClock).1
  · have armed : ((call.written app.world.console.stored).enabled != 0) =
        settingsConfigured (call.written app.world.console.stored) := by
      rw [Bool.eq_iff_iff, bne_iff_ne]
      exact asked
    simp only [clock, ↓reduceIte, armed, decide_true, Bool.and_true, registersOf_enabled]
  · simp only [clock, ↓reduceIte, decide_false, Bool.and_false, registersOf_enabled,
      bne_self_eq_false]

/-- What happens to the timer. -/
inductive TimerEvent
  /-- A setter is called. -/
  | call (setter : SetterCall)
  /-- The network clock is set. -/
  | seed

/-- The timer after an event. -/
def TimerEvent.react (t : Timer Day UInt16 Alarm) : TimerEvent → Timer Day UInt16 Alarm
  | .call setter => t.store (setter.spec t.registers)
  | .seed => t.seed

/-- The event sets the network clock: it seeds it, and the user's clock can be read and the time
service accepts it. -/
def Ui.SetsClock (u : Ui) (event : UiEvent × Outside) : Prop :=
  ∃ answer ∈ u.seeds event,
    rSucceeded (u.world.console.clock .userSystemClock).1 ∧ rSucceeded answer

instance (u : Ui) (event : UiEvent × Outside) : Decidable (u.SetsClock event) :=
  inferInstanceAs (Decidable (∃ _ ∈ _, _ ∧ _))

/-- What the timer of a healthy console sees of an event: every guarded write that is asked for,
and every accepted seeding. -/
def Ui.timerEvents (u : Ui) (event : UiEvent × Outside) : List TimerEvent :=
  if u.tool.quit then []
  else ((u.asked event).map fun write => TimerEvent.call write.1).toList ++
    if u.SetsClock event then [.seed] else []

/-! ## One event -/

/-- An event that asks for a guarded write does not seed a clock. -/
theorem seeds_of_asked {u : Ui} {event : UiEvent × Outside} {write : SetterCall × App}
    (asked : u.asked event = some write) : u.seeds event = none := by
  unfold Ui.asked at asked
  split at asked
  · rename_i cell pressed
    obtain ⟨top, -, clicked⟩ := Option.bind_eq_some_iff.mp asked
    unfold Ui.seeds
    rw [pressed]
    unfold Cell.asked at clicked
    split at clicked
    · rfl
    · rfl
    · cases clicked
  · rename_i tick
    unfold Ui.seeds
    rw [tick]
  · cases asked

/-- Two consoles that differ in their clocks only have timers that do so. -/
theorem timer_of_unclocked {c d : Console} (same : c.unclocked = d.unclocked) :
    c.timer = { d.timer with clock := c.timer.clock } := by
  have timers := congrArg (fun e : Console => e.timer) same
  have here : c.timer = { c.unclocked.timer with clock := c.timer.clock } := rfl
  rw [here, timers]
  rfl

/-- Seeding the network clock sets the clock of the timer if it is accepted. -/
theorem clock_seeded (clock : TimeType → Result × UInt64) (seeds : Option Result) :
    decide (rSucceeded (Runs.run ClockEvent.react clock
        (seeds.map ClockEvent.seed).toList .networkSystemClock).1) =
      (decide (rSucceeded (clock .networkSystemClock).1) ||
        decide (∃ answer ∈ seeds, rSucceeded (clock .userSystemClock).1 ∧ rSucceeded answer)) := by
  cases seeds with
  | none =>
    have nothing : ¬∃ answer ∈ (none : Option Result),
        rSucceeded (clock .userSystemClock).1 ∧ rSucceeded answer := by
      rintro ⟨answer, missing, -⟩
      cases missing
    rw [decide_eq_false nothing, Bool.or_false]
    exact rfl
  | some answer =>
    have run : Runs.run ClockEvent.react clock ((some answer).map ClockEvent.seed).toList =
        if rSucceeded (clock .userSystemClock).1 ∧ rSucceeded answer then
          Function.update clock .networkSystemClock (0, (clock .userSystemClock).2)
        else clock := rfl
    rw [run]
    by_cases set : rSucceeded (clock .userSystemClock).1 ∧ rSucceeded answer
    · have accepted : ∃ a ∈ some answer, rSucceeded (clock .userSystemClock).1 ∧ rSucceeded a :=
        ⟨answer, rfl, set⟩
      rw [if_pos set, decide_eq_true accepted, Bool.or_true, Function.update_self]
      exact rfl
    · have refused : ¬∃ a ∈ some answer,
          rSucceeded (clock .userSystemClock).1 ∧ rSucceeded a := by
        rintro ⟨a, same, accepted⟩
        cases same
        exact set accepted
      rw [if_neg set, decide_eq_false refused, Bool.or_false]

/-- Every event of a healthy console does to the timer what it sees of it. -/
theorem timer_step {digits : List UInt8} {u : Ui} {event : UiEvent × Outside}
    (healthy : u.world.Healthy digits) (calm : ¬u.Disturbed event) :
    (u.step event).world.console.timer =
      Runs.run TimerEvent.react u.world.console.timer (u.timerEvents event) := by
  unfold Ui.timerEvents
  by_cases running : u.tool.quit = true
  · rw [if_pos running, Ui.step, if_pos running]
    exact rfl
  · have own : ¬event.1.Foreign := fun foreign => calm (.inl foreign)
    have confirmed := Ui.calm_of_undisturbed (Bool.eq_false_iff.mpr running) calm
    have left := unclocked_react u event.1 event.2 own confirmed
    have unconfirmed : ¬∃ action : Destructive, u.may event.1 action.change := by
      rintro ⟨action, allowed⟩
      exact confirmed action allowed
    have clocks := clock_react u event.1 event.2 own fun allowed => (unconfirmed allowed).elim
    rw [if_neg running, Ui.step, if_neg running, timer_of_unclocked left]
    have clock : (u.react event.2 event.1).world.console.timer.clock =
        (u.world.console.timer.clock || decide (u.SetsClock event)) := by
      unfold Console.timer
      rw [clocks]
      exact clock_seeded u.world.console.clock (u.seeds event)
    rw [clock]
    cases asked : u.asked event with
    | none =>
      by_cases sets : u.SetsClock event
      · rw [decide_eq_true sets, Bool.or_true, if_pos sets]
        exact rfl
      · rw [decide_eq_false sets, Bool.or_false, if_neg sets]
        exact rfl
    | some write =>
      have other : ¬u.SetsClock event := by
        rintro ⟨answer, seeds, -⟩
        rw [seeds_of_asked asked] at seeds
        cases seeds
      obtain ⟨call, app⟩ := write
      have there : app.world.Healthy digits := asked_preserves healthy_ask healthy asked
      have wrote := timer_guardedWrite call [] there
      rw [console_asked asked] at wrote
      rw [decide_eq_false other, Bool.or_false, if_neg other]
      unfold carriedOut
      rw [wrote]
      exact rfl

/-! ## Start-up -/

/-- A process on a healthy console, before `app::init`. -/
structure Process.Healthy (digits : List UInt8) (p : Process) : Prop where
  /-- The firmware has the commands. -/
  supported : pctlFwPlayTimerSupported p.world = true
  /-- The session can be opened whenever it is. -/
  opens : ∀ n, rSucceeded (p.world.faults.acquire.get n)
  /-- Every request goes through. -/
  sends : ∀ command k, rSucceeded (p.world.upcoming command k)
  /-- The sysmodule decides as documented. -/
  documented : p.world.sys.Documented
  /-- The PIN. -/
  registered : p.world.console.Registered digits

variable {digits : List UInt8}

/-- Start-up opens the session, and then nothing fails. -/
theorem healthy_started {p : Process} (healthy : p.Healthy digits) :
    (Ui.started p).world.Healthy digits := by
  refine world_started p (.of_quiet (fun _ => id) healthy_ask) ?_
  rw [(result_appInit p).2.1]
  have open_ : (after pctlInitialize p.world).guard.session.isSome = true := by
    have taken : 0 < (after pctlInitialize p.world).guard.refCount := by
      change 0 < (p.world.guard.acquire p.world.faults.acquire.head).2.refCount
      have first : ¬rFailed p.world.faults.acquire.head := not_not.mpr (healthy.opens 0)
      rw [ServiceGuard.refCount_acquire, if_neg fun both => first both.2]
      omega
    exact (after pctlInitialize p.world).guard.held.mpr taken
  refine ⟨healthy.supported, ⟨fun n => ?_, healthy.sends⟩, healthy.documented,
    healthy.registered⟩
  cases n with
  | zero => exact open_
  | succ n =>
    have later : rSucceeded ((after pctlInitialize p.world).faults.acquire.get n) :=
      healthy.opens (n + 1)
    exact Bool.or_eq_true_iff.mpr (.inr (decide_eq_true later))

/-! ## Whole runs -/

/-- On a healthy console nothing is refused: over every run without disturbances the console
stands for the timer before start-up, after storing the registers of every guarded write that
the events ask for and after every accepted seeding, in order. The play timer runs exactly if
that timer counts; and once anything was stored, parental controls are not paused, and the play
timer runs only with something configured and with a network clock. -/
theorem healthy_runs (p : Process) (digits : List UInt8) (healthy : p.Healthy digits)
    (events : List (UiEvent × Outside))
    (calm : Runs.Along Ui.step (fun u event => ¬u.Disturbed event) (Ui.started p) events) :
    let u := Runs.run Ui.step (Ui.started p) events
    let seen := Runs.translated Ui.step Ui.timerEvents (Ui.started p) events
    u.world.console.timer = Runs.run TimerEvent.react p.world.console.timer seen ∧
      (u.world.Live ↔ u.world.console.timer.Counts) ∧
      ((∃ event ∈ seen, ∃ setter, event = .call setter) → u.world.console.timer.Settled) := by
  intro u seen
  have started := healthy_started healthy
  have console : p.world.console.timer = (Ui.started p).world.console.timer := by
    rw [console_started p]
  have timer : u.world.console.timer = Runs.run TimerEvent.react p.world.console.timer seen := by
    rw [console]
    exact Runs.run_refines_along (fun u : Ui => u.world.Healthy digits)
      (fun u : Ui => u.world.console.timer) (fun _ _ undisturbed => healthy_step undisturbed)
      (fun _ _ undisturbed fine => timer_step fine undisturbed) events _ calm started
  have still : u.world.Healthy digits :=
    Runs.run_preserves (fun u : Ui => u.world.Healthy digits)
      (fun _ _ undisturbed => healthy_step undisturbed) events _ calm started
  refine ⟨timer, ?_, fun stored => ?_⟩
  · unfold World.Live Timer.Counts
    rw [still.documented.isPlayTimerEnabled, Bool.and_eq_true_iff, Bool.not_eq_true']
    exact Iff.rfl
  · rw [timer]
    refine Runs.run_latches Timer.Settled (fun t event settled => ?_) ?_ seen _ stored
    · cases event with
      | call setter => exact t.settled_store _
      | seed => exact settled.seed
    · rintro t event ⟨setter, rfl⟩
      exact t.settled_store _

/-- On the sample console, 30 minutes on every day are stored, and the play timer runs only with
something configured and with a network clock. -/
theorem healthy_runs_sample :
    (Runs.run Ui.step (Ui.started (.booted .none)) [(.enterPin, .typing [0x31, 0x32, 0x33, 0x34]),
      (.press .playTimer, .typing []),
      (.press .setAll, .typing [0x33, 0x30])]).world.console.timer.Settled := by
  have healthy : (Process.booted .none).Healthy [0x31, 0x32, 0x33, 0x34] :=
    ⟨by decide, fun _ => rfl, fun _ _ => rfl, Sysmodule.documented_documented,
      Console.registered_sample _ _⟩
  have runs := healthy_runs (.booted .none) [0x31, 0x32, 0x33, 0x34] healthy
    [(.enterPin, .typing [0x31, 0x32, 0x33, 0x34]), (.press .playTimer, .typing []),
      (.press .setAll, .typing [0x33, 0x30])] ⟨by decide, by decide, by decide, trivial⟩
  exact runs.2.2 ⟨.call (.setUniform 30), List.mem_singleton.mpr rfl, .setUniform 30, rfl⟩

end PctlManager
