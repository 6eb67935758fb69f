import PctlManager.PinGate
import PctlManager.Logic.Runs
import PctlManager.Verif.Session
import Mathlib.Data.List.TakeWhile

/-!
# What the PIN gate guards

Every run of the tool from start-up. The main menu is pushed when there is no PIN or when the
PIN that 1208 returned was entered, and in no other way; only a wrong entry uses up an attempt,
and the fifth one ends the run (`pin_gate_in_every_run`).
-/

namespace PctlManager

open Stateful

/-! ## Comparing an entry with the PIN -/

/-- The reply of 1208 is this PIN: it reports the number of its digits and begins with them. -/
def Console.RepliesPin (c : Console) (digits : List UInt8) : Prop :=
  c.pinCode.1.toNat = digits.length ∧ digits <+: c.pinCode.2

instance (c : Console) (digits : List UInt8) : Decidable (c.RepliesPin digits) :=
  inferInstanceAs (Decidable (_ ∧ _))

/-- A text without zeros that is shorter than the buffer equals the PIN that is handed back
exactly if the reply is this PIN. -/
theorem eq_handedPin_iff (c : Console) (entered : List UInt8) (short : entered.length < 31)
    (text : 0 ∉ entered) :
    entered = (handedPin pinBufferSize c.pinCode).1.take
        (handedPin pinBufferSize c.pinCode).2.toNat ↔ c.RepliesPin entered := by
  rw [take_handedPin]
  unfold Console.RepliesPin
  constructor
  · intro same
    have count : entered.length = min c.pinCode.1.toNat 31 := by
      rw [same, List.length_append, List.length_take, List.length_replicate]
      omega
    have whole : min c.pinCode.1.toNat 31 - c.pinCode.2.length = 0 := by
      by_contra padded
      rw [same] at text
      exact text (List.mem_append_right _ (List.mem_replicate.mpr ⟨padded, rfl⟩))
    rw [whole, List.replicate_zero, List.append_nil, ← count] at same
    exact ⟨by omega, List.prefix_iff_eq_take.mpr same⟩
  · rintro ⟨count, front⟩
    have room := front.length_le
    rw [count, Nat.min_eq_left (by omega), Nat.sub_eq_zero_of_le room, List.replicate_zero,
      List.append_nil]
    exact List.prefix_iff_eq_take.mp front

/-- What the keypad leaves in the buffer is short, and holds no zero. -/
theorem Swkbd.out_text (k : Swkbd) : k.out.length < 31 ∧ 0 ∉ k.out := by
  unfold Swkbd.out
  constructor
  · have shorter := (List.takeWhile_prefix (· ≠ 0) : _ <+: k.typed.take 15).length_le
    rw [List.length_take] at shorter
    omega
  · intro zero
    have kept := List.mem_takeWhile_imp zero
    simp at kept

/-- What is entered at the keypad is short, and holds no zero. -/
theorem promptPin_text {header : Text} {typist : Typist} {entered : List UInt8}
    (typed : promptPin header typist = some entered) : entered.length < 31 ∧ 0 ∉ entered := by
  unfold promptPin at typed
  simp only [Option.ite_none_left_eq_some, Option.some.injEq] at typed
  obtain ⟨-, -, rfl⟩ := typed
  exact Swkbd.out_text _

/-! ## One prompt -/

/-- A prompt lets the user through: 1208 answers that there is no PIN, or what is entered at
the keypad is the PIN that it answers with. -/
def World.Admits (w : World) (typist : Typist) : Prop :=
  w.Reaches 0 .getPinCode 0 ∧ (w.console.pinCode.1 = 0 ∨
    ∃ entered ∈ promptPin gateTitle typist, w.console.RepliesPin entered)

/-- A prompt turns the user away: 1208 answers with a PIN, and something else is entered. -/
def World.Rejects (w : World) (typist : Typist) : Prop :=
  w.Reaches 0 .getPinCode 0 ∧ w.console.pinCode.1 ≠ 0 ∧
    ∃ entered ∈ promptPin gateTitle typist, ¬w.console.RepliesPin entered

instance (w : World) (typist : Typist) : Decidable (w.Admits typist) :=
  inferInstanceAs (Decidable (_ ∧ (_ ∨ ∃ _ ∈ _, _)))

instance (w : World) (typist : Typist) : Decidable (w.Rejects typist) :=
  inferInstanceAs (Decidable (_ ∧ _ ∧ ∃ _ ∈ _, ¬_))

section Prompt

variable (t : Tool) (typist : Typist)

/-- A call of the service layer returns what it returns there. -/
@[simp] theorem result_service {α : Type} (m : PctlM α) :
    result (service m) t = result m t.process.world := (rfl)

/-- A call of the service layer leaves its world. -/
@[simp] theorem after_service {α : Type} (m : PctlM α) :
    after (service m) t = { t with process.world := after m t.process.world } := (rfl)

/-- The gate opens for good. -/
theorem after_letThrough : after PinGate.letThrough t =
    { t with passed := true, pushed := .main :: t.pushed } := rfl

/-- A wrong entry is counted, and the last one ends the run. -/
theorem countWrong_spec :
    (after PinGate.countWrong t).pushed = t.pushed ∧
      (after PinGate.countWrong t).passed = t.passed ∧
      (after PinGate.countWrong t).attempts = t.attempts + 1 ∧
      ((after PinGate.countWrong t).quit = true ↔
        t.quit = true ∨ maxAttempts ≤ t.attempts + 1) := by
  unfold PinGate.countWrong
  simp only [after_bind, after_modify, result_get, after_get, after_service, after_ite,
    Application.quit, setStatus, ge_iff_le]
  split
  · rename_i last
    simp [last]
  · rename_i left
    simp [left]

/-- The ways through a prompt at a gate that is not passed yet. -/
theorem after_prompt (closed : t.passed = false) : after (PinGate.prompt typist) t =
    let read := after (service (pctlGetPin pinBufferSize)) t
    if t.process.world.Reaches 0 .getPinCode 0 then
      if t.process.world.console.pinCode.1 = 0 then after PinGate.letThrough (after (service
        (pctlLogf "PIN gate: 1208 reports no PIN registered, skipping the gate".toList)) read)
      else match promptPin gateTitle typist with
        | none => read
        | some entered =>
          if t.process.world.console.RepliesPin entered then after PinGate.letThrough read
          else after PinGate.countWrong read
    else after (setStatus (.readFailed
      (result (pctlGetPin pinBufferSize) t.process.world).rc)) read := by
  have answered := rc_pctlGetPin t.process.world pinBufferSize
  unfold PinGate.prompt
  simp only [after_bind, result_get, after_get, closed, Bool.false_eq_true, ↓reduceIte,
    result_service]
  by_cases reached : t.process.world.Reaches 0 .getPinCode 0
  · obtain ⟨digits, length⟩ := result_pctlGetPin t.process.world pinBufferSize reached
    have blank : (result (pctlGetPin pinBufferSize) t.process.world).len = 0 ↔
        t.process.world.console.pinCode.1 = 0 := by
      rw [length, length_handedPin_eq_zero]
    have going : ¬rFailed (result (pctlGetPin pinBufferSize) t.process.world).rc :=
      not_not.mpr (answered.mpr reached)
    rw [if_pos reached, if_neg going]
    by_cases unregistered : t.process.world.console.pinCode.1 = 0
    · rw [if_pos unregistered, if_pos (blank.mpr unregistered)]
      rfl
    · rw [if_neg unregistered, if_neg (mt blank.mp unregistered)]
      cases typed : promptPin gateTitle typist with
      | none => rfl
      | some entered =>
        obtain ⟨short, text⟩ := promptPin_text typed
        have right := eq_handedPin_iff t.process.world.console entered short text
        rw [← digits, ← length] at right
        by_cases same : t.process.world.console.RepliesPin entered
        · simp only [if_pos same, if_pos (right.mpr same)]
        · simp only [if_neg same, if_neg (mt right.mp same)]
  · have failed : rFailed (result (pctlGetPin pinBufferSize) t.process.world).rc :=
      mt answered.mp reached
    rw [if_neg reached, if_pos failed]

/-- What a prompt does to the gate: only a user who is let through gets to the main menu, and
only one who is turned away uses up an attempt. -/
theorem prompt_spec (closed : t.passed = false) :
    (after (PinGate.prompt typist) t).pushed =
        (if t.process.world.Admits typist then .main :: t.pushed else t.pushed) ∧
      ((after (PinGate.prompt typist) t).passed = true ↔ t.process.world.Admits typist) ∧
      (after (PinGate.prompt typist) t).attempts =
        t.attempts + (if t.process.world.Rejects typist then 1 else 0) ∧
      ((after (PinGate.prompt typist) t).quit = true ↔ t.quit = true ∨
        t.process.world.Rejects typist ∧ maxAttempts ≤ t.attempts + 1) := by
  rw [after_prompt t typist closed]
  by_cases reached : t.process.world.Reaches 0 .getPinCode 0
  · by_cases unregistered : t.process.world.console.pinCode.1 = 0
    · have admits : t.process.world.Admits typist := ⟨reached, .inl unregistered⟩
      have rejects : ¬t.process.world.Rejects typist := fun rejects => rejects.2.1 unregistered
      simp [reached, unregistered, admits, rejects, after_letThrough]
    · cases typed : promptPin gateTitle typist with
      | none =>
        have admits : ¬t.process.world.Admits typist := by
          simp [World.Admits, unregistered, typed]
        have rejects : ¬t.process.world.Rejects typist := by simp [World.Rejects, typed]
        simp [reached, unregistered, admits, rejects, closed]
      | some entered =>
        have admits : t.process.world.Admits typist ↔
            t.process.world.console.RepliesPin entered := by
          simp [World.Admits, reached, unregistered, typed]
        have rejects : t.process.world.Rejects typist ↔
            ¬t.process.world.console.RepliesPin entered := by
          simp [World.Rejects, reached, unregistered, typed]
        by_cases same : t.process.world.console.RepliesPin entered
        · simp [reached, unregistered, admits, rejects, same, after_letThrough]
        · have counted := countWrong_spec (after (service (pctlGetPin pinBufferSize)) t)
          simpa [reached, unregistered, admits, rejects, same, closed] using counted
  · have admits : ¬t.process.world.Admits typist := fun admits => reached admits.1
    have rejects : ¬t.process.world.Rejects typist := fun rejects => reached rejects.1
    simp [reached, admits, rejects, setStatus, closed]

end Prompt

/-! ## Runs of the tool -/

/-- The gate is there and not yet passed, and the event is a prompt that lets the user
through. -/
def Tool.Opens (t : Tool) (event : GateEvent) : Prop :=
  t.Running ∧ t.passed = false ∧ ∃ typist ∈ event.typist?, t.process.world.Admits typist

/-- The gate is there and not yet passed, and the event is a prompt that turns the user
away. -/
def Tool.Fails (t : Tool) (event : GateEvent) : Prop :=
  t.Running ∧ t.passed = false ∧ ∃ typist ∈ event.typist?, t.process.world.Rejects typist

instance (t : Tool) (event : GateEvent) : Decidable (t.Opens event) :=
  inferInstanceAs (Decidable (_ ∧ _ ∧ ∃ _ ∈ _, _))

instance (t : Tool) (event : GateEvent) : Decidable (t.Fails event) :=
  inferInstanceAs (Decidable (_ ∧ _ ∧ ∃ _ ∈ _, _))

/-- The law of an event at the gate. -/
structure Tool.Obeys (t : Tool) (event : GateEvent) : Prop where
  /-- The main menu is pushed exactly by an event that opens the gate, and nothing else is. -/
  pushed : (t.step event).pushed = if t.Opens event then .main :: t.pushed else t.pushed
  /-- The gate is passed exactly by an event that opens it. -/
  passed : (t.step event).passed = true ↔ t.passed = true ∨ t.Opens event
  /-- An attempt is used up exactly by an event that fails. -/
  attempts : (t.step event).attempts = t.attempts + if t.Fails event then 1 else 0
  /-- The last attempt ends the run. -/
  last : t.Fails event → maxAttempts ≤ t.attempts + 1 → (t.step event).quit = true
  /-- Quitting is final. -/
  final : t.quit = true → (t.step event).quit = true
  /-- Returning to a gate that was passed ends the run. -/
  returning : t.Running → t.passed = true → (t.step .resume).quit = true

/-- An event that is no prompt opens nothing, and fails nothing. -/
theorem Tool.not_prompt {event : GateEvent} (other : event.typist? = none) (t : Tool) :
    ¬t.Opens event ∧ ¬t.Fails event := by
  simp [Opens, Fails, other]

/-- A gate that was passed opens no more, and fails no more. -/
theorem Tool.not_passed {t : Tool} (passed : t.passed = true) (event : GateEvent) :
    ¬t.Opens event ∧ ¬t.Fails event := by
  simp [Opens, Fails, passed]

/-- Returning to a running gate that was passed quits. -/
theorem Tool.quit_returning {t : Tool} (running : t.Running) (passed : t.passed = true) :
    (t.step .resume).quit = true := by
  unfold step
  rw [if_pos running]
  simp [react, PinGate.onResume, passed, Application.quit]

/-- An event that leaves the gate as it is obeys the law, if it opens nothing and fails
nothing. -/
theorem Tool.obeys_of_same {t u : Tool} {event : GateEvent}
    (quiet : ¬t.Opens event ∧ ¬t.Fails event) (step : t.step event = u)
    (pushed : u.pushed = t.pushed) (passed : u.passed = t.passed)
    (attempts : u.attempts = t.attempts) (final : t.quit = true → u.quit = true) :
    t.Obeys event where
  pushed := by rw [step, pushed, if_neg quiet.1]
  passed := by rw [step, passed, or_iff_left quiet.1]
  attempts := by rw [step, attempts, if_neg quiet.2, Nat.add_zero]
  last fails := absurd fails quiet.2
  final := by rw [step]; exact final
  returning := quit_returning

/-- A prompt at a running gate obeys the law. -/
theorem Tool.obeys_prompt {t : Tool} (running : t.Running) {event : GateEvent} {typist : Typist}
    (prompts : event.typist? = some typist)
    (reacts : t.react event = after (PinGate.prompt typist) t) : t.Obeys event := by
  have step : t.step event = after (PinGate.prompt typist) t := (if_pos running).trans reacts
  cases closed : t.passed with
  | false =>
    have opens : t.Opens event ↔ t.process.world.Admits typist := by
      simp [Opens, running, closed, prompts]
    have fails : t.Fails event ↔ t.process.world.Rejects typist := by
      simp [Fails, running, closed, prompts]
    obtain ⟨pushed, passed, attempts, quits⟩ := prompt_spec t typist closed
    rw [← step] at pushed passed attempts quits
    simp only [← opens, ← fails] at pushed passed attempts quits
    exact {
      pushed, attempts, returning := quit_returning
      passed := by simp [passed, closed]
      last := fun wrong spent => quits.mpr (.inr ⟨wrong, spent⟩)
      final := fun ended => quits.mpr (.inl ended) }
  | true =>
    have same : t.step event = t := by
      rw [step, PinGate.prompt]
      simp only [after_bind, result_get, after_get, closed, ↓reduceIte, after_pure]
    exact obeys_of_same (not_passed closed event) same rfl rfl rfl id

/-- Every event obeys the law. -/
theorem Tool.obeys (t : Tool) (event : GateEvent) : t.Obeys event := by
  by_cases running : t.Running
  · have step : t.step event = t.react event := if_pos running
    cases event with
    | deferredPrompt typist => exact obeys_prompt running rfl rfl
    | pressA typist => exact obeys_prompt running rfl rfl
    | pressB => exact obeys_of_same (not_prompt rfl t) step rfl rfl rfl fun _ => rfl
    | resume =>
      have reacts : t.react .resume = if t.passed then { t with quit := true } else t := by
        simp only [react, PinGate.onResume, after_bind, result_get, after_get, after_ite,
          Application.quit, after_modify, after_pure]
      cases passed : t.passed with
      | true =>
        rw [passed, if_pos rfl] at reacts
        exact obeys_of_same (not_prompt rfl t) (step.trans reacts) rfl passed.symm rfl
          fun _ => rfl
      | false =>
        rw [passed, if_neg Bool.false_ne_true] at reacts
        exact obeys_of_same (not_prompt rfl t) (step.trans reacts) rfl rfl rfl id
    | elsewhere change => exact obeys_of_same (not_prompt rfl t) step rfl rfl rfl id
  · exact obeys_of_same ⟨fun opens => running opens.1, fun fails => running fails.1⟩
      (if_neg running) rfl rfl rfl id

/-! ## What every run keeps -/

/-- Between two events the main menu was pushed once or not at all, and the attempts are not
used up unless the run is over. -/
structure Tool.Sound (t : Tool) : Prop where
  /-- At most one main menu was pushed, and none before the gate is passed. -/
  once : t.pushed.count .main ≤ if .pinGate ∈ t.pushed ∧ t.passed = false then 0 else 1
  /-- At most all attempts are used up. -/
  attempts : t.attempts ≤ maxAttempts
  /-- Using up the last one ends the run. -/
  last : t.attempts = maxAttempts → t.quit = true

/-- Every event keeps it. -/
theorem Tool.Sound.step {t : Tool} (sound : t.Sound) (event : GateEvent) :
    (t.step event).Sound := by
  have obeys := t.obeys event
  constructor
  · rw [obeys.pushed]
    by_cases opens : t.Opens event
    · have once := sound.once
      have passed : (t.step event).passed = true := obeys.passed.mpr (.inr opens)
      rw [if_pos ⟨opens.1.2, opens.2.1⟩] at once
      rw [if_pos opens, List.count_cons_self, passed, if_neg (by simp)]
      omega
    · have same : (t.step event).passed = t.passed := by
        rw [Bool.eq_iff_iff, obeys.passed, or_iff_left opens]
      rw [if_neg opens, same]
      exact sound.once
  · rw [obeys.attempts]
    split
    · rename_i fails
      have left : t.attempts ≠ maxAttempts := fun spent =>
        Bool.false_ne_true (fails.1.1.symm.trans (sound.last spent))
      have bound := sound.attempts
      omega
    · exact sound.attempts
  · rw [obeys.attempts]
    split
    · rename_i fails
      exact fun spent => obeys.last fails spent.ge
    · exact fun spent => obeys.final (sound.last spent)

/-! ## Start-up -/

/-- 1206 answers that there is no PIN. -/
def World.StartsWithoutPin (w : World) : Prop :=
  w.Reaches 0 .getPinCodeLength 0 ∧ w.console.pinLength = 0

instance (w : World) : Decidable w.StartsWithoutPin := inferInstanceAs (Decidable (_ ∧ _))

/-- The activity that start-up pushes: the main menu exactly if the service can be opened and
1206 answers that there is no PIN. -/
def Process.firstActivity (p : Process) : Activity :=
  if result appInit p = true then
    if (after appInit p).world.StartsWithoutPin then .main else .pinGate
  else .initError

/-- The status shows that there is no PIN exactly when 1206 answers so. -/
theorem noPin_pctlStatusFetch (w : World) :
    ((result pctlStatusFetch w).pinLengthOk = true ∧ (result pctlStatusFetch w).pinLength = 0) ↔
      w.StartsWithoutPin := by
  unfold World.StartsWithoutPin
  simp only [pctlStatusFetch, result_bind, result_pure, rSucceeded, rc_serviceDispatchOut,
    reaches_serviceDispatchOut, reduceCtorEq, ↓reduceIte, Nat.add_zero, out_serviceDispatchOut,
    console_serviceDispatchOut, decide_eq_true_iff]
  by_cases reached : w.Reaches 0 .getPinCodeLength 0 <;> simp [reached]

/-- Start-up pushes the first activity and nothing else, and leaves the gate fresh. -/
theorem started_fresh (p : Process) : ∃ process,
    Tool.started p = { Tool.fresh process with pushed := [p.firstActivity] } := by
  unfold Tool.started runStartUp Process.firstActivity
  simp only [after_bind, result_zoom, Tool.processPart, Tool.fresh]
  by_cases opened : result appInit p = true
  · simp only [opened, ↓reduceIte, after_bind, after_zoom, result_service, after_service,
      noPin_pctlStatusFetch, Application.pushActivity, after_modify]
    exact ⟨_, rfl⟩
  · simp only [opened, after_zoom, Application.pushActivity]
    exact ⟨_, rfl⟩

/-- The tool is sound when it starts. -/
theorem Tool.sound_started (p : Process) : (Tool.started p).Sound := by
  obtain ⟨process, started⟩ := started_fresh p
  rw [started]
  refine ⟨?_, Nat.zero_le _, fun spent => absurd spent (show 0 ≠ maxAttempts by decide)⟩
  change [p.firstActivity].count .main ≤ if .pinGate ∈ [p.firstActivity] ∧ false = false then 0
    else 1
  cases p.firstActivity <;> decide

/-- The tool is sound in every run. -/
theorem Tool.Sound.run {t : Tool} (sound : t.Sound) (events : List GateEvent) :
    (Runs.run Tool.step t events).Sound :=
  Runs.run_preserves Tool.Sound (fun _ event _ sound => sound.step event) events t
    (Runs.along_of_forall (fun _ _ => trivial) _ _) sound

/-- An event pushes as many main menus as it opens the gate. -/
theorem Tool.menus_step (t : Tool) (event : GateEvent) : (t.step event).pushed.count .main =
    t.pushed.count .main + if t.Opens event then 1 else 0 := by
  rw [(t.obeys event).pushed]
  split <;> simp

/-- In every run from start-up, start-up pushes the main menu only if 1206 answers that there
is no PIN, every event obeys the law of the gate, at most one main menu is pushed, and at most
five entries are turned away, the fifth of which ends the run. -/
theorem pin_gate_in_every_run (p : Process) (events : List GateEvent) :
    let started := Tool.started p
    let ended := Runs.run Tool.step started events
    started.pushed = [p.firstActivity] ∧
      Runs.Along Tool.step Tool.Obeys started events ∧
      ended.pushed.count .main =
        started.pushed.count .main + Runs.count Tool.step Tool.Opens started events ∧
      ended.pushed.count .main ≤ 1 ∧
      Runs.count Tool.step Tool.Fails started events ≤ 5 ∧
      (Runs.count Tool.step Tool.Fails started events = 5 → ended.quit = true) := by
  intro started ended
  have sound : ended.Sound := (Tool.sound_started p).run events
  have wrong : ended.attempts = Runs.count Tool.step Tool.Fails started events := by
    have counted := Runs.measure_run Tool.attempts (fun t event => (t.obeys event).attempts)
      events started
    obtain ⟨process, fresh⟩ := started_fresh p
    rw [show started.attempts = 0 from congrArg Tool.attempts fresh, Nat.zero_add] at counted
    exact counted
  refine ⟨?_, Runs.along_of_forall Tool.obeys _ _, ?_, ?_, ?_, ?_⟩
  · obtain ⟨process, fresh⟩ := started_fresh p
    exact congrArg Tool.pushed fresh
  · exact Runs.measure_run (fun t : Tool => t.pushed.count .main) Tool.menus_step events started
  · have once := sound.once
    split at once <;> omega
  · rw [← wrong]
    exact sound.attempts
  · rw [← wrong]
    exact sound.last

end PctlManager
