import PctlManager.Verif.SessionRuns
import PctlManager.Verif.Printf

/-!
# The log file

Every request of the tool that changes something on the console is reported by a call of
`pctl_logf`: which command it was, what came of it, and, for the play-timer settings, all of
their bytes. The line is lost when the file does not open. In every run the requests are reported
in their order, one call for each, and the file has exactly the lines of the calls that opened it
(`changes_are_logged`).
-/

namespace PctlManager

open Stateful

/-! ## The lines -/

/-- The line that a request leaves in the log, if it changes something. -/
def Event.line? : Event → Option Text
  | .dispatch .deleteSettings _ rc => some ("1043 DeleteSettings rc=".toList ++ hexResult rc)
  | .dispatch .deletePairing _ rc => some ("1941 DeletePairing rc=".toList ++ hexResult rc)
  | .dispatch .revertRestrictionTemporaryUnlocked _ rc =>
    some ("1007 RevertRestrictionTemporaryUnlocked rc=".toList ++ hexResult rc)
  | .dispatch .unlockRestrictionTemporarily _ rc =>
    some ("1201 UnlockRestrictionTemporarily rc=".toList ++ hexResult rc)
  | .dispatch .setPlayTimerSettingsForDebug bytes rc =>
    some ("195101 SetPlayTimerSettingsForDebug rc=".toList ++ hexResult rc ++
      " data=".toList ++ bytes.flatMap hexByte)
  | _ => none

/-- A call of `pctl_logf`. -/
structure LogCall where
  /-- The request that it reports, if it reports one. -/
  request : Option Event
  /-- The line. -/
  line : Text
  /-- The file opened. -/
  opened : Bool

/-- The calls of `pctl_logf` since an earlier world, latest first. -/
structure World.LoggedBy (old w : World) (calls : List LogCall) : Prop where
  /-- Every request that changes something is reported by one call, in the order of the
  requests. -/
  requests : w.trace.filter (·.line?.isSome) = calls.filterMap (·.request)
  /-- A call that reports a request has its line. -/
  told : ∀ call ∈ calls, ∀ event ∈ call.request, event.line? = some call.line
  /-- The file has the lines of the calls that opened it. -/
  lines : w.log = (calls.filter (·.opened)).map (·.line) ++ old.log
  /-- The file opened as it was going to. -/
  opens : Stream'.appendStream' (calls.map (·.opened)).reverse w.faults.fopen = old.faults.fopen

/-- Some calls of `pctl_logf` account for the requests and for the file. -/
def World.Logged (old w : World) : Prop := ∃ calls, old.LoggedBy w calls

/-- A step without a line. -/
theorem World.Logged.of_quiet {old w v : World} (logged : old.Logged w)
    (trace : v.trace.filter (·.line?.isSome) = w.trace.filter (·.line?.isSome))
    (log : v.log = w.log) (fopen : v.faults.fopen = w.faults.fopen) : old.Logged v := by
  obtain ⟨calls, held⟩ := logged
  exact ⟨calls, trace.trans held.requests, held.told, log.trans held.lines, fopen ▸ held.opens⟩

/-- An event without a line, on top of the trace. -/
theorem World.Logged.of_event {old w v : World} (logged : old.Logged w) {event : Event}
    (quiet : event.line? = none) (trace : v.trace = event :: w.trace) (log : v.log = w.log)
    (fopen : v.faults.fopen = w.faults.fopen) : old.Logged v := by
  refine logged.of_quiet ?_ log fopen
  rw [trace, List.filter_cons_of_neg (by rw [quiet]; decide)]

/-- One more call, with the request that it reports. -/
theorem World.LoggedBy.call {old w v : World} {calls : List LogCall} (held : old.LoggedBy w calls)
    (request : Option Event) (line : Text) (told : ∀ event ∈ request, event.line? = some line)
    (trace : v.trace = request.toList ++ w.trace)
    (log : v.log = if w.faults.fopen.head then line :: w.log else w.log)
    (fopen : v.faults.fopen = w.faults.fopen.tail) :
    old.LoggedBy v (⟨request, line, w.faults.fopen.head⟩ :: calls) where
  requests := by
    rw [trace, List.filter_append, held.requests]
    cases request with
    | none => exact rfl
    | some event =>
      have shown : event.line?.isSome = true := by
        rw [told event rfl]
        exact rfl
      have kept : [event].filter (·.line?.isSome) = [event] := List.filter_cons_of_pos shown
      exact congrArg (· ++ calls.filterMap (·.request)) kept
  told := List.forall_mem_cons.mpr ⟨told, held.told⟩
  lines := by
    rw [log, held.lines]
    cases opened : w.faults.fopen.head with
    | false => exact rfl
    | true => exact rfl
  opens := by
    have first : Stream'.appendStream' [w.faults.fopen.head] w.faults.fopen.tail =
        w.faults.fopen := Stream'.append_stream_head_tail _
    rw [fopen, List.map_cons, List.reverse_cons, Stream'.append_append_stream, first, held.opens]

/-- A call of its own reports no request. -/
theorem World.Logged.line {old w : World} (logged : old.Logged w) (line : Text) :
    old.Logged (after (pctlLogf line) w) := by
  obtain ⟨calls, held⟩ := logged
  exact ⟨_, held.call none line (fun _ missing => by cases missing) rfl rfl rfl⟩

/-- A query leaves no line, and the session leaves none. -/
theorem Event.line?_of_asks (event : Event) (asks : event.asks = true) : event.line? = none := by
  cases event with
  | dispatch command input rc => cases command <;> first | rfl | cases asks
  | _ => rfl

/-! ## The operations -/

section Operations

variable {old : World}

/-- A request is reported by the call behind it. -/
theorem logged_request {command : Command} {input : List UInt8} {line : Result → Text}
    (told : ∀ rc, (Event.dispatch command input rc).line? = some (line rc))
    (perform : Sysmodule → Console → Result × Console) :
    Preserves old.Logged (do
      let rc ← serviceDispatchIn command input perform
      pctlLogf (line rc)
      pure rc) := by
  rintro w ⟨calls, held⟩
  let rc := w.verdict command (perform w.sys w.console).1
  have reported : ∀ event ∈ some (Event.dispatch command input rc),
      event.line? = some (line rc) := by
    intro event mem
    rw [← Option.mem_some_iff.mp mem]
    exact told rc
  exact ⟨_, held.call (some (.dispatch command input rc)) (line rc) reported rfl rfl rfl⟩

/-- An operation without requests adds lines of its own at most. -/
theorem logged_ask {α : Type} {m : PctlM α} (built : Built noRequest m) :
    Preserves old.Logged m := by
  refine built.preserves fun α m step => ?_
  cases step with
  | get => exact fun _ logged => logged
  | reopen => exact fun w logged => logged.of_quiet rfl rfl rfl
  | log line => exact fun w logged => logged.line line
  | @query _ command initial answer asks =>
    intro w logged
    have quiet := Event.line?_of_asks (.dispatch command [] (w.verdict command 0)) asks
    exact logged.of_event quiet rfl rfl rfl
  | request _ _ sent => exact sent.elim

/-- The temporary unlock reports its request, if it sends it. -/
theorem logged_pctlUnlockRestrictionTemporarily :
    Preserves old.Logged pctlUnlockRestrictionTemporarily := by
  refine .bind (logged_ask .reopen) fun _ => .bind (logged_ask (built_pctlGetPin _)) fun pin => ?_
  refine .ite (logged_ask ((Built.log _).bind fun _ => .pure _)) ?_
  refine .ite (logged_ask ((Built.log _).bind fun _ => .pure _)) ?_
  exact logged_request (fun _ => rfl) _

/-- The end of the temporary unlock reports its request. -/
theorem logged_pctlRevertTemporaryUnlock : Preserves old.Logged pctlRevertTemporaryUnlock :=
  .bind (logged_ask .reopen) fun _ => logged_request (fun _ => rfl) _

/-- Writing the settings reports all of their bytes. -/
theorem logged_writeSettings (s : PtSettings) : Preserves old.Logged (writeSettings s) := by
  refine .bind (logged_ask .get) fun _ => .ite ?_ (.pure _)
  refine .bind (logged_ask .reopen) fun _ => logged_request (fun _ => ?_) _
  exact rfl

/-- Every setter reports its write. -/
theorem SetterCall.logged (call : SetterCall) : Preserves old.Logged call.perform := by
  rw [call.perform_eq]
  refine .bind (logged_ask built_beginPatch) fun reply => .ite (.pure _) ?_
  exact logged_writeSettings _

/-- Registering a PIN asks the applet, which leaves no line. -/
theorem logged_pctlSetPin : Preserves old.Logged pctlSetPin :=
  fun _ logged => logged.of_quiet rfl rfl rfl

/-- Seeding the clock asks nothing of the service, and adds a line of its own. -/
theorem logged_clockSeed (answer : Result) :
    Preserves old.Logged (clockSeedNetworkFromUser answer) := by
  intro w logged
  obtain ⟨line, left⟩ := after_clockSeed answer w
  rw [left]
  exact (logged.line line).of_quiet rfl rfl rfl

end Operations

/-- Whatever the tool does, the calls account for the requests and for the file. -/
theorem logged_law (may : Change → Prop) (old : World) : WorldLaw may old.Logged where
  served step := by
    cases step with
    | ask built => exact logged_ask built
    | deleteSettings allowed => exact logged_request (fun _ => rfl) _
    | deletePairing allowed => exact logged_request (fun _ => rfl) _
    | passcode allowed => exact logged_pctlSetPin
    | clock answer allowed => exact logged_clockSeed answer
  guarded call okText allowed := by
    refine (built_guardedWrite call okText).preserves fun α m step => ?_
    cases step with
    | get => exact fun _ logged => logged
    | ask built => exact (logged_ask built).zoom App.worldPart
    | unlock => exact logged_pctlUnlockRestrictionTemporarily.zoom App.worldPart
    | revert => exact logged_pctlRevertTemporaryUnlock.zoom App.worldPart
    | tell more => exact fun _ logged => logged
    | invoke =>
      intro app logged
      rw [after_invoke]
      exact call.logged app.world logged

/-! ## What a line says -/

/-- How the lines start. -/
def leads : List (Command × Text) :=
  [(.deleteSettings, "1043 DeleteSettings rc=".toList),
    (.deletePairing, "1941 DeletePairing rc=".toList),
    (.revertRestrictionTemporaryUnlocked, "1007 RevertRestrictionTemporaryUnlocked rc=".toList),
    (.unlockRestrictionTemporarily, "1201 UnlockRestrictionTemporarily rc=".toList),
    (.setPlayTimerSettingsForDebug, "195101 SetPlayTimerSettingsForDebug rc=".toList)]

/-- What the lines say behind the result: the bytes of the settings, or nothing. -/
def Command.data (input : List UInt8) : Command → Text
  | .setPlayTimerSettingsForDebug => " data=".toList ++ input.flatMap hexByte
  | _ => []

/-- The first four characters are enough to tell the commands apart. -/
theorem leads_apart : (∀ p ∈ leads, 4 ≤ p.2.length) ∧
    ∀ p ∈ leads, ∀ q ∈ leads, p.2.take 4 = q.2.take 4 → p = q := by
  decide

/-- A line is its start, the result, and what is said behind it. -/
theorem Event.line?_dispatch (command : Command) (input : List UInt8) (rc : Result) :
    (Event.dispatch command input rc).line? =
      (leads.lookup command).map fun lead => lead ++ (hexResult rc ++ command.data input) := by
  have plain (lead : Text) : lead ++ hexResult rc = lead ++ (hexResult rc ++ []) := by
    rw [List.append_nil]
  cases command with
  | deleteSettings => exact congrArg some (plain _)
  | deletePairing => exact congrArg some (plain _)
  | revertRestrictionTemporaryUnlocked => exact congrArg some (plain _)
  | unlockRestrictionTemporarily => exact congrArg some (plain _)
  | setPlayTimerSettingsForDebug =>
    refine congrArg some ?_
    rw [List.append_assoc, List.append_assoc]
    exact rfl
  | _ => exact rfl

/-- Every start is on the list. -/
theorem mem_leads {command : Command} {lead : Text} (found : leads.lookup command = some lead) :
    (command, lead) ∈ leads := by
  obtain ⟨front, rest, whole, -⟩ := List.lookup_eq_some_iff.mp found
  rw [whole]
  exact List.mem_append_right front List.mem_cons_self

/-- A line says which request it was: the command, the result, and all bytes of the settings. -/
theorem Event.line?_says {first second : Event} {line : Text} (one : first.line? = some line)
    (other : second.line? = some line) : ∃ command input input' rc,
      first = .dispatch command input rc ∧ second = .dispatch command input' rc ∧
        (command = .setPlayTimerSettingsForDebug → input = input') := by
  cases first with
  | dispatch command input rc =>
    cases second with
    | dispatch command' input' rc' =>
      rw [line?_dispatch] at one other
      obtain ⟨lead, found, rfl⟩ := Option.map_eq_some_iff.mp one
      obtain ⟨lead', found', same⟩ := Option.map_eq_some_iff.mp other
      have start : lead'.take 4 = lead.take 4 := by
        have front := congrArg (List.take 4) same
        rwa [List.take_append_of_le_length (leads_apart.1 _ (mem_leads found')),
          List.take_append_of_le_length (leads_apart.1 _ (mem_leads found))] at front
      obtain ⟨rfl, rfl⟩ := Prod.mk.inj
        (leads_apart.2 _ (mem_leads found') _ (mem_leads found) start)
      obtain ⟨rfl, behind⟩ := tells_hexResult trivial trivial (List.append_cancel_left same)
      refine ⟨_, input, input', _, rfl, rfl, fun set => ?_⟩
      subst set
      have bytes := List.append_cancel_left behind
      exact (tells_hexByte.list length_hexByte bytes).symm
    | _ => cases other
  | _ => cases one

/-! ## Whole runs -/

/-- In every run from start-up, the calls of `pctl_logf` account for the log file: every request
that changes something is reported by one of them, in the order of the requests, the file has
exactly the lines of those that opened it, and a line that reports a request says which one it
was, down to the bytes of the settings. -/
theorem changes_are_logged (p : Process) (boot : p.world.AtBoot)
    (events : List (UiEvent × Outside)) :
    let w := (Runs.run Ui.step (Ui.started p) events).world
    (∃ calls, p.world.LoggedBy w calls) ∧
      ∀ first ∈ w.trace, ∀ second ∈ w.trace, first.line? = second.line? → first.line? ≠ none →
        ∃ command input input' rc, first = .dispatch command input rc ∧
          second = .dispatch command input' rc ∧
          (command = .setPlayTimerSettingsForDebug → input = input') := by
  intro w
  have opened : p.world.Logged (after appInit p).world := by
    refine ⟨[], ?_, fun _ missing => absurd missing List.not_mem_nil, rfl, rfl⟩
    rw [trace_appInit boot]
    exact rfl
  have started : p.world.Logged (Ui.started p).world :=
    world_started p (logged_law gateMay p.world) opened
  have logged : p.world.Logged w := by
    refine Runs.run_preserves (fun u : Ui => p.world.Logged u.world)
      (fun u event _ held => u.world_step event (logged_law _ p.world)
        (fun _ _ kept => kept.of_quiet rfl rfl rfl) held)
      events _ (Runs.along_of_forall (fun _ _ => trivial) _ _) started
  refine ⟨logged, fun first _ second _ same shown => ?_⟩
  obtain ⟨line, found⟩ := Option.ne_none_iff_exists'.mp shown
  exact Event.line?_says found (same ▸ found)

/-- The log file does not open once, and nothing else fails. -/
def Faults.unlogged : Faults := { Faults.none with fopen := .cons false (.const true) }

/-- On the sample console, a limit is set on every day and then everything is deleted, and the file
does not open for the first of the two: both requests are reported, and one line is in the file. -/
theorem changes_are_logged_sample :
    let w := (Runs.run Ui.step (Ui.started (.booted .unlogged))
      [(.enterPin, .typing [0x31, 0x32, 0x33, 0x34]), (.press .playTimer, .typing []),
        (.press .setAll, .typing [0x33, 0x30]), (.back, .typing []),
        (.press .deletePc, .typing []), (.choose .first, .typing [])]).world
    ∃ calls, (Process.booted .unlogged).world.LoggedBy w calls ∧
      (calls.filterMap (·.request)).length = 2 ∧ (calls.filter (·.opened)).length = 1 := by
  intro w
  obtain ⟨calls, held⟩ := (changes_are_logged (.booted .unlogged) ⟨rfl, rfl, rfl⟩
    [(.enterPin, .typing [0x31, 0x32, 0x33, 0x34]), (.press .playTimer, .typing []),
      (.press .setAll, .typing [0x33, 0x30]), (.back, .typing []),
      (.press .deletePc, .typing []), (.choose .first, .typing [])]).1
  have requests : (w.trace.filter (·.line?.isSome)).length = 2 := rfl
  have lines : w.log.length = 1 := rfl
  have printed := congrArg List.length held.lines
  rw [List.length_append, List.length_map] at printed
  have empty : (Process.booted .unlogged).world.log.length = 0 := rfl
  have total := lines.symm.trans printed
  rw [empty, Nat.add_zero] at total
  exact ⟨calls, held, held.requests ▸ requests, total.symm⟩

end PctlManager
