import PctlManager.Verif.Ui
import PctlManager.Logic.Runs

/-!
# What an event may change

For each event of the main loop, `Ui.may` says what it may change in the state that it finds,
down to the setter that a write may call and the dialog that comes on top. Every reaction is put
together from steps that change nothing else (`Ui.reaction_react`), which is all that the
invariants of the whole tool need to know about its handlers.
-/

namespace PctlManager

open Stateful

/-! ## What the number pads yield -/

/-- The minutes that a prompt yields are those of a day at most. -/
theorem promptMinutes_le {header : Text} {current : UInt16} {typist : Typist} {v : UInt16}
    (entered : promptMinutes header current typist = some v) : v.toNat ≤ 1440 := by
  unfold promptMinutes at entered
  simp only [Option.ite_none_left_eq_some, Option.some.injEq] at entered
  obtain ⟨-, -, rfl⟩ := entered
  rw [UInt16.toNat_ofNat']
  split <;> split <;> omega

/-- A time of day. -/
def HourMinute.Valid (t : HourMinute) : Prop := t.hour.toNat ≤ 23 ∧ t.minute.toNat ≤ 59

/-- A prompt for a time only yields times, whatever is typed. The induction is on the answers to
come. -/
theorem valid_of_promptHhmmLoop {invalidHeader : Text} {t : HourMinute} :
    ∀ (typists : List Typist) (shown initial : Text),
      (promptHhmmLoop invalidHeader shown initial typists).outcome = .yielded t → t.Valid
  | [], _, _, yielded => by cases yielded
  | typist :: rest, shown, initial, yielded => by
    unfold promptHhmmLoop at yielded
    simp only at yielded
    split at yielded
    · cases yielded
    · split at yielded
      · cases yielded
      · split at yielded
        · rename_i time
          cases yielded
          obtain ⟨positive, hour, minute⟩ := time
          have late : 0 ≤ (strtol (typist (hhmmConfig shown initial)).out).tdiv 100 :=
            Int.tdiv_nonneg positive (by decide)
          have past : 0 ≤ (strtol (typist (hhmmConfig shown initial)).out).tmod 100 :=
            Int.tmod_nonneg 100 positive
          unfold HourMinute.Valid
          rw [UInt8.toNat_ofNat', UInt8.toNat_ofNat']
          constructor <;> omega
        · exact valid_of_promptHhmmLoop rest _ _ yielded

/-- An alarm that is on has times of day. -/
def PtBedtime.Valid (b : PtBedtime) : Prop :=
  b.enabled = true → HourMinute.Valid ⟨b.hour, b.minute⟩ ∧
    HourMinute.Valid ⟨b.resetHour, b.resetMinute⟩

/-- The alarm that the two prompts come to has times of day. -/
theorem valid_of_promptBedtime {pt : PtState} {typists : List Typist} {bed : PtBedtime}
    (prompted : promptBedtime pt typists = some bed) : bed.Valid := by
  unfold promptBedtime at prompted
  simp only at prompted
  split at prompted
  · rename_i t first
    split at prompted
    · rename_i u second
      cases prompted
      exact fun _ => ⟨valid_of_promptHhmmLoop _ _ _ first, valid_of_promptHhmmLoop _ _ _ second⟩
    · cases prompted
    · cases prompted
  · cases prompted
  · cases prompted

/-! ## What an event may change -/

/-- What a cell may change. -/
def Cell.may (pending : Day → UInt16) : Layer → Cell → Change → Prop
  | .main, .setPin => fun c => .passcode = c
  | .main, .deletePc => fun c => .opens (.dialog .deletePc) = c
  | .main, .unlink => fun c => .opens (.dialog .unlink) = c
  | .main, .clock => fun c => .clock = c ∨ .opens (.dialog .clockOverwrite) = c
  | .main, .playTimer => timerMay fun _ => False
  | .playTimer, .setAll => timerMay fun call => ∃ m, .setUniform m = call ∧ m.toNat ≤ 1440
  | .playTimer, .mode | .playTimer, .bedtime | .playTimer, .remove => timerMay fun _ => False
  | .playTimer, .perDay => editorMay fun _ => False
  | .perDay, .day d => fun c => .opens (.dialog (.day d)) = c
  | .perDay, .save => editorMay fun call => .setDays pending = call
  | _, _ => noChange

/-- What a button of a dialog may change right away. -/
def Dialog.may : Dialog → Button → Change → Prop
  | .deletePc, .first => fun c => .deleteSettings = c
  | .unlink, .first => fun c => .deletePairing = c
  | .clock, .first | .clockOverwrite, .first => fun c => .clock = c
  | .day _, .first => editorMay fun _ => False
  | _, _ => noChange

/-- What a deferred function may change. -/
def Deferred.may : Deferred → Change → Prop
  | .checkNetworkClock => fun c => .opens (.dialog .clock) = c
  | .chooseAlarm => timerMay fun call => .setMode ptModeAlarm = call
  | .chooseSuspend => timerMay fun call => .setMode ptModeSuspend = call
  | .turnBedtimeOff => timerMay fun call => .setBedtime ⟨false, 0, 0, 6, 0⟩ = call
  | .setBedtime => timerMay fun call => ∃ bed, .setBedtime bed = call ∧ bed.Valid
  | .confirmRemove => timerMay fun call => .clear = call
  | .promptDay _ => editorMay fun _ => False
  | .gatePrompt => gateMay
  | .setPinToast _ => noChange

/-- What resuming may change. -/
def Layer.may : Layer → Change → Prop
  | .pinGate => gateMay
  | .playTimer => timerMay fun _ => False
  | .perDay => editorMay fun _ => False
  | _ => noChange

/-- What button B may change: on the gate and the error screen, and on the last layer, it
quits. -/
def Layer.mayBack : Layer → List Layer → Change → Prop
  | .pinGate, _ | .initError, _ | _, [] => gateMay
  | _, _ => noChange

/-- What an event may change in the state that it finds. -/
def Ui.may (u : Ui) : UiEvent → Change → Prop
  | .press cell => match u.layers with
    | top :: _ => cell.may u.pending top
    | [] => noChange
  | .choose button => match u.layers with
    | .dialog d :: _ => d.may button
    | _ => noChange
  | .tick => match u.deferred with
    | next :: _ => next.may
    | [] => noChange
  | .resume => match u.layers with
    | top :: _ => top.may
    | [] => noChange
  | .enterPin => match u.layers with
    | .pinGate :: _ => gateMay
    | _ => noChange
  | .back => match u.layers with
    | top :: below => top.mayBack below
    | [] => noChange
  | .elsewhere _ => noChange

/-- Whatever may change is changed by a cell, a button, a deferred function or by resuming, if
it is not the gate. -/
theorem Ui.may_cases {u : Ui} {event : UiEvent} {c : Change} (allowed : u.may event c) :
    (∃ cell top, event = .press cell ∧ u.layers.head? = some top ∧ cell.may u.pending top c) ∨
      (∃ button d, event = .choose button ∧ u.layers.head? = some (.dialog d) ∧
        d.may button c) ∨
      (∃ next, event = .tick ∧ u.deferred.head? = some next ∧ next.may c) ∨
      (∃ top, event = .resume ∧ u.layers.head? = some top ∧ top.may c) ∨ gateMay c := by
  unfold may at allowed
  cases event with
  | press cell =>
    rcases found : u.layers with _ | ⟨top, below⟩ <;> rw [found] at allowed
    · exact allowed.elim
    · exact .inl ⟨cell, top, rfl, rfl, allowed⟩
  | choose button =>
    rcases found : u.layers with _ | ⟨top, below⟩ <;> rw [found] at allowed
    · exact allowed.elim
    · cases top with
      | dialog d => exact .inr (.inl ⟨button, d, rfl, rfl, allowed⟩)
      | _ => exact allowed.elim
  | tick =>
    rcases found : u.deferred with _ | ⟨next, later⟩ <;> rw [found] at allowed
    · exact allowed.elim
    · exact .inr (.inr (.inl ⟨next, rfl, rfl, allowed⟩))
  | resume =>
    rcases found : u.layers with _ | ⟨top, below⟩ <;> rw [found] at allowed
    · exact allowed.elim
    · exact .inr (.inr (.inr (.inl ⟨top, rfl, rfl, allowed⟩)))
  | enterPin =>
    rcases found : u.layers with _ | ⟨top, below⟩ <;> rw [found] at allowed
    · exact allowed.elim
    · cases top with
      | pinGate => exact .inr (.inr (.inr (.inr allowed)))
      | _ => exact allowed.elim
  | back =>
    rcases found : u.layers with _ | ⟨top, below⟩ <;> rw [found] at allowed
    · exact allowed.elim
    · have gate : ∀ other, top.mayBack below other → gateMay other := by
        cases top <;> cases below <;> simp [Layer.mayBack, noChange]
      exact .inr (.inr (.inr (.inr (gate c allowed))))
  | elsewhere change => exact allowed.elim

/-! ## The handlers -/

/-- A confirmed action and its toast. -/
theorem built_runDestructive {may : Change → Prop} {action : PctlM Result}
    (step : ServiceStep may Result action) (success : Toast) (error : Result → Toast) :
    UiBuilt may (MainActivity.runDestructive action success error) :=
  .bind (.step (.serve step)) fun _ => (UiBuilt.toast _).bind fun _ => UiBuilt.refreshPanel

/-- Seeding the network clock. -/
theorem built_seedNetworkClock {may : Change → Prop} (allowed : may .clock) (outside : Outside) :
    UiBuilt may (MainActivity.seedNetworkClock outside) :=
  .bind (.step (.serve (.clock _ allowed))) fun _ => UiBuilt.refreshPanel.bind fun _ =>
    UiBuilt.toast _

/-- The network-clock check asks, and may open its dialog. -/
theorem built_checkNetworkClock {may : Change → Prop} (allowed : may (.opens (.dialog .clock))) :
    UiBuilt may MainActivity.checkNetworkClock :=
  .bind (.step .get) fun _ => .ite
    ((UiBuilt.ask built_clockStatus).bind fun _ => .ite (.pure _) (UiBuilt.push _ allowed))
    (.pure _)

/-- The cell that sets the network clock. -/
theorem built_pressClock {may : Change → Prop} (allowed : may .clock)
    (opens : may (.opens (.dialog .clockOverwrite))) (outside : Outside) :
    UiBuilt may (MainActivity.pressClock outside) :=
  (UiBuilt.ask built_clockStatus).bind fun _ =>
    .ite (built_seedNetworkClock allowed outside) (UiBuilt.push _ opens)

/-- The cell that saves the report. -/
theorem built_pressDiag {may : Change → Prop} (outside : Outside) :
    UiBuilt may (MainActivity.pressDiag outside) := by
  refine .bind (.step .dump) fun _ => .bind ?_ fun _ => UiBuilt.toast _
  exact UiBuilt.keep _ fun _ => ⟨rfl, rfl, rfl, rfl⟩

/-- A deferred function changes what it may. -/
theorem built_perform (next : Deferred) (outside : Outside) :
    UiBuilt next.may (Ui.perform next outside) := by
  cases next with
  | gatePrompt => exact .onTool (built_prompt _)
  | checkNetworkClock => exact built_checkNetworkClock rfl
  | setPinToast rc => exact UiBuilt.toast _
  | chooseAlarm =>
    have allowed : Deferred.chooseAlarm.may (.write (.setMode ptModeAlarm)) := rfl
    exact .onScreen (built_chooseMode _ allowed _)
  | chooseSuspend =>
    have allowed : Deferred.chooseSuspend.may (.write (.setMode ptModeSuspend)) := rfl
    exact .onScreen (built_chooseMode _ allowed _)
  | turnBedtimeOff => exact .onScreen (built_turnBedtimeOff rfl)
  | setBedtime =>
    exact .onScreen (built_setBedtime _ fun pt bed prompted =>
      ⟨bed, rfl, valid_of_promptBedtime prompted⟩)
  | confirmRemove => exact .onScreen (built_confirmRemove rfl)
  | promptDay d => exact .onEditor (built_stageMinutes d _)

/-- A button of a dialog changes what it may. -/
theorem built_choose (d : Dialog) (button : Button) (outside : Outside) :
    UiBuilt (d.may button) (Ui.choose d button outside) := by
  cases d with
  | deletePc =>
    cases button with
    | first => exact built_runDestructive (.deleteSettings rfl) _ _
    | _ => exact .pure _
  | unlink =>
    cases button with
    | first => exact built_runDestructive (.deletePairing rfl) _ _
    | _ => exact .pure _
  | clock =>
    cases button with
    | first => exact built_seedNetworkClock rfl _
    | _ => exact .pure _
  | clockOverwrite =>
    cases button with
    | first => exact built_seedNetworkClock rfl _
    | _ => exact .pure _
  | mode =>
    cases button with
    | cancel => exact .pure _
    | _ => exact UiBuilt.sync _
  | bedtime =>
    cases button with
    | cancel => exact .pure _
    | _ => exact UiBuilt.sync _
  | remove =>
    cases button with
    | first => exact UiBuilt.sync _
    | _ => exact .pure _
  | day d =>
    cases button with
    | cancel => exact .pure _
    | first => exact .onEditor (built_stage d _)
    | second => exact UiBuilt.sync _

/-- Resuming changes what it may. -/
theorem built_resume (top : Layer) : UiBuilt top.may (Ui.resume top) := by
  cases top with
  | pinGate => exact .onTool built_PinGate_onResume
  | main => exact UiBuilt.refreshPanel
  | playTimer => exact .onScreen built_refreshAll
  | perDay => exact .onEditor built_refreshVisible
  | initError => exact .pure _
  | dialog d => exact .pure _

/-! ## The reaction to an event -/

/-- The state is that of the tool as it was, less the layers that were popped. -/
structure Ui.PoppedFrom (v u : Ui) : Prop where
  /-- The gate and the process stay. -/
  tool : v.tool = u.tool
  /-- The recorded writes stay. -/
  writes : v.writes = u.writes
  /-- The staged limits stay. -/
  pending : v.pending = u.pending
  /-- At most the top was popped, and only a dialog that has nothing below it. -/
  layers : v.layers = u.layers ∨
    ∃ top, u.layers = top :: v.layers ∧ (v.layers = [] → ∃ d, top = .dialog d)

/-- Nothing was popped. -/
theorem Ui.PoppedFrom.refl (u : Ui) : u.PoppedFrom u := ⟨rfl, rfl, rfl, .inl rfl⟩

/-- The tool reacts with a handler that changes what the event may. -/
def Ui.Reaction (may : Change → Prop) (u v : Ui) : Prop :=
  ∃ (m : UiM Unit) (popped : Ui), UiBuilt may m ∧ popped.PoppedFrom u ∧ v = after m popped

/-- A handler is a reaction. -/
theorem Ui.Reaction.of_built {may : Change → Prop} {m : UiM Unit} (built : UiBuilt may m)
    (u : Ui) : Ui.Reaction may u (after m u) :=
  ⟨m, u, built, .refl u, rfl⟩

/-- Doing nothing is a reaction. -/
theorem Ui.Reaction.idle {may : Change → Prop} (u : Ui) : Ui.Reaction may u u :=
  of_built (.pure ()) u

/-- Saving writes the staged limits that it finds. -/
theorem reaction_save (u : Ui) :
    Ui.Reaction (editorMay fun call => .setDays u.pending = call) u
      (after (Ui.onEditor PerDay.doSave) u) :=
  ⟨_, u, .onEditor (built_doSave_of (e := Ui.perDayPart.view u) rfl), .refl u, rfl⟩

/-- A cell changes what it may. -/
theorem reaction_press (top : Layer) (cell : Cell) (outside : Outside) (u : Ui) :
    Ui.Reaction (cell.may u.pending top) u (after (Ui.press top cell outside) u) := by
  cases top with
  | main =>
    cases cell with
    | refresh => exact .of_built (UiBuilt.refreshPanel.bind fun _ => UiBuilt.toast _) u
    | playTimer => exact .of_built (UiBuilt.pushPlayTimer _) u
    | setPin =>
      refine .of_built (.bind (.step (.serve (.passcode rfl))) fun _ => ?_) u
      exact UiBuilt.refreshPanel.bind fun _ => UiBuilt.sync _
    | deletePc => exact .of_built (UiBuilt.push _ rfl) u
    | unlink => exact .of_built (UiBuilt.push _ rfl) u
    | clock => exact .of_built (built_pressClock (.inl rfl) (.inr rfl) outside) u
    | diag => exact .of_built (built_pressDiag outside) u
    | _ => exact .idle u
  | playTimer =>
    cases cell with
    | setAll =>
      refine .of_built (.onScreen (built_pressSetAll outside.typist ?_)) u
      exact fun _ _ value prompted => ⟨value, rfl, promptMinutes_le prompted⟩
    | mode => exact .of_built (.onScreen built_pressMode) u
    | perDay => exact .of_built (UiBuilt.pushPerDay _) u
    | bedtime => exact .of_built (.onScreen built_pressBedtime) u
    | remove => exact .of_built (.onScreen (.popup _)) u
    | _ => exact .idle u
  | perDay =>
    cases cell with
    | day d => exact .of_built (UiBuilt.push _ rfl) u
    | save => exact reaction_save u
    | _ => exact .idle u
  | pinGate => exact .idle u
  | initError => exact .idle u
  | dialog d => exact .idle u

/-- Button B pops a layer or quits. -/
theorem reaction_back (top : Layer) (below : List Layer) (u : Ui)
    (found : u.layers = top :: below) :
    Ui.Reaction (top.mayBack below) u (after (Ui.back top below) u) := by
  have quits : Ui.Reaction gateMay u (after (Ui.onTool Application.quit) u) :=
    .of_built (.onTool built_quit) u
  have pops (more : below ≠ []) : Ui.Reaction noChange u { u with layers := below } :=
    ⟨pure (), { u with layers := below }, .pure _,
      ⟨rfl, rfl, rfl, .inr ⟨top, found, fun last => (more last).elim⟩⟩, rfl⟩
  cases top with
  | pinGate => exact quits
  | initError => exact quits
  | _ =>
    cases below with
    | nil => exact quits
    | cons _ _ => exact pops (List.cons_ne_nil _ _)

/-- A button of a dialog pops the dialog, and changes what it may. -/
theorem reaction_choose (d : Dialog) (button : Button) (outside : Outside) (below : List Layer)
    (u : Ui) (found : u.layers = .dialog d :: below) :
    Ui.Reaction (d.may button) u (if d.has button then
      after (Ui.choose d button outside) { u with layers := below } else u) := by
  split
  · refine ⟨_, { u with layers := below }, built_choose d button outside, ?_, rfl⟩
    exact ⟨rfl, rfl, rfl, .inr ⟨_, found, fun _ => ⟨d, rfl⟩⟩⟩
  · exact .idle u

/-- The event comes from the console and not from the user. -/
def UiEvent.Foreign : UiEvent → Prop
  | .elsewhere _ => True
  | _ => False

/-- Every event of the tool changes what it may. -/
theorem reaction_react (outside : Outside) (u : Ui) (event : UiEvent) (own : ¬event.Foreign) :
    Ui.Reaction (u.may event) u (u.react outside event) := by
  cases event with
  | press cell =>
    unfold Ui.may Ui.react
    cases u.layers with
    | nil => exact .idle u
    | cons top below => exact reaction_press top cell outside u
  | enterPin =>
    unfold Ui.may Ui.react
    cases u.layers with
    | nil => exact .idle u
    | cons top below =>
      cases top with
      | pinGate => exact .of_built (.onTool (built_prompt _)) u
      | _ => exact .idle u
  | choose button =>
    unfold Ui.may Ui.react
    cases found : u.layers with
    | nil => exact .idle u
    | cons top below =>
      cases top with
      | dialog d => exact reaction_choose d button outside below u found
      | _ => exact .idle u
  | back =>
    unfold Ui.may Ui.react
    cases found : u.layers with
    | nil => exact .idle u
    | cons top below => exact reaction_back top below u found
  | tick =>
    unfold Ui.may Ui.react
    cases u.deferred with
    | nil => exact .idle u
    | cons next later =>
      exact ⟨_, { u with deferred := later }, built_perform next outside,
        ⟨rfl, rfl, rfl, .inl rfl⟩, rfl⟩
  | resume =>
    unfold Ui.may Ui.react
    cases u.layers with
    | nil => exact .idle u
    | cons top below => exact .of_built (built_resume top) u
  | elsewhere change => exact (own trivial).elim

end PctlManager
