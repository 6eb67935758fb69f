import PctlManager.Report
import PctlManager.Logic.Relational
import PctlManager.Verif.Documented

/-!
# The PIN stays out of the diagnostics

Two runs on consoles that differ in nothing but the digits of the registered PIN. The report
prints the buffer of 1208 byte by byte, with every digit masked, and the log of the unlock
mentions result codes only; so both are the same in both runs (`diagnostics_hide_digits`).
-/

namespace PctlManager

open Stateful

/-! ## Two consoles -/

/-- The consoles have PINs of these digits, of one length, and differ in nothing else. -/
structure Console.SameButDigits (digits digits' : List UInt8) (c c' : Console) : Prop where
  /-- The first console has a PIN. -/
  registered : c.Registered digits
  /-- The second console has a PIN. -/
  registered' : c'.Registered digits'
  /-- The PINs are equally long. -/
  length : digits'.length = digits.length
  /-- 1208 leaves the same behind the digits, and every other answer is the same. -/
  others : c' = { c with pinCode := (c.pinCode.1, digits' ++ c.pinCode.2.drop digits.length) }

/-- The sysmodule's own decisions do not depend on which digits the PIN has: not the alarm in
force, nor the answers about the timer, nor the verdict of 1201 on the right PIN. -/
structure Sysmodule.BlindToDigits (sys : Sysmodule) : Prop where
  /-- 1954 and 1956 to 1959. -/
  bedtimeAlarm : ∀ {digits digits' : List UInt8} {c c' : Console},
    c.SameButDigits digits digits' c' → sys.bedtimeAlarm c' = sys.bedtimeAlarm c
  /-- 1454, 1455, 1458, 1459 and 1952. -/
  timerAnswers : ∀ {digits digits' : List UInt8} {c c' : Console},
    c.SameButDigits digits digits' c' → sys.timerAnswers c' = sys.timerAnswers c
  /-- 1201. -/
  checkPin : ∀ {digits digits' : List UInt8} {c c' : Console},
    c.SameButDigits digits digits' c' →
      sys.checkPin c' (digits' ++ [0]) = sys.checkPin c (digits ++ [0])

/-- The worlds differ only in the digits of the registered PIN, and in the record of what libnx
was asked for, which nothing reads. -/
structure World.SameButDigits (digits digits' : List UInt8) (w w' : World) : Prop where
  /-- The same firmware. -/
  hosversion : w'.hosversion = w.hosversion
  /-- The same session. -/
  guard : w'.guard = w.guard
  /-- Consoles that differ in the digits only. -/
  console : w.console.SameButDigits digits digits' w'.console
  /-- The same sysmodule. -/
  sys : w'.sys = w.sys
  /-- The same failures to come. -/
  faults : w'.faults = w.faults
  /-- The same log. -/
  log : w'.log = w.log

/-- Such worlds, with a sysmodule that is blind to the digits. -/
def World.Twin (digits digits' : List UInt8) (w w' : World) : Prop :=
  w.SameButDigits digits digits' w' ∧ w.sys.BlindToDigits

variable {digits digits' : List UInt8}

/-- An answer that does not look at the PIN is the same on both consoles. -/
theorem Console.SameButDigits.answer {α : Type} {c c' : Console}
    (same : c.SameButDigits digits digits' c') {answer : Console → α}
    (blind : ∀ c pinCode, answer { c with pinCode } = answer c) : answer c' = answer c := by
  rw [same.others]
  exact blind c _

/-- What both consoles change alike, without touching the PIN, leaves the difference. -/
theorem Console.SameButDigits.changed {c c' d d' : Console}
    (same : c.SameButDigits digits digits' c')
    (kept : d.pinLength = c.pinLength ∧ d.pinCode = c.pinCode)
    (others : d' = { d with pinCode := c'.pinCode }) : d.SameButDigits digits digits' d' := by
  obtain ⟨length, code⟩ := kept
  have registered := same.registered
  have registered' := same.registered'
  have length' : c'.pinLength = c.pinLength := by rw [same.others]
  have code' : c'.pinCode = (c.pinCode.1, digits' ++ c.pinCode.2.drop digits.length) := by
    rw [same.others]
  refine ⟨⟨registered.ascii, registered.length, ?_, ?_, ?_⟩,
    ⟨registered'.ascii, registered'.length, ?_, ?_, ?_⟩, same.length, ?_⟩
  · rw [length]
    exact registered.pinLength
  · rw [code]
    exact registered.pinCodeLength
  · rw [code]
    exact registered.pinCode
  · rw [others, length, ← length']
    exact registered'.pinLength
  · rw [others]
    exact registered'.pinCodeLength
  · rw [others]
    exact registered'.pinCode
  · rw [others, code, code']

/-- The answers about the timer are derived alike. -/
theorem Console.SameButDigits.rederived {sys : Sysmodule} (blind : sys.BlindToDigits)
    {c c' : Console} (same : c.SameButDigits digits digits' c') :
    (sys.rederived c).SameButDigits digits digits' (sys.rederived c') := by
  have answers := blind.timerAnswers same
  refine same.changed ⟨rfl, rfl⟩ ?_
  unfold Sysmodule.rederived
  rw [answers, same.others]

/-- Pausing parental controls leaves the difference as it is. -/
theorem Console.SameButDigits.unlocked {sys : Sysmodule} (blind : sys.BlindToDigits)
    {c c' : Console} (same : c.SameButDigits digits digits' c') :
    (sys.unlocked c).SameButDigits digits digits' (sys.unlocked c') := by
  have paused : Console.SameButDigits digits digits' { c with temporarilyUnlocked := true }
      { c' with temporarilyUnlocked := true } :=
    same.changed ⟨rfl, rfl⟩ (by rw [same.others])
  exact paused.rederived blind

/-- A request gets the same verdict in both worlds. -/
theorem World.SameButDigits.verdict {w w' : World} (same : w.SameButDigits digits digits' w')
    (command : Command) (served : Result) :
    w'.verdict command served = w.verdict command served := by
  unfold World.verdict
  rw [same.guard, same.faults]

/-- The play timer is supported in both worlds or in neither. -/
theorem World.SameButDigits.supported {w w' : World} (same : w.SameButDigits digits digits' w') :
    pctlFwPlayTimerSupported w' = pctlFwPlayTimerSupported w := by
  unfold pctlFwPlayTimerSupported World.hosversionAtLeast
  rw [same.hosversion]

/-! ## The service layer in both worlds -/

/-- Replies with the same code and related outputs. -/
def Reply.Related {α : Type} (V : α → α → Prop) (r r' : Reply α) : Prop :=
  r.rc = r'.rc ∧ V r.out r'.out

/-- A query returns related outputs if the answers are related. -/
theorem related_serviceDispatchOut {α : Type} {V : α → α → Prop} (command : Command) {initial : α}
    {answer : Sysmodule → Console → α} (start : V initial initial)
    (answers : ∀ w w' : World, w.Twin digits digits' w' →
      V (answer w.sys w.console) (answer w'.sys w'.console)) :
    Related (World.Twin digits digits') (Reply.Related V)
      (serviceDispatchOut command initial answer) (serviceDispatchOut command initial answer) := by
  intro w w' twin
  obtain ⟨same, blind⟩ := twin
  have verdict := same.verdict command 0
  refine ⟨⟨verdict.symm, ?_⟩, ⟨?_, ?_, same.console, same.sys, ?_, same.log⟩, blind⟩
  · change V (if rSucceeded (w.verdict command 0) then _ else _)
      (if rSucceeded (w'.verdict command 0) then _ else _)
    rw [verdict]
    split
    · exact answers w w' ⟨same, blind⟩
    · exact start
  · exact same.hosversion
  · exact same.guard
  · exact congrArg (fun f : Faults => f.dispatched command) same.faults

/-- A query whose answer does not depend on the digits returns the same. -/
theorem same_query {α : Type} (command : Command) (initial : α)
    {answer : Sysmodule → Console → α}
    (blind : ∀ w w' : World, w.Twin digits digits' w' →
      answer w.sys w.console = answer w'.sys w'.console) :
    Same (World.Twin digits digits') (serviceDispatchOut command initial answer) := by
  intro w w' twin
  obtain ⟨⟨code, output⟩, left⟩ := related_serviceDispatchOut command (V := Eq) rfl blind w w' twin
  exact ⟨congrArg₂ Reply.mk code output, left⟩

/-- A query of something else than the PIN returns the same. -/
theorem same_query_of_frame {α : Type} (command : Command) (initial : α)
    {answer : Sysmodule → Console → α}
    (frame : ∀ sys c pinCode, answer sys { c with pinCode } = answer sys c) :
    Same (World.Twin digits digits') (serviceDispatchOut command initial answer) := by
  refine same_query command initial fun w w' twin => ?_
  rw [twin.1.sys]
  exact (twin.1.console.answer (frame w.sys)).symm

/-- Reopening the session returns the same. -/
theorem same_pctlOpsReinit : Same (World.Twin digits digits') pctlOpsReinit := by
  intro w w' twin
  obtain ⟨same, blind⟩ := twin
  have opened : result pctlOpsReinit w' = result pctlOpsReinit w := by
    change (w'.guard.release.acquire w'.faults.acquire.head).1 =
      (w.guard.release.acquire w.faults.acquire.head).1
    rw [same.guard, same.faults]
  refine ⟨opened.symm, ⟨same.hosversion, ?_, same.console, same.sys, ?_, same.log⟩, blind⟩
  · change (w'.guard.release.acquire w'.faults.acquire.head).2 =
      (w.guard.release.acquire w.faults.acquire.head).2
    rw [same.guard, same.faults]
  · change { w'.faults with acquire := w'.faults.acquire.tail } =
      { w.faults with acquire := w.faults.acquire.tail }
    rw [same.faults]

/-- A log line is appended in both worlds. -/
theorem same_pctlLogf (line : Text) : Same (World.Twin digits digits') (pctlLogf line) := by
  refine Related.modified fun w w' twin => ?_
  obtain ⟨same, blind⟩ := twin
  have faults := congrArg (fun f : Faults => { f with fopen := f.fopen.tail }) same.faults
  refine ⟨⟨same.hosversion, same.guard, same.console, same.sys, faults, ?_⟩, blind⟩
  change (if w'.faults.fopen.head then line :: w'.log else w'.log) =
    if w.faults.fopen.head then line :: w.log else w.log
  rw [same.faults, same.log]

/-! ## The unlock -/

/-- The PINs that `pctl_get_pin` hands back on the two consoles: equally long, and each with
its terminator. -/
structure PinReply.Twin (digits digits' : List UInt8) (p p' : PinReply) : Prop where
  /-- The same code. -/
  rc : p.rc = p'.rc
  /-- The same length. -/
  len : p.len = p'.len
  /-- The digits of the first PIN. -/
  front : p.rc = 0 → p.out.take (p.len.toNat + 1) = digits ++ [0]
  /-- The digits of the second PIN. -/
  front' : p'.rc = 0 → p'.out.take (p'.len.toNat + 1) = digits' ++ [0]

/-- A PIN that is handed back is that of the console, with its terminator. -/
theorem front_pctlGetPin {w : World} {digits : List UInt8}
    (registered : w.console.Registered digits)
    (succeeded : (result (pctlGetPin pinBufferSize) w).rc = 0) :
    (result (pctlGetPin pinBufferSize) w).len.toNat = digits.length ∧
      (result (pctlGetPin pinBufferSize) w).out.take
        ((result (pctlGetPin pinBufferSize) w).len.toNat + 1) = digits ++ [0] := by
  have reached := (rc_pctlGetPin w pinBufferSize).mp succeeded
  obtain ⟨out, len⟩ := result_pctlGetPin w pinBufferSize reached
  have buffer := registered.unlockBuffer
  unfold Console.unlockBuffer at buffer
  rw [out, len]
  exact ⟨registered.handedLength, buffer⟩

/-- `pctl_get_pin` hands back the PIN of each console. -/
theorem related_pctlGetPin : Related (World.Twin digits digits') (PinReply.Twin digits digits')
    (pctlGetPin pinBufferSize) (pctlGetPin pinBufferSize) := by
  intro w w' twin
  have registered := twin.1.console.registered
  have registered' := twin.1.console.registered'
  have code : (result (pctlGetPin pinBufferSize) w).rc =
      (result (pctlGetPin pinBufferSize) w').rc := by
    rw [rc_pctlGetPin_eq, rc_pctlGetPin_eq]
    exact (twin.1.verdict .getPinCode 0).symm
  have left : World.Twin digits digits' (after (pctlGetPin pinBufferSize) w)
      (after (pctlGetPin pinBufferSize) w') := by
    unfold pctlGetPin
    simp only [after_bind, after_ite, after_pure, ite_self]
    exact (related_serviceDispatchOut (V := fun _ _ => True) .getPinCode trivial
      (fun _ _ _ => trivial) w w' twin).2
  refine ⟨⟨code, ?_, fun read => (front_pctlGetPin registered read).2,
    fun read => (front_pctlGetPin registered' read).2⟩, left⟩
  by_cases read : (result (pctlGetPin pinBufferSize) w).rc = 0
  · have length := (front_pctlGetPin registered read).1
    have length' := (front_pctlGetPin registered' (code.symm.trans read)).1
    apply UInt32.toNat_inj.mp
    rw [length, length', twin.1.console.length]
  · rw [len_pctlGetPin_of_failed w read, len_pctlGetPin_of_failed w' (code ▸ read)]

/-- 1201 gives the right PIN the same verdict on both consoles. -/
theorem related_unlock : Related (World.Twin digits digits') Eq
    (serviceDispatchIn .unlockRestrictionTemporarily (digits ++ [0]) fun sys c =>
      (sys.checkPin c (digits ++ [0]), sys.unlocked c))
    (serviceDispatchIn .unlockRestrictionTemporarily (digits' ++ [0]) fun sys c =>
      (sys.checkPin c (digits' ++ [0]), sys.unlocked c)) := by
  intro w w' twin
  obtain ⟨same, blind⟩ := twin
  have served : w'.sys.checkPin w'.console (digits' ++ [0]) =
      w.sys.checkPin w.console (digits ++ [0]) := by
    rw [same.sys]
    exact blind.checkPin same.console
  have verdict : w'.verdict .unlockRestrictionTemporarily
        (w'.sys.checkPin w'.console (digits' ++ [0])) =
      w.verdict .unlockRestrictionTemporarily (w.sys.checkPin w.console (digits ++ [0])) := by
    rw [served, same.verdict]
  refine ⟨verdict.symm, ⟨same.hosversion, same.guard, ?_, same.sys, ?_, same.log⟩, blind⟩
  · change Console.SameButDigits digits digits'
      (if rSucceeded (w.verdict .unlockRestrictionTemporarily _) then _ else _)
      (if rSucceeded (w'.verdict .unlockRestrictionTemporarily _) then _ else _)
    rw [verdict]
    split
    · rw [same.sys]
      exact same.console.unlocked blind
    · exact same.console
  · exact congrArg (fun f : Faults => f.dispatched .unlockRestrictionTemporarily) same.faults

/-- The unlock returns the same code and writes the same log. -/
theorem same_pctlUnlockRestrictionTemporarily :
    Same (World.Twin digits digits') pctlUnlockRestrictionTemporarily := by
  refine Same.bind same_pctlOpsReinit fun _ => Related.bind related_pctlGetPin ?_
  intro p p' pins
  have code := pins.rc
  by_cases failed : rFailed p.rc
  · have failed' : rFailed p'.rc := code ▸ failed
    rw [if_pos failed, if_pos failed', ← code]
    exact (same_pctlLogf _).bind fun _ => .pure _
  · have failed' : ¬rFailed p'.rc := code ▸ failed
    have front := pins.front (not_not.mp failed)
    have front' := pins.front' (not_not.mp failed')
    rw [if_neg failed, if_neg failed', ← pins.len]
    refine Related.ite ((same_pctlLogf _).bind fun _ => .pure _) ?_
    rw [← pins.len] at front'
    simp only [front, front']
    refine Related.bind related_unlock ?_
    rintro rc _ rfl
    exact (same_pctlLogf _).bind fun _ => .pure _

/-! ## The report -/

/-- Running dumps over such worlds with the same report so far. -/
def Dump.Twin (digits digits' : List UInt8) (d d' : Dump) : Prop :=
  d.world.Twin digits digits' d'.world ∧ d.report = d'.report

/-- The service layer is asked in both dumps. -/
theorem related_ask {α : Type} {V : α → α → Prop} {m : PctlM α}
    (asked : Related (World.Twin digits digits') V m m) :
    Related (Dump.Twin digits digits') V (ask m) (ask m) :=
  asked.zoom Dump.worldPart (fun _ _ twin => twin.1) fun _ _ twin _ _ worlds => ⟨worlds, twin.2⟩

/-- A query of something else than the PIN answers both dumps alike. -/
theorem same_asked {α : Type} (command : Command) (initial : α)
    {answer : Sysmodule → Console → α}
    (frame : ∀ sys c pinCode, answer sys { c with pinCode } = answer sys c) :
    Same (Dump.Twin digits digits') (ask (serviceDispatchOut command initial answer)) :=
  related_ask (same_query_of_frame command initial frame)

/-- The same text is appended to both reports. -/
theorem same_say (text : Text) : Same (Dump.Twin digits digits') (say text) := by
  intro d d' twin
  refine ⟨rfl, twin.1, ?_⟩
  change after (rep text) d.report = after (rep text) d'.report
  rw [twin.2]

/-- A flag is printed alike. -/
theorem same_dumpFlag (title : Text) (command : Command) {answer : Sysmodule → Console → Bool}
    (blind : ∀ w w' : World, w.Twin digits digits' w' →
      answer w.sys w.console = answer w'.sys w'.console) :
    Same (Dump.Twin digits digits') (dumpFlag title command answer) :=
  Same.bind (related_ask (same_query command false blind)) fun _ => same_say _

/-- A flag that does not look at the PIN is printed alike. -/
theorem same_dumpFlag_of_frame (title : Text) (command : Command)
    {answer : Sysmodule → Console → Bool}
    (frame : ∀ sys c pinCode, answer sys { c with pinCode } = answer sys c) :
    Same (Dump.Twin digits digits') (dumpFlag title command answer) :=
  Same.bind (same_asked command false frame) fun _ => same_say _

/-- The clocks are the same. -/
theorem Dump.Twin.clock {d d' : Dump} (twin : d.Twin digits digits' d') :
    d.world.console.clock = d'.world.console.clock := by
  rw [twin.1.1.console.others]

/-- The line of a clock is the same. -/
theorem same_repClock (name : Text) (type : TimeType) :
    Same (Dump.Twin digits digits') (repClock name type) := by
  unfold repClock
  refine Related.get_bind fun d d' twin => ?_
  rw [twin.clock]
  refine Same.bind (same_say _) fun _ => Same.ite ?_ (same_say _)
  split
  · exact Same.bind (same_say _) fun _ => same_say _
  · exact same_say _

/-- The header is the same. -/
theorem same_dumpHeader : Same (Dump.Twin digits digits') dumpHeader := by
  unfold dumpHeader
  refine Related.get_bind fun d d' twin => ?_
  rw [twin.1.1.hosversion, twin.1.1.supported]
  exact Same.bind (same_say _) fun _ => Same.bind (same_say _) fun _ =>
    Same.bind (same_repClock _ _) fun _ => Same.bind (same_repClock _ _) fun _ =>
      same_repClock _ _

/-- Two digits are masked alike. -/
theorem pinByteText_of_digits {a b : UInt8} (digit : 0x30 ≤ a ∧ a ≤ 0x39)
    (digit' : 0x30 ≤ b ∧ b ≤ 0x39) : pinByteText a = pinByteText b := by
  unfold pinByteText
  rw [if_pos digit, if_pos digit']

/-- Digits of one length are masked alike, one by one. -/
theorem forall₂_masked : ∀ {xs ys : List UInt8}, ys.length = xs.length →
    (∀ digit ∈ xs, 0x30 ≤ digit ∧ digit ≤ 0x39) → (∀ digit ∈ ys, 0x30 ≤ digit ∧ digit ≤ 0x39) →
      List.Forall₂ (fun a b => pinByteText a = pinByteText b) xs ys
  | [], [], _, _, _ => .nil
  | x :: xs, y :: ys, length, ascii, ascii' => by
    have heads := pinByteText_of_digits (ascii x List.mem_cons_self) (ascii' y List.mem_cons_self)
    have tails := forall₂_masked (Nat.succ.inj length)
      (fun digit member => ascii digit (List.mem_cons_of_mem x member))
      (fun digit member => ascii' digit (List.mem_cons_of_mem y member))
    exact .cons heads tails

/-- A buffer that holds the whole PIN and more begins with its digits. -/
theorem fillBuffer_of_digits {buffer digits rest : List UInt8}
    (room : digits.length ≤ buffer.length) : fillBuffer buffer (digits ++ rest) =
      digits ++ fillBuffer (buffer.drop digits.length) rest := by
  unfold fillBuffer
  rw [List.take_append, List.take_of_length_le room, List.append_assoc, List.length_drop,
    List.length_append, List.drop_drop]

/-- The buffers of 1208 are masked alike, byte by byte. -/
theorem Console.SameButDigits.masked {c c' : Console} (same : c.SameButDigits digits digits' c')
    {buffer : List UInt8} (room : 8 ≤ buffer.length) :
    List.Forall₂ (fun a b => pinByteText a = pinByteText b) (fillBuffer buffer c.pinCode.2)
      (fillBuffer buffer c'.pinCode.2) := by
  have bound := same.registered.length.2
  have bound' := same.registered'.length.2
  obtain ⟨padding, filled⟩ := same.registered.pinCode
  have filled' : c'.pinCode.2 = digits' ++ List.replicate padding 0 := by
    rw [same.others, filled]
    exact congrArg (digits' ++ ·) List.drop_left
  have front := forall₂_masked same.length same.registered.ascii same.registered'.ascii
  rw [filled, filled', fillBuffer_of_digits (by omega), fillBuffer_of_digits (by omega),
    same.length]
  have rest : List.Forall₂ (fun a b => pinByteText a = pinByteText b)
      (fillBuffer (buffer.drop digits.length) (List.replicate padding 0))
      (fillBuffer (buffer.drop digits.length) (List.replicate padding 0)) :=
    List.forall₂_same.mpr fun _ _ => rfl
  exact List.rel_append front rest

/-- The restriction state is the same: of the PIN it shows the length and masked digits. -/
theorem same_dumpRestriction : Same (Dump.Twin digits digits') dumpRestriction := by
  have pin : Related (World.Twin digits digits')
      (Reply.Related fun out out' : UInt32 × List UInt8 => out.1 = out'.1 ∧
        List.Forall₂ (fun a b => pinByteText a = pinByteText b) out.2 out'.2)
      (serviceDispatchOut .getPinCode ((0 : UInt32), List.replicate 0x10 (0xCC : UInt8))
        fun _ c => (c.pinCode.1, fillBuffer (List.replicate 0x10 0xCC) c.pinCode.2))
      (serviceDispatchOut .getPinCode ((0 : UInt32), List.replicate 0x10 (0xCC : UInt8))
        fun _ c => (c.pinCode.1, fillBuffer (List.replicate 0x10 0xCC) c.pinCode.2)) := by
    refine related_serviceDispatchOut .getPinCode ⟨rfl, List.forall₂_same.mpr fun _ _ => rfl⟩ ?_
    intro w w' twin
    have length : w.console.pinCode.1 = w'.console.pinCode.1 := by
      rw [twin.1.console.others]
    exact ⟨length, twin.1.console.masked (by decide)⟩
  unfold dumpRestriction
  refine Same.bind (same_dumpFlag_of_frame _ _ fun _ _ _ => rfl) fun _ =>
    Same.bind (same_dumpFlag_of_frame _ _ fun _ _ _ => rfl) fun _ =>
      Same.bind (same_asked _ _ fun _ _ _ => rfl)
        fun _ => Same.bind (same_say _) fun _ => Same.bind (related_ask same_pctlOpsReinit)
          fun _ => Related.bind (related_ask pin) ?_
  rintro reply reply' ⟨code, length, bytes⟩
  rw [code, length]
  refine Related.bind (same_say _) fun _ _ _ =>
    Related.bind (Related.forM ?_ bytes) fun _ _ _ => same_say _
  intro byte byte' masked
  rw [masked]
  exact same_say _

/-- The play-timer queries are the same. -/
theorem same_dumpTimer : Same (Dump.Twin digits digits') dumpTimer := by
  unfold dumpTimer
  refine Same.bind (related_ask same_pctlOpsReinit) fun _ =>
    Same.bind (same_dumpFlag_of_frame _ _ fun _ _ _ => rfl) fun _ =>
      Same.bind (same_dumpFlag_of_frame _ _ fun _ _ _ => rfl) fun _ =>
        Same.bind (same_dumpFlag_of_frame _ _ fun _ _ _ => rfl) fun _ =>
          Same.bind (same_asked _ _ fun _ _ _ => rfl) fun _ => Same.bind (same_say _) fun _ =>
            Same.ite (Same.bind (same_say _) fun _ => ?_) ?_
  -- What follows the branch follows it in both arms.
  all_goals
    exact Same.bind (same_say _) fun _ => Same.bind (related_ask same_pctlOpsReinit) fun _ =>
      Same.bind (same_asked _ _ fun _ _ _ => rfl) fun _ => same_say _

/-- A raw buffer is printed alike. -/
theorem same_dumpBytes (bytes : List UInt8) : Same (Dump.Twin digits digits') (dumpBytes bytes) :=
  Same.forM (fun _ => Same.bind (same_say _) fun _ => Same.ite (same_say _) (.pure _)) _

/-- The stored settings are the same. -/
theorem same_dumpSettings : Same (Dump.Twin digits digits') dumpSettings := by
  unfold dumpSettings
  refine Same.bind (related_ask same_pctlOpsReinit) fun _ =>
    Same.bind (same_asked _ _ fun _ _ _ => rfl)
      fun _ => Same.bind (same_say _) fun _ => Same.bind (same_dumpBytes _) fun _ =>
        Same.bind (same_say _) fun _ => ?_
  split
  · exact .pure _
  · exact Same.bind (same_say _) fun _ => Same.bind (same_say _) fun _ =>
      Same.bind (same_say _) fun _ => Same.forM (fun _ => same_say _) _

/-- The alarm in force is the same. -/
theorem World.Twin.bedtimeAlarm {w w' : World} (twin : w.Twin digits digits' w') :
    w.sys.bedtimeAlarm w.console = w'.sys.bedtimeAlarm w'.console := by
  rw [twin.1.sys]
  exact (twin.2.bedtimeAlarm twin.1.console).symm

/-- One of the bedtime getters is the same. -/
theorem same_dumpBedtimeGetter (command : Command) (name : Text) (answer : PtBedtime → UInt8) :
    Same (Dump.Twin digits digits') (dumpBedtimeGetter command name answer) :=
  Same.bind (related_ask same_pctlOpsReinit) fun _ =>
    Same.bind (related_ask (same_query _ _ fun _ _ twin => congrArg answer twin.bedtimeAlarm))
      fun _ => same_say _

/-- The bedtime getters and the display info are the same. -/
theorem same_dumpBedtime : Same (Dump.Twin digits digits') dumpBedtime := by
  unfold dumpBedtime
  exact Same.bind (related_ask same_pctlOpsReinit) fun _ =>
    Same.bind (same_dumpFlag _ _ fun _ _ twin => congrArg PtBedtime.enabled twin.bedtimeAlarm)
      fun _ => Same.bind (same_dumpBedtimeGetter _ _ _) fun _ =>
        Same.bind (same_dumpBedtimeGetter _ _ _) fun _ =>
          Same.bind (same_dumpBedtimeGetter _ _ _) fun _ =>
            Same.bind (same_dumpBedtimeGetter _ _ _) fun _ =>
              Same.bind (related_ask same_pctlOpsReinit) fun _ =>
                Same.bind (same_asked _ _ fun _ _ _ => rfl) fun _ =>
                  Same.bind (same_say _) fun _ => Same.ite
                    (Same.bind (same_dumpBytes _) fun _ => same_say _) (same_say _)

/-- The whole report is the same. -/
theorem same_pctlPlayTimerDump (buf bufsz : Nat) :
    Same (Dump.Twin digits digits') (pctlPlayTimerDump buf bufsz) := by
  unfold pctlPlayTimerDump
  refine Same.ite (.pure _) (Same.bind (Related.modified ?_) fun _ =>
    Same.bind same_dumpHeader fun _ => Same.bind (related_ask same_pctlOpsReinit) fun _ =>
      Same.ite (same_say _) (Same.bind same_dumpRestriction fun _ => Related.get_bind ?_))
  · intro d d' twin
    exact ⟨twin.1, by rw [twin.2]⟩
  · intro d d' twin
    rw [twin.1.1.supported]
    exact Same.ite (Same.bind same_dumpTimer fun _ => Same.bind same_dumpSettings fun _ =>
      same_dumpBedtime) (same_say _)

/-- On two consoles that differ only in the digits of the registered PIN, the diagnostic report
fills every buffer alike, and the unlock writes the same lines into the log. -/
theorem diagnostics_hide_digits (digits digits' : List UInt8) (w w' : World)
    (same : w.SameButDigits digits digits' w') (blind : w.sys.BlindToDigits) :
    (∀ buf bufsz report, (after (pctlPlayTimerDump buf bufsz) ⟨w, report⟩).report =
      (after (pctlPlayTimerDump buf bufsz) ⟨w', report⟩).report) ∧
    (after pctlUnlockRestrictionTemporarily w).log =
      (after pctlUnlockRestrictionTemporarily w').log := by
  constructor
  · intro buf bufsz report
    have twin : Dump.Twin digits digits' ⟨w, report⟩ ⟨w', report⟩ := ⟨⟨same, blind⟩, rfl⟩
    exact (same_pctlPlayTimerDump buf bufsz _ _ twin).2.2
  · exact (same_pctlUnlockRestrictionTemporarily w w' ⟨same, blind⟩).2.1.log.symm

/-- The documented sysmodule is blind to the digits. -/
theorem Sysmodule.documented_blind : Sysmodule.documented.BlindToDigits where
  bedtimeAlarm _ := rfl
  timerAnswers same := same.answer fun _ _ => rfl
  checkPin same := by
    have accepted := (documented_documented.checkPin _ _ same.registered _).mpr rfl
    have accepted' := (documented_documented.checkPin _ _ same.registered' _).mpr rfl
    rw [accepted, accepted']

/-- The sample console with the PIN 9876 instead of 1234. -/
def Console.otherSample : Console :=
  { Console.sample .zero false with pinCode := (4, [0x39, 0x38, 0x37, 0x36]) }

/-- The two sample consoles differ in the digits only. -/
theorem Console.sameButDigits_sample : (Console.sample .zero false).SameButDigits
    [0x31, 0x32, 0x33, 0x34] [0x39, 0x38, 0x37, 0x36] .otherSample where
  registered := Console.registered_sample _ _
  registered' := ⟨by simp, by decide, rfl, rfl, 0, rfl⟩
  length := rfl
  others := rfl

/-- The log of the unlock does not tell the PIN 1234 from the PIN 9876, and neither does the
report in a buffer of 4096 bytes. -/
theorem diagnostics_hide_digits_sample :
    let w := World.launched (.sample .zero false) .none
    let w' := World.launched .otherSample .none
    (after pctlUnlockRestrictionTemporarily w).log =
        (after pctlUnlockRestrictionTemporarily w').log ∧
      ∀ report, (after (pctlPlayTimerDump 0 4096) ⟨w, report⟩).report =
        (after (pctlPlayTimerDump 0 4096) ⟨w', report⟩).report := by
  have hidden := diagnostics_hide_digits [0x31, 0x32, 0x33, 0x34] [0x39, 0x38, 0x37, 0x36]
    (.launched (.sample .zero false) .none) (.launched .otherSample .none)
    ⟨rfl, rfl, Console.sameButDigits_sample, rfl, rfl, rfl⟩ Sysmodule.documented_blind
  exact ⟨hidden.2, fun report => hidden.1 0 4096 report⟩

end PctlManager
