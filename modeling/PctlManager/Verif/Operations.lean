import PctlManager.Verif.Effects

/-!
# What each operation returns

One specification for each operation of the service layer: when it succeeds, what it returns
and what it leaves on the console, in terms of the world it started in, and how many
reopenings and requests it uses up.
-/

namespace PctlManager

open Stateful

section Primitives

variable {α : Type} (command : Command) (initial : α) (answer : Sysmodule → Console → α)
  (line : Text) (w : World)

/-- A query leaves the sysmodule alone. -/
@[simp] theorem sys_serviceDispatchOut :
    (after (serviceDispatchOut command initial answer) w).sys = w.sys := rfl

/-- A query leaves the console alone. -/
@[simp] theorem console_serviceDispatchOut :
    (after (serviceDispatchOut command initial answer) w).console = w.console := rfl

/-- Reopening leaves the sysmodule alone. -/
@[simp] theorem sys_pctlOpsReinit : (after pctlOpsReinit w).sys = w.sys := rfl

/-- Reopening leaves the console alone. -/
@[simp] theorem console_pctlOpsReinit : (after pctlOpsReinit w).console = w.console := rfl

/-- A log line leaves the sysmodule alone. -/
@[simp] theorem sys_pctlLogf : (after (pctlLogf line) w).sys = w.sys := rfl

/-- A log line leaves the console alone. -/
@[simp] theorem console_pctlLogf : (after (pctlLogf line) w).console = w.console := rfl

/-- A query leaves the support alone. -/
@[simp] theorem supported_serviceDispatchOut :
    pctlFwPlayTimerSupported (after (serviceDispatchOut command initial answer) w) =
      pctlFwPlayTimerSupported w := rfl

/-- Reopening leaves the support alone. -/
@[simp] theorem supported_pctlOpsReinit :
    pctlFwPlayTimerSupported (after pctlOpsReinit w) = pctlFwPlayTimerSupported w := rfl

end Primitives

/-! ## What the sysmodule leaves -/

namespace Sysmodule

variable (sys : Sysmodule) (c : Console) (s : PtSettings)

/-- 1201 stores nothing. -/
@[simp] theorem stored_unlocked : (sys.unlocked c).stored = c.stored := rfl

/-- A 1201 that was accepted pauses parental controls. -/
@[simp] theorem temporarilyUnlocked_unlocked : (sys.unlocked c).temporarilyUnlocked = true := rfl

/-- 1201 keeps the PIN. -/
@[simp] theorem pinLength_unlocked : (sys.unlocked c).pinLength = c.pinLength := rfl

/-- 1007 stores nothing. -/
@[simp] theorem stored_reverted : (sys.reverted c).stored = c.stored := rfl

/-- 1007 leaves of the temporary unlock what the sysmodule decides. -/
@[simp] theorem temporarilyUnlocked_reverted :
    (sys.reverted c).temporarilyUnlocked = sys.revertTemporaryUnlock c := rfl

/-- 195101 stores the settings with the flag that the sysmodule re-derives. -/
@[simp] theorem stored_rearmed :
    (sys.rearmed c s).stored = { s with enabled := sys.rearm c s } := rfl

/-- 195101 leaves a temporary unlock as it is. -/
@[simp] theorem temporarilyUnlocked_rearmed :
    (sys.rearmed c s).temporarilyUnlocked = c.temporarilyUnlocked := rfl

/-- 195101 keeps the PIN. -/
@[simp] theorem pinLength_rearmed : (sys.rearmed c s).pinLength = c.pinLength := rfl

end Sysmodule

variable (w : World)

/-! ## Status -/

/-- The snapshot shows a registered PIN exactly when 1206 answered with a length. -/
theorem pinLength_pctlStatusFetch :
    ¬((result pctlStatusFetch w).pinLengthOk = false ∨
      (result pctlStatusFetch w).pinLength = 0) ↔
    w.Reaches 0 .getPinCodeLength 0 ∧ w.console.pinLength ≠ 0 := by
  simp only [pctlStatusFetch, result_bind, result_pure, rSucceeded,
    rc_serviceDispatchOut, out_serviceDispatchOut, reaches_serviceDispatchOut,
    console_serviceDispatchOut, reduceCtorEq, ↓reduceIte, Nat.add_zero, decide_eq_false_iff_not]
  by_cases reached : w.Reaches 0 .getPinCodeLength 0 <;> simp [reached]

/-- Requests after the status snapshot. -/
theorem reaches_pctlStatusFetch (n : Nat) (command : Command) (k : Nat)
    (other : command ≠ .getSafetyLevel ∧ command ≠ .getPinCodeLength ∧
      command ≠ .isRestrictionEnabled) :
    (after pctlStatusFetch w).Reaches n command k ↔ w.Reaches n command k := by
  obtain ⟨level, length, enabled⟩ := other
  simp [pctlStatusFetch, level.symm, length.symm, enabled.symm]

/-! ## The query -/

/-- Reading the settings succeeds exactly when 145601 gets through on the fresh session. -/
theorem rc_readSettings : (result readSettings w).rc = 0 ↔
    pctlFwPlayTimerSupported w = true ∧ w.Reaches 1 .getPlayTimerSettings 0 := by
  unfold readSettings
  simp only [result_bind, result_get, after_get, result_ite, result_pure]
  split
  · rename_i supported
    simp [supported]
  · rename_i unsupported
    simp [unsupported, show ptUnsupported ≠ 0 by decide]

/-- Settings that were read are the stored ones. -/
theorem out_readSettings (succeeded : (result readSettings w).rc = 0) :
    (result readSettings w).out = w.console.stored := by
  obtain ⟨supported, reached⟩ := (rc_readSettings w).mp succeeded
  simp [readSettings, supported, reached]

/-- Requests after the settings were read. -/
theorem reaches_readSettings (supported : pctlFwPlayTimerSupported w = true) (n : Nat)
    (command : Command) (k : Nat) : (after readSettings w).Reaches n command k ↔
      w.Reaches (n + 1) command (k + if .getPlayTimerSettings = command then 1 else 0) := by
  simp [readSettings, supported]

/-- Requests after the query. -/
theorem reaches_pctlPlayTimerQuery (supported : pctlFwPlayTimerSupported w = true)
    (n : Nat) (command : Command) (k : Nat)
    (other : command ≠ .isRestrictedByPlayTimer ∧ command ≠ .getPlayTimerRemainingTime ∧
      command ≠ .getPlayTimerSettings) :
    (after pctlPlayTimerQuery w).Reaches n command k ↔
      w.Reaches (n + 2) command (k + if .isPlayTimerEnabled = command then 1 else 0) := by
  obtain ⟨restricted, remaining, settings⟩ := other
  unfold pctlPlayTimerQuery
  simp only [after_bind, result_get, after_get, supported, ↓reduceIte, after_ite, after_pure,
    ite_self]
  rw [reaches_readSettings]
  · simp [restricted.symm, remaining.symm, settings.symm]
  · exact supported

/-- The snapshot shows the timer enabled exactly when 1453 said so. -/
theorem enabled_pctlPlayTimerQuery (supported : pctlFwPlayTimerSupported w = true) :
    (result pctlPlayTimerQuery w).enabled = true ↔
    w.Reaches 1 .isPlayTimerEnabled 0 ∧
      w.sys.isPlayTimerEnabled w.console.stored w.console.temporarilyUnlocked = true := by
  unfold pctlPlayTimerQuery
  simp only [result_bind, result_get, after_get, supported, ↓reduceIte, result_ite, result_pure]
  split <;>
    simp only [PtState.ofSettings, rSucceeded, rc_serviceDispatchOut, reaches_pctlOpsReinit,
      out_serviceDispatchOut, console_pctlOpsReinit, sys_pctlOpsReinit] <;>
    by_cases reached : w.Reaches 1 .isPlayTimerEnabled 0 <;> simp [reached]

/-- The snapshot shows the limit reached exactly when 1455 said so. -/
theorem restricted_pctlPlayTimerQuery (supported : pctlFwPlayTimerSupported w = true) :
    (result pctlPlayTimerQuery w).restricted = true ↔
    w.Reaches 1 .isRestrictedByPlayTimer 0 ∧ w.console.restrictedByPlayTimer = true := by
  unfold pctlPlayTimerQuery
  simp only [result_bind, result_get, after_get, supported, ↓reduceIte, result_ite, result_pure]
  split <;>
    simp only [PtState.ofSettings, rSucceeded, rc_serviceDispatchOut, reaches_pctlOpsReinit,
      reaches_serviceDispatchOut, out_serviceDispatchOut, console_serviceDispatchOut,
      console_pctlOpsReinit, reduceCtorEq, ↓reduceIte, Nat.add_zero] <;>
    by_cases reached : w.Reaches 1 .isRestrictedByPlayTimer 0 <;> simp [reached]

/-- The snapshot is valid exactly when 145601 got through on its own fresh session. -/
theorem valid_pctlPlayTimerQuery (supported : pctlFwPlayTimerSupported w = true) :
    (result pctlPlayTimerQuery w).valid = true ↔ w.Reaches 2 .getPlayTimerSettings 0 := by
  unfold pctlPlayTimerQuery
  simp only [result_bind, result_get, after_get, supported, ↓reduceIte, result_ite, result_pure,
    rSucceeded, rc_readSettings, supported_serviceDispatchOut, supported_pctlOpsReinit, true_and,
    reaches_serviceDispatchOut, reaches_pctlOpsReinit, reduceCtorEq, Nat.add_zero]
  by_cases reached : w.Reaches 2 .getPlayTimerSettings 0 <;>
    simp [reached, PtState.ofSettings, PtState.blank]

/-- A snapshot taken now reads the settings: the firmware has the commands, and 145601 gets
through. -/
def World.Reads (w : World) : Prop :=
  pctlFwPlayTimerSupported w = true ∧ w.Reaches 2 .getPlayTimerSettings 0

instance : Decidable w.Reads := inferInstanceAs (Decidable (_ ∧ _))

/-- A snapshot calls itself valid exactly when it reads the settings. -/
theorem valid_iff_reads : (result pctlPlayTimerQuery w).valid = true ↔ w.Reads := by
  unfold World.Reads
  by_cases supported : pctlFwPlayTimerSupported w = true
  · rw [valid_pctlPlayTimerQuery w supported]
    exact (and_iff_right supported).symm
  · simp [pctlPlayTimerQuery, supported, PtState.blank]

/-- A snapshot that reads the settings decodes them. -/
theorem result_pctlPlayTimerQuery (supported : pctlFwPlayTimerSupported w = true)
    (reached : w.Reaches 2 .getPlayTimerSettings 0) :
    ∃ out : PtState, out.dayMin = PtState.blank.dayMin ∧
      result pctlPlayTimerQuery w = out.ofSettings w.console.stored := by
  unfold pctlPlayTimerQuery
  simp only [result_bind, result_get, after_get, supported, ↓reduceIte, result_pure, rSucceeded,
    rc_readSettings, supported_serviceDispatchOut, supported_pctlOpsReinit, true_and,
    reaches_serviceDispatchOut, reaches_pctlOpsReinit, reduceCtorEq, Nat.add_zero, reached]
  rw [out_readSettings]
  · refine ⟨_, ?_, rfl⟩
    rfl
  · simp [rc_readSettings, supported, reached]

/-- A snapshot that is not valid shows every day without a limit. -/
theorem dayMin_pctlPlayTimerQuery (invalid : (result pctlPlayTimerQuery w).valid = false) :
    (result pctlPlayTimerQuery w).dayMin = fun _ => ptDayNoLimit := by
  revert invalid
  unfold pctlPlayTimerQuery
  simp only [result_bind, result_get, after_get, result_ite, result_pure]
  split
  · split
    · intro invalid
      cases invalid
    · exact fun _ => rfl
  · exact fun _ => rfl

/-! ## The temporary unlock -/

/-- The confirmation succeeds exactly when 1006 gets through. -/
theorem rc_pctlIsTemporarilyUnlocked : (result pctlIsTemporarilyUnlocked w).rc = 0 ↔
    w.Reaches 0 .isRestrictionTemporaryUnlocked 0 := by
  unfold pctlIsTemporarilyUnlocked
  simp only [result_bind, result_ite, result_pure, ite_self, rc_serviceDispatchOut]

/-- The answer of the confirmation. -/
theorem out_pctlIsTemporarilyUnlocked : (result pctlIsTemporarilyUnlocked w).out =
    if w.Reaches 0 .isRestrictionTemporaryUnlocked 0 then w.console.temporarilyUnlocked
    else false := by
  unfold pctlIsTemporarilyUnlocked
  simp only [result_bind, result_ite, result_pure, ite_self, out_serviceDispatchOut]

/-- 1007 succeeds exactly when it gets through on the fresh session. -/
theorem result_pctlRevertTemporaryUnlock : result pctlRevertTemporaryUnlock w = 0 ↔
    w.Reaches 1 .revertRestrictionTemporaryUnlocked 0 := by
  simp [pctlRevertTemporaryUnlock, serviceDispatch]

/-- A 1007 that gets through is left to pctl, and one that fails changes nothing. -/
theorem console_pctlRevertTemporaryUnlock : (after pctlRevertTemporaryUnlock w).console =
    if w.Reaches 1 .revertRestrictionTemporaryUnlocked 0 then w.sys.reverted w.console
    else w.console := by
  simp [pctlRevertTemporaryUnlock, serviceDispatch]

/-- 1007 stores nothing. -/
theorem stored_pctlRevertTemporaryUnlock :
    (after pctlRevertTemporaryUnlock w).console.stored = w.console.stored := by
  rw [console_pctlRevertTemporaryUnlock]
  split <;> rfl

/-- Requests after 1007. -/
theorem reaches_pctlRevertTemporaryUnlock (n : Nat) (command : Command) (k : Nat) :
    (after pctlRevertTemporaryUnlock w).Reaches n command k ↔
      w.Reaches (n + 1) command
        (k + if .revertRestrictionTemporaryUnlocked = command then 1 else 0) := by
  simp [pctlRevertTemporaryUnlock, serviceDispatch]

/-- The re-lock goes through and is confirmed: 1007 and 1006 get through on the next session, and
1007 ends the temporary unlock. -/
def World.Reverts (w : World) : Prop :=
  w.Reaches 1 .revertRestrictionTemporaryUnlocked 0 ∧
    w.Reaches 1 .isRestrictionTemporaryUnlocked 0 ∧
      w.sys.revertTemporaryUnlock w.console = false

instance : Decidable w.Reverts := inferInstanceAs (Decidable (_ ∧ _))

/-- The re-lock reports success exactly when it goes through and is confirmed. -/
theorem result_relockConfirmed : result relockConfirmed w = true ↔ w.Reverts := by
  unfold World.Reverts
  simp only [relockConfirmed, result_bind, result_ite, result_pure, rSucceeded,
    result_pctlRevertTemporaryUnlock]
  by_cases ended : w.Reaches 1 .revertRestrictionTemporaryUnlocked 0
  · by_cases answered : w.Reaches 1 .isRestrictionTemporaryUnlocked 0
    · simp [ended, answered, rc_pctlIsTemporarilyUnlocked, out_pctlIsTemporarilyUnlocked,
        reaches_pctlRevertTemporaryUnlock, console_pctlRevertTemporaryUnlock]
    · simp [ended, answered, rc_pctlIsTemporarilyUnlocked, reaches_pctlRevertTemporaryUnlock]
  · simp [ended]

/-- The re-lock leaves what its 1007 leaves. -/
theorem console_relockConfirmed : (after relockConfirmed w).console =
    if w.Reaches 1 .revertRestrictionTemporaryUnlocked 0 then w.sys.reverted w.console
    else w.console := by
  simp only [relockConfirmed, after_bind, after_ite, after_pure]
  split
  · rw [built_pctlIsTemporarilyUnlocked.console, console_pctlRevertTemporaryUnlock]
  · exact console_pctlRevertTemporaryUnlock w

/-- The re-lock stores nothing. -/
theorem stored_relockConfirmed :
    (after relockConfirmed w).console.stored = w.console.stored := by
  rw [console_relockConfirmed]
  split <;> rfl

/-- The PIN that `pctl_get_pin` hands back of a reply of 1208 that got through. -/
def handedPin (outsz : Nat) (reply : UInt32 × List UInt8) : List UInt8 × UInt32 :=
  let len := if reply.1.toNat ≥ outsz then UInt32.ofNat outsz - 1 else reply.1
  ((fillBuffer (List.replicate outsz 0) reply.2).set len.toNat 0, len)

/-- Reading the PIN succeeds exactly when 1208 gets through. -/
theorem rc_pctlGetPin (outsz : Nat) :
    (result (pctlGetPin outsz) w).rc = 0 ↔ w.Reaches 0 .getPinCode 0 := by
  simp only [pctlGetPin, result_bind, result_ite, result_pure, rFailed]
  by_cases reached : w.Reaches 0 .getPinCode 0
  · simp [(rc_serviceDispatchOut _ _ _ w).mpr reached, reached]
  · have failed := mt (rc_serviceDispatchOut .getPinCode (0, List.replicate outsz (0 : UInt8))
      (fun _ c => (c.pinCode.1, fillBuffer (List.replicate outsz 0) c.pinCode.2)) w).mp reached
    simp [failed, reached]

/-- The code that comes with the PIN is the verdict on 1208. -/
theorem rc_pctlGetPin_eq (outsz : Nat) :
    (result (pctlGetPin outsz) w).rc = w.verdict .getPinCode 0 := by
  unfold pctlGetPin
  simp only [result_bind, result_ite, result_pure]
  split <;> rfl

/-- A failed 1208 hands back no length. -/
theorem len_pctlGetPin_of_failed {outsz : Nat} (failed : (result (pctlGetPin outsz) w).rc ≠ 0) :
    (result (pctlGetPin outsz) w).len = 0 := by
  rw [rc_pctlGetPin_eq] at failed
  unfold pctlGetPin
  simp only [result_bind, result_ite, result_pure]
  exact congrArg PinReply.len (if_pos failed)

/-- A PIN that was read is handed back with its clamped length. -/
theorem result_pctlGetPin (outsz : Nat) (reached : w.Reaches 0 .getPinCode 0) :
    (result (pctlGetPin outsz) w).out = (handedPin outsz w.console.pinCode).1 ∧
      (result (pctlGetPin outsz) w).len = (handedPin outsz w.console.pinCode).2 := by
  simp [pctlGetPin, reached, handedPin]

/-- Filling a buffer keeps its length. -/
theorem length_fillBuffer (buffer bytes : List UInt8) :
    (fillBuffer buffer bytes).length = buffer.length := by
  unfold fillBuffer
  rw [List.length_append, List.length_take, List.length_drop]
  omega

/-- The front of a buffer that was zero: what the service wrote, then zeros. -/
theorem take_fillBuffer (size n : Nat) (bytes : List UInt8) (inside : n ≤ size) :
    (fillBuffer (List.replicate size 0) bytes).take n =
      bytes.take n ++ List.replicate (n - bytes.length) 0 := by
  unfold fillBuffer
  rw [List.take_append, List.take_take, List.length_replicate, Nat.min_eq_left inside,
    List.drop_replicate, List.take_replicate, List.length_take]
  congr 2
  omega

section HandedPin

variable (reply : UInt32 × List UInt8)

/-- The length that is handed back in a buffer whose size fits a word: as reported, but below
the size. -/
theorem length_handedPin_of {outsz : Nat} (positive : 1 ≤ outsz) (bound : outsz ≤ 2 ^ 32 - 1) :
    (handedPin outsz reply).2.toNat = min reply.1.toNat (outsz - 1) := by
  have size : (UInt32.ofNat outsz).toNat = outsz :=
    UInt32.toNat_ofNat_of_lt' (by simp only [UInt32.size]; omega)
  unfold handedPin
  by_cases long : reply.1.toNat ≥ outsz
  · have below : (1 : UInt32) ≤ UInt32.ofNat outsz := by
      rw [UInt32.le_iff_toNat_le, size]
      exact positive
    simp only [long, ↓reduceIte]
    rw [UInt32.toNat_sub_of_le _ _ below, size, UInt32.toNat_one]
    omega
  · simp only [long, ↓reduceIte]
    omega

/-- The length of the PIN that is handed back: as reported, but below the buffer's size. -/
theorem length_handedPin : (handedPin pinBufferSize reply).2.toNat = min reply.1.toNat 31 :=
  length_handedPin_of reply (by decide) (by decide)

/-- No PIN is handed back exactly when none is reported. -/
theorem length_handedPin_eq_zero : (handedPin pinBufferSize reply).2 = 0 ↔ reply.1 = 0 := by
  rw [← UInt32.toNat_inj, ← UInt32.toNat_inj, length_handedPin]
  simp only [UInt32.toNat_zero]
  omega

/-- The PIN that is handed back: what the service wrote, then zeros. -/
theorem take_handedPin : (handedPin pinBufferSize reply).1.take
    (handedPin pinBufferSize reply).2.toNat =
      reply.2.take (min reply.1.toNat 31) ++
        List.replicate (min reply.1.toNat 31 - reply.2.length) 0 := by
  rw [← take_fillBuffer pinBufferSize _ _ (by unfold pinBufferSize; omega), ← length_handedPin]
  exact List.take_set_of_le (Nat.le_refl _)

end HandedPin

/-- Requests after the PIN was read. -/
theorem reaches_pctlGetPin (outsz n : Nat) (command : Command) (k : Nat) :
    (after (pctlGetPin outsz) w).Reaches n command k ↔
      w.Reaches n command (k + if .getPinCode = command then 1 else 0) := by
  unfold pctlGetPin
  simp

/-- The bytes handed to 1201. -/
def Console.unlockBuffer (c : Console) : List UInt8 :=
  (handedPin pinBufferSize c.pinCode).1.take
    ((handedPin pinBufferSize c.pinCode).2.toNat + 1)

/-- Ending a buffer after `n` bytes. -/
theorem take_terminated (buffer : List UInt8) (n : Nat) (inside : n < buffer.length) :
    (buffer.set n 0).take (n + 1) = (buffer.set n 0).take n ++ [0] := by
  rw [List.take_add_one, List.getElem?_set_self inside]
  rfl

/-- The bytes handed to 1201 are the PIN that was read with its terminator. -/
theorem Console.unlockBuffer_eq (c : Console) : c.unlockBuffer =
    (handedPin pinBufferSize c.pinCode).1.take (handedPin pinBufferSize c.pinCode).2.toNat ++
      [0] := by
  refine take_terminated _ _ ?_
  have bound := length_handedPin c.pinCode
  rw [length_fillBuffer, List.length_replicate]
  unfold pinBufferSize
  change (handedPin pinBufferSize c.pinCode).2.toNat < 32
  omega

/-- A PIN that 1208 reports with its own length is handed to 1201 with its terminator. -/
theorem Console.unlockBuffer_of_prefix {c : Console} {digits : List UInt8}
    (count : c.pinCode.1.toNat = digits.length) (front : digits <+: c.pinCode.2)
    (fits : digits.length ≤ 31) : c.unlockBuffer = digits ++ [0] := by
  have room := front.length_le
  have whole : c.pinCode.2.take digits.length = digits := (List.prefix_iff_eq_take.mp front).symm
  rw [c.unlockBuffer_eq, take_handedPin, count, Nat.min_eq_left fits, whole,
    Nat.sub_eq_zero_of_le room, List.replicate_zero, List.append_nil]

/-- The unlock goes through: 1208 answers with a PIN, and 1201 gets through with it and
accepts it, both on the `n`-th coming session. -/
def World.Unlocks (w : World) (n : Nat) : Prop :=
  w.Reaches n .getPinCode 0 ∧ (handedPin pinBufferSize w.console.pinCode).2 ≠ 0 ∧
    w.Reaches n .unlockRestrictionTemporarily 0 ∧
    w.sys.checkPin w.console w.console.unlockBuffer = 0

instance (w : World) (n : Nat) : Decidable (w.Unlocks n) :=
  inferInstanceAs (Decidable (_ ∧ _))

/-- The PIN as the unlock reads it on its fresh session. -/
theorem pin_pctlUnlockRestrictionTemporarily :
    ((result (pctlGetPin pinBufferSize) (after pctlOpsReinit w)).rc = 0 ↔
      w.Reaches 1 .getPinCode 0) ∧
    (w.Reaches 1 .getPinCode 0 →
      (result (pctlGetPin pinBufferSize) (after pctlOpsReinit w)).len =
          (handedPin pinBufferSize w.console.pinCode).2 ∧
        (result (pctlGetPin pinBufferSize) (after pctlOpsReinit w)).out.take
          ((result (pctlGetPin pinBufferSize) (after pctlOpsReinit w)).len.toNat + 1) =
            w.console.unlockBuffer) := by
  have code := rc_pctlGetPin (after pctlOpsReinit w) pinBufferSize
  rw [reaches_pctlOpsReinit] at code
  refine ⟨code, fun reached => ?_⟩
  have read := result_pctlGetPin (after pctlOpsReinit w) pinBufferSize
    ((reaches_pctlOpsReinit w 0 .getPinCode 0).mpr reached)
  rw [read.1, read.2]
  exact ⟨rfl, rfl⟩

/-- The unlock succeeds exactly when it goes through on the fresh session. -/
theorem result_pctlUnlockRestrictionTemporarily :
    result pctlUnlockRestrictionTemporarily w = 0 ↔ w.Unlocks 1 := by
  obtain ⟨code, pin⟩ := pin_pctlUnlockRestrictionTemporarily w
  unfold pctlUnlockRestrictionTemporarily World.Unlocks
  simp only [result_bind, result_ite, result_pure]
  split
  · rename_i failed
    exact ⟨fun succeeded => absurd succeeded failed, fun unlocks => code.mpr unlocks.1⟩
  · rename_i read
    obtain ⟨length, buffer⟩ := pin (code.mp (not_not.mp read))
    split
    · rename_i none
      rw [length] at none
      exact ⟨fun found => absurd found (by decide), fun unlocks => absurd none unlocks.2.1⟩
    · rename_i some
      rw [result_serviceDispatchIn, buffer, reaches_pctlGetPin, reaches_pctlOpsReinit,
        (built_pctlGetPin pinBufferSize).console, (built_pctlGetPin pinBufferSize).sys]
      rw [length] at some
      simp [code.mp (not_not.mp read), some]

/-- A successful unlock pauses parental controls, and a failed one changes nothing. -/
theorem console_pctlUnlockRestrictionTemporarily :
    (after pctlUnlockRestrictionTemporarily w).console =
      if w.Unlocks 1 then w.sys.unlocked w.console else w.console := by
  obtain ⟨code, pin⟩ := pin_pctlUnlockRestrictionTemporarily w
  have same := (built_pctlGetPin pinBufferSize).console (after pctlOpsReinit w)
  rw [console_pctlOpsReinit] at same
  unfold pctlUnlockRestrictionTemporarily
  simp only [after_bind, after_ite, after_pure]
  split
  · rename_i failed
    rw [console_pctlLogf, if_neg fun unlocks : w.Unlocks 1 => failed (code.mpr unlocks.1)]
    exact same
  · rename_i read
    obtain ⟨length, buffer⟩ := pin (code.mp (not_not.mp read))
    split
    · rename_i none
      rw [length] at none
      rw [console_pctlLogf, if_neg fun unlocks : w.Unlocks 1 => unlocks.2.1 none]
      exact same
    · rename_i some
      rw [length] at some
      have unlocks : w.Unlocks 1 ↔ w.Reaches 1 .unlockRestrictionTemporarily 0 ∧
          w.sys.checkPin w.console w.console.unlockBuffer = 0 :=
        ⟨fun unlocks => unlocks.2.2, fun sent => ⟨code.mp (not_not.mp read), some, sent⟩⟩
      rw [console_pctlLogf]
      simp only [console_serviceDispatchIn, buffer, reaches_pctlGetPin, reaches_pctlOpsReinit,
        (built_pctlGetPin pinBufferSize).sys, same, unlocks, sys_pctlOpsReinit,
        reduceCtorEq, ↓reduceIte, Nat.add_zero]

/-- Requests after the unlock. -/
theorem reaches_pctlUnlockRestrictionTemporarily (n : Nat) (command : Command) (k : Nat)
    (other : command ≠ .getPinCode ∧ command ≠ .unlockRestrictionTemporarily) :
    (after pctlUnlockRestrictionTemporarily w).Reaches n command k ↔
      w.Reaches (n + 1) command k := by
  obtain ⟨code, unlock⟩ := other
  simp only [pctlUnlockRestrictionTemporarily, after_bind, after_ite, after_pure]
  split
  · simp [reaches_pctlGetPin, code.symm]
  · split <;> simp [reaches_pctlGetPin, code.symm, unlock.symm]

end PctlManager
