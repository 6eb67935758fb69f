import PctlManager.Service

/-!
# The service layer: session, status and PIN

The wrappers of `pctl_ops.c` that do not touch the play timer: opening and closing the shared
session, the status snapshot, registering and handing back the PIN, and the temporary unlock
(1201), its end (1007) and the query that confirms it (1006).
-/

namespace PctlManager

/-- `PctlStatus` — a field's `Ok` flag is false when its query failed. -/
structure PctlStatus where
  /-- 1032 answered. -/
  safetyLevelOk : Bool
  /-- The safety level. -/
  safetyLevel : UInt32
  /-- 1206 answered. -/
  pinLengthOk : Bool
  /-- Number of PIN digits; zero when no PIN is registered. -/
  pinLength : UInt32
  /-- 1031 answered. -/
  restrictionEnabledOk : Bool
  /-- Restrictions are enabled. -/
  restrictionEnabled : Bool

/-- What `pctl_get_pin` hands back. -/
structure PinReply where
  /-- The result of 1208. -/
  rc : Result
  /-- The caller's buffer. -/
  out : List UInt8
  /-- Number of PIN digits in front of the terminator. -/
  len : UInt32

/-- `pctl_ops_init`. -/
def pctlOpsInit : PctlM Result := pctlInitialize

/-- `pctl_ops_exit`. -/
def pctlOpsExit : PctlM Unit := pctlExit

/-- `pctl_fw_play_timer_supported` — the commands exist in this shape from 21.0.0 on. -/
def pctlFwPlayTimerSupported (w : World) : Bool := w.hosversionAtLeast 21 0 0

/-- `pctl_ops_reinit` — one exit drops the only reference, and init reopens the session. -/
def pctlOpsReinit : PctlM Result := do
  pctlExit
  pctlInitialize

/-- `pctl_status_fetch`. -/
def pctlStatusFetch : PctlM PctlStatus := do
  let level ← serviceDispatchOut .getSafetyLevel 0 fun _ c => c.safetyLevel
  let pinLen ← serviceDispatchOut .getPinCodeLength 0 fun _ c => c.pinLength
  let enabled ← serviceDispatchOut .isRestrictionEnabled false fun _ c => c.restrictionEnabled
  pure {
    safetyLevelOk := rSucceeded level.rc
    safetyLevel := if rSucceeded level.rc then level.out else 0
    pinLengthOk := rSucceeded pinLen.rc
    pinLength := if rSucceeded pinLen.rc then pinLen.out else 0
    restrictionEnabledOk := rSucceeded enabled.rc
    restrictionEnabled := if rSucceeded enabled.rc then enabled.out else false }

/-- `pctl_set_pin` — our own session is dropped around the applet. -/
def pctlSetPin : PctlM Result := do
  pctlExit
  let rc ← pctlauthRegisterPasscode
  let _ ← pctlInitialize
  pure rc

/-- `pctl_delete_parental_controls`. -/
def pctlDeleteParentalControls : PctlM Result := do
  let rc ← serviceDispatch .deleteSettings fun sys c => (0, sys.deleteSettings c)
  pctlLogf ("1043 DeleteSettings rc=".toList ++ hexResult rc)
  pure rc

/-- `pctl_delete_pairing`. -/
def pctlDeletePairing : PctlM Result := do
  let rc ← serviceDispatch .deletePairing fun sys c => (0, sys.deletePairing c)
  pctlLogf ("1941 DeletePairing rc=".toList ++ hexResult rc)
  pure rc

/-- The buffer after the service wrote `bytes` to its front; what does not fit is dropped. -/
def fillBuffer (buffer bytes : List UInt8) : List UInt8 :=
  bytes.take buffer.length ++ buffer.drop bytes.length

/-- `pctl_get_pin` — 1208, with the reported length clamped below the buffer size and the
byte behind it cleared. -/
def pctlGetPin (outsz : Nat) : PctlM PinReply := do
  let cleared := List.replicate outsz (0 : UInt8)
  let reply ← serviceDispatchOut .getPinCode (0, cleared) fun _ c =>
    (c.pinCode.1, fillBuffer cleared c.pinCode.2)
  if rFailed reply.rc then pure ⟨reply.rc, reply.out.2, 0⟩
  else
    let len := if reply.out.1.toNat ≥ outsz then UInt32.ofNat outsz - 1 else reply.out.1
    pure ⟨reply.rc, reply.out.2.set len.toNat 0, len⟩

/-- `pctl_revert_temporary_unlock` — whether it ends the unlock is up to the console. -/
def pctlRevertTemporaryUnlock : PctlM Result := do
  let _ ← pctlOpsReinit
  let rc ← serviceDispatch .revertRestrictionTemporaryUnlocked fun sys c => (0, sys.reverted c)
  pctlLogf ("1007 RevertRestrictionTemporaryUnlocked rc=".toList ++ hexResult rc)
  pure rc

/-- `pctl_is_temporarily_unlocked` — the output means nothing when the query failed. -/
def pctlIsTemporarilyUnlocked : PctlM (Reply Bool) := do
  let reply ← serviceDispatchOut .isRestrictionTemporaryUnlocked false fun _ c =>
    c.temporarilyUnlocked
  if rFailed reply.rc then
    pctlLogf ("1006 IsRestrictionTemporaryUnlocked rc=".toList ++ hexResult reply.rc)
    pure reply
  else pure reply

/-- `sizeof(pin)` of the buffers that receive the PIN. -/
def pinBufferSize : Nat := 32

/-- `pctl_unlock_restriction_temporarily` — reads the PIN and hands it back with its
terminator; without a PIN, 1201 is not sent. -/
def pctlUnlockRestrictionTemporarily : PctlM Result := do
  let _ ← pctlOpsReinit
  let pin ← pctlGetPin pinBufferSize
  if rFailed pin.rc then
    pctlLogf ("1208 GetPinCode rc=".toList ++ hexResult pin.rc)
    pure pin.rc
  else if pin.len = 0 then
    pctlLogf "1201 skipped: no PIN registered".toList
    pure (makeResult moduleLibnx libnxErrorNotFound)
  else
    let buffer := pin.out.take (pin.len.toNat + 1)
    let rc ← serviceDispatchIn .unlockRestrictionTemporarily buffer fun sys c =>
      (sys.checkPin c buffer, sys.unlocked c)
    pctlLogf ("1201 UnlockRestrictionTemporarily rc=".toList ++ hexResult rc)
    pure rc

end PctlManager
