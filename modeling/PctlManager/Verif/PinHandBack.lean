import PctlManager.Verif.PinGate

/-!
# The PIN handed back

1208 writes into the caller's buffer and reports a length of its own. `pctl_get_pin` cuts the
length below the size of the buffer and ends the PIN there, whatever the reply; so the unlock
hands 1201 a front of its buffer that ends in the terminator, and sends nothing when there is
no PIN (`pin_handed_back`).
-/

namespace PctlManager

open Stateful

/-! ## `pctl_get_pin` -/

/-- What `pctl_get_pin` hands back in a buffer of `outsz` bytes is in bounds. -/
structure PinReply.InBounds (p : PinReply) (outsz : Nat) : Prop where
  /-- The buffer keeps its size. -/
  size : p.out.length = outsz
  /-- A PIN ends inside the buffer, with its terminator. -/
  terminated : p.rc = 0 → p.len.toNat < outsz ∧ p.out[p.len.toNat]? = some 0
  /-- A failure comes with no length. -/
  failed : p.rc ≠ 0 → p.len = 0

/-- The buffer has its size after every reply. -/
theorem size_pctlGetPin (outsz : Nat) (w : World) :
    (result (pctlGetPin outsz) w).out.length = outsz := by
  have filled : ∀ bytes : List UInt8,
      (fillBuffer (List.replicate outsz 0) bytes).length = outsz := by
    intro bytes
    rw [length_fillBuffer, List.length_replicate]
  have replied : (result (serviceDispatchOut .getPinCode ((0 : UInt32), List.replicate outsz 0)
      fun _ c => (c.pinCode.1, fillBuffer (List.replicate outsz 0) c.pinCode.2)) w).out.2.length =
        outsz := by
    rw [result_serviceDispatchOut]
    split
    · exact filled _
    · exact List.length_replicate
  unfold pctlGetPin
  simp only [result_bind, result_ite, result_pure]
  split
  · exact replied
  · exact List.length_set.trans replied

/-- Whatever 1208 replies, the PIN is handed back in bounds. -/
theorem inBounds_pctlGetPin {outsz : Nat} (positive : 1 ≤ outsz) (bound : outsz ≤ 2 ^ 32 - 1)
    (w : World) : (result (pctlGetPin outsz) w).InBounds outsz where
  size := size_pctlGetPin outsz w
  terminated succeeded := by
    have reached := (rc_pctlGetPin w outsz).mp succeeded
    obtain ⟨out, len⟩ := result_pctlGetPin w outsz reached
    have cut := length_handedPin_of w.console.pinCode positive bound
    have inside : (handedPin outsz w.console.pinCode).2.toNat < outsz := by omega
    rw [out, len]
    refine ⟨inside, List.getElem?_set_self ?_⟩
    rw [length_fillBuffer, List.length_replicate]
    exact inside
  failed := len_pctlGetPin_of_failed w

/-! ## The requests of the unlock -/

/-- What `pctl_get_pin` hands back to the unlock. -/
def World.handedBack (w : World) : PinReply :=
  result (pctlGetPin pinBufferSize) (after pctlOpsReinit w)

/-- The requests of the unlock up to 1208, latest first. -/
def World.pinRequests (w : World) : List Event :=
  [.dispatch .getPinCode [] w.handedBack.rc, .acquire (result pctlOpsReinit w), .release]

/-- The ways the unlock can go: its requests, latest first, and its result. -/
inductive World.UnlockGoes (w : World) : List Event → Result → Prop
  /-- 1208 fails. -/
  | unread (failed : w.handedBack.rc ≠ 0) : UnlockGoes w w.pinRequests w.handedBack.rc
  /-- There is no PIN. -/
  | blank (read : w.handedBack.rc = 0) (none : w.handedBack.len = 0) :
      UnlockGoes w w.pinRequests (makeResult moduleLibnx libnxErrorNotFound)
  /-- The PIN is handed to 1201. -/
  | sent (rc : Result) (read : w.handedBack.rc = 0) (some : w.handedBack.len ≠ 0) :
      UnlockGoes w (.dispatch .unlockRestrictionTemporarily
        (w.handedBack.out.take (w.handedBack.len.toNat + 1)) rc :: w.pinRequests) rc

/-- 1208 is one request. -/
theorem trace_pctlGetPin (outsz : Nat) (w : World) : (after (pctlGetPin outsz) w).trace =
    .dispatch .getPinCode [] (result (pctlGetPin outsz) w).rc :: w.trace := by
  rw [rc_pctlGetPin_eq]
  unfold pctlGetPin
  simp only [after_bind, after_ite, after_pure, ite_self]
  rfl

/-- The unlock goes one of these ways. -/
theorem unlock_goes (w : World) : ∃ asked,
    (after pctlUnlockRestrictionTemporarily w).trace = asked ++ w.trace ∧
      w.UnlockGoes asked (result pctlUnlockRestrictionTemporarily w) := by
  have requests : (after (pctlGetPin pinBufferSize) (after pctlOpsReinit w)).trace =
      w.pinRequests ++ w.trace := trace_pctlGetPin pinBufferSize (after pctlOpsReinit w)
  have read : result (pctlGetPin pinBufferSize) (after pctlOpsReinit w) = w.handedBack := rfl
  unfold pctlUnlockRestrictionTemporarily
  simp only [result_bind, result_ite, result_pure, after_bind, after_ite, after_pure, read]
  by_cases failed : rFailed w.handedBack.rc
  · rw [if_pos failed, if_pos failed]
    exact ⟨_, requests, .unread failed⟩
  · rw [if_neg failed, if_neg failed]
    by_cases none : w.handedBack.len = 0
    · rw [if_pos none, if_pos none]
      exact ⟨_, requests, .blank (not_not.mp failed) none⟩
    · rw [if_neg none, if_neg none]
      exact ⟨_ :: w.pinRequests, congrArg _ requests, .sent _ (not_not.mp failed) none⟩

/-! ## What 1201 is handed -/

/-- The requests of the unlock hand the PIN back as 1201 needs it. -/
structure World.HandsBack (w : World) (asked : List Event) : Prop where
  /-- 1208 is asked for, and then 1201 exactly if 1208 returned a length, with nothing else. -/
  goes : w.UnlockGoes asked (result pctlUnlockRestrictionTemporarily w)
  /-- 1201 is sent only after 1208 returned a length, and with the front of the buffer that
  ends in the terminator behind the PIN. -/
  terminated : ∀ input rc, .dispatch .unlockRestrictionTemporarily input rc ∈ asked →
    .dispatch .getPinCode [] 0 ∈ asked ∧ w.console.pinCode.1 ≠ 0 ∧ w.handedBack.len ≠ 0 ∧
      w.handedBack.out.length = pinBufferSize ∧ input <+: w.handedBack.out ∧
      input.length = w.handedBack.len.toNat + 1 ∧ input.length ≤ pinBufferSize ∧
      input.getLast? = some 0
  /-- If 1208 gets through, a PIN that it returns with its own length is sent, followed by a
  single zero. -/
  exact : ∀ digits, w.console.RepliesPin digits → 4 ≤ digits.length ∧ digits.length ≤ 8 →
    w.Reaches 1 .getPinCode 0 →
      (∃ rc, .dispatch .unlockRestrictionTemporarily (digits ++ [0]) rc ∈ asked) ∧
      ∀ input rc, .dispatch .unlockRestrictionTemporarily input rc ∈ asked →
        input = digits ++ [0]
  /-- A documented sysmodule accepts what is sent for the registered PIN. -/
  accepted : w.sys.Documented → ∀ digits, w.console.Registered digits →
    ∀ input rc, .dispatch .unlockRestrictionTemporarily input rc ∈ asked →
      w.sys.checkPin w.console input = 0
  /-- Without a PIN, 1201 is not sent, and the unlock fails. -/
  without : w.console.pinCode.1 = 0 →
    (∀ input rc, .dispatch .unlockRestrictionTemporarily input rc ∉ asked) ∧
      rFailed (result pctlUnlockRestrictionTemporarily w)

/-- What is handed back to the unlock is in bounds. -/
theorem inBounds_handedBack (w : World) : w.handedBack.InBounds pinBufferSize :=
  inBounds_pctlGetPin (by decide) (by decide) _

/-- The PIN that the unlock read, with its terminator. -/
theorem World.take_handedBack {w : World} (read : w.handedBack.rc = 0) :
    w.handedBack.out.take (w.handedBack.len.toNat + 1) = w.console.unlockBuffer := by
  obtain ⟨code, pin⟩ := pin_pctlUnlockRestrictionTemporarily w
  exact (pin (code.mp read)).2

/-- The unlock has a length exactly when 1208 reported one. -/
theorem World.len_handedBack_eq_zero {w : World} (read : w.handedBack.rc = 0) :
    w.handedBack.len = 0 ↔ w.console.pinCode.1 = 0 := by
  obtain ⟨code, pin⟩ := pin_pctlUnlockRestrictionTemporarily w
  have length : w.handedBack.len = (handedPin pinBufferSize w.console.pinCode).2 :=
    (pin (code.mp read)).1
  rw [length, length_handedPin_eq_zero]

/-- 1208 is among the requests of the unlock with the code that came with the PIN. -/
theorem World.getPinCode_mem_pinRequests {w : World} {rc : Result} :
    .dispatch .getPinCode [] rc ∈ w.pinRequests ↔ rc = w.handedBack.rc := by
  unfold World.pinRequests
  simp

/-- 1201 is not among the requests up to 1208. -/
theorem World.unlock_not_mem_pinRequests {w : World} (input : List UInt8) (rc : Result) :
    .dispatch .unlockRestrictionTemporarily input rc ∉ w.pinRequests := by
  unfold World.pinRequests
  simp

/-- The only 1201 that is sent: the PIN was read, has a length and is handed on. -/
theorem World.UnlockGoes.sent_iff {w : World} {asked : List Event} {returned : Result}
    (goes : w.UnlockGoes asked returned) (input : List UInt8) :
    (∃ rc, .dispatch .unlockRestrictionTemporarily input rc ∈ asked) ↔
      w.handedBack.rc = 0 ∧ w.handedBack.len ≠ 0 ∧
        input = w.handedBack.out.take (w.handedBack.len.toNat + 1) := by
  cases goes with
  | unread failed =>
    constructor
    · rintro ⟨rc, sent⟩
      exact absurd sent (unlock_not_mem_pinRequests input rc)
    · rintro ⟨read, -, -⟩
      exact absurd read failed
  | blank read none =>
    constructor
    · rintro ⟨rc, sent⟩
      exact absurd sent (unlock_not_mem_pinRequests input rc)
    · rintro ⟨-, some, -⟩
      exact absurd none some
  | sent rc read some =>
    constructor
    · rintro ⟨rc', sent⟩
      rcases List.mem_cons.mp sent with same | before
      · injection same with _ front _
        exact ⟨read, some, front⟩
      · exact absurd before (unlock_not_mem_pinRequests input rc')
    · rintro ⟨-, -, rfl⟩
      exact ⟨returned, List.mem_cons_self⟩

/-- Every way the unlock can go, 1208 is among its requests with its own code. -/
theorem World.UnlockGoes.getPinCode_mem {w : World} {asked : List Event} {returned rc : Result}
    (goes : w.UnlockGoes asked returned) :
    .dispatch .getPinCode [] rc ∈ asked ↔ rc = w.handedBack.rc := by
  cases goes with
  | unread failed => exact getPinCode_mem_pinRequests
  | blank read none => exact getPinCode_mem_pinRequests
  | sent rc read some =>
    rw [List.mem_cons, getPinCode_mem_pinRequests]
    simp

/-- Every way it can go, the unlock hands the PIN back as 1201 needs it. -/
theorem World.UnlockGoes.handsBack {w : World} {asked : List Event}
    (goes : w.UnlockGoes asked (result pctlUnlockRestrictionTemporarily w)) :
    w.HandsBack asked where
  goes := goes
  terminated input rc sent := by
    obtain ⟨read, some, rfl⟩ := (goes.sent_iff input).mp ⟨rc, sent⟩
    have bounds := inBounds_handedBack w
    obtain ⟨inside, ends⟩ := bounds.terminated read
    have length : (w.handedBack.out.take (w.handedBack.len.toNat + 1)).length =
        w.handedBack.len.toNat + 1 := by
      rw [List.length_take, bounds.size]
      omega
    refine ⟨goes.getPinCode_mem.mpr read.symm, mt (len_handedBack_eq_zero read).mpr some, some,
      bounds.size, List.take_prefix _ _, length, by omega, ?_⟩
    rw [List.getLast?_eq_getElem?, length, Nat.add_sub_cancel, List.getElem?_take_of_succ, ends]
  exact digits replies bounds reached := by
    have code : w.handedBack.rc = 0 := (pin_pctlUnlockRestrictionTemporarily w).1.mpr reached
    obtain ⟨count, front⟩ := replies
    have pin : w.handedBack.out.take (w.handedBack.len.toNat + 1) = digits ++ [0] := by
      rw [take_handedBack code, w.console.unlockBuffer_of_prefix count front (by omega)]
    have some : w.handedBack.len ≠ 0 := by
      intro none
      have zero := (len_handedBack_eq_zero code).mp none
      rw [zero, UInt32.toNat_zero] at count
      omega
    refine ⟨(goes.sent_iff _).mpr ⟨code, some, pin.symm⟩, fun input rc sent => ?_⟩
    obtain ⟨-, -, handed⟩ := (goes.sent_iff input).mp ⟨rc, sent⟩
    rw [handed, pin]
  accepted documented digits registered input rc sent := by
    obtain ⟨read, -, rfl⟩ := (goes.sent_iff input).mp ⟨rc, sent⟩
    have pin := (take_handedBack read).trans registered.unlockBuffer
    exact (documented.checkPin _ _ registered _).mpr pin
  without none := by
    have unsent : ∀ input rc, .dispatch .unlockRestrictionTemporarily input rc ∉ asked := by
      intro input rc sent
      obtain ⟨read, some, -⟩ := (goes.sent_iff input).mp ⟨rc, sent⟩
      exact some ((len_handedBack_eq_zero read).mpr none)
    refine ⟨unsent, ?_⟩
    generalize result pctlUnlockRestrictionTemporarily w = returned at goes
    cases goes with
    | unread failed => exact failed
    | blank read none => decide
    | sent rc read some => exact absurd ((len_handedBack_eq_zero read).mpr none) some

/-- For every reply of 1208 and every size of the buffer, the PIN is handed back in bounds with
its terminator; and the unlock asks for it and sends it to 1201 in that form, or, without a PIN,
sends no 1201. -/
theorem pin_handed_back (w : World) (outsz : Nat) (positive : 1 ≤ outsz)
    (bound : outsz ≤ 2 ^ 32 - 1) :
    (result (pctlGetPin outsz) w).InBounds outsz ∧
    ∃ asked, (after pctlUnlockRestrictionTemporarily w).trace = asked ++ w.trace ∧
      w.HandsBack asked := by
  obtain ⟨asked, trace, goes⟩ := unlock_goes w
  exact ⟨inBounds_pctlGetPin positive bound w, asked, trace, goes.handsBack⟩

/-- On the console with the PIN 1234, a buffer of three bytes gets its front with a terminator,
and the unlock sends the whole PIN with its terminator. -/
theorem pin_handed_back_sample :
    let w := World.launched (.sample .zero false) .none
    (result (pctlGetPin 3) w).InBounds 3 ∧
      (result (pctlGetPin 3) w).out = [0x31, 0x32, 0] ∧
      ∃ rc, .dispatch .unlockRestrictionTemporarily [0x31, 0x32, 0x33, 0x34, 0] rc ∈
        (after pctlUnlockRestrictionTemporarily w).trace := by
  intro w
  obtain ⟨bounds, asked, trace, hands⟩ := pin_handed_back w 3 (by decide) (by decide)
  have replies : w.console.RepliesPin [0x31, 0x32, 0x33, 0x34] := by decide
  obtain ⟨rc, sent⟩ := (hands.exact [0x31, 0x32, 0x33, 0x34] replies (by decide) (by decide)).1
  refine ⟨bounds, rfl, rc, ?_⟩
  rw [trace]
  exact List.mem_append_left _ sent

end PctlManager
