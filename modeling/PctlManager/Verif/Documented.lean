import PctlManager.Verif.Operations

/-!
# The console as its documentation describes it

The results about every world leave the sysmodule's decisions open. `Documented` pins them
down as the reverse-engineering notes of the repository do, `Registered` says what 1206 and
1208 answer about a registered PIN, and `NothingFails` that every request to come goes
through. `World.launched` is a world with all three, to evaluate the model on.
-/

namespace PctlManager

open Stateful

/-- The console has a PIN of these digits. -/
structure Console.Registered (c : Console) (digits : List UInt8) : Prop where
  /-- ASCII digits. -/
  ascii : ∀ digit ∈ digits, 0x30 ≤ digit ∧ digit ≤ 0x39
  /-- Four to eight of them. -/
  length : 4 ≤ digits.length ∧ digits.length ≤ 8
  /-- 1206 answers with their number. -/
  pinLength : c.pinLength = UInt32.ofNat digits.length
  /-- 1208 reports their number as well. -/
  pinCodeLength : c.pinCode.1 = UInt32.ofNat digits.length
  /-- 1208 fills the buffer with the digits, and pads it with zeros. -/
  pinCode : ∃ padding, c.pinCode.2 = digits ++ List.replicate padding 0

/-- The sysmodule decides as documented. -/
structure Sysmodule.Documented (sys : Sysmodule) : Prop where
  /-- 1453: the stored flag, unless a temporary unlock is in force. -/
  isPlayTimerEnabled : ∀ s unlocked, sys.isPlayTimerEnabled s unlocked =
    (s.enabled != 0 && !unlocked)
  /-- 195101 keeps the flag only if the network clock yields the time. -/
  rearm : ∀ c s, sys.rearm c s =
    if rSucceeded (c.clock .networkSystemClock).1 then s.enabled else 0
  /-- 1201 accepts exactly the PIN followed by its terminator. -/
  checkPin : ∀ c digits, c.Registered digits → ∀ buffer,
    sys.checkPin c buffer = 0 ↔ buffer = digits ++ [0]
  /-- 1007 ends the temporary unlock. -/
  revertTemporaryUnlock : ∀ c, sys.revertTemporaryUnlock c = false

/-- No request to come fails. -/
structure World.NothingFails (w : World) : Prop where
  /-- The session is open, and so it is after every reopening. -/
  opens : ∀ n, w.openAfter n = true
  /-- Every request goes through. -/
  sends : ∀ command k, rSucceeded (w.upcoming command k)

/-- Where nothing fails, every request reaches the sysmodule. -/
theorem World.NothingFails.reaches {w : World} (fine : w.NothingFails) (n : Nat)
    (command : Command) (k : Nat) : w.Reaches n command k :=
  ⟨fine.opens n, fine.sends command k⟩

/-- The number of digits fits the word that reports it. -/
theorem Console.Registered.count {c : Console} {digits : List UInt8}
    (registered : c.Registered digits) :
    (UInt32.ofNat digits.length).toNat = digits.length := by
  have bound := registered.length.2
  exact UInt32.toNat_ofNat_of_lt' (by simp only [UInt32.size]; omega)

/-- A registered PIN has a length that is not zero. -/
theorem Console.Registered.pinLength_ne_zero {c : Console} {digits : List UInt8}
    (registered : c.Registered digits) : c.pinLength ≠ 0 := by
  intro zero
  have bound := registered.length.1
  have empty : digits.length = 0 := by
    rw [← registered.count, ← registered.pinLength, zero]
    rfl
  omega

/-- `pctl_get_pin` hands a registered PIN back with its own length. -/
theorem Console.Registered.handedLength {c : Console} {digits : List UInt8}
    (registered : c.Registered digits) :
    (handedPin pinBufferSize c.pinCode).2.toNat = digits.length := by
  have bound := registered.length.2
  rw [length_handedPin, registered.pinCodeLength, registered.count]
  exact Nat.min_eq_left (by omega)

/-- The unlock hands a registered PIN back with its terminator. -/
theorem Console.Registered.unlockBuffer {c : Console} {digits : List UInt8}
    (registered : c.Registered digits) : c.unlockBuffer = digits ++ [0] := by
  have count : c.pinCode.1.toNat = digits.length := by
    rw [registered.pinCodeLength, registered.count]
  have bound := registered.length.2
  obtain ⟨padding, code⟩ := registered.pinCode
  exact c.unlockBuffer_of_prefix count (code ▸ List.prefix_append _ _) (by omega)

/-- On a documented console with a PIN, where nothing fails, the unlock goes through. -/
theorem World.NothingFails.unlocks {w : World} {digits : List UInt8} (fine : w.NothingFails)
    (documented : w.sys.Documented) (registered : w.console.Registered digits) (n : Nat) :
    w.Unlocks n := by
  refine ⟨fine.reaches n _ 0, ?_, fine.reaches n _ 0, ?_⟩
  · intro zero
    have handed := registered.handedLength
    rw [zero] at handed
    have bound := registered.length.1
    exact absurd handed (by simp; omega)
  · exact (documented.checkPin _ _ registered _).mpr registered.unlockBuffer

/-! ## A console to evaluate on -/

/-- A sysmodule that decides as documented. -/
def Sysmodule.documented : Sysmodule where
  isPlayTimerEnabled s unlocked := s.enabled != 0 && !unlocked
  rearm c s := if rSucceeded (c.clock .networkSystemClock).1 then s.enabled else 0
  checkPin c buffer :=
    if c.pinLength = 0 then makeResult 142 132
    else if buffer = c.pinCode.2.take c.pinCode.1.toNat ++ [0] then 0
    else makeResult 142 120
  revertTemporaryUnlock _ := false
  timerAnswers c := c.toTimerAnswers
  bedtimeAlarm _ := .zero
  deleteSettings c := { c with pinLength := 0, pinCode := (0, []), stored := .zero }
  deletePairing c := c

/-- The settings with a limit of these minutes on every day. -/
def PtSettings.everyDay (minutes : UInt16) : PtSettings :=
  { PtSettings.zero with
    daily := { PtDaySetting.zero with limitEnabled := 1, limitMinutes := minutes } }

/-- A console with the PIN 1234 and a valid network clock. -/
def Console.sample (stored : PtSettings) (temporarilyUnlocked : Bool) : Console where
  safetyLevel := 0
  pinLength := 4
  pinCode := (4, [0x31, 0x32, 0x33, 0x34])
  restrictionEnabled := true
  temporarilyUnlocked := temporarilyUnlocked
  stored := stored
  restrictedByPlayTimer := false
  remainingTime := 0
  playTimerAlarmDisabled := false
  spentTime := 0
  remainingTimeDisplayInfo := []
  clock _ := (0, 0)

/-- Nothing fails. -/
def Faults.none : Faults where
  acquire := Stream'.const 0
  dispatch _ := Stream'.const 0
  passcode := Stream'.const (0, id)
  fopen := Stream'.const true

/-- The first request of each of these commands fails, and nothing else. -/
def Faults.failing (commands : List Command) : Faults :=
  { Faults.none with
    dispatch := fun command =>
      Stream'.cons (if command ∈ commands then invalidHandle else 0) (Stream'.const 0) }

/-- The world after the tool's launch on the console, with firmware 22.5.0. -/
def World.launched (console : Console) (faults : Faults) : World where
  hosversion := makeHosversion 22 5 0
  guard := ⟨1, some 0, 1, by simp, by simp⟩
  console := console
  sys := .documented
  faults := faults
  trace := []
  log := []

/-- The sysmodule decides as documented. -/
theorem Sysmodule.documented_documented : Sysmodule.documented.Documented where
  isPlayTimerEnabled _ _ := rfl
  rearm _ _ := rfl
  checkPin c digits registered buffer := by
    obtain ⟨padding, code⟩ := registered.pinCode
    have front : c.pinCode.2.take c.pinCode.1.toNat = digits := by
      rw [code, registered.pinCodeLength, registered.count, List.take_left]
    simp only [Sysmodule.documented, registered.pinLength_ne_zero, ↓reduceIte, front]
    split
    · rename_i same
      simp [same]
    · rename_i different
      simp [different, show makeResult 142 120 ≠ 0 by decide]
  revertTemporaryUnlock _ := rfl

/-- The sample console has the PIN 1234. -/
theorem Console.registered_sample (stored : PtSettings) (unlocked : Bool) :
    (Console.sample stored unlocked).Registered [0x31, 0x32, 0x33, 0x34] where
  ascii := by simp
  length := by decide
  pinLength := rfl
  pinCodeLength := rfl
  pinCode := ⟨0, rfl⟩

/-- Without failures, nothing fails on the launched console. -/
theorem World.nothingFails_launched (console : Console) :
    (World.launched console .none).NothingFails where
  opens
    | 0 => rfl
    | _ + 1 => rfl
  sends _ _ := rfl

end PctlManager
