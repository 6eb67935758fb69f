import Mathlib.Logic.Basic

/-!
# In-band sentinels

A word type with one reserved word stores an optional word: the reserved word means none and
every other word means itself. The encoding forgets exactly one value, the reserved word
itself, so a round trip through it is the identity away from that value only.
-/

namespace Sentinel

variable {α : Type} (reserved : α)

/-- The stored word of an optional word. -/
def encode : Option α → α
  | none => reserved
  | some word => word

/-- The reserved word stands for none, and hides itself. -/
theorem encode_eq_reserved_iff (value : Option α) :
    encode reserved value = reserved ↔ value = none ∨ value = some reserved := by
  cases value <;> simp [encode]

variable [DecidableEq α]

/-- The optional word a stored word stands for. -/
def decode (word : α) : Option α := if word = reserved then none else some word

/-- The reserved word reads as none. -/
@[simp] theorem decode_reserved : decode reserved reserved = none := if_pos rfl

/-- Every other word reads as itself. -/
theorem decode_of_ne {word : α} (different : word ≠ reserved) :
    decode reserved word = some word := if_neg different

/-- A word survives being read and stored. -/
theorem encode_decode (word : α) : encode reserved (decode reserved word) = word := by
  unfold decode
  split
  · exact (‹word = reserved›).symm
  · rfl

/-- An optional word survives being stored and read exactly when it is not the reserved word. -/
theorem decode_encode_iff (value : Option α) :
    decode reserved (encode reserved value) = value ↔ value ≠ some reserved := by
  cases value with
  | none => simp [encode]
  | some word =>
    by_cases same : word = reserved
    · simp [encode, same]
    · simp [encode, decode_of_ne reserved same, same]

end Sentinel
