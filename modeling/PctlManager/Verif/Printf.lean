import PctlManager.Printf
import PctlManager.Logic.Format
import Mathlib.Algebra.Ring.Nat

/-!
# What printed texts are like

A text `Fits` a number of characters if it has no more, and if each of them is printable or ends
a line. There is one rule for each conversion, so the bound of a line follows
the way it is put together. And every conversion of a number tells its numbers apart: in a fixed
width, or until the digits end.
-/

namespace PctlManager

/-- A printable character of one byte, or the end of a line. -/
def plainChar (c : Char) : Bool := c == '\n' || decide (0x20 ≤ c.toNat ∧ c.toNat < 0x7F)

/-- The text has at most `n` characters, and all of them are plain. -/
structure Fits (n : Nat) (text : Text) : Prop where
  /-- There are at most `n` characters. -/
  short : text.length ≤ n
  /-- Every character is plain. -/
  plain : ∀ c ∈ text, plainChar c = true

/-! ## Digits -/

/-- Every digit that is printed is one of the base. -/
theorem digit_of_mem_toDigits {base : Nat} (proper : 1 < base) (n : Nat) :
    ∀ c ∈ Nat.toDigits base n, ∃ d, d < base ∧ c = Nat.digitChar d := by
  induction n using Nat.strongRecOn with
  | ind n ih =>
    intro c member
    rw [Nat.toDigits_eq_if proper] at member
    split at member
    · rename_i small
      exact ⟨n, small, List.mem_singleton.mp member⟩
    · rename_i large
      have positive : 0 < n := by omega
      have smaller : n / base < n := Nat.div_lt_self positive proper
      rcases List.mem_append.mp member with front | last
      · exact ih _ smaller c front
      · exact ⟨n % base, Nat.mod_lt _ (by omega), List.mem_singleton.mp last⟩

/-- A digit up to fifteen is plain, in lower and in upper case. -/
theorem plainChar_digitChar : ∀ d, d < 16 →
    plainChar (Nat.digitChar d) = true ∧ plainChar (Nat.digitChar d).toUpper = true := by
  decide

namespace Fits

variable {n k : Nat} {a b : Text}

/-- A bound may be raised. -/
theorem mono (fits : Fits n a) (bound : n ≤ k) : Fits k a :=
  ⟨Nat.le_trans fits.short bound, fits.plain⟩

/-- A string literal. -/
theorem literal {s : String} (chars : Text) (same : s = String.ofList chars)
    (checked : chars.all plainChar = true) : Fits chars.length s.toList := by
  rw [same, String.toList_ofList]
  exact ⟨Nat.le_refl _, List.all_eq_true.mp checked⟩

/-- Two texts in a row take the room of both. -/
theorem append (front : Fits n a) (rest : Fits k b) : Fits (n + k) (a ++ b) := by
  constructor
  · rw [List.length_append]
    exact Nat.add_le_add front.short rest.short
  · intro c member
    rcases List.mem_append.mp member with left | right
    · exact front.plain c left
    · exact rest.plain c right

/-- A choice of two texts takes the room of the longer one. -/
theorem ite {c : Prop} [Decidable c] (left : Fits n a) (right : Fits k b) :
    Fits (max n k) (if c then a else b) := by
  split
  · exact left.mono (Nat.le_max_left n k)
  · exact right.mono (Nat.le_max_right n k)

/-- Filling on the left makes room for the width at most. -/
theorem padLeft {width : Nat} {fill : Char} (filled : plainChar fill = true) (fits : Fits n a) :
    Fits (max width n) (padLeft width fill a) := by
  constructor
  · have short := fits.short
    rw [PctlManager.padLeft, List.length_append, List.length_replicate]
    omega
  · intro c member
    rcases List.mem_append.mp member with left | right
    · rw [List.eq_of_mem_replicate left]
      exact filled
    · exact fits.plain c right

/-- Filling on the right makes room for the width at most. -/
theorem padRight {width : Nat} (fits : Fits n a) : Fits (max width n) (padRight width a) := by
  constructor
  · have short := fits.short
    rw [PctlManager.padRight, List.length_append, List.length_replicate]
    omega
  · intro c member
    rcases List.mem_append.mp member with left | right
    · exact fits.plain c left
    · rw [List.eq_of_mem_replicate right]
      rfl

/-- A number below a power of ten. -/
theorem decimal {m : Nat} (digits : 0 < k) (bound : m < 10 ^ k) : Fits k (decimal m) := by
  constructor
  · exact (Nat.length_toDigits_le_iff (by omega) digits).mpr bound
  · intro c member
    obtain ⟨d, small, rfl⟩ := digit_of_mem_toDigits (by omega) m c member
    exact (plainChar_digitChar d (by omega)).1

/-- A number below a power of ten, behind blanks. -/
theorem decimalWide {m width : Nat} (digits : 0 < k) (bound : m < 10 ^ k) :
    Fits (max width k) (decimalWide width m) := (Fits.decimal digits bound).padLeft rfl

/-- A number below a power of ten, behind zeros. -/
theorem decimalZero {m width : Nat} (digits : 0 < k) (bound : m < 10 ^ k) :
    Fits (max width k) (decimalZero width m) := (Fits.decimal digits bound).padLeft rfl

/-- A signed number of a bounded amount, behind zeros. -/
theorem signedZero {i : Int} {width : Nat} (digits : 0 < k) (bound : i.natAbs < 10 ^ k) :
    Fits (1 + max width k) (signedZero width i) := by
  cases i with
  | ofNat m => exact (Fits.decimalZero digits bound).mono (by omega)
  | negSucc m =>
    have number : Fits (max (width - 1) k) (PctlManager.decimalZero (width - 1) (m + 1)) :=
      Fits.decimalZero digits bound
    have sign : Fits 1 ['-'] := ⟨Nat.le_refl 1, List.forall_mem_singleton.mpr (by decide)⟩
    exact (sign.append number).mono (by omega)

/-- A number below a power of sixteen, in hexadecimal behind zeros. -/
theorem hexZero {m width : Nat} (digits : 0 < k) (bound : m < 16 ^ k) :
    Fits (max width k) (hexZero width m) := by
  refine Fits.padLeft rfl ⟨?_, ?_⟩
  · rw [List.length_map]
    exact (Nat.length_toDigits_le_iff (by omega) digits).mpr bound
  · intro c member
    obtain ⟨lower, digit, rfl⟩ := List.mem_map.mp member
    obtain ⟨d, small, rfl⟩ := digit_of_mem_toDigits (by omega) m lower digit
    exact (plainChar_digitChar d small).2

/-- A result code. -/
theorem hexResult (rc : UInt32) : Fits 10 (hexResult rc) := by
  have front : Fits 2 "0x".toList := Fits.literal ['0', 'x'] rfl (by decide)
  have code : Fits (max 8 8) (PctlManager.hexZero 8 rc.toNat) :=
    Fits.hexZero (by decide) (Nat.lt_of_lt_of_le rc.toNat_lt (by decide))
  exact front.append code

/-- One byte in hexadecimal. -/
theorem hexByte (byte : UInt8) : Fits 2 (hexByte byte) := by
  have digits : Fits (max 2 2) (PctlManager.hexZero 2 byte.toNat) :=
    Fits.hexZero (by decide) (Nat.lt_of_lt_of_le byte.toNat_lt (by decide))
  exact digits

/-- One byte in decimal. -/
theorem byte (byte : UInt8) : Fits 3 (PctlManager.decimal byte.toNat) :=
  Fits.decimal (by decide) (Nat.lt_of_lt_of_le byte.toNat_lt (by decide))

/-- A word of 32 bits in decimal. -/
theorem word (word : UInt32) : Fits 10 (PctlManager.decimal word.toNat) :=
  Fits.decimal (by decide) (Nat.lt_of_lt_of_le word.toNat_lt (by decide))

end Fits

/-! ## Numbers that can be told apart -/

section Numbers

open Format

/-- Every digit that is printed can be read. -/
theorem digit_digitChar : ∀ d, d < 16 → digit (Nat.digitChar d).toUpper = d ∧
    (d < 10 → digit (Nat.digitChar d) = d ∧ (Nat.digitChar d).isDigit = true) := by
  decide

/-- A decimal number can be read back. -/
theorem number_decimal (n : Nat) : number 10 (decimal n) = n := by
  have shown : ∀ d, d < 10 → digit (id (Nat.digitChar d)) = d :=
    fun d small => ((digit_digitChar d (by omega)).2 small).1
  have read := number_toDigits (by decide) shown n
  rw [List.map_id] at read
  exact read

/-- Zeros in front do no harm. -/
theorem number_decimalZero (width n : Nat) : number 10 (decimalZero width n) = n :=
  (number_zeros 10 _ _).trans (number_decimal n)

/-- A hexadecimal number can be read back. -/
theorem number_hexZero (width n : Nat) : number 16 (hexZero width n) = n :=
  (number_zeros 16 _ _).trans
    (number_toDigits (by decide) (fun d small => (digit_digitChar d small).1) n)

/-- A decimal number has digits only. -/
theorem isDigit_of_mem_decimal (n : Nat) : ∀ c ∈ decimal n, c.isDigit = true := by
  intro c member
  obtain ⟨d, small, rfl⟩ := digit_of_mem_toDigits (by decide) n c member
  exact ((digit_digitChar d (by omega)).2 small).2

/-- Numbers filled with zeros are told apart where the digits end. -/
theorem tells_decimalZero (width : Nat) :
    Tells (leaves (Char.isDigit · = true)) (decimalZero width) := by
  refine .of_class (fun n c member => ?_)
    (Function.LeftInverse.injective (number_decimalZero width))
  obtain filled | digits := List.mem_append.mp member
  · rw [List.eq_of_mem_replicate filled]
    rfl
  · exact isDigit_of_mem_decimal n c digits

/-- Filling on the left reaches the width. -/
theorem length_padLeft {width : Nat} {fill : Char} {text : Text} (fits : text.length ≤ width) :
    (padLeft width fill text).length = width := by
  rw [padLeft, List.length_append, List.length_replicate]
  omega

/-- A hexadecimal number that fits its width takes exactly that. -/
theorem length_hexZero {width n : Nat} (digits : 0 < width) (bound : n < 16 ^ width) :
    (hexZero width n).length = width := by
  refine length_padLeft ?_
  rw [List.length_map]
  exact (Nat.length_toDigits_le_iff (by decide) digits).mpr bound

/-- Bytes take two characters. -/
theorem length_hexByte (byte : UInt8) : (hexByte byte).length = 2 :=
  length_hexZero (by decide) (Nat.lt_of_lt_of_le byte.toNat_lt (by decide))

/-- Bytes are told apart. -/
theorem tells_hexByte : Tells anything hexByte := by
  refine .of_width length_hexByte fun a b same => ?_
  have numbers : a.toNat = b.toNat :=
    Function.LeftInverse.injective (number_hexZero 2) same
  exact UInt8.toNat_inj.mp numbers

/-- Result codes are told apart. -/
theorem tells_hexResult : Tells anything hexResult := by
  have wide (rc : UInt32) : (hexZero 8 rc.toNat).length = 8 :=
    length_hexZero (by decide) (Nat.lt_of_lt_of_le rc.toNat_lt (by decide))
  refine (Tells.of_width wide fun a b same => ?_).behind "0x".toList
  have numbers : a.toNat = b.toNat :=
    Function.LeftInverse.injective (number_hexZero 8) same
  exact UInt32.toNat_inj.mp numbers

end Numbers

end PctlManager
