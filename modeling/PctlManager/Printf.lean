import Mathlib.Data.List.Basic

/-!
# Conversions of the C printf family

The conversions that the service layer, its log and its report use, as lists of characters:
`%u` and `%d` in decimal, `%X` in upper-case hexadecimal, a minimum width filled with blanks
or zeros, and `%-5s` filled on the right.
-/

namespace PctlManager

/-- A C string without its terminator. -/
abbrev Text := List Char

/-- Fill on the left up to a minimum width. -/
def padLeft (width : Nat) (fill : Char) (text : Text) : Text :=
  List.replicate (width - text.length) fill ++ text

/-- `%-<width>s` — fill with blanks on the right up to a minimum width. -/
def padRight (width : Nat) (text : Text) : Text :=
  text ++ List.replicate (width - text.length) ' '

/-- `%u` — decimal digits. -/
def decimal (n : Nat) : Text := Nat.toDigits 10 n

/-- `%<width>u` — decimal digits behind blanks. -/
def decimalWide (width n : Nat) : Text := padLeft width ' ' (decimal n)

/-- `%0<width>u` — decimal digits behind zeros. -/
def decimalZero (width n : Nat) : Text := padLeft width '0' (decimal n)

/-- `%0<width>d` — a signed number behind zeros. -/
def signedZero (width : Nat) : Int → Text
  | .ofNat n => decimalZero width n
  | .negSucc n => '-' :: decimalZero (width - 1) (n + 1)

/-- `%0<width>X` — upper-case hexadecimal digits behind zeros. -/
def hexZero (width n : Nat) : Text := padLeft width '0' ((Nat.toDigits 16 n).map Char.toUpper)

/-- `0x%08X` — a result code. -/
def hexResult (rc : UInt32) : Text := "0x".toList ++ hexZero 8 rc.toNat

/-- `%02X` — one byte. -/
def hexByte (byte : UInt8) : Text := hexZero 2 byte.toNat

end PctlManager
