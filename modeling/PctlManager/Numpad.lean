import PctlManager.Service

/-!
# The number pad

The prompts of `numpad.cpp`. A prompt sets up the software keyboard and reads what was typed;
what the user makes of the keyboard that is shown is a parameter. A prompt that asks again until
the input is valid takes the answers to come as a list, and may still be waiting at its end.
-/

namespace PctlManager

/-- What `numpad.cpp` sets up before it shows the keyboard, always a number pad. -/
structure SwkbdConfig where
  /-- `swkbdConfigMakePresetPassword` instead of the default preset. -/
  password : Bool
  /-- `swkbdConfigSetStringLenMin`. -/
  stringLenMin : UInt32
  /-- `swkbdConfigSetStringLenMax`. -/
  stringLenMax : UInt32
  /-- `swkbdConfigSetHeaderText`. -/
  headerText : Text
  /-- `swkbdConfigSetGuideText`. -/
  guideText : Text
  /-- `swkbdConfigSetInitialText`. -/
  initialText : Text

/-- What becomes of a keyboard. -/
structure Swkbd where
  /-- The result of `swkbdCreate`. -/
  create : Result
  /-- The result of `swkbdShow`, a failure when the user cancels. -/
  confirm : Result
  /-- The text it leaves in the buffer. -/
  typed : List UInt8

/-- The user in front of a keyboard. -/
abbrev Typist := SwkbdConfig → Swkbd

/-- `char out[16] = {0}` after `swkbdShow`, up to its terminator. -/
def Swkbd.out (k : Swkbd) : List UInt8 := (k.typed.take 15).takeWhile (· ≠ 0)

/-- A blank of the C locale. -/
def isSpace (byte : UInt8) : Bool := byte = 0x20 ∨ 0x09 ≤ byte ∧ byte ≤ 0x0D

/-- A decimal digit. -/
def isDigit (byte : UInt8) : Bool := 0x30 ≤ byte ∧ byte ≤ 0x39

/-- The value of decimal digits. -/
def digitsValue (digits : List UInt8) : Nat :=
  digits.foldl (fun value digit => 10 * value + (digit.toNat - 0x30)) 0

/-- `strtol(text, nullptr, 10)` — blanks, a sign and digits, saturating at the ends of
`long`. -/
def strtol (text : List UInt8) : Int :=
  let rest := text.dropWhile isSpace
  let signed := rest.head? = some 0x2D ∨ rest.head? = some 0x2B
  let value : Int := digitsValue ((if signed then rest.tail else rest).takeWhile isDigit)
  max (-2 ^ 63) (min (2 ^ 63 - 1) (if rest.head? = some 0x2D then -value else value))

/-- `numpad::prompt_minutes`. -/
def promptMinutes (header : Text) (current : UInt16) (typist : Typist) : Option UInt16 :=
  let kbd := typist {
    password := false
    stringLenMin := 1
    stringLenMax := 4
    headerText := header
    guideText := "minutes per day  (0 = no play that day; max 1440)".toList
    initialText := decimal current.toNat }
  if rFailed kbd.create then none
  else if rFailed kbd.confirm then none
  else
    let v := strtol kbd.out
    let v := if v < 0 then 0 else v
    let v := if v > 1440 then 1440 else v
    some (UInt16.ofNat v.toNat)

/-- `%s` — the characters of a C string. -/
def textOfBytes (bytes : List UInt8) : Text := bytes.map fun byte => Char.ofNat byte.toNat

/-- `numpad::HourMinute` — a time of day. -/
structure HourMinute where
  /-- The hour. -/
  hour : UInt8
  /-- The minute. -/
  minute : UInt8
deriving DecidableEq

/-- What a prompt that may ask again comes to. -/
inductive Prompted (α : Type)
  /-- It returned a value. -/
  | yielded (value : α)
  /-- It returned `std::nullopt`. -/
  | cancelled
  /-- It has not returned after the last of the answers. -/
  | waiting
deriving DecidableEq

/-- A prompt for a time of day, with what it showed. -/
structure HhmmPrompt where
  /-- What the prompt comes to. -/
  outcome : Prompted HourMinute
  /-- The keyboards in the order they were set up, each with what became of it. -/
  keyboards : List (SwkbdConfig × Swkbd)
  /-- The answers that are left. -/
  rest : List Typist

/-- The keyboard that `numpad::prompt_hhmm` sets up. -/
def hhmmConfig (shown initial : Text) : SwkbdConfig where
  password := false
  stringLenMin := 3
  stringLenMax := 4
  headerText := shown
  guideText := "HHMM, 24-hour  (e.g. 2100 = 9:00 pm)".toList
  initialText := initial

/-- The loop of `numpad::prompt_hhmm`. -/
def promptHhmmLoop (invalidHeader shown initial : Text) : List Typist → HhmmPrompt
  | [] => ⟨.waiting, [], []⟩
  | typist :: rest =>
    let config := hhmmConfig shown initial
    let kbd := typist config
    if rFailed kbd.create then ⟨.cancelled, [(config, kbd)], rest⟩
    else if rFailed kbd.confirm then ⟨.cancelled, [(config, kbd)], rest⟩
    else
      let v := strtol kbd.out
      let h := v.tdiv 100
      let m := v.tmod 100
      if v ≥ 0 ∧ h ≤ 23 ∧ m ≤ 59 then
        ⟨.yielded ⟨UInt8.ofNat h.toNat, UInt8.ofNat m.toNat⟩, [(config, kbd)], rest⟩
      else
        -- Not a time: ask again, keeping what was typed.
        let again := promptHhmmLoop invalidHeader invalidHeader (textOfBytes kbd.out) rest
        { again with keyboards := (config, kbd) :: again.keyboards }

/-- The text of a time of day that `numpad::prompt_hhmm` offers first. -/
def hhmmText (time : HourMinute) : Text :=
  decimalZero 2 time.hour.toNat ++ decimalZero 2 time.minute.toNat

/-- `numpad::prompt_hhmm`. -/
def promptHhmm (header invalidHeader : Text) (current : HourMinute) (typists : List Typist) :
    HhmmPrompt :=
  promptHhmmLoop invalidHeader header (hhmmText current) typists

/-- `numpad::prompt_pin`. -/
def promptPin (header : Text) (typist : Typist) : Option (List UInt8) :=
  let kbd := typist {
    password := true
    stringLenMin := 4
    stringLenMax := 8
    headerText := header
    guideText := []
    initialText := [] }
  if rFailed kbd.create then none
  else if rFailed kbd.confirm then none
  else some kbd.out

end PctlManager
