import PctlManager.Verif.Documented
import PctlManager.Verif.Dump
import PctlManager.Verif.Operations
import PctlManager.Verif.Printf
import PctlManager.Verif.Report
import PctlManager.Logic.Output

/-!
# The text of the diagnostic report

The dump only ever appends to its report (`Prints`): what it asks, and what it prints, does not
depend on the buffer. So a world has one report, which every buffer holds as much of as fits;
and the bounds of its lines add up to less than the buffer that the main menu prints it into.
-/

namespace PctlManager

open Stateful

/-- The output of the dump is its report. The display info that 1459 hands out has 0x20 bytes at
most. -/
def dumpOutput : Output Dump World Report Text where
  join world report := ⟨world, report⟩
  append := Report.append
  holds w := w.console.remainingTimeDisplayInfo.length ≤ 0x20
  plain text := ∀ c ∈ text, plainChar c = true
  size := List.length

/-- The part of the dump prints at most `n` characters, all of them plain. -/
abbrev Prints {α : Type} (n : Nat) (m : DumpM α) : Prop := Emits dumpOutput n (fun _ => True) m

/-! ## Steps -/

/-- Printing a text prints it. -/
theorem prints_say {n : Nat} {text : Text} (fits : Fits n text) : Prints n (say text) := by
  intro w held
  refine ⟨(), w, [text], trivial, held, ?_, ?_, fun r => ⟨rfl, rfl⟩⟩
  · intro printed member
    rw [List.mem_singleton.mp member]
    exact fits.plain
  · have short := fits.short
    rw [List.map_singleton, List.sum_singleton]
    exact short

/-- Asking the service layer prints nothing. -/
theorem emits_ask {α : Type} {m : PctlM α} (built : Built noRequest m) (property : α → Prop)
    (answers : ∀ w, dumpOutput.holds w → property (result m w)) :
    Emits dumpOutput 0 property (ask m) := by
  intro w held
  refine ⟨result m w, after m w, [], answers w held, ?_, by simp, by simp, fun r => ⟨rfl, rfl⟩⟩
  change (after m w).console.remainingTimeDisplayInfo.length ≤ 0x20
  rw [built.console w]
  exact held

/-- Asking the service layer prints nothing, whatever it answers. -/
theorem prints_ask {α : Type} {m : PctlM α} (built : Built noRequest m) : Prints 0 (ask m) :=
  emits_ask built _ fun _ _ => trivial

/-- Two parts of the dump in order print what both of them print. -/
theorem Prints.bind {α β : Type} {n k : Nat} {m : DumpM α} {f : α → DumpM β}
    (first : Prints n m) (second : ∀ a, Prints k (f a)) : Prints (n + k) (m >>= f) :=
  Emits.bind first fun a _ => second a

/-- A bound may be raised. -/
theorem Prints.mono {α : Type} {n k : Nat} {m : DumpM α} (prints : Prints n m) (bound : n ≤ k) :
    Prints k m := Emits.mono bound (fun _ => id) prints

/-- Doing nothing prints nothing. -/
theorem prints_nothing : Prints 0 (pure () : DumpM Unit) := Emits.pure () trivial

/-- A part of the dump that looks at the world prints what it prints for the world. -/
theorem Prints.get {β : Type} {n : Nat} {g : Dump → DumpM β}
    (blind : ∀ w r r', g ⟨w, r⟩ = g ⟨w, r'⟩) (prints : ∀ d, Prints n (g d)) :
    Prints n (MonadState.get >>= g) :=
  Emits.get_bind (fun w => g ⟨w, ⟨fun _ => '\x00', 0, 0⟩⟩) (fun w r => blind w r _)
    fun _ => prints _

/-- A branch prints no more than the larger one of its arms. -/
theorem Prints.ite {n k : Nat} {c : Prop} [Decidable c] {m m' : DumpM Unit} (left : Prints n m)
    (right : Prints k m') : Prints (max n k) (if c then m else m') := Emits.ite left right

/-! ## The lines -/

/-- The answer of a flag. -/
theorem fits_flagText (reply : Reply Bool) : Fits 5 (flagText reply) := by
  have yes : Fits 4 "true".toList := Fits.literal ['t', 'r', 'u', 'e'] rfl (by decide)
  have no : Fits 5 "false".toList := Fits.literal ['f', 'a', 'l', 's', 'e'] rfl (by decide)
  have dash : Fits 1 "-".toList := Fits.literal ['-'] rfl (by decide)
  exact ((yes.ite no).ite dash).mono (by decide)

/-- The line of a flag. -/
theorem prints_dumpFlag {n : Nat} {title : Text} (titled : Fits n title) {command : Command}
    (answer : Sysmodule → Console → Bool) (asks : command.asks = true) :
    Prints (n + 23) (dumpFlag title command answer) := by
  refine (Prints.bind (prints_ask (.query _ _ asks)) fun r => prints_say
    (((((titled.append (Fits.literal _ rfl (by decide))).append (.hexResult r.rc)).append
      (Fits.literal _ rfl (by decide))).append (fits_flagText r)).append
        (Fits.literal _ rfl (by decide)))).mono ?_
  change 0 + (n + 5 + 10 + 2 + 5 + 1) ≤ n + 23
  omega

/-- The day of the year that `gmtime` finds in an era is one. -/
theorem doy_bounds {doe yoe : Int} (low : 0 ≤ doe) (high : doe < 146097)
    (found : yoe = (doe - doe / 1460 + doe / 36524 - doe / 146096) / 365) :
    0 ≤ doe - (365 * yoe + yoe / 4 - yoe / 100) ∧
      doe - (365 * yoe + yoe / 4 - yoe / 100) ≤ 365 := by
  -- The day is day `r` of year `y` of the four-year cycle `q` of century `d`.
  obtain ⟨d, rest, hd, hrest, split⟩ : ∃ d rest : Int, (0 ≤ d ∧ d ≤ 3) ∧
      (0 ≤ rest ∧ rest ≤ 36524 ∧ (rest = 36524 → d = 3)) ∧ doe = 36524 * d + rest := by
    by_cases last : doe = 146096
    · exact ⟨3, 36524, by omega, by omega, by omega⟩
    · exact ⟨doe / 36524, doe % 36524, by omega, by omega, by omega⟩
  obtain ⟨q, day, hq, hday, cycle⟩ : ∃ q day : Int, (0 ≤ q ∧ q ≤ 24) ∧
      (0 ≤ day ∧ day ≤ 1460) ∧ rest = 1461 * q + day :=
    ⟨rest / 1461, rest % 1461, by omega, by omega, by omega⟩
  obtain ⟨y, r, hy, hr, year⟩ : ∃ y r : Int, (0 ≤ y ∧ y ≤ 3) ∧
      (0 ≤ r ∧ r ≤ 365 ∧ (r = 365 → y = 3)) ∧ day = 365 * y + r := by
    by_cases last : day = 1460
    · exact ⟨3, 365, by omega, by omega, by omega⟩
    · exact ⟨day / 365, day % 365, by omega, by omega, by omega⟩
  have centuries : doe / 36524 - doe / 146096 = d := by omega
  obtain ⟨late, hlate, cycles⟩ : ∃ late, (late = 0 ∧ 24 * d + q + day < 1460 ∨
      late = 1 ∧ 1460 ≤ 24 * d + q + day) ∧ doe / 1460 = 25 * d + q + late := by
    by_cases early : 24 * d + q + day < 1460
    · exact ⟨0, .inl ⟨rfl, early⟩, by omega⟩
    · exact ⟨1, .inr ⟨rfl, by omega⟩, by omega⟩
  have days : doe - doe / 1460 + doe / 36524 - doe / 146096 =
      365 * (100 * d + 4 * q + y) + (r - late) := by
    rw [cycles]
    clear found cycles
    omega
  have short : 0 ≤ r - late ∧ r - late < 365 := by
    clear days cycles centuries found split
    omega
  have years : yoe = 100 * d + 4 * q + y := by
    rw [found, days]
    clear found days cycles centuries split
    omega
  have quarters : yoe / 4 = 25 * d + q := by
    clear found days cycles centuries split
    omega
  have hundreds : yoe / 100 = d := by
    clear found days cycles centuries split quarters
    omega
  rw [quarters, hundreds]
  clear found days cycles centuries
  omega

/-- The month and the day that `gmtime` finds have two digits at most. -/
theorem month_day_digits {doy mp : Int} (low : 0 ≤ doy) (high : doy ≤ 365)
    (found : mp = (5 * doy + 2) / 153) :
    ((if mp < 10 then mp + 3 else mp - 9) - 1 + 1).natAbs < 10 ^ 2 ∧
      (doy - (153 * mp + 2) / 5 + 1).natAbs < 10 ^ 2 := by
  have months : 0 ≤ mp ∧ mp ≤ 11 := by omega
  constructor
  · split <;> omega
  · omega

/-- The fields that `gmtime` finds have the digits that the report makes room for. -/
theorem gmtime_digits {t : Int} {tm : Tm} (found : gmtime t = some tm) :
    tm.fullYear.natAbs < 10 ^ 10 ∧ (tm.mon + 1).natAbs < 10 ^ 2 ∧ tm.mday.natAbs < 10 ^ 2 ∧
      tm.hour.natAbs < 10 ^ 2 ∧ tm.min.natAbs < 10 ^ 2 ∧ tm.sec.natAbs < 10 ^ 2 := by
  unfold gmtime at found
  simp only [Option.ite_none_right_eq_some, Option.some.injEq] at found
  obtain ⟨-, rfl⟩ := found
  have low : 0 ≤ (t / 86400 + 719468) % 146097 := by omega
  have high : (t / 86400 + 719468) % 146097 < 146097 := by omega
  obtain ⟨first, last⟩ := doy_bounds low high rfl
  have digits (tm : Tm) : tm.fullYear.natAbs < 10 ^ 10 := by
    have least := Int.le_bmod (x := tm.year + 1900) (m := 2 ^ 32) (by decide)
    have most := Int.bmod_lt (x := tm.year + 1900) (m := 2 ^ 32) (by decide)
    unfold Tm.fullYear
    omega
  have hours : (t % 86400 / 3600).natAbs < 10 ^ 2 := by omega
  have minutes : (t % 86400 / 60 % 60).natAbs < 10 ^ 2 := by omega
  have seconds : (t % 86400 % 60).natAbs < 10 ^ 2 := by omega
  exact ⟨digits _, (month_day_digits first last rfl).1, (month_day_digits first last rfl).2,
    hours, minutes, seconds⟩

/-- The date of a clock. -/
theorem fits_date {t : Int} {tm : Tm} (found : gmtime t = some tm) :
    Fits 37 ("  ".toList ++ signedZero 4 tm.fullYear ++ "-".toList ++ signedZero 2 (tm.mon + 1) ++
      "-".toList ++ signedZero 2 tm.mday ++ " ".toList ++ signedZero 2 tm.hour ++
      ":".toList ++ signedZero 2 tm.min ++ ":".toList ++ signedZero 2 tm.sec ++
      " UTC".toList) := by
  obtain ⟨year, month, mday, hour, min, sec⟩ := gmtime_digits found
  have years : Fits (1 + max 4 10) (signedZero 4 tm.fullYear) := .signedZero (by decide) year
  have number {i : Int} (small : i.natAbs < 10 ^ 2) : Fits (1 + max 2 2) (signedZero 2 i) :=
    .signedZero (by decide) small
  have dash : Fits 1 "-".toList := .literal ['-'] rfl (by decide)
  have colon : Fits 1 ":".toList := .literal [':'] rfl (by decide)
  have gap : Fits 1 " ".toList := .literal [' '] rfl (by decide)
  have front : Fits 2 "  ".toList := .literal [' ', ' '] rfl (by decide)
  have utc : Fits 4 " UTC".toList := .literal [' ', 'U', 'T', 'C'] rfl (by decide)
  have date := ((((front.append years).append dash).append (number month)).append dash).append
    (number mday)
  exact ((((((date.append gap).append (number hour)).append colon).append (number min)).append
    colon).append (number sec)).append utc

/-- The line of a clock. -/
theorem prints_repClock {n : Nat} {name : Text} (named : Fits n name) (type : TimeType) :
    Prints (max 22 n + 54) (repClock name type) := by
  have newline : Fits 1 "\n".toList := Fits.literal ['\n'] rfl (by decide)
  have title : Fits (max 22 n + 5) (padRight 22 name ++ ": rc=".toList) :=
    named.padRight.append (.literal [':', ' ', 'r', 'c', '='] rfl (by decide))
  refine (Prints.get (fun _ _ _ => rfl) fun d => ?_)
  refine ((prints_say (title.append (.hexResult _))).bind fun _ =>
    Prints.ite (n := 38) (k := 1) ?_ (prints_say newline)).mono ?_
  · split
    · rename_i tm found
      exact (prints_say (fits_date found)).bind fun _ => prints_say newline
    · exact (prints_say newline).mono (by decide)
  · omega

/-! ## The sections -/

/-- A choice between two literals. -/
theorem fits_choice {c : Prop} [Decidable c] {s t : String} (left right : Text)
    (first : s = String.ofList left) (second : t = String.ofList right)
    (checked : left.all plainChar = true) (checked' : right.all plainChar = true) :
    Fits (max left.length right.length) (if c then s.toList else t.toList) :=
  (Fits.literal left first checked).ite (Fits.literal right second checked')

/-- The header. -/
theorem prints_dumpHeader : Prints 512 dumpHeader := by
  have number (v : UInt32) : Fits 10 (decimal v.toNat) := .word v
  refine (Prints.get (n := 452) (fun _ _ _ => rfl) fun d => ?_).mono (by decide)
  refine ((prints_say (.literal _ rfl (by decide))).bind fun _ =>
    (prints_say ((((((((Fits.literal _ rfl (by decide)).append (number _)).append
      (.literal _ rfl (by decide))).append (number _)).append (.literal _ rfl (by decide))).append
        (number _)).append (.literal _ rfl (by decide))).append
          (fits_choice _ _ rfl rfl (by decide) (by decide)) |>.append
            (.literal _ rfl (by decide)))).bind fun _ =>
      (prints_repClock (.literal _ rfl (by decide)) _).bind fun _ =>
        (prints_repClock (.literal _ rfl (by decide)) _).bind fun _ =>
          prints_repClock (.literal _ rfl (by decide)) _).mono (by decide)

/-- A loop prints what its turns print. -/
theorem prints_forM {ι : Type} {n : Nat} {turn : ι → DumpM Unit} (items : List ι)
    (turns : ∀ i ∈ items, Prints n (turn i)) :
    Prints (items.length * n) (items.forM turn) := Emits.forM items turns

/-- One byte of the masked PIN buffer. -/
theorem fits_pinByteText (byte : UInt8) : Fits 3 (pinByteText byte) := by
  have masked : Fits 3 "## ".toList := .literal ['#', '#', ' '] rfl (by decide)
  have gap : Fits 1 " ".toList := .literal [' '] rfl (by decide)
  have shown : Fits 3 (hexByte byte ++ " ".toList) := (Fits.hexByte byte).append gap
  exact masked.ite shown

/-- The restriction state. -/
theorem prints_dumpRestriction : Prints 512 dumpRestriction := by
  have newline : Fits 1 "\n".toList := .literal ['\n'] rfl (by decide)
  have buffer (w : World) : (result (serviceDispatchOut .getPinCode
      ((0 : UInt32), List.replicate 0x10 (0xCC : UInt8)) fun _ c =>
        (c.pinCode.1, fillBuffer (List.replicate 0x10 0xCC) c.pinCode.2)) w).out.2.length =
      0x10 := by
    rw [out_serviceDispatchOut]
    split
    · rw [length_fillBuffer, List.length_replicate]
    · rw [List.length_replicate]
  refine ((prints_dumpFlag (.literal _ rfl (by decide)) _ rfl).bind fun _ =>
    (prints_dumpFlag (.literal _ rfl (by decide)) _ rfl).bind fun _ =>
      (prints_ask (.query _ _ rfl)).bind fun len =>
        (prints_say (((((Fits.literal _ rfl (by decide)).append (.hexResult len.rc)).append
          (.literal _ rfl (by decide))).append (.word len.out)).append newline)).bind fun _ =>
            (prints_ask .reopen).bind fun _ => Emits.bind (emits_ask (.query _ _ rfl)
              (fun pin => pin.out.2.length = 0x10) fun w _ => buffer w) fun pin sized =>
                Prints.bind (k := 49) (prints_say (((((Fits.literal _ rfl (by decide)).append
                  (.hexResult pin.rc)).append (.literal _ rfl (by decide))).append
                    (.word pin.out.1)).append (.literal _ rfl (by decide)))) fun _ => ?_).mono
                      (by decide)
  have row := prints_forM pin.out.2 fun byte _ => prints_say (fits_pinByteText byte)
  rw [sized] at row
  exact row.bind fun _ => prints_say newline

/-- The play-timer queries. -/
theorem prints_dumpTimer : Prints 512 dumpTimer := by
  have newline : Fits 1 "\n".toList := .literal ['\n'] rfl (by decide)
  have amount (v : UInt64) : Fits (max 16 16) (hexZero 16 v.toNat) :=
    .hexZero (by decide) (Nat.lt_of_lt_of_le v.toNat_lt (by decide))
  have minutes (v : UInt64) : Fits 20 (decimal (v.toNat / 60000000000)) := by
    have bound := v.toNat_lt
    exact .decimal (by decide) (by omega)
  refine ((prints_ask .reopen).bind fun _ =>
    (prints_dumpFlag (.literal _ rfl (by decide)) _ rfl).bind fun _ =>
      (prints_dumpFlag (.literal _ rfl (by decide)) _ rfl).bind fun _ =>
        (prints_dumpFlag (.literal _ rfl (by decide)) _ rfl).bind fun _ =>
          (prints_ask (.query _ _ rfl)).bind fun v =>
            (prints_say ((((Fits.literal _ rfl (by decide)).append (.hexResult v.rc)).append
              (.literal _ rfl (by decide))).append (amount v.out))).bind fun _ =>
                Prints.ite (k := 80) ((prints_say (((Fits.literal _ rfl
                  (by decide)).append (minutes v.out)).append (.literal _ rfl (by decide)))).bind
                    (k := 80) fun _ => ?_) ?_).mono (by decide)
  -- What follows the branch follows it in both arms.
  all_goals
    refine ((prints_say newline).bind fun _ => (prints_ask .reopen).bind fun _ =>
      (prints_ask (.query _ _ rfl)).bind fun spent => prints_say
        (((((Fits.literal _ rfl (by decide)).append (.hexResult spent.rc)).append
          (.literal _ rfl (by decide))).append (amount spent.out)).append newline)).mono
            (by decide)

/-- A raw buffer. -/
theorem prints_dumpBytes (bytes : List UInt8) : Prints (bytes.length * 4) (dumpBytes bytes) := by
  have gap : Fits 1 " ".toList := .literal [' '] rfl (by decide)
  have newline : Fits 1 "\n".toList := .literal ['\n'] rfl (by decide)
  have row := prints_forM bytes.zipIdx fun entry _ =>
    (prints_say ((Fits.hexByte entry.1).append gap)).bind fun _ =>
      Prints.ite (c := entry.2 % 16 = 15) (prints_say newline) prints_nothing
  rw [List.length_zipIdx] at row
  exact row

/-- The decoded line of one slot. -/
theorem fits_slotLine {name : Text} (named : Fits 5 name) (d : PtDaySetting) :
    Fits 45 (slotLine name d) := by
  have gap : Fits 2 "  ".toList := .literal [' ', ' '] rfl (by decide)
  have colon : Fits 1 ":".toList := .literal [':'] rfl (by decide)
  have newline : Fits 1 "\n".toList := .literal ['\n'] rfl (by decide)
  have small (byte : UInt8) : byte.toNat < 10 ^ 3 := Nat.lt_of_lt_of_le byte.toNat_lt (by decide)
  have number (byte : UInt8) : Fits (max 2 3) (decimalZero 2 byte.toNat) :=
    .decimalZero (by decide) (small byte)
  have flag (width : Nat) (byte : UInt8) : Fits (max width 3) (decimalWide width byte.toNat) :=
    .decimalWide (by decide) (small byte)
  have minutes : Fits (max 7 5) (decimalWide 7 d.limitMinutes.toNat) :=
    .decimalWide (by decide) (Nat.lt_of_lt_of_le d.limitMinutes.toNat_lt (by decide))
  have front : Fits (max 5 5) (padRight 5 name) := named.padRight
  have alarm := (((((front.append gap).append (flag 3 d.bedtimeEnabled)).append gap).append
    (number d.bedtimeHour)).append colon).append (number d.bedtimeMinute)
  have lifts := (((alarm.append gap).append (number d.bedtimeResetHour)).append colon).append
    (number d.bedtimeResetMinute)
  exact ((((lifts.append gap).append (flag 5 d.limitEnabled)).append gap).append minutes).append
    newline

/-- The names of the weekly slots. -/
theorem fits_slotNames : ∀ name ∈ slotNames, Fits 3 name := by
  have named {s : String} (chars : Text) (same : s = String.ofList chars)
      (checked : chars.all plainChar = true) (short : chars.length ≤ 3) : Fits 3 s.toList :=
    (Fits.literal chars same checked).mono short
  unfold slotNames
  simp only [List.mem_cons, List.not_mem_nil, or_false]
  rintro name (rfl | rfl | rfl | rfl | rfl | rfl | rfl)
  all_goals exact named _ rfl (by decide) (by decide)

/-- The line of the header of the settings. -/
theorem fits_settingsHeader (s : PtSettings) :
    Fits 128 ("header: enabled=".toList ++ decimal s.enabled.toNat ++ " restrictionMode=".toList ++
      decimal s.restrictionMode.toNat ++ " (".toList ++
      (if s.restrictionMode ≠ 0 then "FORCED_TERMINATION".toList else "ALARM".toList) ++
      ") timerMode=".toList ++ decimal s.weekUsed.toNat ++ " (".toList ++
      (if s.weekUsed ≠ 0 then "EACH_DAY_OF_THE_WEEK".toList else "DAILY".toList) ++
      ") reserved=".toList ++ decimal s.reserved.toNat ++ "\n".toList) := by
  have opening : Fits _ " (".toList := .literal _ rfl (by decide)
  have enabled : Fits _ "header: enabled=".toList := .literal _ rfl (by decide)
  have mode : Fits _ " restrictionMode=".toList := .literal _ rfl (by decide)
  have modeName : Fits _ (if s.restrictionMode ≠ 0 then "FORCED_TERMINATION".toList
      else "ALARM".toList) := fits_choice _ _ rfl rfl (by decide) (by decide)
  have timer : Fits _ ") timerMode=".toList := .literal _ rfl (by decide)
  have timerName : Fits _ (if s.weekUsed ≠ 0 then "EACH_DAY_OF_THE_WEEK".toList
      else "DAILY".toList) := fits_choice _ _ rfl rfl (by decide) (by decide)
  have reserved : Fits _ ") reserved=".toList := .literal _ rfl (by decide)
  have newline : Fits _ "\n".toList := .literal _ rfl (by decide)
  have front := ((((enabled.append (.byte s.enabled)).append mode).append
    (.byte s.restrictionMode)).append opening).append modeName
  have rest := ((((front.append timer).append (.byte s.weekUsed)).append opening).append
    timerName).append reserved
  exact ((rest.append (.byte s.reserved)).append newline).mono (by decide)

/-- The stored settings. -/
theorem prints_dumpSettings : Prints 1024 dumpSettings := by
  have newline : Fits 1 "\n".toList := .literal ['\n'] rfl (by decide)
  refine ((prints_ask .reopen).bind fun _ => (prints_ask (.query _ _ rfl)).bind fun raw =>
    (prints_say (((Fits.literal _ rfl (by decide)).append (.hexResult raw.rc)).append
      (.literal _ rfl (by decide)))).bind fun _ => Prints.bind (n := 272) (k := 580) ?_
        fun _ => ?_).mono (by decide)
  · have row := prints_dumpBytes ((raw.out.map PtSettings.bytes).getD (List.replicate 0x44 0xCC))
    have sized : ((raw.out.map PtSettings.bytes).getD (List.replicate 0x44 0xCC)).length =
        0x44 := by
      cases raw.out with
      | none => exact List.length_replicate
      | some s => exact s.length_bytes
    rw [sized] at row
    exact row
  · refine ((prints_say newline).bind (k := 560) fun _ => ?_).mono (by decide)
    split
    · exact prints_nothing.mono (by decide)
    · rename_i s read
      have daily : Fits 5 "daily".toList := .literal ['d', 'a', 'i', 'l', 'y'] rfl (by decide)
      have lines := prints_forM (slotNames.zip (List.ofFn s.weekly)) fun slot member =>
        prints_say (fits_slotLine ((fits_slotNames slot.1 (List.of_mem_zip member).1).mono
          (by decide)) slot.2)
      rw [List.length_zip, List.length_ofFn] at lines
      exact ((prints_say (fits_settingsHeader s)).bind fun _ =>
        (prints_say (.literal _ rfl (by decide))).bind fun _ =>
          (prints_say (fits_slotLine daily _)).bind fun _ =>
            lines).mono (by decide)

/-- One of the bedtime getters. -/
theorem prints_dumpBedtimeGetter {n : Nat} {name : Text} (named : Fits n name)
    {command : Command} (asks : command.asks = true) (numbered : command.id < 10 ^ 4)
    (answer : PtBedtime → UInt8) :
    Prints (max 30 n + 26) (dumpBedtimeGetter command name answer) := by
  have gap : Fits 1 " ".toList := .literal [' '] rfl (by decide)
  have newline : Fits 1 "\n".toList := .literal ['\n'] rfl (by decide)
  have front : Fits 4 (decimal command.id) := .decimal (by decide) numbered
  refine ((prints_ask .reopen).bind fun _ => (prints_ask (.query _ _ asks)).bind fun v =>
    prints_say (((((((front.append gap).append named.padRight).append
      (.literal [':', ' ', 'r', 'c', '='] rfl (by decide))).append (.hexResult v.rc)).append
        (.literal [' ', ' '] rfl (by decide))).append (.byte v.out)).append newline)).mono ?_
  simp only [List.length_cons, List.length_nil]
  omega

/-- The bedtime getters and the display info. -/
theorem prints_dumpBedtime : Prints 1024 dumpBedtime := by
  have newline : Fits 1 "\n".toList := .literal ['\n'] rfl (by decide)
  have info : Emits dumpOutput 0 (fun r : Reply (List UInt8) => r.out.length ≤ 0x20)
      (ask (serviceDispatchOut .getPlayTimerRemainingTimeDisplayInfo
        (List.replicate 0x20 (0xCC : UInt8)) fun _ c => c.remainingTimeDisplayInfo)) := by
    refine emits_ask (.query _ _ rfl) _ fun w held => ?_
    rw [out_serviceDispatchOut]
    split
    · exact held
    · exact Nat.le_of_eq List.length_replicate
  refine ((prints_ask .reopen).bind fun _ =>
    (prints_dumpFlag (.literal _ rfl (by decide)) _ rfl).bind fun _ =>
      (prints_dumpBedtimeGetter (.literal _ rfl (by decide)) rfl (by decide) _).bind fun _ =>
        (prints_dumpBedtimeGetter (.literal _ rfl (by decide)) rfl (by decide) _).bind fun _ =>
          (prints_dumpBedtimeGetter (.literal _ rfl (by decide)) rfl (by decide) _).bind fun _ =>
            (prints_dumpBedtimeGetter (.literal _ rfl (by decide)) rfl (by decide) _).bind fun _ =>
              (prints_ask .reopen).bind fun _ => Emits.bind info fun r sized =>
                Prints.bind (k := 130) (prints_say (((Fits.literal _ rfl (by decide)).append
                  (.hexResult r.rc)).append (.literal _ rfl (by decide)))) fun _ => ?_).mono
                    (by decide)
  have rows : Prints 128 (dumpBytes r.out) :=
    (prints_dumpBytes r.out).mono (Nat.mul_le_mul_right 4 sized)
  exact (Prints.ite (rows.bind fun _ => prints_say newline) (prints_say newline)).mono (by decide)

/-- What the dump prints once its report is started. -/
def dumpSections : DumpM Unit := do
  dumpHeader
  let ir ← ask pctlOpsReinit
  if rFailed ir then say ("pctlInitialize failed: ".toList ++ hexResult ir ++ "\n".toList)
  else
    dumpRestriction
    let d ← get
    if pctlFwPlayTimerSupported d.world then
      dumpTimer
      dumpSettings
      dumpBedtime
    else say "\n(play-timer section skipped: firmware too old)\n".toList

/-- The whole dump. -/
theorem prints_dumpSections : Prints 4096 dumpSections := by
  refine (prints_dumpHeader.bind fun _ => (prints_ask .reopen).bind fun ir =>
    Prints.ite (prints_say (((Fits.literal _ rfl (by decide)).append (.hexResult ir)).append
      (.literal _ rfl (by decide)))) (prints_dumpRestriction.bind fun _ =>
        Prints.get (fun _ _ _ => rfl) fun d => Prints.ite (prints_dumpTimer.bind fun _ =>
          prints_dumpSettings.bind fun _ => prints_dumpBedtime)
            (prints_say (.literal _ rfl (by decide))))).mono (by decide)

/-- The dump starts its report, and prints its sections. -/
theorem after_pctlPlayTimerDump {buf bufsz : Nat} (room : 1 ≤ bufsz) (w : World) (r : Report) :
    after (pctlPlayTimerDump buf bufsz) ⟨w, r⟩ = after dumpSections
      ⟨w, Function.update r.memory buf '\x00', buf, buf + bufsz⟩ := by
  have some : ¬bufsz = 0 := by omega
  unfold pctlPlayTimerDump dumpSections
  rw [if_neg some, after_bind, after_modify]

/-! ## The report of a world -/

/-- With an empty buffer a dump does nothing. A world whose 1459 answers with 0x20 bytes has one
report of at most 4096 printable characters and ends of lines, whatever the size of the buffer
otherwise: a dump leaves as much of it as fits in front of the terminator, and the world that it
leaves does not depend on the buffer either. A buffer of 8192 characters holds all of it. -/
theorem report_complete (w : World) (info : w.console.remainingTimeDisplayInfo.length = 0x20) :
    (∀ (r : Report) (buf : Nat), after (pctlPlayTimerDump buf 0) ⟨w, r⟩ = ⟨w, r⟩) ∧
    ∃ (text : Text) (v : World), text.length ≤ 4096 ∧ (∀ c ∈ text, plainChar c = true) ∧
      ∀ (r : Report) (buf bufsz : Nat), 1 ≤ bufsz →
        let left := after (pctlPlayTimerDump buf bufsz) ⟨w, r⟩
        left.world = v ∧ left.report.Truncates r.memory buf bufsz text ∧
          (8192 ≤ bufsz → left.report.content buf bufsz = text) := by
  obtain ⟨_, v, texts, -, -, plain, total, runs⟩ := prints_dumpSections w (Nat.le_of_eq info)
  have short : texts.flatten.length ≤ 4096 := by
    rw [List.length_flatten]
    exact total
  have visible : ∀ c ∈ texts.flatten, plainChar c = true := by
    intro c member
    obtain ⟨text, printed, inside⟩ := List.mem_flatten.mp member
    exact plain text printed c inside
  refine ⟨fun r buf => rfl, texts.flatten, v, short, visible, fun r buf bufsz room => ?_⟩
  have started : Function.update r.memory buf '\x00' buf = '\x00' := Function.update_self ..
  have left := (runs ⟨Function.update r.memory buf '\x00', buf, buf + bufsz⟩).2
  have printed := (Report.holding_start bufsz started).run texts
  rw [List.nil_append] at printed
  have unterminated : '\x00' ∉ texts.flatten := fun zero => by
    have shown := visible _ zero
    exact absurd shown (by decide)
  have cut := printed.truncates room unterminated
  have start : (⟨w, Function.update r.memory buf '\x00', buf, buf + bufsz⟩ : Dump) =
      dumpOutput.join w ⟨Function.update r.memory buf '\x00', buf, buf + bufsz⟩ := rfl
  rw [after_pctlPlayTimerDump room, start, left]
  refine ⟨rfl, ⟨cut.cursor, fun address outside => ?_, cut.terminated, cut.content⟩,
    fun roomy => ?_⟩
  · have elsewhere : address ≠ buf := by omega
    rw [← Function.update_of_ne elsewhere '\x00' r.memory]
    exact cut.frame address outside
  · rw [← List.take_of_length_le (show texts.flatten.length ≤ bufsz - 1 by omega)]
    exact cut.content

/-- The report of the sample console is the same in every buffer of 8192 characters. -/
theorem report_complete_sample :
    let w := World.launched { Console.sample .zero false with
      remainingTimeDisplayInfo := List.replicate 0x20 0 } .none
    ∃ text : Text, text.length ≤ 4096 ∧ ∀ (r : Report) (buf : Nat),
      (after (pctlPlayTimerDump buf 8192) ⟨w, r⟩).report.content buf 8192 = text := by
  intro w
  obtain ⟨text, v, short, plain, left⟩ := (report_complete w List.length_replicate).2
  exact ⟨text, short, fun r buf => (left r buf 8192 (by decide)).2.2 (by decide)⟩

end PctlManager
