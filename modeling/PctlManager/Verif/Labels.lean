import PctlManager.Views
import PctlManager.Verif.Printf
import PctlManager.Verif.ReadBack

/-!
# The labels tell what was read

Every label fits the buffer that it is formatted in, so none of them is cut. The labels can also
be read: what the header shows as configured determines the limit of each day and the alarm
(`header_tells_settings`), and the panel shows two consoles alike only if they answered alike.
-/

namespace PctlManager

open Stateful Format

/-! ## Room in the buffers -/

/-- A text that fits as a whole is kept as a whole. -/
theorem fitting_whole (text : Text) : ∀ {room : Nat},
    (text.map Char.utf8Size).sum ≤ room → fitting room text = text := by
  induction text with
  | nil => exact fun _ => rfl
  | cons c text ih =>
    intro room fits
    rw [List.map_cons, List.sum_cons] at fits
    have first : c.utf8Size ≤ room := by omega
    have rest : fitting (room - c.utf8Size) text = text := ih (by omega)
    rw [fitting, if_pos first, rest]

/-- A plain text takes one byte for each character. -/
theorem bytes_of_plain {text : Text} (plain : ∀ c ∈ text, plainChar c = true) :
    (text.map Char.utf8Size).sum = text.length := by
  induction text with
  | nil => rfl
  | cons c text ih =>
    have small : c.toNat < 128 := by
      have checked := plain c List.mem_cons_self
      unfold plainChar at checked
      rcases Bool.or_eq_true_iff.mp checked with ending | printable
      · rw [eq_of_beq ending]
        decide
      · have range := of_decide_eq_true printable
        omega
    have single : c.utf8Size = 1 := by
      apply Char.utf8Size_eq_one_iff.mpr
      rw [UInt32.le_iff_toNat_le]
      exact Nat.le_of_lt_succ small
    have rest := ih fun d member => plain d (List.mem_cons_of_mem c member)
    rw [List.map_cons, List.sum_cons, List.length_cons, single, rest, Nat.add_comm]

/-- A text that leaves room for the terminator is not cut. -/
theorem snprintf_whole {n size : Nat} {text : Text} (fits : Fits n text) (room : n < size) :
    snprintf size text = text := by
  have bytes := bytes_of_plain fits.plain
  have short := fits.short
  exact fitting_whole text (by omega)

/-! ## The kinds of limits -/

/-- The kinds of limits that the labels have texts for. -/
inductive LimitsKind
  | none
  | blocked
  | same
  | each
deriving DecidableEq

/-- The kind of the limits of a snapshot. -/
def PtState.limitsKind (pt : PtState) : LimitsKind :=
  if pt.any = false then .none
  else if pt.uniform = true ∧ pt.dayMin Day.sunday = 0 then .blocked
  else if pt.uniform then .same
  else .each

/-- A day as the header shows it. -/
def minutesText (minutes : UInt16) : Text :=
  if minutes = ptDayNoLimit then "-".toList
  else if minutes = 0 then "X".toList
  else decimal minutes.toNat

section Kinds

variable {pt : PtState}

/-- Uniform limits are those of Sunday. -/
theorem dayMin_of_uniform (uniform : pt.uniform = true) :
    pt.dayMin = fun _ => pt.dayMin Day.sunday := by
  funext d
  have every := List.all_eq_true.mp uniform d (List.mem_finRange d)
  exact beq_iff_eq.mp every

/-- What each kind says of the minutes of the days. -/
theorem dayMin_of_kind (pt : PtState) :
    match pt.limitsKind with
    | .none => pt.dayMin = fun _ => ptDayNoLimit
    | .blocked => pt.dayMin = fun _ => 0
    | .same => pt.dayMin = fun _ => pt.dayMin Day.sunday
    | .each => True := by
  unfold PtState.limitsKind
  by_cases absent : pt.any = false
  · rw [if_pos absent]
    funext d
    have day := List.any_eq_false.mp absent d (List.mem_finRange d)
    by_contra limited
    exact day (bne_iff_ne.mpr limited)
  · rw [if_neg absent]
    by_cases uniform : pt.uniform = true
    · have sunday := dayMin_of_uniform uniform
      by_cases zero : pt.dayMin Day.sunday = 0
      · rw [if_pos ⟨uniform, zero⟩]
        rw [zero] at sunday
        exact sunday
      · rw [if_neg fun blocked => zero blocked.2, if_pos uniform]
        exact sunday
    · rw [if_neg fun blocked => uniform blocked.1, if_neg uniform]
      trivial

/-- A minute count. -/
theorem fits_minutes (minutes : UInt16) : Fits 5 (decimal minutes.toNat) :=
  .decimal (by decide) (Nat.lt_of_lt_of_le minutes.toNat_lt (by decide))

/-- The part of a day is not cut. -/
theorem fmtPart_eq (d : Day) :
    fmtPart pt d = " ".toList ++ dayAbbreviations d ++ minutesText (pt.dayMin d) := by
  have gap : Fits 1 " ".toList := .literal [' '] rfl (by decide)
  have short : ∀ d, (dayAbbreviations d).length = 2 ∧
      (dayAbbreviations d).all plainChar = true := by decide
  have name : Fits 2 (dayAbbreviations d) :=
    ⟨Nat.le_of_eq (short d).1, List.all_eq_true.mp (short d).2⟩
  have dash : Fits 1 "-".toList := .literal ['-'] rfl (by decide)
  have cross : Fits 1 "X".toList := .literal ['X'] rfl (by decide)
  have minutes : Fits (max 1 (max 1 5)) (minutesText (pt.dayMin d)) :=
    dash.ite (cross.ite (fits_minutes _))
  exact snprintf_whole ((gap.append name).append minutes) (by decide)

/-- The text of the limits by their kind; it is not cut. -/
theorem fmtLimits_eq (pt : PtState) : fmtLimits pt =
    match pt.limitsKind with
    | .none =>
      if pt.bedtime.enabled then "no daily limit".toList else "not set (timer off)".toList
    | .blocked => "every day blocked".toList
    | .same => decimal (pt.dayMin Day.sunday).toNat ++ " min (all days)".toList
    | .each => "per-day:".toList ++ (List.finRange 7).flatMap fun d =>
        " ".toList ++ dayAbbreviations d ++ minutesText (pt.dayMin d) := by
  have whole : snprintf 32 (decimal (pt.dayMin Day.sunday).toNat ++ " min (all days)".toList) =
      decimal (pt.dayMin Day.sunday).toNat ++ " min (all days)".toList :=
    snprintf_whole ((fits_minutes _).append (.literal _ rfl (by decide))) (by decide)
  have parts : fmtPart pt = fun d =>
      " ".toList ++ dayAbbreviations d ++ minutesText (pt.dayMin d) := funext fmtPart_eq
  unfold fmtLimits PtState.limitsKind
  rw [whole, parts]
  by_cases absent : pt.any = false
  · simp only [if_pos absent]
  · by_cases uniform : pt.uniform = true
    · by_cases zero : pt.dayMin Day.sunday = 0
      · have blocked : pt.uniform = true ∧ pt.dayMin Day.sunday = 0 := ⟨uniform, zero⟩
        simp only [if_neg absent, if_pos blocked]
      · have free : ¬(pt.uniform = true ∧ pt.dayMin Day.sunday = 0) := fun both => zero both.2
        simp only [if_neg absent, if_neg free, if_pos uniform]
    · have free : ¬(pt.uniform = true ∧ pt.dayMin Day.sunday = 0) := fun both => uniform both.1
      simp only [if_neg absent, if_neg free, if_neg uniform]

end Kinds

/-! ## Reading the limits -/

/-- The characters of a day's minutes. -/
theorem mem_minutesText {minutes : UInt16} {c : Char} (shown : c ∈ minutesText minutes) :
    c = '-' ∨ c = 'X' ∨ c.isDigit = true := by
  unfold minutesText at shown
  split at shown
  · exact .inl (List.mem_singleton.mp shown)
  · split at shown
    · exact .inr (.inl (List.mem_singleton.mp shown))
    · exact .inr (.inr (isDigit_of_mem_decimal _ c shown))

/-- The minutes that a day's text stands for. -/
def readMinutes (text : Text) : UInt16 :=
  if text = ['-'] then ptDayNoLimit
  else if text = ['X'] then 0
  else .ofNat (number 10 text)

/-- The minutes of a day can be read back. -/
theorem readMinutes_minutesText (minutes : UInt16) :
    readMinutes (minutesText minutes) = minutes := by
  unfold minutesText
  by_cases unlimited : minutes = ptDayNoLimit
  · rw [if_pos unlimited, unlimited]
    rfl
  · rw [if_neg unlimited]
    by_cases blocked : minutes = 0
    · rw [if_pos blocked, blocked]
      rfl
    · have digits := isDigit_of_mem_decimal minutes.toNat
      have other {c : Char} (letter : c.isDigit = false) : decimal minutes.toNat ≠ [c] := by
        intro same
        rw [same] at digits
        have digit := digits c List.mem_cons_self
        exact absurd (digit.symm.trans letter) (by decide)
      unfold readMinutes
      rw [if_neg blocked, if_neg (other (by decide)), if_neg (other (by decide)), number_decimal]
      exact UInt16.ofNat_toNat

/-- The minutes of the days are told apart by the row of their texts. -/
theorem row_tells {minutes minutes' : Day → UInt16}
    (same : ((List.finRange 7).flatMap fun d =>
        " ".toList ++ dayAbbreviations d ++ minutesText (minutes d)) =
      (List.finRange 7).flatMap fun d =>
        " ".toList ++ dayAbbreviations d ++ minutesText (minutes' d)) : minutes = minutes' := by
  have plain : ∀ m, ∀ c ∈ minutesText m, c ≠ ' ' := by
    rintro m c shown rfl
    obtain dash | cross | digit := mem_minutesText shown
    · exact absurd dash (by decide)
    · exact absurd cross (by decide)
    · exact absurd digit (by decide)
  have one : Tells (leaves (· ≠ ' ')) minutesText :=
    .of_class plain (Function.LeftInverse.injective readMinutes_minutesText)
  have ends : leaves (· ≠ ' ') ([] : Text) := leaves_nil _
  have glued (d : Day) (m : UInt16) (s : Text) :
      leaves (· ≠ ' ') (" ".toList ++ dayAbbreviations d ++ minutesText m ++ s) := by
    apply leaves_cons
    exact fun differs => differs rfl
  have read := Tells.flatMap (fun d => one.behind (" ".toList ++ dayAbbreviations d)) glued
    ends ends (List.finRange 7) (congrArg (· ++ []) same)
  funext d
  exact read.1 d (List.mem_finRange d)

/-- The kind of limits that a text begins with, if it shows any. -/
def shownKind : Text → Option LimitsKind
  | 'n' :: '/' :: _ => none
  | '(' :: _ => none
  | 'n' :: _ => some .none
  | 'e' :: _ => some .blocked
  | 'p' :: _ => some .each
  | _ => some .same

/-- A text that begins with a digit shows the same limit on all days. -/
theorem shownKind_digit {c : Char} (digit : c.isDigit = true) (text : Text) :
    shownKind (c :: text) = some .same := by
  unfold shownKind
  split
  all_goals first
    | rfl
    | rename_i first
      cases first
      exact absurd digit (by decide)

/-- The text of the limits shows their kind, whatever follows it. -/
theorem shownKind_fmtLimits (pt : PtState) (s : Text) :
    shownKind (fmtLimits pt ++ s) = some pt.limitsKind := by
  rw [fmtLimits_eq]
  cases kind : pt.limitsKind with
  | none =>
    change shownKind ((if _ then _ else _) ++ s) = _
    split <;> rfl
  | blocked => rfl
  | each => rfl
  | same =>
    have digits := isDigit_of_mem_decimal (pt.dayMin Day.sunday).toNat
    change shownKind (decimal (pt.dayMin Day.sunday).toNat ++ _ ++ s) = _
    cases shown : decimal (pt.dayMin Day.sunday).toNat with
    | nil => exact absurd shown Nat.toDigits_ne_nil
    | cons c rest =>
      rw [shown] at digits
      exact shownKind_digit (digits c List.mem_cons_self) _

/-- The minutes of the days are told apart by the text of the limits. -/
theorem limits_tell {pt pt' : PtState} (same : fmtLimits pt = fmtLimits pt') :
    pt.dayMin = pt'.dayMin := by
  have kinds : pt.limitsKind = pt'.limitsKind := by
    have first := shownKind_fmtLimits pt []
    rw [same, shownKind_fmtLimits pt' []] at first
    exact (Option.some.inj first).symm
  have minutes := dayMin_of_kind pt
  have minutes' := dayMin_of_kind pt'
  rw [fmtLimits_eq, fmtLimits_eq] at same
  rw [kinds] at same minutes
  cases kind : pt'.limitsKind with
  | none =>
    rw [kind] at minutes minutes'
    exact minutes.trans minutes'.symm
  | blocked =>
    rw [kind] at minutes minutes'
    exact minutes.trans minutes'.symm
  | same =>
    rw [kind] at same minutes minutes'
    have sunday := List.append_cancel_right same
    have number := Function.LeftInverse.injective number_decimal sunday
    rw [minutes, minutes', UInt16.toNat_inj.mp number]
  | each =>
    rw [kind] at same
    exact row_tells (List.append_cancel_left same)

/-! ## Reading the alarm -/

/-- The texts in front of the four times of an alarm. -/
def alarmText (alarm : Alarm) : Text :=
  "; bedtime ".toList ++ decimalZero 2 alarm.hour.toNat ++ ":".toList ++
    decimalZero 2 alarm.minute.toNat ++ "-".toList ++ decimalZero 2 alarm.resetHour.toNat ++
    ":".toList ++ decimalZero 2 alarm.resetMinute.toNat

/-- The alarm is not cut. -/
theorem fmtAlarm_eq (b : PtBedtime) :
    fmtAlarm b = alarmText ⟨b.hour, b.minute, b.resetHour, b.resetMinute⟩ := by
  have time (byte : UInt8) : Fits (max 2 3) (decimalZero 2 byte.toNat) :=
    .decimalZero (by decide) (Nat.lt_of_lt_of_le byte.toNat_lt (by decide))
  have colon : Fits 1 ":".toList := .literal [':'] rfl (by decide)
  have dash : Fits 1 "-".toList := .literal ['-'] rfl (by decide)
  have front : Fits _ "; bedtime ".toList := .literal _ rfl (by decide)
  have begins := ((front.append (time b.hour)).append colon).append (time b.minute)
  have whole := (((begins.append dash).append (time b.resetHour)).append colon).append
    (time b.resetMinute)
  exact snprintf_whole whole (by decide)

/-- A time is over where its digits end. -/
theorem tells_time : Tells (leaves (Char.isDigit · = true)) fun byte : UInt8 =>
    decimalZero 2 byte.toNat :=
  (tells_decimalZero 2).comp fun _ _ same => UInt8.toNat_inj.mp same

/-- A mark that is no digit ends it. -/
theorem tells_time_marked {c : Char} (mark : c.isDigit = false) :
    Tells anything fun byte : UInt8 => decimalZero 2 byte.toNat ++ [c] := by
  refine tells_time.closed _ fun s => leaves_cons (fun digit => ?_) s
  exact absurd (digit.symm.trans mark) (by decide)

/-- Alarms are told apart where the digits end. -/
theorem tells_alarmText : Tells (leaves (Char.isDigit · = true)) alarmText := by
  have colon : Tells anything fun byte : UInt8 => decimalZero 2 byte.toNat ++ [':'] :=
    tells_time_marked rfl
  have dash : Tells anything fun byte : UInt8 => decimalZero 2 byte.toNat ++ ['-'] :=
    tells_time_marked rfl
  have lifts := colon.append tells_time fun _ _ _ => trivial
  have behind := dash.append lifts fun _ _ _ => trivial
  have times := colon.append behind fun _ _ _ => trivial
  have fields : Function.Injective fun alarm : Alarm =>
      (alarm.hour, alarm.minute, alarm.resetHour, alarm.resetMinute) := by
    rintro ⟨h, m, rh, rm⟩ ⟨h', m', rh', rm'⟩ same
    cases same
    rfl
  have texts : alarmText = fun alarm : Alarm => "; bedtime ".toList ++
      ((decimalZero 2 alarm.hour.toNat ++ [':']) ++ ((decimalZero 2 alarm.minute.toNat ++ ['-']) ++
        ((decimalZero 2 alarm.resetHour.toNat ++ [':']) ++
          decimalZero 2 alarm.resetMinute.toNat))) := by
    funext alarm
    unfold alarmText
    simp only [List.append_assoc]
    rfl
  rw [texts]
  clear texts
  generalize "; bedtime ".toList = front
  have told := (times.behind front).comp fields
  exact told

/-- What follows the limits. -/
def suffix (pt : PtState) : Text :=
  if pt.bedtime.enabled then
    fmtAlarm pt.bedtime ++ if pt.bedtimeVaries then " ".toList ++ bedtimeVariesText else []
  else []

/-- The alarm is told by what follows the limits, and so is that the days differ. -/
theorem suffix_tells {pt pt' : PtState} (same : suffix pt = suffix pt') :
    pt.bedtime.alarm = pt'.bedtime.alarm ∧
      (pt.bedtime.enabled = true → pt.bedtimeVaries = pt'.bedtimeVaries) := by
  have tail (varies : Bool) : leaves (Char.isDigit · = true)
      (if varies then " ".toList ++ bedtimeVariesText else []) := by
    cases varies
    · exact leaves_nil _
    · exact leaves_cons (by decide) _
  unfold suffix at same
  unfold PtBedtime.alarm
  rw [fmtAlarm_eq, fmtAlarm_eq] at same
  cases on : pt.bedtime.enabled with
  | false =>
    cases on' : pt'.bedtime.enabled with
    | false => exact ⟨rfl, fun absent => absurd absent (by decide)⟩
    | true =>
      rw [on, on'] at same
      cases same
  | true =>
    cases on' : pt'.bedtime.enabled with
    | false =>
      rw [on, on'] at same
      cases same
    | true =>
      rw [on, on'] at same
      obtain ⟨alarms, rest⟩ := tells_alarmText (tail _) (tail _) same
      refine ⟨congrArg some alarms, fun _ => ?_⟩
      cases varies : pt.bedtimeVaries
      all_goals cases varies' : pt'.bedtimeVaries
      all_goals first
        | rfl
        | rw [varies, varies'] at rest
          cases rest

/-- A string literal without a character. -/
theorem absent_of_literal {s : String} {c : Char} (chars : Text) (same : s = String.ofList chars)
    (checked : chars.all (· ≠ c) = true) : ∀ d ∈ s.toList, d ≠ c := by
  intro d shown
  rw [same, String.toList_ofList] at shown
  exact of_decide_eq_true (List.all_eq_true.mp checked d shown)

/-- The text of the limits has no semicolon. -/
theorem no_semicolon (pt : PtState) : ∀ c ∈ fmtLimits pt, c ≠ ';' := by
  have digit {c : Char} (number : c.isDigit = true) : c ≠ ';' := by
    rintro rfl
    exact absurd number (by decide)
  have minutes (m : UInt16) : ∀ c ∈ minutesText m, c ≠ ';' := by
    intro c shown
    obtain rfl | rfl | number := mem_minutesText shown
    · decide
    · decide
    · exact digit number
  have checked : ∀ d : Day, (dayAbbreviations d).all (· ≠ ';') = true := by decide
  have names (d : Day) : ∀ c ∈ dayAbbreviations d, c ≠ ';' :=
    fun c shown => of_decide_eq_true (List.all_eq_true.mp (checked d) c shown)
  have none : ∀ c ∈ "no daily limit".toList, c ≠ ';' := absent_of_literal _ rfl (by decide)
  have off : ∀ c ∈ "not set (timer off)".toList, c ≠ ';' := absent_of_literal _ rfl (by decide)
  have blocked : ∀ c ∈ "every day blocked".toList, c ≠ ';' := absent_of_literal _ rfl (by decide)
  have all : ∀ c ∈ " min (all days)".toList, c ≠ ';' := absent_of_literal _ rfl (by decide)
  have title : ∀ c ∈ "per-day:".toList, c ≠ ';' := absent_of_literal _ rfl (by decide)
  rw [fmtLimits_eq]
  intro c
  cases pt.limitsKind with
  | none =>
    cases pt.bedtime.enabled with
    | true => exact none c
    | false => exact off c
  | blocked => exact blocked c
  | same =>
    intro shown
    obtain number | rest := List.mem_append.mp shown
    · exact digit (isDigit_of_mem_decimal _ c number)
    · exact all c rest
  | each =>
    intro shown
    obtain front | row := List.mem_append.mp shown
    · exact title c front
    · obtain ⟨d, -, part⟩ := List.mem_flatMap.mp row
      obtain before | value := List.mem_append.mp part
      · obtain gap | name := List.mem_append.mp before
        · rw [List.mem_singleton.mp gap]
          decide
        · exact names d c name
      · exact minutes _ c value

/-! ## The header -/

/-- A snapshot with settings shows its limits and its alarm. -/
theorem fmtConfigured_of_valid {pt : PtState} (supported : pt.supported = true)
    (valid : pt.valid = true) : fmtConfigured pt = fmtLimits pt ++ suffix pt := by
  unfold fmtConfigured suffix
  rw [if_neg (by rw [supported]; decide), if_neg (by rw [valid]; decide)]

/-- A snapshot that shows limits has settings. -/
theorem shows_limits {pt : PtState} (shown : shownKind (fmtConfigured pt) ≠ none) :
    pt.supported = true ∧ pt.valid = true := by
  unfold fmtConfigured at shown
  cases supported : pt.supported with
  | false =>
    rw [supported, if_pos rfl] at shown
    exact absurd rfl shown
  | true =>
    cases valid : pt.valid with
    | false =>
      rw [supported, valid, if_neg (by decide), if_pos rfl] at shown
      exact absurd rfl shown
    | true => exact ⟨rfl, rfl⟩

/-- What is shown as configured tells the limits and the alarm apart. -/
theorem configured_tells {pt pt' : PtState} (supported : pt.supported = true)
    (valid : pt.valid = true) (same : fmtConfigured pt = fmtConfigured pt') :
    (pt'.supported = true ∧ pt'.valid = true) ∧ pt.dayMin = pt'.dayMin ∧
      pt.bedtime.alarm = pt'.bedtime.alarm ∧
        (pt.bedtime.enabled = true → pt.bedtimeVaries = pt'.bedtimeVaries) := by
  have text := fmtConfigured_of_valid supported valid
  have read' : pt'.supported = true ∧ pt'.valid = true := by
    apply shows_limits
    rw [← same, text, shownKind_fmtLimits]
    exact Option.some_ne_none _
  have text' := fmtConfigured_of_valid read'.1 read'.2
  rw [text, text'] at same
  have ends (pt : PtState) : leaves (· ≠ ';') (suffix pt) := by
    unfold suffix
    split
    · rw [fmtAlarm_eq]
      apply leaves_cons
      exact fun differs => differs rfl
    · exact leaves_nil _
  have parts := Tells.texts (· ≠ ';') (a := ⟨fmtLimits pt, no_semicolon pt⟩)
    (b := ⟨fmtLimits pt', no_semicolon pt'⟩) (ends pt) (ends pt') same
  have limits : fmtLimits pt = fmtLimits pt' := congrArg Subtype.val parts.1
  exact ⟨read', limits_tell limits, suffix_tells parts.2⟩

/-- A snapshot that reads the settings says that the commands are there. -/
theorem supported_of_reads {w : World} (reads : w.Reads) :
    (result pctlPlayTimerQuery w).supported = true := by
  unfold pctlPlayTimerQuery
  simp only [result_bind, result_get, result_ite, result_pure, reads.1, ↓reduceIte]
  split <;> rfl

/-- Slots that compare equal have the same alarm. -/
theorem alarmOf_of_sameBedtime {a b : PtDaySetting} (same : sameBedtime a b = true) :
    alarmOf a = alarmOf b := by
  unfold sameBedtime at same
  split at same
  · cases same
  · rename_i flags
    have flag : a.bedtimeEnabled = b.bedtimeEnabled := not_not.mp flags
    unfold alarmOf
    by_cases off : b.bedtimeEnabled = 0
    · rw [flag, if_neg (not_not.mpr off), if_neg (not_not.mpr off)]
    · simp only [flag, Bool.or_eq_true, beq_iff_eq, off, false_or, Bool.and_eq_true] at same
      obtain ⟨⟨⟨hour, minute⟩, resetHour⟩, resetMinute⟩ := same
      rw [flag, hour, minute, resetHour, resetMinute]

/-- A snapshot without a difference reports the alarm of every day. -/
theorem alarms_of_not_varies {w : World} (reads : w.Reads)
    (uniform : (result pctlPlayTimerQuery w).bedtimeVaries = false) (d : Day) :
    (registersOf w.console.stored).base.alarms d = (result pctlPlayTimerQuery w).bedtime.alarm := by
  obtain ⟨out, read⟩ := snapshot_of_reads reads
  rw [read] at uniform
  have every := (bedtimeVaries_ofSettings w.console.stored out).mp uniform d
  rw [alarms_registersOf, alarmOf_of_sameBedtime every, read, bedtime_ofSettings,
    alarm_decodeBedtime]

/-- A snapshot without an alarm reports no difference. -/
theorem not_varies_of_off {w : World} (reads : w.Reads)
    (off : (result pctlPlayTimerQuery w).bedtime.alarm = none) :
    (result pctlPlayTimerQuery w).bedtimeVaries = false := by
  obtain ⟨out, read⟩ := snapshot_of_reads reads
  have first : alarmOf (daySlot w.console.stored (bedDay w.console.stored)) = none := by
    rw [read, bedtime_ofSettings, alarm_decodeBedtime] at off
    exact off
  have every (d : Day) : (daySlot w.console.stored d).bedtimeEnabled = 0 := by
    by_contra on
    have present := (alarmOf_isSome (daySlot w.console.stored d)).mpr on
    have some_day := (alarmOf_bedDay_isSome w.console.stored).mpr
      ⟨d, Option.isSome_iff_ne_none.mp present⟩
    exact some_day first
  rw [read]
  exact (bedtime_of_none every out).2

/-- The header can be relied on: if it shows the same as configured on two consoles, and one of
them has answered with its settings, then so has the other one; both have the same first alarm,
or none, and both or none of them have different alarms on different days. If the alarms do not
differ then both have the same alarms; and unless one of them stores a limit of 65535 minutes,
both have the same limits. -/
theorem header_tells_settings (w w' : World) (reads : w.Reads)
    (same : (result PtStateHeader.refresh w).configured =
      (result PtStateHeader.refresh w').configured) :
    let pt := result pctlPlayTimerQuery w
    let pt' := result pctlPlayTimerQuery w'
    let stored := (registersOf w.console.stored).base
    let stored' := (registersOf w'.console.stored).base
    w'.Reads ∧ pt.bedtime.alarm = pt'.bedtime.alarm ∧
      pt.bedtimeVaries = pt'.bedtimeVaries ∧
      (pt.bedtimeVaries = false → stored.alarms = stored'.alarms) ∧
      ((∀ d, stored.limits d ≠ some 0xFFFF ∧ stored'.limits d ≠ some 0xFFFF) →
        stored.limits = stored'.limits) := by
  have shown : fmtConfigured (result pctlPlayTimerQuery w) =
      fmtConfigured (result pctlPlayTimerQuery w') := same
  obtain ⟨⟨-, valid'⟩, minutes, alarm, differ⟩ :=
    configured_tells (supported_of_reads reads) ((valid_iff_reads w).mpr reads) shown
  have reads' := (valid_iff_reads w').mp valid'
  have varies : (result pctlPlayTimerQuery w).bedtimeVaries =
      (result pctlPlayTimerQuery w').bedtimeVaries := by
    by_cases on : (result pctlPlayTimerQuery w).bedtime.enabled = true
    · exact differ on
    · have off : (result pctlPlayTimerQuery w).bedtime.alarm = none := if_neg on
      rw [not_varies_of_off reads off, not_varies_of_off reads' (alarm.symm.trans off)]
  refine ⟨reads', alarm, varies, fun uniform => ?_, fun short => ?_⟩
  · funext d
    rw [alarms_of_not_varies reads uniform, alarm,
      alarms_of_not_varies reads' (varies.symm.trans uniform)]
  · funext d
    have first := congrFun minutes d
    rw [dayMin_of_reads reads, dayMin_of_reads reads'] at first
    obtain ⟨here, there⟩ := short d
    rw [limits_registersOf] at here there
    have decoded := congrArg (Sentinel.decode ptDayNoLimit) first
    rw [(Sentinel.decode_encode_iff ptDayNoLimit _).mpr here,
      (Sentinel.decode_encode_iff ptDayNoLimit _).mpr there] at decoded
    rw [limits_registersOf, limits_registersOf, decoded]

/-- A console with 60 minutes on every day shows what another one does that is armed and
temporarily unlocked, and both have the same limits. -/
theorem header_tells_settings_sixty :
    let w := World.launched (.sample (.everyDay 60) false) .none
    let w' := World.launched (.sample { PtSettings.everyDay 60 with enabled := 7 } true) .none
    (registersOf w.console.stored).base.limits = (registersOf w'.console.stored).base.limits :=
  (header_tells_settings (.launched (.sample (.everyDay 60) false) .none)
    (.launched (.sample { PtSettings.everyDay 60 with enabled := 7 } true) .none) (by decide)
    (by decide)).2.2.2.2 (by decide)

end PctlManager
