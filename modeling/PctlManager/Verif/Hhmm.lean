import PctlManager.Numpad
import Mathlib.Data.List.Chain
import Mathlib.Data.List.TakeWhile

/-!
# Times of day on the number pad

A time of day is typed as three or four digits without a separator. The prompt for it returns
the first entry that is a time, offers every earlier one again as it was typed, and gives up
when the user cancels (`HhmmPrompt.Faithful`). A time that is offered and confirmed as it stands
comes back as itself.
-/

namespace PctlManager

/-! ## Digits -/

/-- A digit is neither a blank nor a sign nor a terminator. -/
theorem isDigit_iff (byte : UInt8) : isDigit byte = true ↔ 48 ≤ byte.toNat ∧ byte.toNat ≤ 57 := by
  simp only [isDigit, Bool.decide_and, Bool.and_eq_true, decide_eq_true_eq, UInt8.le_iff_toNat_le]
  rfl

/-- A digit is not a blank. -/
theorem isSpace_of_isDigit {byte : UInt8} (digit : isDigit byte = true) : isSpace byte = false := by
  have bounds := (isDigit_iff byte).mp digit
  simp only [isSpace, decide_eq_false_iff_not, UInt8.le_iff_toNat_le, ← UInt8.toNat_inj]
  have blank : (0x20 : UInt8).toNat = 32 := rfl
  have tab : (0x09 : UInt8).toNat = 9 := rfl
  have ret : (0x0D : UInt8).toNat = 13 := rfl
  omega

/-- A digit is not one of the bytes below the digits. -/
theorem ne_of_isDigit {byte other : UInt8} (digit : isDigit byte = true)
    (below : other.toNat < 48) : byte ≠ other := by
  rintro rfl
  have bounds := (isDigit_iff byte).mp digit
  omega

/-- The value of digits read from a value on. -/
theorem foldl_digits_lt (digits : List UInt8) (all : ∀ byte ∈ digits, isDigit byte = true) :
    ∀ value : Nat, digits.foldl (fun value digit => 10 * value + (digit.toNat - 0x30)) value <
      (value + 1) * 10 ^ digits.length := by
  induction digits with
  | nil =>
    intro value
    simp
  | cons digit digits ih =>
    intro value
    have bounds := (isDigit_iff digit).mp (all digit List.mem_cons_self)
    have rest := ih (fun byte member => all byte (List.mem_cons_of_mem digit member))
      (10 * value + (digit.toNat - 0x30))
    have step : 10 * value + (digit.toNat - 0x30) + 1 ≤ (value + 1) * 10 := by omega
    calc
      _ < (10 * value + (digit.toNat - 0x30) + 1) * 10 ^ digits.length := rest
      _ ≤ (value + 1) * 10 * 10 ^ digits.length := Nat.mul_le_mul_right _ step
      _ = (value + 1) * 10 ^ (digit :: digits).length := by
        rw [List.length_cons, Nat.pow_succ, Nat.mul_assoc, Nat.mul_comm 10]

/-- Digits have a value below the power of ten of their number. -/
theorem digitsValue_lt {digits : List UInt8} (all : ∀ byte ∈ digits, isDigit byte = true) :
    digitsValue digits < 10 ^ digits.length := by
  have bound := foldl_digits_lt digits all 0
  rw [Nat.zero_add, Nat.one_mul] at bound
  exact bound

/-- `strtol` reads digits as their value, when it fits. -/
theorem strtol_of_digits {digits : List UInt8} (all : ∀ byte ∈ digits, isDigit byte = true)
    (fits : digitsValue digits < 2 ^ 63) : strtol digits = digitsValue digits := by
  have start : digits.dropWhile isSpace = digits := by
    cases digits with
    | nil => rfl
    | cons digit digits =>
      rw [List.dropWhile_cons_of_neg]
      rw [isSpace_of_isDigit (all digit List.mem_cons_self)]
      exact Bool.false_ne_true
  have unsigned : ∀ sign : UInt8, sign.toNat < 48 → digits.head? ≠ some sign := by
    intro sign below head
    have member := List.mem_of_mem_head? head
    exact ne_of_isDigit (all sign member) below rfl
  have minus := unsigned 0x2D (by decide)
  have plus := unsigned 0x2B (by decide)
  have whole : digits.takeWhile isDigit = digits := List.takeWhile_eq_self_iff.mpr all
  unfold strtol
  simp only [start, minus, plus, or_self, ↓reduceIte, whole]
  omega

/-- What is left in the buffer of a short entry of digits is the entry. -/
theorem Swkbd.out_of_digits {k : Swkbd} (short : k.typed.length ≤ 15)
    (all : ∀ byte ∈ k.typed, isDigit byte = true) : k.out = k.typed := by
  have whole : k.typed.take 15 = k.typed := List.take_of_length_le short
  unfold Swkbd.out
  rw [whole, List.takeWhile_eq_self_iff]
  intro byte member
  have different : byte ≠ 0 := ne_of_isDigit (all byte member) (by decide)
  simpa using different

/-! ## Entries -/

/-- The prompt gets no text: there is no keyboard, or the user cancels it. -/
def Swkbd.Cancelled (k : Swkbd) : Prop := rFailed k.create ∨ rFailed k.confirm

/-- Three or four digits are typed. -/
def Swkbd.Digits (k : Swkbd) : Prop :=
  (3 ≤ k.typed.length ∧ k.typed.length ≤ 4) ∧ ∀ byte ∈ k.typed, isDigit byte = true

/-- The value of the digits. -/
def Swkbd.value (k : Swkbd) : Nat := digitsValue k.typed

/-- The value is a time of day, the hour in front of two digits for the minute. -/
def IsTime (value : Nat) : Prop := value / 100 ≤ 23 ∧ value % 100 ≤ 59

instance (value : Nat) : Decidable (IsTime value) := inferInstanceAs (Decidable (_ ∧ _))

/-- An entry that was confirmed and is not a time. -/
def Swkbd.Rejected (k : Swkbd) : Prop := ¬k.Cancelled ∧ ¬IsTime k.value

/-- An entry that was confirmed and is this time. -/
def Swkbd.Yields (k : Swkbd) (time : HourMinute) : Prop :=
  ¬k.Cancelled ∧ IsTime k.value ∧ time.hour.toNat = k.value / 100 ∧
    time.minute.toNat = k.value % 100

/-- A user who cancels every keyboard or types three or four digits into it. -/
def Typist.Plain (typist : Typist) : Prop :=
  ∀ config, (typist config).Cancelled ∨ (typist config).Digits

/-- Three or four digits are read as their value, which has at most four digits. -/
theorem Swkbd.Digits.strtol_out {k : Swkbd} (digits : k.Digits) :
    strtol k.out = k.value ∧ k.value < 10000 := by
  obtain ⟨⟨-, short⟩, all⟩ := digits
  have bound : digitsValue k.typed < 10 ^ k.typed.length := digitsValue_lt all
  have four : 10 ^ k.typed.length ≤ 10 ^ 4 := Nat.pow_le_pow_right (by omega) short
  have small : digitsValue k.typed < 10000 := Nat.lt_of_lt_of_le bound four
  rw [Swkbd.out_of_digits (by omega) all]
  exact ⟨strtol_of_digits all (by omega), small⟩

section Loop

variable (invalidHeader shown initial : Text) (typist : Typist) (rest : List Typist)

/-- A keyboard that is cancelled ends the prompt. -/
theorem promptHhmmLoop_of_cancelled
    (cancelled : (typist (hhmmConfig shown initial)).Cancelled) :
    promptHhmmLoop invalidHeader shown initial (typist :: rest) =
      ⟨.cancelled, [(hhmmConfig shown initial, typist (hhmmConfig shown initial))], rest⟩ := by
  unfold promptHhmmLoop
  rcases cancelled with failed | failed
  · simp only [if_pos failed]
  · simp only [if_pos failed, ite_self]

/-- An entry that is a time ends the prompt with it. -/
theorem promptHhmmLoop_of_time
    (confirmed : ¬(typist (hhmmConfig shown initial)).Cancelled)
    (digits : (typist (hhmmConfig shown initial)).Digits)
    (time : IsTime (typist (hhmmConfig shown initial)).value) :
    promptHhmmLoop invalidHeader shown initial (typist :: rest) =
      ⟨.yielded ⟨UInt8.ofNat ((typist (hhmmConfig shown initial)).value / 100),
          UInt8.ofNat ((typist (hhmmConfig shown initial)).value % 100)⟩,
        [(hhmmConfig shown initial, typist (hhmmConfig shown initial))], rest⟩ := by
  obtain ⟨created, shows⟩ := not_or.mp confirmed
  obtain ⟨read, -⟩ := digits.strtol_out
  unfold promptHhmmLoop
  simp only [if_neg created, if_neg shows, read]
  generalize (typist (hhmmConfig shown initial)).value = v at time
  have hour : ((v : Int).tdiv 100) = ((v / 100 : Nat) : Int) := rfl
  have minute : ((v : Int).tmod 100) = ((v % 100 : Nat) : Int) := rfl
  obtain ⟨early, late⟩ := time
  rw [hour, minute, if_pos ⟨by omega, by omega, by omega⟩, Int.toNat_natCast, Int.toNat_natCast]

/-- Any other entry is asked for again, with what was typed. -/
theorem promptHhmmLoop_of_rejected
    (confirmed : ¬(typist (hhmmConfig shown initial)).Cancelled)
    (digits : (typist (hhmmConfig shown initial)).Digits)
    (other : ¬IsTime (typist (hhmmConfig shown initial)).value) :
    let again := promptHhmmLoop invalidHeader invalidHeader
      (textOfBytes (typist (hhmmConfig shown initial)).typed) rest
    promptHhmmLoop invalidHeader shown initial (typist :: rest) = { again with
      keyboards := (hhmmConfig shown initial, typist (hhmmConfig shown initial)) ::
        again.keyboards } := by
  obtain ⟨created, shows⟩ := not_or.mp confirmed
  obtain ⟨read, -⟩ := digits.strtol_out
  have out := Swkbd.out_of_digits (by have short := digits.1.2; omega) digits.2
  rw [out] at read
  intro again
  rw [promptHhmmLoop]
  simp only [if_neg created, if_neg shows, out, read]
  generalize (typist (hhmmConfig shown initial)).value = v at other
  have hour : ((v : Int).tdiv 100) = ((v / 100 : Nat) : Int) := rfl
  have minute : ((v : Int).tmod 100) = ((v % 100 : Nat) : Int) := rfl
  rw [hour, minute, if_neg]
  rintro ⟨-, early, late⟩
  exact other ⟨by omega, by omega⟩

end Loop

/-! ## The whole prompt -/

/-- Entries are rejected up to the first that is a time, which is returned, or up to a cancelled
keyboard, or up to the last answer. -/
def HhmmPrompt.Ends (p : HhmmPrompt) : Prop :=
  ∃ rejected : List (SwkbdConfig × Swkbd), (∀ k ∈ rejected, k.2.Rejected) ∧
    match p.outcome with
    | .yielded time => ∃ k, p.keyboards = rejected ++ [k] ∧ k.2.Yields time
    | .cancelled => ∃ k, p.keyboards = rejected ++ [k] ∧ k.2.Cancelled
    | .waiting => p.keyboards = rejected ∧ p.rest = []

/-- The prompt did what it promises with the answers it was given. -/
structure HhmmPrompt.Faithful (p : HhmmPrompt) (invalidHeader shown initial : Text)
    (typists : List Typist) : Prop where
  /-- Every keyboard is answered by the next of the answers. -/
  answers : ∃ used, typists = used ++ p.rest ∧
    List.Forall₂ (fun typist k => k.2 = typist k.1) used p.keyboards
  /-- The first keyboard shows the header and the text that is offered first. -/
  first : ∀ k ∈ p.keyboards.head?, k.1 = hhmmConfig shown initial
  /-- Every other keyboard shows that the entry before it was invalid, and offers that entry
  again as it was typed. -/
  offered : p.keyboards.IsChain fun k next =>
    next.1 = hhmmConfig invalidHeader (textOfBytes k.2.typed)
  /-- It ends with the first entry that is a time, or with a cancel. -/
  ends : p.Ends

/-- A chain with another item in front. -/
theorem isChain_cons {α : Type} {related : α → α → Prop} {a : α} {items : List α}
    (next : ∀ b ∈ items.head?, related a b) (chain : items.IsChain related) :
    (a :: items).IsChain related := by
  cases items with
  | nil => exact .singleton a
  | cons b items => exact .cons_cons (next b rfl) chain

/-- A rejected entry in front of a prompt that did what it promises. -/
theorem HhmmPrompt.Faithful.cons {again : HhmmPrompt} {invalidHeader shown initial : Text}
    {typist : Typist} {rest : List Typist}
    (rejected : (typist (hhmmConfig shown initial)).Rejected)
    (faithful : again.Faithful invalidHeader invalidHeader
      (textOfBytes (typist (hhmmConfig shown initial)).typed) rest) :
    HhmmPrompt.Faithful { again with
        keyboards := (hhmmConfig shown initial, typist (hhmmConfig shown initial)) ::
          again.keyboards }
      invalidHeader shown initial (typist :: rest) where
  answers := by
    obtain ⟨used, split, answered⟩ := faithful.answers
    exact ⟨typist :: used, by rw [split]; rfl, .cons rfl answered⟩
  first := by
    intro k head
    rw [List.head?_cons, Option.mem_some_iff] at head
    rw [← head]
  offered := isChain_cons faithful.first faithful.offered
  ends := by
    obtain ⟨earlier, all, ended⟩ := faithful.ends
    refine ⟨(hhmmConfig shown initial, typist (hhmmConfig shown initial)) :: earlier, ?_, ?_⟩
    · intro k member
      rcases List.mem_cons.mp member with rfl | member
      · exact rejected
      · exact all k member
    · cases result : again.outcome with
      | yielded time =>
        rw [result] at ended
        obtain ⟨k, shown, yields⟩ := ended
        exact ⟨k, by simp [shown], yields⟩
      | cancelled =>
        rw [result] at ended
        obtain ⟨k, shown, cancelled⟩ := ended
        exact ⟨k, by simp [shown], cancelled⟩
      | waiting =>
        rw [result] at ended
        exact ⟨by simp [ended.1], ended.2⟩

/-- A prompt that ends with its first keyboard did what it promises. -/
theorem HhmmPrompt.faithful_of_one {ended : Prompted HourMinute}
    {invalidHeader shown initial : Text} {typist : Typist} {rest : List Typist}
    (ends : HhmmPrompt.Ends
      ⟨ended, [(hhmmConfig shown initial, typist (hhmmConfig shown initial))], rest⟩) :
    HhmmPrompt.Faithful
      ⟨ended, [(hhmmConfig shown initial, typist (hhmmConfig shown initial))], rest⟩
      invalidHeader shown initial (typist :: rest) where
  answers := ⟨[typist], rfl, .cons rfl .nil⟩
  first := by
    intro k head
    rw [List.head?_cons, Option.mem_some_iff] at head
    rw [← head]
  offered := .singleton _
  ends := ends

/-- The prompt does what it promises, however the user answers it with three or four digits or a
cancel. The induction is on the answers to come. -/
theorem faithful_promptHhmmLoop (invalidHeader : Text) : ∀ (shown initial : Text)
    (typists : List Typist), (∀ typist ∈ typists, typist.Plain) →
      (promptHhmmLoop invalidHeader shown initial typists).Faithful invalidHeader shown initial
        typists
  | shown, initial, [], _ => by
    refine ⟨⟨[], rfl, .nil⟩, ?_, .nil, ⟨[], ?_, rfl, rfl⟩⟩
    · intro k head
      cases head
    · intro k member
      cases member
  | shown, initial, typist :: rest, plain => by
    by_cases cancelled : (typist (hhmmConfig shown initial)).Cancelled
    · rw [promptHhmmLoop_of_cancelled _ _ _ _ _ cancelled]
      exact HhmmPrompt.faithful_of_one ⟨[], by simp, _, rfl, cancelled⟩
    · have digits := (plain typist List.mem_cons_self _).resolve_left cancelled
      by_cases time : IsTime (typist (hhmmConfig shown initial)).value
      · obtain ⟨early, late⟩ := time
        have hour : (UInt8.ofNat ((typist (hhmmConfig shown initial)).value / 100)).toNat =
            (typist (hhmmConfig shown initial)).value / 100 :=
          UInt8.toNat_ofNat_of_lt' (by simp only [UInt8.size]; omega)
        have minute : (UInt8.ofNat ((typist (hhmmConfig shown initial)).value % 100)).toNat =
            (typist (hhmmConfig shown initial)).value % 100 :=
          UInt8.toNat_ofNat_of_lt' (by simp only [UInt8.size]; omega)
        rw [promptHhmmLoop_of_time _ _ _ _ _ cancelled digits ⟨early, late⟩]
        exact HhmmPrompt.faithful_of_one
          ⟨[], by simp, _, rfl, cancelled, ⟨early, late⟩, hour, minute⟩
      · have later := faithful_promptHhmmLoop invalidHeader invalidHeader
          (textOfBytes (typist (hhmmConfig shown initial)).typed) rest
          fun typist member => plain typist (List.mem_cons_of_mem _ member)
        rw [promptHhmmLoop_of_rejected _ _ _ _ _ cancelled digits time]
        exact later.cons ⟨cancelled, time⟩

/-! ## Confirming what is offered -/

/-- The bytes of a text that is typed. -/
def bytesOfText (text : Text) : List UInt8 := text.map fun c => UInt8.ofNat c.toNat

/-- A user who confirms the text that is offered. -/
def Typist.confirmOffered : Typist := fun config => ⟨0, 0, bytesOfText config.initialText⟩

/-- Two digits are the bytes of a number below one hundred. -/
theorem bytesOfText_decimalZero {n : Nat} (small : n < 100) :
    bytesOfText (decimalZero 2 n) = [UInt8.ofNat (48 + n / 10), UInt8.ofNat (48 + n % 10)] := by
  have all : ∀ n : Fin 100, bytesOfText (decimalZero 2 n.val) =
      [UInt8.ofNat (48 + n.val / 10), UInt8.ofNat (48 + n.val % 10)] := by
    decide +kernel
  exact all ⟨n, small⟩

/-- The text of a time is four digits that read as the time. -/
theorem digits_hhmmText {time : HourMinute} (hour : time.hour.toNat ≤ 23)
    (minute : time.minute.toNat ≤ 59) (config : SwkbdConfig)
    (offered : config.initialText = hhmmText time) :
    (Typist.confirmOffered config).Digits ∧
      (Typist.confirmOffered config).value = 100 * time.hour.toNat + time.minute.toNat := by
  have typed : (Typist.confirmOffered config).typed =
      [UInt8.ofNat (48 + time.hour.toNat / 10), UInt8.ofNat (48 + time.hour.toNat % 10),
        UInt8.ofNat (48 + time.minute.toNat / 10), UInt8.ofNat (48 + time.minute.toNat % 10)] := by
    change bytesOfText config.initialText = _
    rw [offered]
    unfold hhmmText bytesOfText
    rw [List.map_append]
    have first := bytesOfText_decimalZero (n := time.hour.toNat) (by omega)
    have second := bytesOfText_decimalZero (n := time.minute.toNat) (by omega)
    unfold bytesOfText at first second
    rw [first, second]
    rfl
  have digit : ∀ d, d < 10 → (UInt8.ofNat (48 + d)).toNat = 48 + d := fun d small =>
    UInt8.toNat_ofNat_of_lt' (by simp only [UInt8.size]; omega)
  have tens := digit (time.hour.toNat / 10) (by omega)
  have ones := digit (time.hour.toNat % 10) (by omega)
  have tens' := digit (time.minute.toNat / 10) (by omega)
  have ones' := digit (time.minute.toNat % 10) (by omega)
  refine ⟨⟨?_, ?_⟩, ?_⟩
  · rw [typed]
    exact ⟨by simp, by simp⟩
  · intro byte member
    rw [typed] at member
    rw [isDigit_iff]
    simp only [List.mem_cons, List.not_mem_nil, or_false] at member
    rcases member with rfl | rfl | rfl | rfl <;> omega
  · unfold Swkbd.value digitsValue
    rw [typed]
    simp only [List.foldl_cons, List.foldl_nil, tens, ones, tens', ones']
    omega

/-- A time that is offered and confirmed as it stands is returned. -/
theorem promptHhmm_confirmOffered (header invalidHeader : Text) (time : HourMinute)
    (hour : time.hour.toNat ≤ 23) (minute : time.minute.toNat ≤ 59) (rest : List Typist) :
    promptHhmm header invalidHeader time (.confirmOffered :: rest) =
      ⟨.yielded time, [(hhmmConfig header (hhmmText time),
        Typist.confirmOffered (hhmmConfig header (hhmmText time)))], rest⟩ := by
  have confirmed : ¬(Typist.confirmOffered (hhmmConfig header (hhmmText time))).Cancelled := by
    rintro (failed | failed)
    · exact failed rfl
    · exact failed rfl
  obtain ⟨digits, value⟩ := digits_hhmmText hour minute (hhmmConfig header (hhmmText time)) rfl
  have early : (100 * time.hour.toNat + time.minute.toNat) / 100 = time.hour.toNat := by omega
  have late : (100 * time.hour.toNat + time.minute.toNat) % 100 = time.minute.toNat := by omega
  have isTime : IsTime (Typist.confirmOffered (hhmmConfig header (hhmmText time))).value := by
    rw [value]
    exact ⟨by omega, by omega⟩
  unfold promptHhmm
  rw [promptHhmmLoop_of_time _ _ _ _ _ confirmed digits isTime, value, early, late,
    UInt8.ofNat_toNat, UInt8.ofNat_toNat]

end PctlManager
