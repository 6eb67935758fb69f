import Mathlib.Data.List.Basic
import Mathlib.Logic.Function.Basic

/-!
# Printed values that can be told apart

A printer `Tells` its values apart if what it prints determines the value and where it ends,
whatever is printed behind it, as long as that meets a condition: a number is over where
something else than a digit follows. There is one rule for each way to put printers together.
Numbers are told apart because they can be read back, leading zeros or not.
-/

namespace PctlManager.Format

variable {χ α β ι : Type}

/-- What is printed determines the value and where it ends, if what follows is as it should. -/
def Tells (follow : List χ → Prop) (print : α → List χ) : Prop :=
  ∀ ⦃a b : α⦄ ⦃s t : List χ⦄, follow s → follow t → print a ++ s = print b ++ t → a = b ∧ s = t

/-- Anything may follow. -/
def anything (_ : List χ) : Prop := True

/-- The text ends, or goes on with something outside of a class of characters. -/
def leaves (inside : χ → Prop) (text : List χ) : Prop := ∀ c ∈ text.head?, ¬inside c

/-- The end of the text leaves every class. -/
theorem leaves_nil (inside : χ → Prop) : leaves inside [] := fun _ missing => by cases missing

/-- A character outside of the class leaves it. -/
theorem leaves_cons {inside : χ → Prop} {c : χ} (outside : ¬inside c) (text : List χ) :
    leaves inside (c :: text) := fun _ first => by
  cases first
  exact outside

namespace Tells

variable {follow : List χ → Prop} {print : α → List χ} {other : β → List χ}

/-- Values that are printed differently and at one width are told apart. -/
theorem of_width {width : Nat} (wide : ∀ a, (print a).length = width)
    (different : Function.Injective print) : Tells anything print := by
  intro a b s t _ _ same
  obtain ⟨front, rest⟩ := List.append_inj same ((wide a).trans (wide b).symm)
  exact ⟨different front, rest⟩

/-- Values that are printed differently with characters of one class are told apart where the
class is left. -/
theorem of_class {inside : χ → Prop} (plain : ∀ a, ∀ c ∈ print a, inside c)
    (different : Function.Injective print) : Tells (leaves inside) print := by
  have spans (p q s t : List χ) (first : ∀ c ∈ p, inside c) (second : ∀ c ∈ q, inside c)
      (left : leaves inside s) (right : leaves inside t) (same : p ++ s = q ++ t) :
      p = q ∧ s = t := by
    induction p generalizing q with
    | nil =>
      cases q with
      | nil => exact ⟨rfl, same⟩
      | cons c q =>
        have head : c ∈ s.head? := by
          rw [List.nil_append] at same
          rw [same]
          exact rfl
        exact (left c head (second c List.mem_cons_self)).elim
    | cons c p ih =>
      cases q with
      | nil =>
        have head : c ∈ t.head? := by
          rw [List.nil_append] at same
          rw [← same]
          exact rfl
        exact (right c head (first c List.mem_cons_self)).elim
      | cons d q =>
        obtain ⟨rfl, rest⟩ := List.cons_eq_cons.mp same
        obtain ⟨rfl, behind⟩ := ih q (fun c mem => first c (List.mem_cons_of_mem _ mem))
          (fun c mem => second c (List.mem_cons_of_mem _ mem)) rest
        exact ⟨rfl, behind⟩
  intro a b s t left right same
  obtain ⟨front, rest⟩ := spans _ _ s t (plain a) (plain b) left right same
  exact ⟨different front, rest⟩

/-- A text that keeps to a class is told apart where the class is left. -/
theorem texts (inside : χ → Prop) :
    Tells (leaves inside) (Subtype.val : { text : List χ // ∀ c ∈ text, inside c } → List χ) :=
  .of_class (fun text => text.property) Subtype.val_injective

/-- Printing another description of the value changes nothing. -/
theorem comp (tells : Tells follow print) {f : β → α} (different : Function.Injective f) :
    Tells follow fun b => print (f b) := by
  intro a b s t left right same
  obtain ⟨front, rest⟩ := tells left right same
  exact ⟨different front, rest⟩

/-- A fixed text behind the value that ends it lets anything follow. -/
theorem closed (tells : Tells before print) (back : List χ) (ends : ∀ s, before (back ++ s)) :
    Tells anything fun a => print a ++ back := by
  intro a b s t _ _ same
  rw [List.append_assoc, List.append_assoc] at same
  obtain ⟨front, rest⟩ := tells (ends s) (ends t) same
  exact ⟨front, List.append_cancel_left rest⟩

/-- A fixed text in front changes nothing. -/
theorem behind (tells : Tells follow print) (front : List χ) :
    Tells follow fun a => front ++ print a := by
  intro a b s t left right same
  rw [List.append_assoc, List.append_assoc] at same
  exact tells left right (List.append_cancel_left same)

/-- Two printers in a row, if what the second one prints may follow the first one. -/
theorem append (first : Tells before print) (second : Tells follow other)
    (glued : ∀ b s, follow s → before (other b ++ s)) :
    Tells follow fun p : α × β => print p.1 ++ other p.2 := by
  intro p q s t left right same
  rw [List.append_assoc, List.append_assoc] at same
  obtain ⟨front, rest⟩ := first (glued p.2 s left) (glued q.2 t right) same
  obtain ⟨back, behind⟩ := second left right rest
  exact ⟨Prod.ext front back, behind⟩

/-- A row of values under the same keys, if each of them may be followed by the next one. -/
theorem flatMap {parts : ι → α → List χ} (tells : ∀ i, Tells follow (parts i))
    (glued : ∀ i a s, follow (parts i a ++ s)) {f g : ι → α} {s t : List χ} (left : follow s)
    (right : follow t) : ∀ items : List ι,
      items.flatMap (fun i => parts i (f i)) ++ s = items.flatMap (fun i => parts i (g i)) ++ t →
        (∀ i ∈ items, f i = g i) ∧ s = t
  | [], same => ⟨fun _ missing => absurd missing List.not_mem_nil, same⟩
  | i :: items, same => by
    have goes (h : ι → α) (u : List χ) (ends : follow u) :
        follow (items.flatMap (fun j => parts j (h j)) ++ u) := by
      cases items with
      | nil => exact ends
      | cons j items =>
        rw [List.flatMap_cons, List.append_assoc]
        exact glued j (h j) _
    rw [List.flatMap_cons, List.flatMap_cons, List.append_assoc, List.append_assoc] at same
    obtain ⟨first, rest⟩ := tells i (goes f s left) (goes g t right) same
    obtain ⟨others, behind⟩ := flatMap tells glued left right items rest
    refine ⟨fun j mem => ?_, behind⟩
    obtain rfl | later := List.mem_cons.mp mem
    · exact first
    · exact others j later

/-- A list of values of one width that is not zero. -/
theorem list {width : Nat} (tells : Tells anything print)
    (wide : ∀ a, (print a).length = width + 1) : Function.Injective (List.flatMap print) := by
  intro as bs
  induction as generalizing bs with
  | nil =>
    intro same
    cases bs with
    | nil => rfl
    | cons b bs =>
      have size := congrArg List.length same
      rw [List.flatMap_nil, List.length_nil, List.flatMap_cons, List.length_append, wide] at size
      omega
  | cons a as ih =>
    intro same
    cases bs with
    | nil =>
      have size := congrArg List.length same
      rw [List.flatMap_nil, List.length_nil, List.flatMap_cons, List.length_append, wide] at size
      omega
    | cons b bs =>
      rw [List.flatMap_cons, List.flatMap_cons] at same
      obtain ⟨rfl, rest⟩ := tells trivial trivial same
      rw [ih rest]

end Tells

/-! ## Numbers -/

/-- The value of a digit, which may be one of the upper-case letters. -/
def digit (c : Char) : Nat := if c.isDigit then c.toNat - 48 else c.toNat - 55

/-- The number that some digits stand for. -/
def number (base : Nat) (digits : List Char) : Nat :=
  digits.foldl (fun n c => n * base + digit c) 0

/-- Zeros in front do not count. -/
theorem number_zeros (base k : Nat) (digits : List Char) :
    number base (List.replicate k '0' ++ digits) = number base digits := by
  induction k with
  | zero => rfl
  | succ k ih =>
    have first : number base ('0' :: (List.replicate k '0' ++ digits)) =
        number base (List.replicate k '0' ++ digits) := by
      have nothing : 0 * base + digit '0' = 0 := by
        rw [Nat.zero_mul]
        rfl
      unfold number
      rw [List.foldl_cons, nothing]
    rw [List.replicate_succ, List.cons_append, first, ih]

/-- One more digit. -/
theorem number_concat (base : Nat) (digits : List Char) (c : Char) :
    number base (digits ++ [c]) = number base digits * base + digit c := by
  unfold number
  rw [List.foldl_append]
  rfl

/-- The digits of a number stand for the number, in whatever letters. -/
theorem number_toDigits {base : Nat} (proper : 1 < base) {letter : Char → Char}
    (shown : ∀ d, d < base → digit (letter (Nat.digitChar d)) = d) (n : Nat) :
    number base ((Nat.toDigits base n).map letter) = n := by
  induction n using Nat.strongRecOn with
  | ind n ih =>
    rw [Nat.toDigits_eq_if proper]
    split
    · rename_i small
      have single := number_concat base [] (letter n.digitChar)
      rw [List.nil_append, shown n small] at single
      have nothing : number base [] = 0 := rfl
      rw [List.map_singleton, single, nothing, Nat.zero_mul, Nat.zero_add]
    · rename_i large
      have smaller : n / base < n := Nat.div_lt_self (by omega) proper
      have last : digit (letter (n % base).digitChar) = n % base :=
        shown _ (Nat.mod_lt n (by omega))
      rw [List.map_append, List.map_singleton, number_concat, ih _ smaller, last, Nat.mul_comm]
      exact Nat.div_add_mod n base

end PctlManager.Format
