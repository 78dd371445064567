import Mathlib.Data.List.TakeWhile

/-!
# Decimal numbers in texts

Characters are their codes. A number is a list of digits and `value` what it stands for; `leading`
is the longest list of digits a text begins with, which a text that goes on with something else
does not change (`leading_append`), and `number` what they stand for where it is in range.
`splitFirst` parts a text at a character.
-/

namespace Decimal

/-- The code of a decimal digit. -/
def IsDigit (c : Nat) : Prop := 48 ≤ c ∧ c ≤ 57

instance (c : Nat) : Decidable (IsDigit c) := inferInstanceAs (Decidable (_ ∧ _))

/-- The number that digits stand for. -/
def value (digits : List Nat) : Nat := digits.foldl (fun n c => 10 * n + (c - 48)) 0

/-- The digits at the start of a text. -/
def leading (text : List Nat) : List Nat := text.takeWhile fun c => IsDigit c

/-- The number at the start of a text, if there is one and it is not above `limit`. -/
def number (limit : Nat) (text : List Nat) : Option Nat :=
  let digits := leading text
  if digits = [] then none
  else if limit < value digits then none
  else some (value digits)

/-- The text before and after the first `c`. -/
def splitFirst {α : Type*} [DecidableEq α] (c : α) (text : List α) : Option (List α × List α) :=
  match text.dropWhile (· ≠ c) with
  | [] => none
  | _ :: rest => some (text.takeWhile (· ≠ c), rest)

variable {text rest : List Nat} {c : Nat}

theorem leading_eq_self (h : ∀ c ∈ text, IsDigit c) : leading text = text :=
  List.takeWhile_eq_self_iff.mpr fun c hc => decide_eq_true (h c hc)

theorem leading_cons (h : IsDigit c) : leading (c :: text) = c :: leading text :=
  List.takeWhile_cons_of_pos (p := fun c => IsDigit c) (decide_eq_true h)

theorem leading_cons_of_not (h : ¬ IsDigit c) : leading (c :: text) = [] :=
  List.takeWhile_cons_of_neg (p := fun c => IsDigit c) (by simpa using h)

/-- Digits are the leading ones of a text that does not go on with a digit. -/
theorem leading_append (h : ∀ c ∈ text, IsDigit c) (hrest : ∀ c ∈ rest.head?, ¬ IsDigit c) :
    leading (text ++ rest) = text := by
  induction text with
  | nil =>
    cases rest with
    | nil => rfl
    | cons c rest => exact leading_cons_of_not (hrest c rfl)
  | cons c text ih =>
    rw [List.cons_append, leading_cons (h c List.mem_cons_self),
      ih fun d hd => h d (List.mem_cons_of_mem _ hd)]

/-- A text begins with digits when its first character is one. -/
theorem leading_ne_nil : leading text ≠ [] ↔ ∃ c ∈ text.head?, IsDigit c := by
  cases text with
  | nil => simp [leading]
  | cons c text =>
    simp only [List.head?_cons, Option.mem_some_iff, exists_eq_left']
    constructor
    · intro hne
      by_contra hc
      exact hne (leading_cons_of_not hc)
    · intro hc
      rw [leading_cons hc]
      exact List.cons_ne_nil _ _

theorem number_eq_some {limit n : Nat} :
    number limit text = some n ↔ leading text ≠ [] ∧ value (leading text) = n ∧ n ≤ limit := by
  unfold number
  dsimp only
  split
  · next hnil => exact iff_of_false nofun fun h => h.1 hnil
  · next hdigits =>
    split
    · next hlarge => exact iff_of_false nofun fun h => by omega
    · next hsmall =>
      rw [Option.some.injEq]
      constructor
      · rintro rfl
        exact ⟨hdigits, rfl, Nat.le_of_not_lt hsmall⟩
      · exact fun h => h.2.1

/-- A text is parted at the first of the characters. -/
theorem splitFirst_eq_some {α : Type*} [DecidableEq α] {c : α} {text before after : List α} :
    splitFirst c text = some (before, after) ↔ text = before ++ c :: after ∧ c ∉ before := by
  constructor
  · intro h
    have hparts := List.takeWhile_append_dropWhile (p := fun d : α => decide (d ≠ c)) (l := text)
    unfold splitFirst at h
    split at h
    · cases h
    · next d tail hdrop =>
      cases h
      have hd : d = c := by
        have hhead := List.head?_dropWhile_not (fun d : α => decide (d ≠ c)) text
        rw [hdrop] at hhead
        simpa using hhead
      rw [hdrop, hd] at hparts
      refine ⟨hparts.symm, fun hmem => ?_⟩
      have hc := List.mem_takeWhile_imp hmem
      exact of_decide_eq_true hc rfl
  · rintro ⟨rfl, hbefore⟩
    have hall : ∀ d ∈ before, decide (d ≠ c) = true := fun d hd =>
      decide_eq_true fun heq => hbefore (heq ▸ hd)
    rw [splitFirst, List.dropWhile_append_of_pos hall, List.takeWhile_append_of_pos hall]
    simp

end Decimal
