import Framelink.Text.Digits
import Mathlib.Data.Nat.Digits.Defs

/-!
# Numerals are read back

A number written in the digits of a base is read back from the front of a text, whatever
stands behind it, as long as that is no digit.  A written numeral is one digit, or the
numeral of a smaller number with a digit behind it: this is the induction that all of its
properties follow from.  Where texts stand in a row, a mark comes before each but the first.
-/

namespace Framelink

/-- Texts in a row are the first of them and each other one behind a mark. -/
theorem toList_intercalate (mark text : String) (texts : List String) :
    (String.intercalate mark (text :: texts)).toList =
      text.toList ++ texts.flatMap fun next => mark.toList ++ next.toList := by
  induction texts generalizing text with
  | nil => simp
  | cons next texts inductionHypothesis =>
      rw [String.intercalate_cons_cons, String.toList_append, String.toList_append,
        inductionHypothesis, List.flatMap_cons, List.append_assoc, List.append_assoc]

namespace Digits

/-! ## Digits -/

/-- Whether a character is a digit of a base. -/
def isDigit (base : Nat) (character : Char) : Bool := (value? base character).isSome

/-- The digits of base ten are those between `0` and `9`: no letter counts below ten. -/
theorem isDigit_ten : isDigit 10 = Char.isDigit := by
  funext character
  have plain : character.isDigit = true ↔ 48 ≤ character.toNat ∧ character.toNat ≤ 57 := by
    simp [Char.isDigit, UInt32.le_iff_toNat_le]
  have known : isDigit 10 character = true ↔ 48 ≤ character.toNat ∧ character.toNat ≤ 57 := by
    simp only [isDigit, value?, Option.isSome_iff_exists, Option.filter_eq_some_iff,
      decide_eq_true_eq]
    constructor
    · rintro ⟨value, found, small⟩
      split at found
      · next inside => exact inside
      · split at found
        · simp only [Option.some.injEq] at found
          omega
        · simp only [Option.ite_none_right_eq_some, Option.some.injEq] at found
          omega
    · intro inside
      exact ⟨character.toNat - 48, by rw [if_pos inside], by omega⟩
  rw [Bool.eq_iff_iff, plain, known]

/-- A text goes on with no digit of a base. -/
def Stops (base : Nat) (text : List Char) : Prop :=
  ∀ character ∈ text.head?, isDigit base character = false

theorem stops_nil (base : Nat) : Stops base [] := fun _ none => nomatch none

theorem stops_cons {base : Nat} {character : Char} (other : isDigit base character = false)
    (text : List Char) : Stops base (character :: text) := by
  rintro _ ⟨⟩
  exact other

theorem value?_digitChar {base digit : Nat} (small : digit < base) (known : base ≤ 16) :
    value? base digit.digitChar = some digit := by
  have plain : ∀ digit < 16, value? 16 digit.digitChar = some digit := by decide
  have found := plain digit (by omega)
  rw [value?, Option.filter_eq_some_iff] at found ⊢
  exact ⟨found.1, by simpa using small⟩

theorem isDigit_digitChar {base digit : Nat} (small : digit < base) (known : base ≤ 16) :
    isDigit base digit.digitChar = true := by
  rw [isDigit, value?_digitChar small known]
  rfl

theorem fold_concat (base : Nat) (digits : List Char) (digit : Char) :
    fold base (digits ++ [digit]) = fold base digits * base + (value? base digit).getD 0 := by
  rw [fold, List.foldl_append, ← fold]
  rfl

/-! ## Written numerals -/

/-- What holds of single digits, and of a numeral with a digit behind it if it holds of the
numeral, holds of all written numerals. -/
theorem toDigits_induction {base : Nat} (enough : 1 < base) {motive : Nat → List Char → Prop}
    (single : ∀ number < base, motive number [number.digitChar])
    (further : ∀ number, base ≤ number →
      motive (number / base) (Nat.toDigits base (number / base)) →
      motive number (Nat.toDigits base (number / base) ++ [(number % base).digitChar]))
    (number : Nat) : motive number (Nat.toDigits base number) := by
  induction number using Nat.strongRecOn with
  | ind number inductionHypothesis =>
      rw [Nat.toDigits_eq_if enough]
      split
      · next small => exact single number small
      · next large =>
          have positive : 0 < number := by omega
          exact further number (Nat.le_of_not_lt large)
            (inductionHypothesis _ (Nat.div_lt_self positive enough))

variable {base : Nat}

theorem fold_toDigits (enough : 1 < base) (known : base ≤ 16) (number : Nat) :
    fold base (Nat.toDigits base number) = number := by
  induction number using toDigits_induction enough with
  | single number small => simp [fold, value?_digitChar small known]
  | further number _ inductionHypothesis =>
      have inside : number % base < base := Nat.mod_lt _ (by omega)
      rw [fold_concat, inductionHypothesis, value?_digitChar inside known, Option.getD_some,
        Nat.div_add_mod']

theorem isDigit_toDigits (enough : 1 < base) (known : base ≤ 16) (number : Nat) :
    ∀ character ∈ Nat.toDigits base number, isDigit base character = true := by
  induction number using toDigits_induction enough with
  | single number small => simpa using isDigit_digitChar small known
  | further number _ inductionHypothesis =>
      have inside : number % base < base := Nat.mod_lt _ (by omega)
      rw [List.forall_mem_append, List.forall_mem_singleton]
      exact ⟨inductionHypothesis, isDigit_digitChar inside known⟩

/-- Only the numeral of zero begins with a zero. -/
theorem head?_toDigits (enough : 1 < base) (known : base ≤ 16) (number : Nat)
    (positive : 0 < number) : (Nat.toDigits base number).head? ≠ some '0' := by
  induction number using toDigits_induction enough with
  | single number small =>
      intro zero
      have value := value?_digitChar small known
      rw [Option.some.inj zero, value?, Option.filter_eq_some_iff] at value
      exact positive.ne (Option.some.inj value.1)
  | further number large inductionHypothesis =>
      obtain ⟨first, others, parts⟩ := List.exists_cons_of_ne_nil
        (Nat.toDigits_ne_nil (n := number / base) (b := base))
      have leads := inductionHypothesis (Nat.div_pos large (by omega))
      rw [parts] at leads ⊢
      exact leads

/-! ## Reading them -/

/-- Digits end where a text goes on with none. -/
theorem takeWhile_digits {digits rest : List Char}
    (all : ∀ character ∈ digits, isDigit base character = true) (stops : Stops base rest) :
    (digits ++ rest).takeWhile (isDigit base) = digits := by
  rw [List.takeWhile_append_of_pos all]
  cases rest with
  | nil => rw [List.takeWhile_nil, List.append_nil]
  | cons character rest =>
      rw [List.takeWhile_cons_of_neg (by simp [stops character rfl]), List.append_nil]

theorem dropWhile_digits {digits rest : List Char}
    (all : ∀ character ∈ digits, isDigit base character = true) (stops : Stops base rest) :
    (digits ++ rest).dropWhile (isDigit base) = rest := by
  rw [List.dropWhile_append_of_pos all]
  cases rest with
  | nil => rfl
  | cons character rest => rw [List.dropWhile_cons_of_neg (by simp [stops character rfl])]

/-- A numeral that is read takes every digit at the front of the text. -/
theorem rest_of_read {form : Form} {text rest : List Char} {value : Nat}
    (found : read form text = some (value, rest)) :
    rest = text.dropWhile (isDigit form.base) := by
  simp only [read, Option.ite_none_left_eq_some, Option.some.injEq, Prod.mk.injEq] at found
  exact found.2.2.2.2.2.symm

/-- A numeral begins with a digit. -/
theorem read_eq_none {form : Form} {text : List Char} (stops : Stops form.base text) :
    read form text = none := by
  have nothing : ([] ++ text).takeWhile (isDigit form.base) = [] :=
    takeWhile_digits (fun _ none => nomatch none) stops
  unfold isDigit at nothing
  rw [List.nil_append] at nothing
  simp [read, nothing]

/-- A written numeral is read back if it is not too long and its value is not too great. -/
theorem read_toDigits (form : Form) (number : Nat) {rest : List Char}
    (enough : 1 < form.base) (known : form.base ≤ 16) (bounded : number < form.bound)
    (narrow : ∀ width ∈ form.width, 0 < width ∧ number < form.base ^ width)
    (stops : Stops form.base rest) :
    read form (Nat.toDigits form.base number ++ rest) = some (number, rest) := by
  have digits := takeWhile_digits (isDigit_toDigits enough known number) stops
  have behind := dropWhile_digits (isDigit_toDigits enough known number) stops
  have present : (Nat.toDigits form.base number).isEmpty = false := by
    rw [List.isEmpty_eq_false_iff]
    exact Nat.toDigits_ne_nil
  have short : (form.width.map
      (decide <| · < (Nat.toDigits form.base number).length)).getD false = false := by
    cases limit : form.width with
    | none => rfl
    | some width =>
        obtain ⟨positive, small⟩ := narrow width limit
        have length := Nat.toDigits_length form.base number width positive small
        simpa using length
  have plain : ((Nat.toDigits form.base number).head? == some '0' &&
      decide (1 < (Nat.toDigits form.base number).length)) = false := by
    by_cases zero : number = 0
    · simp [zero]
    · have leads := head?_toDigits enough known number (Nat.pos_of_ne_zero zero)
      simp [leads]
  unfold isDigit at digits behind
  simp only [read, digits, behind, present, short, Bool.and_assoc, plain, Bool.and_false,
    fold_toDigits enough known, Bool.false_eq_true, if_false, if_neg (Nat.not_le_of_lt bounded)]

end Digits
end Framelink
