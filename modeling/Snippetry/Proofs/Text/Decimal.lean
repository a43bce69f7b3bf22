import Mathlib.Data.List.TakeWhile
import Snippetry.Text.Basic

/-! # Decimal numerals and the numbers they stand for -/
namespace Snippetry.Text

/-- Decimal digits, and the number they make when they are read from the left. -/
structure Decimal (t : Text) (n : Nat) : Prop where
  nonempty : t ≠ []
  digits : ∀ c ∈ t, c.isDigit = true
  value : Nat.ofDigitChars 10 t 0 = n

/-- A number as users write it, with one plus sign or without. -/
inductive Numeral : Text → Nat → Prop
  | unsigned {t : Text} {n : Nat} (h : Decimal t n) : Numeral t n
  | signed {t : Text} {n : Nat} (h : Decimal t n) : Numeral ('+' :: t) n

def OnlyZeros (t : Text) : Prop :=
  ∃ n, t = List.replicate (n + 1) '0' ∨ t = '+' :: List.replicate (n + 1) '0'

variable {t : Text} {n most : Nat} {c : Char}

/-! ## Reading digits -/

theorem isDigit_iff : c.isDigit = true ↔ '0' ≤ c ∧ c ≤ '9' := by
  simp only [Char.isDigit, Bool.and_eq_true, decide_eq_true_eq]
  rfl

theorem digit?_of_isDigit (h : c.isDigit = true) : digit? c = some (c.toNat - '0'.toNat) := by
  rw [digit?, if_pos (isDigit_iff.mp h)]

theorem digit?_of_not_isDigit (h : ¬ c.isDigit = true) : digit? c = none := by
  rw [digit?, if_neg (mt isDigit_iff.mpr h)]

def appendDigit (acc : Option Nat) (c : Char) : Option Nat := do pure (10 * (← acc) + (← digit? c))

theorem foldl_appendDigit_none (t : Text) : t.foldl appendDigit none = none := by
  induction t with
  | nil => rfl
  | cons c t ih => exact ih

theorem foldl_appendDigit_eq_some_iff (acc : Nat) : t.foldl appendDigit (some acc) = some n ↔
    (∀ c ∈ t, c.isDigit = true) ∧ Nat.ofDigitChars 10 t acc = n := by
  induction t generalizing acc with
  | nil => simp [Nat.ofDigitChars_nil]
  | cons c t ih =>
    rw [List.foldl_cons, Nat.ofDigitChars_cons, List.forall_mem_cons]
    by_cases hc : c.isDigit = true
    · have hstep : appendDigit (some acc) c = some (10 * acc + (c.toNat - '0'.toNat)) := by
        simp [appendDigit, digit?_of_isDigit hc]
      rw [hstep, ih]
      simp [hc]
    · have hstep : appendDigit (some acc) c = none := by
        simp [appendDigit, digit?_of_not_isDigit hc]
      rw [hstep, foldl_appendDigit_none]
      simp [hc]

theorem toNat?_eq_some_iff : toNat? t = some n ↔ Decimal t n := by
  have hfold : toNat? t = if t = [] then none else t.foldl appendDigit (some 0) := rfl
  rw [hfold]
  constructor
  · intro h
    split at h
    · cases h
    · next hn =>
      obtain ⟨hdigits, hvalue⟩ := (foldl_appendDigit_eq_some_iff 0).mp h
      exact ⟨hn, hdigits, hvalue⟩
  · intro h
    rw [if_neg h.nonempty]
    exact (foldl_appendDigit_eq_some_iff 0).mpr ⟨h.digits, h.value⟩

theorem not_decimal_plus (t : Text) (n : Nat) : ¬ Decimal ('+' :: t) n := by
  intro h
  exact absurd (h.digits '+' List.mem_cons_self) (by decide)

theorem toBounded?_plus (most : Nat) (t : Text) :
    toBounded? most ('+' :: t) = (toNat? t).filter fun n => n ≤ most := by
  cases h : toNat? t <;> simp [toBounded?, h, Option.filter]

theorem toBounded?_of_no_plus (most : Nat) (h : ∀ rest, t ≠ '+' :: rest) :
    toBounded? most t = (toNat? t).filter fun n => n ≤ most := by
  unfold toBounded?
  split
  · exact absurd rfl (h _)
  · cases ht : toNat? t <;> simp [ht, Option.filter]

/-- What is read are numerals, and of those the ones that are not too large. -/
theorem toBounded?_eq_some_iff : toBounded? most t = some n ↔ Numeral t n ∧ n ≤ most := by
  have hread (digits : Text) : ((toNat? digits).filter fun n => n ≤ most) = some n ↔
      Decimal digits n ∧ n ≤ most := by
    rw [Option.filter_eq_some_iff, toNat?_eq_some_iff, decide_eq_true_eq]
  by_cases hplus : ∃ rest, t = '+' :: rest
  · obtain ⟨rest, rfl⟩ := hplus
    rw [toBounded?_plus, hread]
    refine and_congr_left fun _ => ⟨.signed, fun h => ?_⟩
    cases h with
    | unsigned h => exact absurd h (not_decimal_plus rest n)
    | signed h => exact h
  · rw [toBounded?_of_no_plus most (not_exists.mp hplus), hread]
    refine and_congr_left fun _ => ⟨.unsigned, fun h => ?_⟩
    cases h with
    | unsigned h => exact h
    | signed h => exact absurd ⟨_, rfl⟩ hplus

theorem toBounded?_eq_none_iff : toBounded? most t = none ↔ ∀ n ≤ most, ¬ Numeral t n := by
  rw [Option.eq_none_iff_forall_ne_some]
  constructor
  · intro h n hle hnumeral
    exact h n (toBounded?_eq_some_iff.mpr ⟨hnumeral, hle⟩)
  · intro h n hread
    obtain ⟨hnumeral, hle⟩ := toBounded?_eq_some_iff.mp hread
    exact h n hle hnumeral

theorem Numeral.unique {n' : Nat} (h : Numeral t n) (h' : Numeral t n') : n = n' := by
  have hread := toBounded?_eq_some_iff.mpr ⟨h, n.le_max_left n'⟩
  have hread' := toBounded?_eq_some_iff.mpr ⟨h', n.le_max_right n'⟩
  exact Option.some.inj (hread.symm.trans hread')

/-! ## Zero -/

theorem ofDigitChars_eq_zero_iff (hd : ∀ c ∈ t, c.isDigit = true) (acc : Nat) :
    Nat.ofDigitChars 10 t acc = 0 ↔ acc = 0 ∧ ∀ c ∈ t, c = '0' := by
  induction t generalizing acc with
  | nil => simp [Nat.ofDigitChars_nil]
  | cons c t ih =>
    obtain ⟨hc, ht⟩ := List.forall_mem_cons.mp hd
    have hrange : '0'.toNat ≤ c.toNat := (isDigit_iff.mp hc).1
    have hzero : c.toNat - '0'.toNat = 0 ↔ c = '0' := by
      constructor
      · intro h
        exact Char.toNat_inj.mp (by omega)
      · rintro rfl
        rfl
    rw [Nat.ofDigitChars_cons, ih ht, List.forall_mem_cons, ← hzero, ← and_assoc]
    refine and_congr_left fun _ => ?_
    omega

theorem decimal_zero_iff : Decimal t 0 ↔ ∃ n, t = List.replicate (n + 1) '0' := by
  constructor
  · intro h
    obtain ⟨-, hzeros⟩ := (ofDigitChars_eq_zero_iff h.digits 0).mp h.value
    have hlength : 0 < t.length := List.length_pos_iff.mpr h.nonempty
    refine ⟨t.length - 1, List.eq_replicate_iff.mpr ⟨by omega, hzeros⟩⟩
  · rintro ⟨n, rfl⟩
    constructor
    · simp
    · intro c hc
      rw [List.eq_of_mem_replicate hc]
      rfl
    · rw [Nat.ofDigitChars_replicate_zero, Nat.mul_zero]

theorem numeral_zero_iff : Numeral t 0 ↔ OnlyZeros t := by
  constructor
  · intro h
    cases h with
    | unsigned h =>
      obtain ⟨n, rfl⟩ := decimal_zero_iff.mp h
      exact ⟨n, .inl rfl⟩
    | signed h =>
      obtain ⟨n, rfl⟩ := decimal_zero_iff.mp h
      exact ⟨n, .inr rfl⟩
  · rintro ⟨n, rfl | rfl⟩
    · exact .unsigned (decimal_zero_iff.mpr ⟨n, rfl⟩)
    · exact .signed (decimal_zero_iff.mpr ⟨n, rfl⟩)

/-! ## Writing -/

theorem decimal_ofNat (n : Nat) : Decimal (ofNat n) n where
  nonempty := Nat.toDigits_ne_nil
  digits _ hc := Nat.isDigit_of_mem_toDigits (by decide) (by decide) hc
  value := Nat.ofDigitChars_ten_toDigits

end Snippetry.Text
