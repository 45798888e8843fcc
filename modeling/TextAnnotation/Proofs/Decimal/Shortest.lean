import TextAnnotation.Decimal.Shortest
import Mathlib.Algebra.Order.Ring.Nat
import Mathlib.Data.List.DropRight
import Mathlib.Tactic.Positivity
import Mathlib.Tactic.Ring

/-!
# The digits of the shortest decimal

The digits that are searched for are those of a number that is not zero, because no place above the leading
one is ever tried. So there is at least one digit, and the first one is no zero.

* `digits_head_ne_zero`, `pow_length_digits_le`: the decimal digits of a natural number.
* `pow_magnitude_le`: the power of ten of the leading digit does not exceed the number.
* `sound_shortest`: the digits that are found.
-/

namespace TextAnnotation

/-! ## Digits of natural numbers -/

namespace Text

theorem isDigit_of_mem_digits {n : Nat} {c : Char} (h : c ∈ digits n) : c.isDigit = true :=
  Nat.isDigit_of_mem_toDigits (by omega) (by omega) h

theorem digits_ne_nil (n : Nat) : digits n ≠ [] :=
  Nat.toDigits_ne_nil

theorem digits_head_ne_zero {n : Nat} (h : 0 < n) : ∃ c cs, digits n = c :: cs ∧ c ≠ '0' := by
  induction n using Nat.strongRecOn with
  | ind n ih =>
    by_cases hsmall : n < 10
    · refine ⟨n.digitChar, [], Nat.toDigits_of_lt_base hsmall, fun hzero => ?_⟩
      have := Nat.digitChar_eq_zero.mp hzero
      omega
    · obtain ⟨c, cs, hdigits, hc⟩ := ih (n / 10) (by omega) (by omega)
      refine ⟨c, cs ++ [(n % 10).digitChar], ?_, hc⟩
      unfold digits at hdigits ⊢
      rw [Nat.toDigits_of_base_le (by omega) (by omega), hdigits, List.cons_append]

theorem lt_pow_length_digits (n : Nat) : n < 10 ^ (digits n).length :=
  (Nat.length_toDigits_le_iff (by omega) Nat.length_toDigits_pos).mp (Nat.le_refl _)

theorem pow_length_digits_le {n : Nat} (h : 0 < n) : 10 ^ ((digits n).length - 1) ≤ n := by
  by_cases hone : (digits n).length ≤ 1
  · have hzero : (digits n).length - 1 = 0 := by omega
    rw [hzero, pow_zero]
    exact h
  · have hiff := Nat.length_toDigits_le_iff (b := 10) (n := n) (k := (digits n).length - 1) (by omega)
      (by omega)
    by_contra hlt
    have hle := hiff.mpr (Nat.lt_of_not_le hlt)
    unfold digits at hle hone
    omega

end Text

namespace Decimal

/-! ## The leading place -/

theorem pow_magnitude_le {b : Binary} (hb : 0 < b.mantissa) {g : Int} (hg : g ≤ magnitude b) :
    10 ^ above g * 2 ^ below b.exponent ≤ b.mantissa * 2 ^ above b.exponent * 10 ^ below g := by
  have hnum : 0 < b.mantissa * 2 ^ above b.exponent := Nat.mul_pos hb (by positivity)
  have hden : 0 < 2 ^ below b.exponent := by positivity
  unfold magnitude at hg
  simp only [Nat.pow_eq] at hg
  generalize b.mantissa * 2 ^ above b.exponent = num at hg hnum ⊢
  generalize 2 ^ below b.exponent = den at hg hden ⊢
  split at hg
  · next hle =>
    have hquotient : 0 < num / den := Nat.div_pos hle hden
    have hpow := Text.pow_length_digits_le hquotient
    have hg' : above g ≤ (Text.digits (num / den)).length - 1 := by
      unfold above
      omega
    calc 10 ^ above g * den
        ≤ 10 ^ ((Text.digits (num / den)).length - 1) * den :=
          Nat.mul_le_mul_right den (Nat.pow_le_pow_right (by omega) hg')
      _ ≤ num / den * den := Nat.mul_le_mul_right den hpow
      _ ≤ num := Nat.div_mul_le_self num den
      _ ≤ num * 10 ^ below g := Nat.le_mul_of_pos_right num (by positivity)
  · have hpow := Text.lt_pow_length_digits ((den - 1) / num)
    rw [Nat.div_lt_iff_lt_mul hnum] at hpow
    have hlength : 0 < (Text.digits ((den - 1) / num)).length := Nat.length_toDigits_pos
    have habove : above g = 0 := by
      unfold above
      omega
    have hbelow : (Text.digits ((den - 1) / num)).length ≤ below g := by
      unfold below
      omega
    rw [habove, pow_zero, one_mul]
    calc den ≤ 10 ^ (Text.digits ((den - 1) / num)).length * num := by omega
      _ ≤ 10 ^ below g * num := Nat.mul_le_mul_right num (Nat.pow_le_pow_right (by omega) hbelow)
      _ = num * 10 ^ below g := Nat.mul_comm _ _

/-- In every place up to the leading one, at least one unit of that place fits into the number. -/
theorem step_le_value {b : Binary} (hb : 0 < b.mantissa) {g : Int} (hg : g ≤ magnitude b) :
    10 ^ above g * 2 ^ below (b.exponent - 2) ≤
      4 * b.mantissa * (10 ^ below g * 2 ^ above (b.exponent - 2)) := by
  have hle := pow_magnitude_le hb hg
  have hexponents : above (b.exponent - 2) + 2 + below b.exponent =
      above b.exponent + below (b.exponent - 2) := by
    unfold above below
    omega
  have hpowers : 2 ^ above (b.exponent - 2) * 4 * 2 ^ below b.exponent =
      2 ^ above b.exponent * 2 ^ below (b.exponent - 2) := by
    rw [← pow_add, ← hexponents, pow_add, pow_add]
    rfl
  refine Nat.le_of_mul_le_mul_right (c := 2 ^ below b.exponent) ?_ (by positivity)
  calc 10 ^ above g * 2 ^ below (b.exponent - 2) * 2 ^ below b.exponent
      = 10 ^ above g * 2 ^ below b.exponent * 2 ^ below (b.exponent - 2) := by ring
    _ ≤ b.mantissa * 2 ^ above b.exponent * 10 ^ below g * 2 ^ below (b.exponent - 2) :=
        Nat.mul_le_mul_right _ hle
    _ = b.mantissa * 10 ^ below g * (2 ^ above b.exponent * 2 ^ below (b.exponent - 2)) := by ring
    _ = b.mantissa * 10 ^ below g * (2 ^ above (b.exponent - 2) * 4 * 2 ^ below b.exponent) := by
        rw [hpowers]
    _ = 4 * b.mantissa * (10 ^ below g * 2 ^ above (b.exponent - 2)) * 2 ^ below b.exponent := by ring

theorem nearest?_pos {b : Binary} (hb : 0 < b.mantissa) {g : Int} (hg : g ≤ magnitude b) {d : Nat}
    (h : nearest? b g = some d) : 0 < d := by
  have hle := step_le_value hb hg
  have hstep : 0 < 10 ^ above g * 2 ^ below (b.exponent - 2) := by positivity
  have hquotient := Nat.div_pos hle hstep
  unfold nearest? at h
  simp only [Nat.pow_eq] at h
  generalize 4 * b.mantissa * (10 ^ below g * 2 ^ above (b.exponent - 2)) /
    (10 ^ above g * 2 ^ below (b.exponent - 2)) = q at h hquotient
  split at h
  · cases h
  · cases h; exact hquotient
  · cases h; omega
  · split at h
    · cases h; exact hquotient
    · split at h
      · cases h; omega
      · split at h <;> cases h <;> omega

/-! ## The digits that are found -/

/-- There is a digit, and the first one is no zero, but for zero itself. -/
structure Scientific.Sound (s : Scientific) : Prop where
  digits : ∀ c ∈ s.digits, c.isDigit = true
  head : (∃ d ds, s.digits = d :: ds ∧ d ≠ '0') ∨ s.digits = ['0'] ∧ s.exponent = 0

/-- Zeros at the end are dropped; the first digit stays. -/
theorem sound_of_nonzero {n : Nat} (h : 0 < n) (exponent : Int) :
    Scientific.Sound ⟨((Text.digits n).reverse.dropWhile (· == '0')).reverse, exponent⟩ := by
  obtain ⟨c, cs, hdigits, hc⟩ := Text.digits_head_ne_zero h
  have hkept : (Text.digits n).rdropWhile (· == '0') <+: Text.digits n := List.rdropWhile_prefix _ _
  have hne : (Text.digits n).rdropWhile (· == '0') ≠ [] := by
    intro hnil
    have hall := List.rdropWhile_eq_nil_iff.mp hnil c (by rw [hdigits]; exact List.mem_cons_self)
    exact hc (by simpa using hall)
  obtain ⟨d, ds, hds⟩ := List.exists_cons_of_ne_nil hne
  refine ⟨fun x hx => Text.isDigit_of_mem_digits (hkept.subset hx), Or.inl ⟨d, ds, hds, ?_⟩⟩
  rw [hds, hdigits, List.cons_prefix_cons] at hkept
  rw [hkept.1]
  exact hc

theorem sound_search {b : Binary} (hb : 0 < b.mantissa) (count tries : Nat) (hcount : 0 < count) :
    (search b (magnitude b) count tries).Sound := by
  induction tries generalizing count with
  | zero => exact ⟨by simp [search], Or.inr ⟨rfl, rfl⟩⟩
  | succ tries ih =>
    rw [search]
    cases hnearest : nearest? b (magnitude b - count + 1) with
    | none => exact ih (count + 1) (by omega)
    | some d => exact sound_of_nonzero (nearest?_pos hb (by omega) hnearest) _

theorem sound_shortest {b : Binary} (hb : 0 < b.mantissa) : (shortest b).Sound :=
  sound_search hb 1 20 (by omega)

end Decimal

end TextAnnotation
