import TextAnnotation.Text.Natural

/-!
# Reading natural numbers

* `Writes`: a text that stands for a number: a plus sign or none, zeros in front, and the digits.
* `readNatural_of_writes`: such a text is read as that number.
-/

namespace TextAnnotation.Text

/-- A text stands for a number in decimal. There may be a plus sign, and any number of zeros behind it. -/
def Writes (n : Nat) (cs : List Char) : Prop :=
  ∃ sign zeros, (sign = [] ∨ sign = ['+']) ∧ cs = sign ++ List.replicate zeros '0' ++ digits n

theorem le_ofDigitChars (cs : List Char) (n : Nat) : n ≤ Nat.ofDigitChars 10 cs n := by
  rw [Nat.ofDigitChars_eq_ofDigitChars_zero]
  calc n ≤ 10 ^ cs.length * n := Nat.le_mul_of_pos_left n (Nat.pow_pos (by omega))
    _ ≤ 10 ^ cs.length * n + Nat.ofDigitChars 10 cs 0 := Nat.le_add_right _ _

theorem digit?_of_isDigit {c : Char} (h : c.isDigit = true) : digit? c = some (c.toNat - '0'.toNat) := by
  rw [digit?, if_pos]
  simpa [Char.isDigit, Char.le_def, UInt32.le_iff_toNat_le] using h

/-- Digits of a number that fits are all read. -/
theorem readDigits_of_lt {cs : List Char} (hcs : ∀ c ∈ cs, c.isDigit = true) {n m : UInt64}
    (h : Nat.ofDigitChars 10 cs n.toNat = m.toNat) : readDigits n cs = .ok m := by
  induction cs generalizing n with
  | nil =>
    rw [readDigits, UInt64.toNat_inj.mp h]
  | cons c cs ih =>
    obtain ⟨hc, hcs⟩ := List.forall_mem_cons.mp hcs
    rw [Nat.ofDigitChars_cons, Nat.mul_comm] at h
    -- a number only grows with its digits, so the part that is read by now fits as well
    have hfits : n.toNat * 10 + (c.toNat - '0'.toNat) < UInt64.size := by
      calc n.toNat * 10 + (c.toNat - '0'.toNat) ≤ m.toNat := h ▸ le_ofDigitChars cs _
        _ < UInt64.size := m.toNat_lt_size
    rw [readDigits, digit?_of_isDigit hc]
    simp only [dif_pos hfits]
    exact ih hcs (by rw [UInt64.toNat_ofNatLT]; exact h)

theorem readNatural_of_isDigit {c : Char} (h : c.isDigit = true) (cs : List Char) :
    readNatural (c :: cs) = readDigits 0 (c :: cs) := by
  have hplus : c ≠ '+' := by
    rintro rfl
    cases h
  unfold readNatural
  split <;> simp_all

theorem readNatural_plus {cs : List Char} (h : cs ≠ []) : readNatural ('+' :: cs) = readDigits 0 cs := by
  cases cs with
  | nil => exact absurd rfl h
  | cons c cs => rfl

/-- A number of 64 bits is read from every text that stands for it. -/
theorem readNatural_of_writes {n : UInt64} {cs : List Char} (h : Writes n.toNat cs) :
    readNatural cs = .ok n := by
  obtain ⟨sign, zeros, hsign, rfl⟩ := h
  let number := List.replicate zeros '0' ++ digits n.toNat
  have hdigits : ∀ c ∈ number, c.isDigit = true := by
    intro c hc
    rcases List.mem_append.mp hc with hc | hc
    · rw [List.eq_of_mem_replicate hc]
      rfl
    · exact Nat.isDigit_of_mem_toDigits (by omega) (by omega) hc
  have hvalue : Nat.ofDigitChars 10 number 0 = n.toNat := by
    rw [Nat.ofDigitChars_append, Nat.ofDigitChars_replicate_zero, Nat.mul_zero]
    exact Nat.ofDigitChars_ten_toDigits
  have hne : number ≠ [] := List.append_ne_nil_of_right_ne_nil _ Nat.toDigits_ne_nil
  have hread : readDigits 0 number = .ok n := readDigits_of_lt hdigits hvalue
  rw [List.append_assoc]
  rcases hsign with rfl | rfl
  · obtain ⟨c, cs, hcs⟩ := List.exists_cons_of_ne_nil hne
    have hc : c.isDigit = true := hdigits c (hcs ▸ List.mem_cons_self)
    rw [List.nil_append, ← hread]
    change readNatural number = readDigits 0 number
    rw [hcs, readNatural_of_isDigit hc]
  · exact (readNatural_plus hne).trans hread

end TextAnnotation.Text
