import TextAnnotation.Json.Value
import TextAnnotation.Proofs.Decimal.Shortest
import TextAnnotation.Proofs.Json.Grammar
import TextAnnotation.Proofs.Text.Natural

/-!
# The text of a number is a number

* `isNumeral_positional`, `isNumeral_exponential`: both notations of a decimal.
* `text_cases`: what is written for a number is a number as JSON has it, or `null`.
* `number?_digitsNumeral`: the digits of a natural number of 64 bits are read as that number.
-/

namespace TextAnnotation.Json

open Decimal (Scientific Layout)

/-- The text is a number without a sign; with a minus sign in front it is one too. -/
def IsNumeral (cs : List Char) : Prop :=
  ∀ negative : Bool, ∃ n : Numeral, n.Spells ((if negative then ['-'] else []) ++ cs)

theorem Numeral.decimals_of_ne_nil {n : Numeral} (h : n.fraction ≠ []) :
    n.decimals = '.' :: n.fraction := by
  obtain ⟨d, ds, hds⟩ := List.exists_cons_of_ne_nil h
  rw [Numeral.decimals, hds]

/-- Digits with a point between them. -/
theorem isNumeral_of_point {whole fraction : List Char}
    (hwhole : whole = ['0'] ∨ ∃ d ds, whole = d :: ds ∧ d ≠ '0' ∧ ∀ c ∈ whole, c.isDigit = true)
    (hfraction : ∀ c ∈ fraction, c.isDigit = true) (hne : fraction ≠ []) :
    IsNumeral (whole ++ '.' :: fraction) := by
  intro negative
  let n : Numeral := ⟨negative, whole, fraction, false, []⟩
  have hsound : n.Sound := ⟨hwhole, hfraction, by simp [n], fun _ => rfl⟩
  have hspells := Numeral.Spells.plain hsound rfl
  rw [Numeral.decimals_of_ne_nil hne, List.append_assoc] at hspells
  exact ⟨n, hspells⟩

def digitsNumeral (negative : Bool) (n : Nat) : Numeral :=
  ⟨negative, Text.digits n, [], false, []⟩

theorem spells_digitsNumeral (negative : Bool) (n : Nat) :
    (digitsNumeral negative n).Spells ((if negative then ['-'] else []) ++ Text.digits n) := by
  have hdigits : ∀ c ∈ Text.digits n, c.isDigit = true := fun _ hc => Text.isDigit_of_mem_digits hc
  have hwhole : Text.digits n = ['0'] ∨
      ∃ d ds, Text.digits n = d :: ds ∧ d ≠ '0' ∧ ∀ c ∈ Text.digits n, c.isDigit = true := by
    rcases Nat.eq_zero_or_pos n with rfl | hn
    · exact Or.inl rfl
    · obtain ⟨d, ds, hds, hd⟩ := Text.digits_head_ne_zero hn
      exact Or.inr ⟨d, ds, hds, hd, hdigits⟩
  have hsound : (digitsNumeral negative n).Sound :=
    ⟨hwhole, by simp [digitsNumeral], by simp [digitsNumeral], fun _ => rfl⟩
  have hspells := Numeral.Spells.plain hsound rfl
  rw [List.append_assoc, show (digitsNumeral negative n).decimals = [] from rfl, List.append_nil] at hspells
  exact hspells

theorem isNumeral_digits (n : Nat) : IsNumeral (Text.digits n) :=
  fun negative => ⟨digitsNumeral negative n, spells_digitsNumeral negative n⟩

theorem isDigit_of_mem_zeros {n : Nat} {c : Char} (h : c ∈ List.replicate n '0') : c.isDigit = true := by
  rw [List.eq_of_mem_replicate h]
  rfl

theorem isNumeral_positional {s : Scientific} (hs : s.Sound) :
    IsNumeral (Decimal.positional s) := by
  have hne : s.digits ≠ [] := by
    rcases hs.head with ⟨d, ds, hds, -⟩ | ⟨hds, -⟩ <;> simp [hds]
  unfold Decimal.positional
  split
  · refine @isNumeral_of_point ['0'] _ (Or.inl rfl) (fun c hc => ?_) (by simp [hne])
    rcases List.mem_append.mp hc with hc | hc
    · exact isDigit_of_mem_zeros hc
    · exact hs.digits c hc
  · dsimp only
    split
    · next hlength =>
      rw [List.append_assoc, ← List.append_assoc s.digits]
      refine isNumeral_of_point ?_ (by simp) (by simp)
      rcases hs.head with ⟨d, ds, hds, hd⟩ | ⟨hds, hexponent⟩
      · refine Or.inr ⟨d, _, by rw [hds, List.cons_append], hd, fun c hc => ?_⟩
        rcases List.mem_append.mp hc with hc | hc
        · exact hs.digits c hc
        · exact isDigit_of_mem_zeros hc
      · exact Or.inl (by simp [hds, hexponent, Decimal.above])
    · next hlength =>
      refine isNumeral_of_point ?_ (fun c hc => hs.digits c (List.mem_of_mem_drop hc)) ?_
      · rcases hs.head with ⟨d, ds, hds, hd⟩ | ⟨hds, hexponent⟩
        · refine Or.inr ⟨d, _, by rw [hds, List.take_succ_cons], hd, fun c hc => ?_⟩
          exact hs.digits c (List.mem_of_mem_take hc)
        · exact Or.inl (by simp [hds])
      · rw [Ne, List.drop_eq_nil_iff]
        exact hlength

theorem isNumeral_exponential {s : Scientific} (hs : s.Sound) :
    IsNumeral (Decimal.exponential s) := by
  intro negative
  let n : Numeral := ⟨negative, s.digits.take 1, s.digits.drop 1, decide (s.exponent < 0),
    Text.digits s.exponent.natAbs⟩
  have hwhole : n.whole = ['0'] ∨ ∃ d ds, n.whole = d :: ds ∧ d ≠ '0' ∧ ∀ c ∈ n.whole, c.isDigit = true := by
    rcases hs.head with ⟨d, ds, hds, hd⟩ | ⟨hds, -⟩
    · refine Or.inr ⟨d, [], by simp [n, hds], hd, fun c hc => hs.digits c (List.mem_of_mem_take hc)⟩
    · exact Or.inl (by simp [n, hds])
  have hpower : n.power ≠ [] := Text.digits_ne_nil _
  have hsound : n.Sound := ⟨hwhole, fun c hc => hs.digits c (List.mem_of_mem_drop hc),
    fun c hc => Text.isDigit_of_mem_digits hc, fun h => absurd h hpower⟩
  have hsign : Numeral.PowerSign n.lowered [if s.exponent < 0 then '-' else '+'] := by
    by_cases hexponent : s.exponent < 0 <;> simp [Numeral.PowerSign, n, hexponent]
  have htext : Decimal.exponential s =
      n.whole ++ n.decimals ++ 'e' :: [if s.exponent < 0 then '-' else '+'] ++ n.power := by
    unfold Decimal.exponential Numeral.decimals
    cases hfraction : s.digits.drop 1 <;> simp [n, hfraction]
  have hspells := Numeral.Spells.scaled hsound hpower (Or.inl rfl) hsign
  refine ⟨n, ?_⟩
  rw [htext]
  simpa [Numeral.minus, n] using hspells

theorem isNumeral_write (l : Layout) {s : Scientific} (hs : s.Sound) : IsNumeral (l.write s) := by
  unfold Decimal.Layout.write
  split
  · exact isNumeral_positional hs
  · exact isNumeral_exponential hs

/-- The text of a finite number of any width. -/
theorem spells_textOfBits {l : Layout} {fraction width bits : Nat} {cs : List Char}
    (h : Decimal.textOfBits? l fraction width bits = some cs) : ∃ n : Numeral, n.Spells cs := by
  have hsigned : ∀ {p : Prop} [Decidable p] {cs : List Char}, IsNumeral cs →
      ∃ n : Numeral, n.Spells ((if p then [] else ['-']) ++ cs) := by
    intro p _ cs hcs
    have hn := hcs (decide ¬ p)
    by_cases hp : p <;> simpa [hp] using hn
  unfold Decimal.textOfBits? at h
  simp only at h
  split at h
  · cases h
  · split at h
    · split at h
      · cases h
        exact hsigned (@isNumeral_of_point ['0'] ['0'] (Or.inl rfl) (by simp) (by simp))
      · next hmantissa =>
        cases h
        exact hsigned (isNumeral_write l (Decimal.sound_shortest (Nat.pos_of_ne_zero hmantissa)))
    · cases h
      refine hsigned (isNumeral_write l (Decimal.sound_shortest ?_))
      exact Nat.add_pos_left (Nat.pow_pos (by omega)) _

theorem text_cases (n : Number) : (∃ m : Numeral, m.Spells n.text) ∨ n.text = "null".toList := by
  have hoptional : ∀ text? : Option (List Char), (∀ cs, text? = some cs → ∃ m : Numeral, m.Spells cs) →
      (∃ m : Numeral, m.Spells (text?.getD "null".toList)) ∨
        text?.getD "null".toList = "null".toList := by
    intro text? h
    cases text? with
    | none => exact Or.inr rfl
    | some cs => exact Or.inl (h cs rfl)
  cases n with
  | integer i =>
    obtain ⟨m, hm⟩ := isNumeral_digits i.natAbs (decide (i < 0))
    refine Or.inl ⟨m, ?_⟩
    by_cases hi : i < 0 <;> simpa [Number.text, integerText, hi] using hm
  | double x => exact hoptional _ fun cs hcs => spells_textOfBits hcs
  | single x => exact hoptional _ fun cs hcs => spells_textOfBits hcs

/-! ## Natural numbers of 64 bits -/

/-- Digits of a number that fits are all read. -/
theorem wholePart_of_lt {cs : List Char} {n : Nat} (h : Nat.ofDigitChars 10 cs n < UInt64.size) :
    wholePart n cs = ⟨Nat.ofDigitChars 10 cs n, 0⟩ := by
  induction cs generalizing n with
  | nil => rfl
  | cons c cs ih =>
    have hextend : Nat.ofDigitChars 10 (c :: cs) n = Nat.ofDigitChars 10 cs (extend n c) := by
      rw [Nat.ofDigitChars_cons, Nat.mul_comm, extend, digitValue]
    rw [hextend] at h ⊢
    -- a number only grows with its digits, so the part that is read by now fits as well
    rw [wholePart, if_pos (Nat.lt_of_le_of_lt (Text.le_ofDigitChars cs _) h), ih h]

theorem number?_digitsNumeral {n : Nat} (h : n < UInt64.size) :
    (digitsNumeral false n).number? = some (.integer n) := by
  have hvalue : Nat.ofDigitChars 10 (Text.digits n) 0 = n := Nat.ofDigitChars_ten_toDigits
  have hwhole : wholePart 0 (Text.digits n) = ⟨n, 0⟩ := by
    rw [wholePart_of_lt (hvalue.symm ▸ h), hvalue]
  simp [Numeral.number?, digitsNumeral, hwhole]

end TextAnnotation.Json
