import TextAnnotation.Text.Lower

/-!
# Lower case of lower case

What becomes of a character in lower case has no other lower-case form, so a text in lower case stays as it
is, whatever stands around its letters.

* `IsLowered`: a character that is in no run of capitals.
* `lowerChar_of_isLowered`, `isLowered_of_mem_lowerChar`: it stays, and only such characters come out.
* `isLowered_of_mem_lowerAfter`: this holds of a text as well, with either form of the sigma.
* `lower_lower`: to lower a text twice is to lower it once.
-/

namespace TextAnnotation.Text

/-- Capitals with their lower-case letters: those of ASCII, the capital I with a dot, and all others. -/
def capitalRuns : List CaseRun :=
  ⟨0x41, 0x5A, 1, 0x61⟩ :: ⟨0x130, 0x130, 1, 0x69⟩ :: lowerRuns

def IsLowered (c : Char) : Prop :=
  ∀ s ∈ capitalRuns, s.lower? c.toNat = none

instance (c : Char) : Decidable (IsLowered c) := List.decidableBAll _ _

/-! ## Runs of capitals -/

namespace CaseRun

def lowerLast (r : CaseRun) : Nat :=
  r.lower + (r.last - r.first)

/-- No lower-case letter of a run is a capital of another one: all of them come before or behind, or capitals
and lower-case letters take turns. Comparisons are Boolean because all pairs of runs are checked. -/
def apart (r s : CaseRun) : Bool :=
  Nat.blt r.lowerLast s.first || (Nat.blt s.last r.lower ||
    (Nat.beq s.step 2 && ((Nat.beq r.step 2 || Nat.beq r.first r.last) &&
      Nat.beq ((r.lower + s.first) % 2) 1)))

/-- All lower-case letters of a run are code points of characters. -/
def sound (r : CaseRun) : Bool :=
  Nat.blt r.lowerLast 0xD800 || (Nat.blt 0xDFFF r.lower && Nat.blt r.lowerLast 0x110000)

theorem lower?_eq_some_iff {r : CaseRun} {n m : Nat} :
    r.lower? n = some m ↔
      r.first ≤ n ∧ n ≤ r.last ∧ (n - r.first) % r.step = 0 ∧ m = r.lower + (n - r.first) := by
  rw [lower?]
  split
  · next h => simp [h, eq_comm]
  · next h =>
    simp only [reduceCtorEq, false_iff]
    rintro ⟨hfirst, hlast, hstep, -⟩
    exact h ⟨hfirst, hlast, hstep⟩

theorem lower?_of_apart {r s : CaseRun} (h : r.apart s = true) {n m : Nat} (hm : r.lower? n = some m) :
    s.lower? m = none := by
  obtain ⟨hfirst, hlast, hstep, rfl⟩ := lower?_eq_some_iff.mp hm
  rw [Option.eq_none_iff_forall_ne_some]
  intro k hk
  obtain ⟨hsfirst, hslast, hsstep, -⟩ := lower?_eq_some_iff.mp hk
  simp only [apart, lowerLast, Bool.or_eq_true, Bool.and_eq_true, Nat.blt_eq, Nat.beq_eq] at h
  rcases h with h | h | ⟨htwo, htwo' | hsingle, hodd⟩
  · omega
  · omega
  · rw [htwo'] at hstep
    rw [htwo] at hsstep
    omega
  · rw [htwo] at hsstep
    omega

end CaseRun

theorem apart_of_mem {r s : CaseRun} (hr : r ∈ lowerRuns) (hs : s ∈ capitalRuns) : r.apart s = true := by
  have hall : (lowerRuns.all fun r => capitalRuns.all r.apart) = true := by decide +kernel
  exact List.all_eq_true.mp (List.all_eq_true.mp hall r hr) s hs

theorem toNat_of_lower? {r : CaseRun} (hr : r ∈ lowerRuns) {n m : Nat} (h : r.lower? n = some m) :
    (Char.ofNat m).toNat = m := by
  have hall : lowerRuns.all CaseRun.sound = true := by decide +kernel
  have hsound := List.all_eq_true.mp hall r hr
  obtain ⟨hfirst, hlast, -, rfl⟩ := CaseRun.lower?_eq_some_iff.mp h
  simp only [CaseRun.sound, CaseRun.lowerLast, Bool.or_eq_true, Bool.and_eq_true, Nat.blt_eq] at hsound
  have hvalid : (r.lower + (n - r.first)).isValidChar := by
    unfold Nat.isValidChar
    omega
  rw [Char.ofNat, dif_pos hvalid]
  rfl

/-! ## Characters -/

theorem lowerCode?_eq_none_iff {n : Nat} : lowerCode? n = none ↔ ∀ r ∈ lowerRuns, r.lower? n = none := by
  rw [lowerCode?, List.findSome?_eq_none_iff]

/-- Below ASCII's end there are no capitals but its own. -/
theorem lowerCode?_of_ascii {n : Nat} (h : n < 0x80) : lowerCode? n = none := by
  have hall : lowerRuns.all (fun r => Nat.blt 0x7F r.first) = true := by decide +kernel
  refine lowerCode?_eq_none_iff.mpr fun r hr => ?_
  have hfirst := Nat.blt_eq.mp (List.all_eq_true.mp hall r hr)
  rw [CaseRun.lower?, if_neg (by omega)]

theorem isLowered_iff {c : Char} : IsLowered c ↔
    ¬(0x41 ≤ c.toNat ∧ c.toNat ≤ 0x5A) ∧ c ≠ 'İ' ∧ lowerCode? c.toNat = none := by
  have hdot : c = 'İ' ↔ c.toNat = 0x130 := Char.toNat_inj.symm
  rw [IsLowered, capitalRuns, List.forall_mem_cons, List.forall_mem_cons, lowerCode?_eq_none_iff]
  refine and_congr ?_ (and_congr ?_ Iff.rfl)
  · simp [CaseRun.lower?, Nat.mod_one]
  · simp only [CaseRun.lower?, Nat.mod_one, and_true, ite_eq_right_iff, reduceCtorEq, imp_false, ne_eq, hdot]
    omega

/-- The capitals of ASCII have their lower-case letters 32 code points behind them. -/
theorem toNat_toLower (c : Char) :
    c.toLower.toNat = if 0x41 ≤ c.toNat ∧ c.toNat ≤ 0x5A then c.toNat + 0x20 else c.toNat := by
  by_cases h : c.val ≥ 'A'.val ∧ c.val ≤ 'Z'.val
  · have hletter : 0x41 ≤ c.toNat ∧ c.toNat ≤ 0x5A := h
    have hlower : c.toLower.val = c.val + ('a'.val - 'A'.val) := congrArg Char.val (dif_pos h)
    rw [if_pos hletter, Char.toNat, hlower, UInt32.toNat_add]
    exact Nat.mod_eq_of_lt (show c.toNat + 0x20 < 2 ^ 32 by omega)
  · have hletter : ¬(0x41 ≤ c.toNat ∧ c.toNat ≤ 0x5A) := h
    have hlower : c.toLower = c := dif_neg h
    rw [if_neg hletter, hlower]

theorem lowerChar_of_isLowered {c : Char} (h : IsLowered c) : lowerChar c = [c] := by
  obtain ⟨hletter, hdot, hcode⟩ := isLowered_iff.mp h
  rw [lowerChar]
  split
  · have hself := toNat_toLower c
    rw [if_neg hletter] at hself
    rw [Char.toNat_inj.mp hself]
  · rw [hcode]

/-- Whatever a character becomes in lower case is no capital. -/
theorem isLowered_of_mem_lowerChar {c d : Char} (h : d ∈ lowerChar c) : IsLowered d := by
  rw [lowerChar] at h
  split at h
  · next hsmall =>
    have hlower := toNat_toLower c
    have hascii : c.toLower.toNat < 0x80 := by
      rw [hlower]
      split <;> omega
    have hletter : ¬(0x41 ≤ c.toLower.toNat ∧ c.toLower.toNat ≤ 0x5A) := by
      rw [hlower]
      split <;> omega
    rw [List.mem_singleton.mp h]
    refine isLowered_iff.mpr ⟨hletter, ?_, lowerCode?_of_ascii hascii⟩
    intro hdot
    rw [hdot] at hascii
    exact absurd hascii (by decide)
  · next hlarge =>
    split at h
    · have hboth : IsLowered 'i' ∧ IsLowered (Char.ofNat 0x307) := by decide +kernel
      rcases List.mem_cons.mp h with rfl | h
      · exact hboth.1
      · rw [List.mem_singleton.mp h]
        exact hboth.2
    · next hdot =>
      split at h
      · next m hm =>
        obtain ⟨r, hr, hrun⟩ := List.exists_of_findSome?_eq_some hm
        rw [List.mem_singleton.mp h]
        intro s hs
        rw [toNat_of_lower? hr hrun]
        exact CaseRun.lower?_of_apart (apart_of_mem hr hs) hrun
      · next hnone =>
        rw [List.mem_singleton.mp h]
        exact isLowered_iff.mpr ⟨by omega, hdot, hnone⟩

/-! ## Texts -/

theorem ne_sigma_of_isLowered {c : Char} (h : IsLowered c) : c ≠ 'Σ' := by
  rintro rfl
  revert h
  decide +kernel

theorem isLowered_of_mem_lowerBetween {before after : List Char} {c d : Char}
    (h : d ∈ lowerBetween before c after) : IsLowered d := by
  rw [lowerBetween] at h
  split at h
  · have hboth : IsLowered 'ς' ∧ IsLowered 'σ' := by decide +kernel
    rw [List.mem_singleton.mp h]
    split
    · exact hboth.1
    · exact hboth.2
  · exact isLowered_of_mem_lowerChar h

theorem isLowered_of_mem_lowerAfter {before cs : List Char} {d : Char} (h : d ∈ lowerAfter before cs) :
    IsLowered d := by
  induction cs generalizing before with
  | nil => cases h
  | cons c cs ih =>
    rw [lowerAfter, List.mem_append] at h
    rcases h with h | h
    · exact isLowered_of_mem_lowerBetween h
    · exact ih h

/-- A text without capitals stays as it is. No sigma is left in it whose form could depend on the letters
around it. -/
theorem lowerAfter_of_isLowered {cs : List Char} (h : ∀ c ∈ cs, IsLowered c) (before : List Char) :
    lowerAfter before cs = cs := by
  induction cs generalizing before with
  | nil => rfl
  | cons c cs ih =>
    obtain ⟨hc, hcs⟩ := List.forall_mem_cons.mp h
    rw [lowerAfter, lowerBetween, if_neg (ne_sigma_of_isLowered hc), lowerChar_of_isLowered hc, ih hcs]
    rfl

theorem lower_lower (s : String) : lower (lower s) = lower s := by
  have hlowered : lowerChars (lowerChars s.toList) = lowerChars s.toList :=
    lowerAfter_of_isLowered (fun _ hc => isLowered_of_mem_lowerAfter hc) []
  rw [lower, lower, String.toList_ofList, hlowered]

end TextAnnotation.Text
