import TextAnnotation.Proofs.Decimal.Exact
import TextAnnotation.Proofs.Doc.Mean

/-!
# What the vector of a doc is

The vectors of tokens are added one after the other, as long as each has the length of the sum. So a sum that
comes to its end is the sum at every place, and one vector that is missing or of another length, wherever it
stands, leaves the doc without a vector.

* `hasVector_of_addVectors`, `getElem?_of_addVectors`: what has been added, and what the sum is then.
* `meanVector_eq_some_iff`: the mean, place by place.
* `vector_ofTokens_iff`: when a doc has a vector, and which one.
-/

namespace TextAnnotation

def Token.component? (t : Token) (j : Nat) : Option Float32 :=
  t.vector.bind (·[j]?)

def components (tokens : List Token) (j : Nat) : List Float32 :=
  tokens.filterMap (·.component? j)

theorem components_cons {t : Token} {j : Nat} {x : Float32} (h : t.component? j = some x) (ts : List Token) :
    components (t :: ts) j = x :: components ts j :=
  List.filterMap_cons_some h

/-! ## Sums -/

section Sums

variable {sum total : List Float32} {tokens : List Token}

theorem hasVector_of_addVectors (h : addVectors sum tokens = some total) :
    ∀ t ∈ tokens, t.HasVector sum.length := by
  induction tokens generalizing sum with
  | nil => exact fun t ht => absurd ht List.not_mem_nil
  | cons t ts ih =>
    obtain ⟨v, hv, hlength, hrest⟩ := addVectors_cons_eq_some_iff.mp h
    have hts := ih hrest
    rw [length_zipWith_add hlength] at hts
    exact List.forall_mem_cons.mpr ⟨⟨v, hv, hlength⟩, hts⟩

theorem length_of_addVectors (h : addVectors sum tokens = some total) : total.length = sum.length := by
  obtain ⟨other, hother, hlength⟩ := exists_addVectors (hasVector_of_addVectors h)
  rwa [Option.some.inj (h.symm.trans hother)]

/-- The sum so far and the numbers still to come, at each place for itself. -/
theorem getElem?_of_addVectors (h : addVectors sum tokens = some total) (j : Nat) :
    total[j]? = sum[j]?.map fun x => (components tokens j).foldl (· + ·) x := by
  induction tokens generalizing sum with
  | nil =>
    obtain rfl : sum = total := Option.some.inj h
    simp [components]
  | cons t ts ih =>
    obtain ⟨v, hv, hlength, hrest⟩ := addVectors_cons_eq_some_iff.mp h
    rw [ih hrest, List.getElem?_zipWith]
    by_cases hj : j < sum.length
    · have hcomponent : t.component? j = some v[j] := by
        rw [Token.component?, hv, Option.bind_some, List.getElem?_eq_getElem]
      rw [List.getElem?_eq_getElem hj, List.getElem?_eq_getElem (hlength ▸ hj), components_cons hcomponent]
      rfl
    · rw [List.getElem?_eq_none (Nat.le_of_not_lt hj)]
      rfl

end Sums

/-! ## The mean -/

theorem length_components {tokens : List Token} {width j : Nat} (h : ∀ t ∈ tokens, t.HasVector width)
    (hj : j < width) : (components tokens j).length = tokens.length := by
  rw [components, List.length_filterMap_eq_countP, List.countP_eq_length]
  intro t ht
  obtain ⟨v, hv, hlength⟩ := h t ht
  rw [Token.component?, hv, Option.bind_some, List.getElem?_eq_getElem (hlength ▸ hj), Option.isSome_some]

theorem countSingle_means {n : Nat} (h : n < 2 ^ 24) : Decimal.Means (countSingle n) n :=
  Decimal.singleOfInt_means h

theorem addVectors_of_meanVector {tokens : List Token} {mean : List Float32}
    (h : meanVector tokens = some mean) :
    tokens ≠ [] ∧ ∃ width total, addVectors (List.replicate width 0.0) tokens = some total ∧
      mean = total.map (· / countSingle tokens.length) := by
  cases tokens with
  | nil => cases h
  | cons t ts =>
    cases hv : t.vector with
    | none => rw [meanVector_of_missing hv] at h; cases h
    | some v =>
      simp only [meanVector, hv] at h
      obtain ⟨total, htotal, hmean⟩ := Option.map_eq_some_iff.mp h
      exact ⟨List.cons_ne_nil t ts, v.length, total, htotal, hmean.symm⟩

theorem getElem?_of_meanVector {tokens : List Token} {mean : List Float32}
    (h : meanVector tokens = some mean) :
    tokens ≠ [] ∧ (∀ t ∈ tokens, t.HasVector mean.length) ∧ ∀ j < mean.length,
      mean[j]? = some ((components tokens j).foldl (· + ·) 0.0 / countSingle tokens.length) := by
  obtain ⟨hne, width, total, htotal, rfl⟩ := addVectors_of_meanVector h
  have hvectors := hasVector_of_addVectors htotal
  have hlength := length_of_addVectors htotal
  rw [List.length_replicate] at hvectors hlength
  refine ⟨hne, ?_, fun j hj => ?_⟩
  · rwa [List.length_map, hlength]
  · rw [List.length_map, hlength] at hj
    rw [List.getElem?_map, getElem?_of_addVectors htotal, List.getElem?_replicate, if_pos hj]
    rfl

theorem meanVector_eq_some_iff {tokens : List Token} {mean : List Float32} :
    meanVector tokens = some mean ↔ tokens ≠ [] ∧ (∀ t ∈ tokens, t.HasVector mean.length) ∧
      ∀ j < mean.length,
        mean[j]? = some ((components tokens j).foldl (· + ·) 0.0 / countSingle tokens.length) := by
  constructor
  · exact getElem?_of_meanVector
  · rintro ⟨hne, hvectors, hcomponents⟩
    obtain ⟨other, hother, hlength⟩ := exists_meanVector hne hvectors
    obtain ⟨-, -, hothers⟩ := getElem?_of_meanVector hother
    rw [hother, Option.some.injEq]
    refine List.ext_getElem? fun j => ?_
    by_cases hj : j < mean.length
    · rw [hothers j (hlength ▸ hj), hcomponents j hj]
    · rw [List.getElem?_eq_none (Nat.le_of_not_lt hj), List.getElem?_eq_none (by omega)]

theorem meanVector_isSome_iff {tokens : List Token} :
    (meanVector tokens).isSome ↔ tokens ≠ [] ∧ ∃ width, ∀ t ∈ tokens, t.HasVector width := by
  rw [Option.isSome_iff_exists]
  constructor
  · rintro ⟨mean, hmean⟩
    obtain ⟨hne, hvectors, -⟩ := meanVector_eq_some_iff.mp hmean
    exact ⟨hne, mean.length, hvectors⟩
  · rintro ⟨hne, width, hvectors⟩
    obtain ⟨mean, hmean, -⟩ := exists_meanVector hne hvectors
    exact ⟨mean, hmean⟩

/-- Vectors of different lengths have no mean, wherever they stand. -/
theorem meanVector_of_uneven {tokens : List Token} {t u : Token} {v w : List Float32} (ht : t ∈ tokens)
    (hu : u ∈ tokens) (hv : t.vector = some v) (hw : u.vector = some w) (hne : v.length ≠ w.length) :
    meanVector tokens = none := by
  rw [← Option.not_isSome_iff_eq_none, meanVector_isSome_iff]
  rintro ⟨-, width, hvectors⟩
  obtain ⟨v', hv', hlength⟩ := hvectors t ht
  obtain ⟨w', hw', hlength'⟩ := hvectors u hu
  obtain rfl := Option.some.inj (hv.symm.trans hv')
  obtain rfl := Option.some.inj (hw.symm.trans hw')
  exact hne (hlength.trans hlength'.symm)

theorem vector_ofTokens_iff (vocab : Vocab) (text : String) (tokens : List Token) :
    ((Doc.ofTokens vocab text tokens).vector.isSome ↔
      tokens ≠ [] ∧ ∃ width, ∀ t ∈ tokens, t.HasVector width) ∧
    (∀ mean, (Doc.ofTokens vocab text tokens).vector = some mean → ∃ width,
      (∀ t ∈ tokens, t.HasVector width) ∧ mean.length = width ∧
      ∀ j < width, (components tokens j).length = tokens.length ∧
        mean[j]? = some ((components tokens j).foldl (· + ·) 0.0 / countSingle tokens.length)) ∧
    (∀ t ∈ tokens, ∀ u ∈ tokens, ∀ v w, t.vector = some v → u.vector = some w →
      v.length ≠ w.length → (Doc.ofTokens vocab text tokens).vector = none) ∧
    (tokens.length < 2 ^ 24 → Decimal.Means (countSingle tokens.length) tokens.length) := by
  refine ⟨meanVector_isSome_iff, ?_, ?_, countSingle_means⟩
  · intro mean hmean
    obtain ⟨-, hvectors, hcomponents⟩ := meanVector_eq_some_iff.mp hmean
    exact ⟨mean.length, hvectors, rfl, fun j hj => ⟨length_components hvectors hj, hcomponents j hj⟩⟩
  · intro t ht u hu v w hv hw hne
    exact meanVector_of_uneven ht hu hv hw hne

end TextAnnotation
