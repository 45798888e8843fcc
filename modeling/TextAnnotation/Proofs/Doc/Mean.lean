import TextAnnotation.Doc

/-!
# When a doc has a vector

* `addVectors_cons_eq_some_iff`: one step of a sum.
* `exists_meanVector`: tokens whose vectors have one length have a mean of that length.
* `meanVector_of_missing`: without the vector of the first token there is no mean.
-/

namespace TextAnnotation

def Token.HasVector (t : Token) (width : Nat) : Prop :=
  ∃ v, t.vector = some v ∧ v.length = width

section Sums

variable {sum total : List Float32} {tokens : List Token}

theorem addVectors_cons_eq_some_iff {t : Token} {ts : List Token} :
    addVectors sum (t :: ts) = some total ↔
      ∃ v, t.vector = some v ∧ v.length = sum.length ∧
        addVectors (List.zipWith (· + ·) sum v) ts = some total := by
  rw [addVectors]
  cases t.vector with
  | none => simp
  | some v => by_cases hlength : v.length = sum.length <;> simp [hlength]

theorem length_zipWith_add {v : List Float32} (h : v.length = sum.length) :
    (List.zipWith (· + ·) sum v).length = sum.length := by
  rw [List.length_zipWith, h, Nat.min_self]

/-- A sum keeps its length as long as the vectors that are added have it. -/
theorem exists_addVectors (h : ∀ t ∈ tokens, t.HasVector sum.length) :
    ∃ total, addVectors sum tokens = some total ∧ total.length = sum.length := by
  induction tokens generalizing sum with
  | nil => exact ⟨sum, rfl, rfl⟩
  | cons t ts ih =>
    obtain ⟨⟨v, hv, hlength⟩, hrest⟩ := List.forall_mem_cons.mp h
    have hstep := length_zipWith_add hlength
    have hnext : ∀ u ∈ ts, u.HasVector (List.zipWith (· + ·) sum v).length := by rwa [hstep]
    obtain ⟨total, htotal, hsame⟩ := ih hnext
    exact ⟨total, addVectors_cons_eq_some_iff.mpr ⟨v, hv, hlength, htotal⟩, hsame.trans hstep⟩

end Sums

theorem exists_meanVector {tokens : List Token} {width : Nat} (hne : tokens ≠ [])
    (h : ∀ t ∈ tokens, t.HasVector width) :
    ∃ mean, meanVector tokens = some mean ∧ mean.length = width := by
  cases tokens with
  | nil => exact absurd rfl hne
  | cons t ts =>
    obtain ⟨v, hv, rfl⟩ := h t List.mem_cons_self
    have hzeros : (List.replicate v.length (0.0 : Float32)).length = v.length := List.length_replicate
    have hsame : ∀ u ∈ t :: ts, u.HasVector (List.replicate v.length (0.0 : Float32)).length := by
      rwa [hzeros]
    obtain ⟨total, htotal, hlength⟩ := exists_addVectors hsame
    refine ⟨total.map (· / countSingle (t :: ts).length), ?_, ?_⟩
    · rw [meanVector, hv]
      simp only [htotal, Option.map_some]
    · rw [List.length_map, hlength, hzeros]

theorem meanVector_of_missing {t : Token} (h : t.vector = none) (ts : List Token) :
    meanVector (t :: ts) = none := by
  simp only [meanVector, h]

end TextAnnotation
