import Mathlib.Data.List.Sort
import TextAnnotation.Keyed

/-!
# Order and members of lists with keys

`Keyed.ofList` puts pairs in the order of their keys. This module says which pairs remain:

* `ascending_ofList`: the keys go up strictly, so each of them occurs once.
* `mem_keys_ofList`: no key is lost, and none is added.
* `mem_ofList_iff`: the pair of a key is the last one that the list has for it (`LastWith`).
* `mem_ofList_append`: of two lists in a row, the second one takes precedence.
-/

namespace TextAnnotation.Keyed

variable {κ α : Type}

/-- The keys of a list go up strictly. -/
def Ascending [LT κ] (ps : List (κ × α)) : Prop :=
  ps.Pairwise (·.1 < ·.1)

/-- The pair at position `n` has the key `k`, and no later one has it. -/
def LastWith (ps : List (κ × α)) (k : κ) (n : Nat) : Prop :=
  (ps[n]?).map Prod.fst = some k ∧ ∀ j, n < j → (ps[j]?).map Prod.fst ≠ some k

theorem isSome_lookup_iff [DecidableEq κ] {ps : List (κ × α)} {k : κ} :
    (ps.lookup k).isSome ↔ k ∈ ps.map Prod.fst := by
  rw [List.lookup_isSome_iff, List.mem_map]
  exact exists_congr fun p => and_congr_right fun _ => by rw [beq_iff_eq, eq_comm]

theorem lookup_eq_none_iff [DecidableEq κ] {ps : List (κ × α)} {k : κ} :
    ps.lookup k = none ↔ k ∉ ps.map Prod.fst := by
  rw [← isSome_lookup_iff, Option.not_isSome_iff_eq_none]

/-- Where no key occurs twice, a pair is a member exactly if looking its key up finds it. -/
theorem mem_iff_lookup_of_nodup [DecidableEq κ] {ps : List (κ × α)} (h : (ps.map Prod.fst).Nodup) {k : κ}
    {v : α} : (k, v) ∈ ps ↔ ps.lookup k = some v := by
  induction ps with
  | nil => simp
  | cons p rest ih =>
    obtain ⟨k', v'⟩ := p
    obtain ⟨hfirst, hrest⟩ := List.nodup_cons.mp h
    rw [lookup_cons_eq_ite, List.mem_cons, ih hrest]
    by_cases hk : k = k'
    · subst hk
      have hnone : rest.lookup k = none := lookup_eq_none_iff.mpr hfirst
      simp [hnone, eq_comm]
    · simp [hk]

/-! ## Last pairs -/

theorem lastWith_cons_zero {p : κ × α} {ps : List (κ × α)} {k : κ} :
    LastWith (p :: ps) k 0 ↔ p.1 = k ∧ k ∉ ps.map Prod.fst := by
  simp only [LastWith, List.getElem?_cons_zero, Option.map_some, Option.some.injEq]
  refine and_congr_right fun _ => ⟨fun h hk => ?_, fun h j hj hjk => ?_⟩
  · obtain ⟨i, hi⟩ := List.mem_iff_getElem?.mp hk
    exact h (i + 1) (by omega) (by simpa using hi)
  · obtain ⟨i, rfl⟩ := Nat.exists_eq_succ_of_ne_zero (by omega : j ≠ 0)
    exact h (List.mem_iff_getElem?.mpr ⟨i, by simpa using hjk⟩)

theorem lastWith_cons_succ {p : κ × α} {ps : List (κ × α)} {k : κ} {n : Nat} :
    LastWith (p :: ps) k (n + 1) ↔ LastWith ps k n := by
  simp only [LastWith, List.getElem?_cons_succ]
  refine and_congr_right fun _ => ⟨fun h j hj => ?_, fun h j hj => ?_⟩
  · simpa using h (j + 1) (by omega)
  · obtain ⟨i, rfl⟩ := Nat.exists_eq_succ_of_ne_zero (by omega : j ≠ 0)
    simpa using h i (by omega)

theorem lastWith_congr {β : Type} {ps : List (κ × α)} {qs : List (κ × β)}
    (h : ps.map Prod.fst = qs.map Prod.fst) {k : κ} {n : Nat} : LastWith ps k n ↔ LastWith qs k n := by
  simp only [LastWith, ← List.getElem?_map, h]

/-- Looking a key up from the end finds the last pair that has it. -/
theorem lookup_reverse_eq_some_iff [DecidableEq κ] {ps : List (κ × α)} {k : κ} {v : α} :
    ps.reverse.lookup k = some v ↔ ∃ n, LastWith ps k n ∧ ps[n]? = some (k, v) := by
  induction ps with
  | nil => simp [LastWith]
  | cons p ps ih =>
    rw [List.reverse_cons, List.lookup_append]
    cases h : ps.reverse.lookup k with
    | some w =>
      -- the key occurs further on, so the first pair does not count
      rw [h] at ih
      have hk : k ∈ ps.reverse.map Prod.fst := isSome_lookup_iff.mp (by simp [h])
      rw [List.map_reverse, List.mem_reverse] at hk
      rw [Option.some_or, ih]
      refine ⟨fun ⟨n, hn, hv⟩ => ⟨n + 1, lastWith_cons_succ.mpr hn, by simpa using hv⟩, ?_⟩
      rintro ⟨_ | n, hn, hv⟩
      · exact absurd hk (lastWith_cons_zero.mp hn).2
      · exact ⟨n, lastWith_cons_succ.mp hn, by simpa using hv⟩
    | none =>
      rw [h] at ih
      have hk : k ∉ ps.reverse.map Prod.fst := lookup_eq_none_iff.mp h
      rw [List.map_reverse, List.mem_reverse] at hk
      have hrest : ∀ n, LastWith ps k n → ps[n]? ≠ some (k, v) := by
        intro n hn hv
        exact absurd (ih.mpr ⟨n, hn, hv⟩) (by simp)
      rw [Option.none_or, show [p] = [(p.1, p.2)] from rfl, lookup_cons_eq_ite]
      constructor
      · intro hv
        split at hv
        · rename_i hp
          refine ⟨0, lastWith_cons_zero.mpr ⟨hp.symm, hk⟩, ?_⟩
          rw [← Option.some.inj hv, hp]
          rfl
        · simp at hv
      · rintro ⟨_ | n, hn, hv⟩
        · obtain rfl : p = (k, v) := by simpa using hv
          simp
        · exact absurd (by simpa using hv) (hrest n (lastWith_cons_succ.mp hn))

/-! ## Pairs in order -/

section Order

variable [LinearOrder κ]

theorem mem_insert {k : κ} {v : α} {p : κ × α} {ps : List (κ × α)} (h : p ∈ insert k v ps) :
    p = (k, v) ∨ p ∈ ps := by
  induction ps with
  | nil => simpa [insert] using h
  | cons q rest ih =>
    obtain ⟨k', v'⟩ := q
    simp only [insert] at h
    split at h
    · exact List.mem_cons.mp h
    · split at h
      · exact (List.mem_cons.mp h).imp id (List.mem_cons_of_mem _)
      · rcases List.mem_cons.mp h with rfl | h
        · exact Or.inr List.mem_cons_self
        · exact (ih h).imp id (List.mem_cons_of_mem _)

theorem ascending_insert (k : κ) (v : α) {ps : List (κ × α)} (h : Ascending ps) :
    Ascending (insert k v ps) := by
  induction ps with
  | nil => exact List.pairwise_singleton _ _
  | cons q rest ih =>
    obtain ⟨k', v'⟩ := q
    obtain ⟨hbefore, hrest⟩ := List.pairwise_cons.mp h
    simp only [insert]
    split
    · rename_i hlt
      refine List.pairwise_cons.mpr ⟨fun p hp => ?_, h⟩
      rcases List.mem_cons.mp hp with rfl | hp
      · exact hlt
      · exact hlt.trans (hbefore p hp)
    · split
      · rename_i heq
        subst heq
        exact List.pairwise_cons.mpr ⟨hbefore, hrest⟩
      · rename_i hnot hne
        refine List.pairwise_cons.mpr ⟨fun p hp => ?_, ih hrest⟩
        rcases mem_insert hp with rfl | hp
        · exact lt_of_le_of_ne (not_lt.mp hnot) (Ne.symm hne)
        · exact hbefore p hp

theorem ascending_foldl_insert (ps : List (κ × α)) {done : List (κ × α)} (h : Ascending done) :
    Ascending (ps.foldl (fun done p => insert p.1 p.2 done) done) := by
  induction ps generalizing done with
  | nil => exact h
  | cons p rest ih => exact ih (ascending_insert p.1 p.2 h)

theorem ascending_ofList (ps : List (κ × α)) : Ascending (ofList ps) :=
  ascending_foldl_insert ps List.Pairwise.nil

theorem insert_of_lt {k : κ} (v : α) {ps : List (κ × α)} (h : ∀ p ∈ ps, p.1 < k) :
    insert k v ps = ps ++ [(k, v)] := by
  induction ps with
  | nil => rfl
  | cons p rest ih =>
    obtain ⟨k', v'⟩ := p
    obtain ⟨hfirst, hrest⟩ := List.forall_mem_cons.mp h
    rw [insert, if_neg (not_lt_of_gt hfirst), if_neg (ne_of_gt hfirst), ih hrest, List.cons_append]

theorem foldl_insert_of_ascending {ps done : List (κ × α)} (h : Ascending (done ++ ps)) :
    ps.foldl (fun done p => insert p.1 p.2 done) done = done ++ ps := by
  induction ps generalizing done with
  | nil => rw [List.foldl_nil, List.append_nil]
  | cons p rest ih =>
    have hlast : ∀ q ∈ done, q.1 < p.1 := fun q hq =>
      (List.pairwise_append.mp h).2.2 q hq p List.mem_cons_self
    rw [List.append_cons] at h
    rw [List.foldl_cons, insert_of_lt p.2 hlast, ih h, ← List.append_cons]

/-- What is in order already stays as it is. -/
theorem ofList_of_ascending {ps : List (κ × α)} (h : Ascending ps) : ofList ps = ps :=
  @foldl_insert_of_ascending κ α _ ps [] h

theorem mem_keys_ofList {ps : List (κ × α)} {k : κ} :
    k ∈ (ofList ps).map Prod.fst ↔ k ∈ ps.map Prod.fst := by
  rw [← isSome_lookup_iff, lookup_ofList, isSome_lookup_iff, List.map_reverse, List.mem_reverse]

theorem Ascending.nodup_keys {ps : List (κ × α)} (h : Ascending ps) : (ps.map Prod.fst).Nodup := by
  rw [List.Nodup, List.pairwise_map]
  exact h.imp fun hlt => ne_of_lt hlt

/-- Among ascending keys, a pair is a member exactly if looking its key up finds it. -/
theorem Ascending.mem_iff_lookup {ps : List (κ × α)} (h : Ascending ps) {k : κ} {v : α} :
    (k, v) ∈ ps ↔ ps.lookup k = some v :=
  mem_iff_lookup_of_nodup h.nodup_keys

/-- The pair of a key is the last one that the list has for it. -/
theorem mem_ofList_iff {ps : List (κ × α)} {k : κ} {v : α} :
    (k, v) ∈ ofList ps ↔ ∃ n, LastWith ps k n ∧ ps[n]? = some (k, v) := by
  rw [(ascending_ofList ps).mem_iff_lookup, lookup_ofList, lookup_reverse_eq_some_iff]

theorem mem_of_mem_ofList {ps : List (κ × α)} {p : κ × α} (h : p ∈ ofList ps) : p ∈ ps := by
  obtain ⟨n, -, hn⟩ := mem_ofList_iff.mp h
  exact List.mem_of_getElem? hn

/-- Of two lists in a row, the second one takes precedence. -/
theorem mem_ofList_append {ps qs : List (κ × α)} {k : κ} {v : α} :
    (k, v) ∈ ofList (ps ++ qs) ↔
      (k, v) ∈ ofList qs ∨ k ∉ qs.map Prod.fst ∧ (k, v) ∈ ofList ps := by
  simp only [(ascending_ofList _).mem_iff_lookup, lookup_ofList, List.reverse_append,
    List.lookup_append]
  cases h : qs.reverse.lookup k with
  | some w =>
    have hk : k ∈ qs.reverse.map Prod.fst := isSome_lookup_iff.mp (by simp [h])
    rw [List.map_reverse, List.mem_reverse] at hk
    simp only [Option.some_or, hk, not_true_eq_false, false_and, or_false]
  | none =>
    have hk : k ∉ qs.reverse.map Prod.fst := lookup_eq_none_iff.mp h
    rw [List.map_reverse, List.mem_reverse] at hk
    simp only [Option.none_or, reduceCtorEq, false_or]
    exact ⟨fun hv => ⟨hk, hv⟩, And.right⟩

end Order

end TextAnnotation.Keyed
