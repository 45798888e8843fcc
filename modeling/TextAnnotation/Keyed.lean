/-!
# Lists in the order of their keys

* `insert`: sets the value of a key.
* `ofList`: the pairs of a list in the order of their keys; of two with one key the last one counts.
-/

namespace TextAnnotation.Keyed

variable {κ α : Type} [LT κ] [DecidableLT κ] [DecidableEq κ]

def insert (k : κ) (v : α) : List (κ × α) → List (κ × α)
  | [] => [(k, v)]
  | (k', v') :: rest =>
    if k < k' then (k, v) :: (k', v') :: rest
    else if k = k' then (k, v) :: rest
    else (k', v') :: insert k v rest

/-- The pairs of a list in the order of their keys. -/
def ofList (ps : List (κ × α)) : List (κ × α) :=
  ps.foldl (fun done p => insert p.1 p.2 done) []

omit [LT κ] [DecidableLT κ] in
theorem lookup_cons_eq_ite (k j : κ) (v : α) (ps : List (κ × α)) :
    ((k, v) :: ps).lookup j = if j = k then some v else ps.lookup j := by
  by_cases h : j = k
  · simp [h]
  · simp [List.lookup_cons, beq_false_of_ne h, h]

@[simp] theorem lookup_insert (k j : κ) (v : α) (ps : List (κ × α)) :
    (insert k v ps).lookup j = if j = k then some v else ps.lookup j := by
  induction ps with
  | nil => simp [insert, lookup_cons_eq_ite]
  | cons p rest ih =>
    obtain ⟨k', v'⟩ := p
    simp only [insert]
    split
    · exact lookup_cons_eq_ite k j v _
    · split
      · subst k'
        simp only [lookup_cons_eq_ite]
        split <;> rfl
      · rename_i hne
        simp only [lookup_cons_eq_ite, ih]
        by_cases h : j = k
        · simp [h, hne]
        · simp [h]

theorem lookup_foldl_insert (ps done : List (κ × α)) (k : κ) :
    (ps.foldl (fun done p => insert p.1 p.2 done) done).lookup k
      = (ps.reverse.lookup k).or (done.lookup k) := by
  induction ps generalizing done with
  | nil => simp
  | cons p rest ih =>
    simp only [List.foldl_cons, ih, lookup_insert, List.reverse_cons, List.lookup_append]
    rw [show [p] = [(p.1, p.2)] from rfl, lookup_cons_eq_ite]
    cases rest.reverse.lookup k <;> by_cases h : k = p.1 <;> simp [h]

theorem lookup_ofList (ps : List (κ × α)) (k : κ) :
    (ofList ps).lookup k = ps.reverse.lookup k := by
  simp [ofList, lookup_foldl_insert]

end TextAnnotation.Keyed
