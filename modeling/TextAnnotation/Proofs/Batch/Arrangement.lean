import TextAnnotation.Batch
import TextAnnotation.Proofs.Keyed.Ascending

/-!
# How the docs of a batch are arranged

A batch is taken apart into samples with content and blank ones, the model works on the first part, and
the docs of both are put together again by number. No assumption is made on the model: it may fail, and
it may return too many docs or too few.

* `Arranged`: the order in which docs must come out, and which doc belongs to which number.
* `run_of_blank`, `run_of_error`, `run_of_mismatch`, `run_of_docs`: the four ways in which a batch can end.
* `arranged_merge`: the parts are put together as they must be.
* `run_arranged`: all of this for one batch, with numbers in any order and repeated or not.
-/

namespace TextAnnotation.Batch

def content (samples : List Sample) : List Sample :=
  samples.filter fun s => !s.2.isEmpty

def blanks (samples : List Sample) : List Sample :=
  samples.filter fun s => s.2.isEmpty

/-- `out` is what a batch comes to if the model has returned `docs` for the samples with content. -/
structure Arranged (model : Model) (samples : List Sample) (docs : List Doc) (out : List Result) :
    Prop where
  ascending : Keyed.Ascending out
  numbers : ∀ i, i ∈ out.map Prod.fst ↔ i ∈ samples.map Prod.fst
  /-- An empty text takes precedence over all others of its number. -/
  blank : ∀ i d, (i, d) ∈ out → (i, "") ∈ samples → d = model.emptyDoc
  /-- Otherwise the last sample of a number counts. -/
  doc : ∀ i d, (i, d) ∈ out → (i, "") ∉ samples →
    ∃ k, Keyed.LastWith (content samples) i k ∧ docs[k]? = some d

/-- Each sample has one doc of its own in `out`. -/
structure OnePerSample (model : Model) (samples : List Sample) (docs : List Doc) (out : List Result) :
    Prop where
  length : out.length = samples.length
  own : ∀ i t, (i, t) ∈ samples → ∃ d, (i, d) ∈ out ∧
    if t = "" then d = model.emptyDoc
    else ∃ k : Nat, (content samples)[k]? = some (i, t) ∧ docs[k]? = some d

/-! ## The two parts of a batch -/

theorem split_eq (samples : List Sample) : split samples = (content samples, blanks samples) := by
  simp [split, content, blanks, List.partition_eq_filter_filter, Function.comp_def]

theorem mem_content {samples : List Sample} {s : Sample} :
    s ∈ content samples ↔ s ∈ samples ∧ s.2 ≠ "" := by
  simp [content, List.mem_filter]

theorem mem_blanks {samples : List Sample} {s : Sample} :
    s ∈ blanks samples ↔ s ∈ samples ∧ s.2 = "" := by
  simp [blanks, List.mem_filter, String.isEmpty_iff]

theorem mem_keys_placeholders {model : Model} {samples : List Sample} {i : Nat} :
    i ∈ (placeholders model (blanks samples)).map Prod.fst ↔ (i, "") ∈ samples := by
  simp only [placeholders, List.map_map, List.mem_map, mem_blanks]
  constructor
  · rintro ⟨⟨j, t⟩, ⟨hs, rfl⟩, rfl⟩
    exact hs
  · intro hs
    exact ⟨(i, ""), ⟨hs, rfl⟩, rfl⟩

theorem mem_numbers_iff {samples : List Sample} {i : Nat} :
    i ∈ samples.map Prod.fst ↔ i ∈ (content samples).map Prod.fst ∨ (i, "") ∈ samples := by
  simp only [List.mem_map, mem_content]
  constructor
  · rintro ⟨⟨j, t⟩, hs, rfl⟩
    by_cases ht : t = ""
    · exact Or.inr (ht ▸ hs)
    · exact Or.inl ⟨(j, t), ⟨hs, ht⟩, rfl⟩
  · rintro (⟨s, ⟨hs, -⟩, rfl⟩ | hs)
    · exact ⟨s, hs, rfl⟩
    · exact ⟨(i, ""), hs, rfl⟩

/-! ## The ways in which a batch can end -/

theorem run_eq (model : Model) (samples : List Sample) (batchSize : Nat) :
    run model samples batchSize = do
      let results ← withContent model (content samples) batchSize
      return merge (results ++ placeholders model (blanks samples)) := by
  simp only [run, split_eq]

theorem withContent_of_ne_nil (model : Model) {samples : List Sample} (h : samples ≠ [])
    (batchSize : Nat) :
    withContent model samples batchSize = do
      let docs ← ask model (samples.map (·.2)) batchSize
      return (samples.map (·.1)).zip docs := by
  cases samples with
  | nil => exact absurd rfl h
  | cons s rest => rfl

theorem withContent_result_ok {model : Model} {samples : List Sample} (h : samples ≠ [])
    {batchSize : Nat} {docs : List Doc}
    (hdocs : (ask model (samples.map (·.2)) batchSize).result = .ok docs) :
    withContent model samples batchSize =
      ⟨.ok ((samples.map (·.1)).zip docs), [.batch (samples.map (·.2))]⟩ := by
  rw [withContent_of_ne_nil model h, Traced.bind_of_ok hdocs]
  rfl

/-- Without any content the model is not asked. -/
theorem run_of_blank (model : Model) {samples : List Sample} (h : content samples = [])
    (batchSize : Nat) :
    run model samples batchSize = ⟨.ok (merge (placeholders model (blanks samples))), []⟩ := by
  rw [run_eq, h]
  rfl

theorem run_of_ask_error {model : Model} {samples : List Sample} (h : content samples ≠ [])
    {batchSize : Nat} {e : ModelError}
    (he : (ask model ((content samples).map (·.2)) batchSize).result = .error e) :
    run model samples batchSize = ⟨.error e, [.batch ((content samples).map (·.2))]⟩ := by
  have hcontent : withContent model (content samples) batchSize =
      ⟨.error e, [.batch ((content samples).map (·.2))]⟩ := by
    rw [withContent_of_ne_nil model h, Traced.bind_of_error he]
    rfl
  rw [run_eq, hcontent]
  rfl

theorem run_of_error {model : Model} {samples : List Sample} (h : content samples ≠ [])
    {batchSize : Nat} {e : ModelError}
    (he : model.pipe ((content samples).map (·.2)) batchSize = .error e) :
    run model samples batchSize = ⟨.error e, [.batch ((content samples).map (·.2))]⟩ :=
  run_of_ask_error h (by simp only [ask, he])

theorem run_of_mismatch {model : Model} {samples : List Sample} (h : content samples ≠ [])
    {batchSize : Nat} {docs : List Doc}
    (hdocs : model.pipe ((content samples).map (·.2)) batchSize = .ok docs)
    (hlen : docs.length ≠ (content samples).length) :
    run model samples batchSize =
      ⟨.error (.batchSizeMismatch (content samples).length docs.length),
        [.batch ((content samples).map (·.2))]⟩ :=
  run_of_ask_error h (by simp only [ask, hdocs, List.length_map, if_neg hlen])

theorem run_of_docs {model : Model} {samples : List Sample} (h : content samples ≠ [])
    {batchSize : Nat} {docs : List Doc}
    (hdocs : model.pipe ((content samples).map (·.2)) batchSize = .ok docs)
    (hlen : docs.length = (content samples).length) :
    run model samples batchSize =
      ⟨.ok (merge (((content samples).map (·.1)).zip docs ++ placeholders model (blanks samples))),
        [.batch ((content samples).map (·.2))]⟩ := by
  have hask : (ask model ((content samples).map (·.2)) batchSize).result = .ok docs := by
    simp only [ask, hdocs, List.length_map, if_pos hlen]
  rw [run_eq, withContent_result_ok h hask]
  rfl

/-- The model is asked once, for all texts with content, if there are any. -/
theorem calls_run (model : Model) (samples : List Sample) (batchSize : Nat) :
    (run model samples batchSize).calls =
      if content samples = [] then [] else [.batch ((content samples).map (·.2))] := by
  split
  · next hblank => rw [run_of_blank model hblank]
  · next hcontent =>
    cases hask : (ask model ((content samples).map (·.2)) batchSize).result with
    | error e => rw [run_of_ask_error hcontent hask]
    | ok docs =>
      rw [run_eq, withContent_result_ok hcontent hask]
      rfl

/-! ## Putting the parts together -/

theorem arranged_merge (model : Model) {samples : List Sample} {docs : List Doc}
    (hlen : docs.length = (content samples).length) :
    Arranged model samples docs
      (merge (((content samples).map (·.1)).zip docs ++ placeholders model (blanks samples))) := by
  have hkeys : (((content samples).map (·.1)).zip docs).map Prod.fst = (content samples).map Prod.fst :=
    List.map_fst_zip (by simp [hlen])
  refine ⟨Keyed.ascending_ofList _, fun i => ?_, fun i d hd hi => ?_, fun i d hd hi => ?_⟩
  · rw [merge, Keyed.mem_keys_ofList, List.map_append, List.mem_append, hkeys, mem_keys_placeholders]
    exact mem_numbers_iff.symm
  · rcases Keyed.mem_ofList_append.mp hd with hd | ⟨hnot, -⟩
    · obtain ⟨s, -, hs⟩ := List.mem_map.mp (Keyed.mem_of_mem_ofList hd)
      exact (congrArg Prod.snd hs).symm
    · exact absurd (mem_keys_placeholders.mpr hi) hnot
  · rcases Keyed.mem_ofList_append.mp hd with hd | ⟨-, hd⟩
    · have hmem := List.mem_map_of_mem (f := Prod.fst) (Keyed.mem_of_mem_ofList hd)
      exact absurd (mem_keys_placeholders.mp hmem) hi
    · obtain ⟨k, hk, hget⟩ := Keyed.mem_ofList_iff.mp hd
      exact ⟨k, (Keyed.lastWith_congr hkeys).mp hk, (List.getElem?_zip_eq_some.mp hget).2⟩

theorem arranged_of_blank (model : Model) {samples : List Sample} (h : content samples = []) :
    Arranged model samples [] (merge (placeholders model (blanks samples))) := by
  have hlen : ([] : List Doc).length = (content samples).length := by rw [h]; rfl
  simpa using arranged_merge model hlen

namespace Arranged

variable {model : Model} {samples : List Sample} {docs : List Doc} {out : List Result}

theorem eq_emptyDoc_of_blank (h : Arranged model samples docs out) (hblank : content samples = [])
    {r : Result} (hr : r ∈ out) : r.2 = model.emptyDoc := by
  by_cases hi : (r.1, "") ∈ samples
  · exact h.blank r.1 r.2 hr hi
  · obtain ⟨k, ⟨hk, -⟩, -⟩ := h.doc r.1 r.2 hr hi
    simp [hblank] at hk

/-- If no number is repeated, every sample has its own doc. -/
theorem onePerSample (h : Arranged model samples docs out) (hnodup : (samples.map Prod.fst).Nodup) :
    OnePerSample model samples docs out := by
  have huniq : ∀ i t u, (i, t) ∈ samples → (i, u) ∈ samples → t = u := by
    intro i t u ht hu
    exact congrArg Prod.snd (List.inj_on_of_nodup_map hnodup ht hu rfl)
  refine ⟨?_, fun i t ht => ?_⟩
  · have hperm := (List.perm_ext_iff_of_nodup h.ascending.nodup_keys hnodup).mpr h.numbers
    simpa using hperm.length_eq
  · obtain ⟨⟨j, d⟩, hd, rfl⟩ :=
      List.mem_map.mp ((h.numbers i).mpr (List.mem_map_of_mem (f := Prod.fst) ht))
    refine ⟨d, hd, ?_⟩
    split
    · rename_i hempty
      exact h.blank j d hd (hempty ▸ ht)
    · rename_i hne
      obtain ⟨k, ⟨hk, -⟩, hget⟩ := h.doc j d hd fun hblank => hne (huniq j t "" ht hblank)
      obtain ⟨⟨j', u⟩, hu, rfl⟩ := Option.map_eq_some_iff.mp hk
      have hmem := (mem_content.mp (List.mem_of_getElem? hu)).1
      exact ⟨k, huniq j' t u ht hmem ▸ hu, hget⟩

end Arranged

/-! ## One batch -/

/-- The docs of a batch, whatever the model does. -/
theorem run_arranged (model : Model) (samples : List Sample) (batchSize : Nat) :
    if content samples = [] then
      ∃ out, run model samples batchSize = ⟨.ok out, []⟩ ∧ Arranged model samples [] out ∧
        (∀ r ∈ out, r.2 = model.emptyDoc) ∧
        ((samples.map Prod.fst).Nodup → OnePerSample model samples [] out)
    else
      (run model samples batchSize).calls = [.batch ((content samples).map (·.2))] ∧
      match model.pipe ((content samples).map (·.2)) batchSize with
      | .error e => (run model samples batchSize).result = .error e
      | .ok docs =>
        if docs.length = (content samples).length then
          ∃ out, (run model samples batchSize).result = .ok out ∧ Arranged model samples docs out ∧
            ((samples.map Prod.fst).Nodup → OnePerSample model samples docs out)
        else
          (run model samples batchSize).result =
            .error (.batchSizeMismatch (content samples).length docs.length) := by
  split
  · rename_i hblank
    have harr := arranged_of_blank model hblank
    exact ⟨_, run_of_blank model hblank batchSize, harr,
      fun r hr => harr.eq_emptyDoc_of_blank hblank hr, harr.onePerSample⟩
  · rename_i hcontent
    cases hpipe : model.pipe ((content samples).map (·.2)) batchSize with
    | error e =>
      rw [run_of_error hcontent hpipe]
      exact ⟨rfl, rfl⟩
    | ok docs =>
      by_cases hlen : docs.length = (content samples).length
      · rw [run_of_docs hcontent hpipe hlen]
        have harr := arranged_merge model hlen
        refine ⟨rfl, ?_⟩
        simp only [if_pos hlen]
        exact ⟨_, rfl, harr, harr.onePerSample⟩
      · rw [run_of_mismatch hcontent hpipe hlen]
        refine ⟨rfl, ?_⟩
        simp only [if_neg hlen]

end TextAnnotation.Batch
