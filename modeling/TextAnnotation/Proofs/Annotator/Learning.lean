import TextAnnotation.Annotator
import TextAnnotation.Proofs.Batch.Arrangement

/-!
# What learning does to the examples

Learning has two phases: the docs of all attributes are made, then they are attached. Nothing is assumed
of the model, and the examples may already have docs.

* `fault?`: why there are no docs for an attribute.
* `gain?`: the doc that one example gains under one attribute.
* `docsOf_spec`, `docsOfEach_spec`: the first phase fails with the first fault, or it has the docs of every
  attribute in the order of the examples.
* `attachEach_spec`: the second phase attaches to each example what belongs to it.
* `learnInPlace_exact`: after a fault the examples are as before, and otherwise each of them has its gains.
-/

namespace TextAnnotation.Annotator

/-! ## What is asked of the model, and what it returns -/

def texts (a : Annotator) (examples : List Message) (which : Attribute) : List String :=
  examples.map fun m => a.preprocess (m.get which)

def contentTexts (a : Annotator) (examples : List Message) (which : Attribute) : List String :=
  (a.texts examples which).filter fun t => !t.isEmpty

/-- What the model answers to the texts with content. -/
def answer (a : Annotator) (examples : List Message) (which : Attribute) :
    Except ModelError (List Doc) :=
  a.model.pipe (a.contentTexts examples which) a.options.batchSize.toNat

/-- Why there are no docs for an attribute: the model fails, or it returns too many docs or too few.
Without any content the model is not asked. -/
def fault? (a : Annotator) (examples : List Message) (which : Attribute) : Option ModelError :=
  if a.contentTexts examples which = [] then none
  else match a.answer examples which with
    | .error e => some e
    | .ok docs =>
      if docs.length = (a.contentTexts examples which).length then none
      else some (.batchSizeMismatch (a.contentTexts examples which).length docs.length)

/-- How many of the first `i` texts have content: the place of the next one among those that do. -/
def place (texts : List String) (i : Nat) : Nat :=
  ((texts.take i).filter fun t => !t.isEmpty).length

/-- The doc that example `i` gains under an attribute: the one at its place, if the text has content and
the doc has a token. -/
def gain? (a : Annotator) (examples : List Message) (which : Attribute) (i : Nat) : Option Doc :=
  match (a.texts examples which)[i]?, a.answer examples which with
  | some t, .ok docs =>
    if t = "" then none
    else docs[place (a.texts examples which) i]?.filter fun d => !d.isEmpty
  | _, _ => none

/-! ## Numbered samples -/

theorem getElem?_samples (a : Annotator) (examples : List Message) (which : Attribute) (i : Nat) :
    (a.samples which examples)[i]? = ((a.texts examples which)[i]?).map fun t => (i, t) := by
  simp only [samples, texts, List.getElem?_map, List.getElem?_zipIdx, Option.map_map, Nat.zero_add]
  rfl

theorem map_snd_samples (a : Annotator) (examples : List Message) (which : Attribute) :
    (a.samples which examples).map (·.2) = a.texts examples which := by
  refine List.ext_getElem? fun i => ?_
  rw [List.getElem?_map, getElem?_samples, Option.map_map]
  exact Option.map_id'

theorem map_fst_samples (a : Annotator) (examples : List Message) (which : Attribute) :
    (a.samples which examples).map Prod.fst = List.range examples.length := by
  refine List.ext_getElem? fun i => ?_
  rw [List.getElem?_map, getElem?_samples, Option.map_map, texts, List.getElem?_map, Option.map_map]
  by_cases hi : i < examples.length
  · rw [List.getElem?_eq_getElem hi, List.getElem?_range hi]
    rfl
  · rw [List.getElem?_eq_none (by omega), List.getElem?_eq_none (by simpa using hi)]
    rfl

theorem content_samples (a : Annotator) (examples : List Message) (which : Attribute) :
    (Batch.content (a.samples which examples)).map (·.2) = a.contentTexts examples which := by
  rw [contentTexts, ← map_snd_samples, List.filter_map]
  rfl

theorem nodup_content_numbers (a : Annotator) (examples : List Message) (which : Attribute) :
    ((Batch.content (a.samples which examples)).map Prod.fst).Nodup := by
  have hsub : (Batch.content (a.samples which examples)).Sublist (a.samples which examples) :=
    List.filter_sublist
  refine (hsub.map Prod.fst).nodup ?_
  rw [map_fst_samples]
  exact List.nodup_range

/-- A member that passes a filter stands behind those before it that pass. -/
theorem getElem?_filter_of_take {α : Type} {p : α → Bool} {l : List α} {i : Nat} {x : α}
    (h : l[i]? = some x) (hx : p x = true) : (l.filter p)[((l.take i).filter p).length]? = some x := by
  induction l generalizing i with
  | nil => simp at h
  | cons y rest ih =>
    cases i with
    | zero =>
      obtain rfl : y = x := by simpa using h
      simp [hx]
    | succ i =>
      have hrest := ih (by simpa using h)
      rw [List.take_succ_cons, List.filter_cons, List.filter_cons]
      split
      · simpa using hrest
      · exact hrest

theorem getElem?_content_samples {a : Annotator} {examples : List Message} {which : Attribute} {i : Nat}
    {t : String} (h : (a.texts examples which)[i]? = some t) (ht : t ≠ "") :
    (Batch.content (a.samples which examples))[place (a.texts examples which) i]? = some (i, t) := by
  have hsample : (a.samples which examples)[i]? = some (i, t) := by rw [getElem?_samples, h]; rfl
  have hplace : place (a.texts examples which) i =
      (((a.samples which examples).take i).filter fun s => !s.2.isEmpty).length := by
    rw [place, ← map_snd_samples, ← List.map_take, List.filter_map, List.length_map]
    rfl
  rw [hplace]
  exact getElem?_filter_of_take hsample (by simpa using ht)

/-- The samples with content have different numbers, so only one place holds a given one. -/
theorem eq_place_of_content {a : Annotator} {examples : List Message} {which : Attribute} {i k : Nat}
    {t : String} (h : (a.texts examples which)[i]? = some t) (ht : t ≠ "")
    (hk : (Batch.content (a.samples which examples))[k]? = some (i, t)) :
    k = place (a.texts examples which) i := by
  have hlt : k < ((Batch.content (a.samples which examples)).map Prod.fst).length := by
    rw [List.length_map]
    exact (List.getElem?_eq_some_iff.mp hk).1
  refine (List.getElem?_inj hlt (nodup_content_numbers a examples which)).mp ?_
  rw [List.getElem?_map, List.getElem?_map, hk, getElem?_content_samples h ht]

/-! ## The docs of an attribute -/

theorem length_texts (a : Annotator) (examples : List Message) (which : Attribute) :
    (a.texts examples which).length = examples.length := by
  simp [texts]

theorem gain?_of_none {a : Annotator} {examples : List Message} {which : Attribute} {i : Nat}
    (h : (a.texts examples which)[i]? = none) : a.gain? examples which i = none := by
  rw [gain?, h]

theorem gain?_of_empty {a : Annotator} {examples : List Message} {which : Attribute} {i : Nat}
    (h : (a.texts examples which)[i]? = some "") : a.gain? examples which i = none := by
  rw [gain?, h]
  cases a.answer examples which with
  | error e => rfl
  | ok docs => rfl

theorem gain?_of_content {a : Annotator} {examples : List Message} {which : Attribute} {i : Nat}
    {t : String} {docs : List Doc} (h : (a.texts examples which)[i]? = some t) (ht : t ≠ "")
    (hanswer : a.answer examples which = .ok docs) :
    a.gain? examples which i =
      docs[place (a.texts examples which) i]?.filter fun d => !d.isEmpty := by
  rw [gain?, h, hanswer]
  exact if_neg ht

/-- `docs` holds one doc for each example, and those with tokens are what the examples gain. -/
structure Gains (a : Annotator) (examples : List Message) (which : Attribute) (docs : List Doc) :
    Prop where
  length : docs.length = examples.length
  gain : ∀ i : Nat, (docs[i]?.filter fun d => !d.isEmpty) = a.gain? examples which i

/-- With the samples numbered from zero, the pair of a number stands at the position of that number. -/
theorem getElem?_of_arranged {model : Model} {samples : List Batch.Sample} {docs : List Doc}
    {out : List Batch.Result} {n : Nat} (h : Batch.Arranged model samples docs out)
    (hn : samples.map Prod.fst = List.range n) {i : Nat} {d : Doc} (hd : (i, d) ∈ out) :
    out[i]? = some (i, d) := by
  have hkeys : out.map Prod.fst = List.range n := by
    refine List.Pairwise.eq_of_mem_iff (List.pairwise_map.mpr h.ascending) List.pairwise_lt_range ?_
    intro j
    rw [h.numbers, hn]
  obtain ⟨k, hk⟩ := List.mem_iff_getElem?.mp hd
  have hki : (List.range n)[k]? = some i := by rw [← hkeys, List.getElem?_map, hk]; rfl
  obtain ⟨-, rfl⟩ := by simpa [List.getElem?_eq_some_iff] using hki
  exact hk

/-- The doc of an example is its gain, or it has no token. -/
theorem filter_of_own {a : Annotator} {examples : List Message} {which : Attribute}
    {docs : List Doc} {i : Nat} {t : String} {d : Doc}
    (hdocs : a.contentTexts examples which ≠ [] → a.answer examples which = .ok docs)
    (ht : (a.texts examples which)[i]? = some t)
    (hd : if t = "" then d = a.model.emptyDoc else
      ∃ k : Nat, (Batch.content (a.samples which examples))[k]? = some (i, t) ∧ docs[k]? = some d) :
    ((some d).filter fun d => !d.isEmpty) = a.gain? examples which i := by
  split at hd
  · next hempty =>
    subst hempty hd
    rw [gain?_of_empty ht]
    rfl
  · next hne =>
    obtain ⟨k, hk, hget⟩ := hd
    have hanswer : a.answer examples which = .ok docs := by
      refine hdocs fun hnil => ?_
      rw [← content_samples, List.map_eq_nil_iff] at hnil
      rw [hnil] at hk
      cases hk
    rw [gain?_of_content ht hne hanswer, ← eq_place_of_content ht hne hk, hget]

theorem gains_of_arranged {a : Annotator} {examples : List Message} {which : Attribute}
    {docs : List Doc} {out : List Batch.Result}
    (harr : Batch.Arranged a.model (a.samples which examples) docs out)
    (hdocs : a.contentTexts examples which ≠ [] → a.answer examples which = .ok docs) :
    Gains a examples which (out.map (·.2)) := by
  have hnumbers := map_fst_samples a examples which
  have hown := harr.onePerSample (hnumbers ▸ List.nodup_range)
  have hlen : (out.map (·.2)).length = examples.length := by
    have hsamples := congrArg List.length hnumbers
    rw [List.length_map, List.length_range] at hsamples
    rw [List.length_map, hown.length, hsamples]
  refine ⟨hlen, fun i => ?_⟩
  cases ht : (a.texts examples which)[i]? with
  | none =>
    have hi : examples.length ≤ i := by
      rw [← length_texts a examples which]
      exact List.getElem?_eq_none_iff.mp ht
    rw [List.getElem?_eq_none (hlen ▸ hi), gain?_of_none ht]
    rfl
  | some t =>
    have hsample : (i, t) ∈ a.samples which examples := by
      refine List.mem_of_getElem? (i := i) ?_
      rw [getElem?_samples, ht]
      rfl
    obtain ⟨d, hd, hdoc⟩ := hown.own i t hsample
    rw [List.getElem?_map, getElem?_of_arranged harr hnumbers hd, Option.map_some]
    exact filter_of_own hdocs ht hdoc

theorem docsOf_eq (a : Annotator) (which : Attribute) (examples : List Message) :
    (a.docsOf which examples).result =
      (Batch.run a.model (a.samples which examples) a.options.batchSize.toNat).result.map
        fun out => out.map (·.2) := by
  rw [docsOf, Traced.result_bind]
  cases (Batch.run a.model (a.samples which examples) a.options.batchSize.toNat).result <;> rfl

theorem docsOf_spec (a : Annotator) (examples : List Message) (which : Attribute) :
    match a.fault? examples which with
    | some e => (a.docsOf which examples).result = .error e
    | none => ∃ docs, (a.docsOf which examples).result = .ok docs ∧ Gains a examples which docs := by
  have hcontent := content_samples a examples which
  have hlen : (Batch.content (a.samples which examples)).length =
      (a.contentTexts examples which).length := by rw [← hcontent, List.length_map]
  rw [docsOf_eq]
  by_cases hnil : a.contentTexts examples which = []
  · have hblank : Batch.content (a.samples which examples) = [] := by
      rwa [← hcontent, List.map_eq_nil_iff] at hnil
    simp only [fault?, hnil, if_true]
    rw [Batch.run_of_blank _ hblank]
    exact ⟨_, rfl, gains_of_arranged (Batch.arranged_of_blank a.model hblank) (absurd hnil)⟩
  · have hne : Batch.content (a.samples which examples) ≠ [] := by
      rwa [← hcontent, List.map_eq_nil_iff] at hnil
    simp only [fault?, hnil, if_false]
    cases hanswer : a.answer examples which with
    | error e =>
      rw [Batch.run_of_error hne (by rw [hcontent]; exact hanswer)]
      rfl
    | ok docs =>
      have hpipe : a.model.pipe ((Batch.content (a.samples which examples)).map (·.2))
          a.options.batchSize.toNat = .ok docs := by rw [hcontent]; exact hanswer
      by_cases hdocs : docs.length = (a.contentTexts examples which).length
      · simp only [hdocs, if_true]
        rw [Batch.run_of_docs hne hpipe (hdocs.trans hlen.symm)]
        have harr := Batch.arranged_merge a.model (hdocs.trans hlen.symm)
        exact ⟨_, rfl, gains_of_arranged harr fun _ => hanswer⟩
      · simp only [hdocs, if_false]
        rw [Batch.run_of_mismatch hne hpipe (hlen ▸ hdocs), hlen]
        rfl

/-- The first fault among the attributes decides; without one there are docs for each of them. -/
theorem docsOfEach_spec (a : Annotator) (examples : List Message) (attributes : List Attribute) :
    match attributes.findSome? (a.fault? examples) with
    | some e => (a.docsOfEach examples attributes).result = .error e
    | none => ∃ all, (a.docsOfEach examples attributes).result = .ok all ∧
        all.map Prod.fst = attributes ∧ ∀ x ∈ all, Gains a examples x.1 x.2 := by
  induction attributes with
  | nil => exact ⟨[], rfl, rfl, by simp⟩
  | cons which rest ih =>
    have hfirst := docsOf_spec a examples which
    rw [docsOfEach, List.findSome?_cons]
    cases hfault : a.fault? examples which with
    | some e =>
      rw [hfault] at hfirst
      exact Traced.result_bind_of_error hfirst
    | none =>
      rw [hfault] at hfirst
      obtain ⟨docs, hdocs, hgains⟩ := hfirst
      rw [Traced.result_bind_of_ok hdocs]
      cases hrest : rest.findSome? (a.fault? examples) with
      | some e =>
        rw [hrest] at ih
        exact Traced.result_bind_of_error ih
      | none =>
        rw [hrest] at ih
        obtain ⟨all, hall, hkeys, hmem⟩ := ih
        refine ⟨(which, docs) :: all, Traced.result_bind_of_ok hall, by rw [List.map_cons, hkeys], ?_⟩
        intro x hx
        rcases List.mem_cons.mp hx with rfl | hx
        · exact hgains
        · exact hmem x hx

/-! ## Attaching the docs -/

def attach? (m : Message) (which : Attribute) (doc : Option Doc) : Message :=
  doc.elim m (m.attach which)

theorem texts_attach? (m : Message) (which : Attribute) (doc : Option Doc) :
    (attach? m which doc).texts = m.texts := by
  cases doc with
  | none => rfl
  | some d => exact Message.texts_attach m which d

theorem doc_attach? (m : Message) (which b : Attribute) (doc : Option Doc) :
    (attach? m which doc).doc b =
      if which = b then (doc.filter fun d => !d.isEmpty).or (m.doc b) else m.doc b := by
  cases doc with
  | none => simp [attach?]
  | some d =>
    rw [attach?, Option.elim_some, Message.doc_attach]
    by_cases hb : which = b
    · cases hd : d.isEmpty <;> simp [hb, hd, Option.filter]
    · simp [hb]

theorem getElem?_attachDocs (which : Attribute) (ms : List Message) (ds : List Doc) (i : Nat) :
    (attachDocs which ms ds)[i]? = ms[i]?.map fun m => attach? m which ds[i]? := by
  induction ms generalizing ds i with
  | nil => simp [attachDocs]
  | cons m ms ih =>
    cases ds with
    | nil => simp [attachDocs, attach?]
    | cons d ds =>
      cases i with
      | zero => rfl
      | succ i => simpa [attachDocs] using ih ds i

theorem length_attachDocs (which : Attribute) (ms : List Message) (ds : List Doc) :
    (attachDocs which ms ds).length = ms.length := by
  induction ms generalizing ds with
  | nil => simp [attachDocs]
  | cons m ms ih =>
    cases ds with
    | nil => rfl
    | cons d ds => simp [attachDocs, ih]

/-- What becomes of example `i` when the docs of several attributes are attached. -/
theorem getElem?_attachEach (examples : List Message) (all : List (Attribute × List Doc)) (i : Nat) :
    (attachEach examples all)[i]? =
      examples[i]?.map fun m => all.foldl (fun m x => attach? m x.1 x.2[i]?) m := by
  induction all generalizing examples with
  | nil => simp [attachEach]
  | cons x rest ih =>
    have hstep := ih (attachDocs x.1 examples x.2)
    rw [getElem?_attachDocs, Option.map_map] at hstep
    exact hstep

theorem texts_foldl_attach? (all : List (Attribute × List Doc)) (i : Nat) (m : Message) :
    (all.foldl (fun m x => attach? m x.1 x.2[i]?) m).texts = m.texts := by
  induction all generalizing m with
  | nil => rfl
  | cons x rest ih => rw [List.foldl_cons, ih, texts_attach?]

theorem doc_foldl_attach? {a : Annotator} {examples : List Message}
    {all : List (Attribute × List Doc)} (hnodup : (all.map Prod.fst).Nodup)
    (hgains : ∀ x ∈ all, Gains a examples x.1 x.2) (i : Nat) (m : Message) (which : Attribute) :
    (all.foldl (fun m x => attach? m x.1 x.2[i]?) m).doc which =
      if which ∈ all.map Prod.fst then (a.gain? examples which i).or (m.doc which)
      else m.doc which := by
  induction all generalizing m with
  | nil => simp
  | cons x rest ih =>
    obtain ⟨hnot, hrest⟩ := List.nodup_cons.mp hnodup
    have hx := (hgains x List.mem_cons_self).gain i
    rw [List.foldl_cons, ih hrest fun y hy => hgains y (List.mem_cons_of_mem _ hy), doc_attach?, hx,
      List.map_cons]
    by_cases hwhich : x.1 = which
    · subst hwhich
      rw [if_neg hnot, if_pos rfl, if_pos List.mem_cons_self]
    · have hmem : which ∈ x.1 :: rest.map Prod.fst ↔ which ∈ rest.map Prod.fst := by
        simp [Ne.symm hwhich]
      simp only [if_neg hwhich, hmem]

/-- Each example keeps its texts, and under every attribute it has its gain or else what it had. -/
theorem attachEach_spec {a : Annotator} {examples : List Message} {all : List (Attribute × List Doc)}
    (hall : all.map Prod.fst = Attribute.all) (hgains : ∀ x ∈ all, Gains a examples x.1 x.2) {i : Nat}
    {m : Message} (hm : examples[i]? = some m) :
    ∃ m', (attachEach examples all)[i]? = some m' ∧ m'.texts = m.texts ∧
      ∀ which, m'.doc which = (a.gain? examples which i).or (m.doc which) := by
  refine ⟨_, by rw [getElem?_attachEach, hm]; rfl, texts_foldl_attach? all i m, fun which => ?_⟩
  rw [doc_foldl_attach? (hall ▸ by decide) hgains, hall, if_pos (Attribute.mem_all which)]

theorem length_attachEach (examples : List Message) (all : List (Attribute × List Doc)) :
    (attachEach examples all).length = examples.length := by
  induction all generalizing examples with
  | nil => rfl
  | cons x rest ih => exact (ih _).trans (length_attachDocs x.1 examples x.2)

/-! ## Learning -/

/-- Learning attaches to each example exactly its gains, or it fails with the first fault and leaves
everything as it was. -/
theorem learnInPlace_exact (a : Annotator) (examples : List Message) :
    match Attribute.all.findSome? (a.fault? examples) with
    | some e =>
      (a.learnInPlace examples).result = .error e ∧ (a.learnInPlace examples).examples = examples
    | none =>
      (a.learnInPlace examples).result = .ok () ∧
      (a.learnInPlace examples).examples.length = examples.length ∧
      ∀ (i : Nat) (m : Message), examples[i]? = some m →
        ∃ m', (a.learnInPlace examples).examples[i]? = some m' ∧ m'.texts = m.texts ∧
          ∀ which, m'.doc which = (a.gain? examples which i).or (m.doc which) := by
  have hdocs := docsOfEach_spec a examples Attribute.all
  split
  · rename_i e he
    rw [he] at hdocs
    rw [learnInPlace_of_error hdocs]
    exact ⟨rfl, rfl⟩
  · rename_i hnone
    rw [hnone] at hdocs
    obtain ⟨all, hall, hkeys, hgains⟩ := hdocs
    rw [learnInPlace_of_ok hall]
    exact ⟨rfl, length_attachEach examples all, fun i m hm => attachEach_spec hkeys hgains hm⟩

end TextAnnotation.Annotator
