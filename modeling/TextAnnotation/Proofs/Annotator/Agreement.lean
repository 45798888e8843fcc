import TextAnnotation.Proofs.Annotator.Annotating
import TextAnnotation.Proofs.Annotator.Learning
import TextAnnotation.Stub

/-!
# Learning and annotating agree

The docs of examples are made by batches, those of a single message text by text. For a model to which
this makes no difference (`Model.Pointwise`) both attach the same docs, but for docs without tokens: a text
of blanks has content and may have no token, and then annotating attaches its doc while learning does not.

* `pointwise_stub`: stubs that keep all docs are such models.
* `gain?_of_pointwise`: what an example gains by learning.
* `doc_learnInPlace_iff`: the docs after learning are those of annotating that have tokens.
* `learnInPlace_skips_blanks`: the docs can differ.
-/

namespace TextAnnotation

/-- A model that makes docs by `f`, for single texts and for batches of any size alike. -/
structure Model.Pointwise (model : Model) (f : String → Doc) : Prop where
  doc : ∀ t, model.doc t = .ok (f t)
  pipe : ∀ ts batchSize, model.pipe ts batchSize = .ok (ts.map f)

theorem pointwise_stub {s : Stub} (h : s.dropsLast = false) : s.model.Pointwise s.doc := by
  refine ⟨fun _ => rfl, fun ts _ => ?_⟩
  simp [Stub.model, Stub.pipe, h]

namespace Annotator

theorem answer_of_pointwise {a : Annotator} {f : String → Doc} (hf : a.model.Pointwise f)
    (examples : List Message) (which : Attribute) :
    a.answer examples which = .ok ((a.contentTexts examples which).map f) :=
  hf.pipe _ _

theorem fault?_of_pointwise {a : Annotator} {f : String → Doc} (hf : a.model.Pointwise f)
    (examples : List Message) (which : Attribute) : a.fault? examples which = none := by
  unfold fault?
  split
  · rfl
  · simp [answer_of_pointwise hf]

theorem gain?_of_pointwise {a : Annotator} {f : String → Doc} (hf : a.model.Pointwise f)
    {examples : List Message} {i : Nat} {m : Message} (hm : examples[i]? = some m)
    (which : Attribute) :
    a.gain? examples which i = (a.docFor f m which).filter fun d => !d.isEmpty := by
  have htext : (a.texts examples which)[i]? = some (a.preprocess (m.get which)) := by
    rw [texts, List.getElem?_map, hm]
    rfl
  cases hcontent : contentOf m which with
  | none =>
    have hempty : a.preprocess (m.get which) = "" := preprocess_eq_empty_iff.mpr hcontent
    rw [docFor, hcontent, gain?_of_empty (hempty ▸ htext)]
    rfl
  | some t =>
    obtain ⟨hget, -⟩ := Option.filter_eq_some_iff.mp hcontent
    have hne : a.preprocess (m.get which) ≠ "" := by
      intro hempty
      rw [preprocess_eq_empty_iff.mp hempty] at hcontent
      cases hcontent
    have hplace : (a.contentTexts examples which)[place (a.texts examples which) i]? =
        some (a.preprocess (m.get which)) :=
      getElem?_filter_of_take htext (by simpa using hne)
    rw [gain?_of_content htext hne (answer_of_pointwise hf examples which), List.getElem?_map, hplace,
      docFor, hcontent, hget]
    rfl

/-- After learning from examples without docs, an example has exactly those docs that annotating it on its
own attaches and that have a token. -/
theorem doc_learnInPlace_iff {a : Annotator} {f : String → Doc} (hf : a.model.Pointwise f)
    {examples : List Message} (hbare : ∀ m ∈ examples, ∀ which, m.doc which = none) :
    (a.learnInPlace examples).result = .ok () ∧
    (a.learnInPlace examples).examples.length = examples.length ∧
    ∀ (i : Nat) (m : Message), examples[i]? = some m →
      ∃ m', (a.learnInPlace examples).examples[i]? = some m' ∧ (a.annotate m).result = .ok () ∧
        ∀ which d, m'.doc which = some d ↔
          (a.annotate m).message.doc which = some d ∧ d.tokens ≠ [] := by
  obtain ⟨all, hall, hkeys, hgains⟩ : ∃ all, (a.learnDocs examples).result = .ok all ∧
      all.map Prod.fst = Attribute.all ∧ ∀ x ∈ all, Gains a examples x.1 x.2 := by
    have hdocs := docsOfEach_spec a examples Attribute.all
    have hnone : Attribute.all.findSome? (a.fault? examples) = none :=
      List.findSome?_eq_none_iff.mpr fun which _ => fault?_of_pointwise hf examples which
    rwa [hnone] at hdocs
  rw [learnInPlace_of_ok hall]
  refine ⟨rfl, length_attachEach examples all, fun i m hm => ?_⟩
  obtain ⟨m', hm', -, hdoc⟩ := attachEach_spec hkeys hgains hm
  obtain ⟨hresult, hannotated⟩ := annotate_of_total hf.doc m
  have hnone : ∀ which, m.doc which = none := hbare m (List.mem_of_getElem? hm)
  refine ⟨m', hm', hresult, fun which d => ?_⟩
  rw [hdoc which, hannotated which, hnone which, Option.or_none, Option.or_none,
    gain?_of_pointwise hf hm, Option.filter_eq_some_iff]
  simp [Doc.isEmpty]

/-- A stub learns from a message of blanks and from one of words. -/
theorem doc_learnInPlace_iff_stub :
    let a : Annotator := ⟨Options.default, (Stub.mk "en" true false).model⟩
    let examples := [Message.ofText " ", (Message.ofText "Hi hi").setText .response ""]
    a.model.Pointwise (Stub.mk "en" true false).doc ∧
    (∀ m ∈ examples, ∀ which, m.doc which = none) ∧
    (a.learnInPlace examples).result = .ok () ∧
    (a.learnInPlace examples).examples.length = examples.length ∧
    ∀ (i : Nat) (m : Message), examples[i]? = some m →
      ∃ m', (a.learnInPlace examples).examples[i]? = some m' ∧ (a.annotate m).result = .ok () ∧
        ∀ which d, m'.doc which = some d ↔
          (a.annotate m).message.doc which = some d ∧ d.tokens ≠ [] := by
  intro a examples
  have hf : a.model.Pointwise (Stub.mk "en" true false).doc := pointwise_stub rfl
  have hbare : ∀ m ∈ examples, ∀ which, m.doc which = none := by
    intro m hm which
    simp only [examples, List.mem_cons, List.not_mem_nil, or_false] at hm
    rcases hm with rfl | rfl <;> cases which <;> rfl
  exact ⟨hf, hbare, doc_learnInPlace_iff hf hbare⟩

/-- A text of blanks has a doc after annotating and none after learning. -/
theorem learnInPlace_skips_blanks :
    let a : Annotator := ⟨Options.default, (Stub.mk "en" true false).model⟩
    let m := Message.ofText " "
    a.model.Pointwise (Stub.mk "en" true false).doc ∧ (∀ which, m.doc which = none) ∧
    ((a.annotate m).message.doc .text).isSome = true ∧
    (a.learnInPlace [m]).examples.map (fun m' => (m'.doc .text).isSome) = [false] :=
  ⟨pointwise_stub rfl, fun which => by cases which <;> rfl, rfl, rfl⟩

end Annotator

end TextAnnotation
