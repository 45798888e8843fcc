import TextAnnotation.Proofs.Annotator.Agreement

/-!
# Learning and annotating again

Annotating attaches the doc of every text with content, learning only one that has a token, and both leave
the other docs as they are. Texts are never changed, so the docs that are made are the same each time.

* `Message.withDocs`: a message with docs in the place of its own.
* `message_annotate`, `learnedAmong_of_pointwise`: what annotating and learning make of a message.
* `learn_annotate_swap`: both can be repeated and swapped.
-/

namespace TextAnnotation

namespace Message

/-- A message with docs in the place of its own. Where there is none its own one stays. -/
def withDocs (m : Message) (docs : Attribute → Option Doc) : Message where
  texts := m.texts
  docs := ⟨(docs .text).or (m.doc .text), (docs .response).or (m.doc .response),
    (docs .actionText).or (m.doc .actionText)⟩

@[simp] theorem texts_withDocs (m : Message) (docs : Attribute → Option Doc) :
    (m.withDocs docs).texts = m.texts := rfl

@[simp] theorem doc_withDocs (m : Message) (docs : Attribute → Option Doc) (which : Attribute) :
    (m.withDocs docs).doc which = (docs which).or (m.doc which) := by
  cases which <;> rfl

end Message

namespace Annotator

theorem eq_withDocs {m m' : Message} {docs : Attribute → Option Doc} (htexts : m'.texts = m.texts)
    (hdoc : ∀ which, m'.doc which = (docs which).or (m.doc which)) : m' = m.withDocs docs :=
  eq_of_texts_of_doc htexts fun which => by rw [hdoc which, Message.doc_withDocs]

/-- Of docs that are attached one after the other, the later ones count. -/
theorem withDocs_withDocs (m : Message) (docs more : Attribute → Option Doc) :
    (m.withDocs docs).withDocs more = m.withDocs fun which => (more which).or (docs which) := by
  refine eq_withDocs rfl fun which => ?_
  rw [Message.doc_withDocs, Message.doc_withDocs, Option.or_assoc]

/-- What becomes of an example among others when all of them are learnt from. -/
def learnedAmong (a : Annotator) (before after : List Message) (m : Message) : Option Message :=
  match (a.learnInPlace (before ++ m :: after)).result with
  | .ok () => (a.learnInPlace (before ++ m :: after)).examples[before.length]?
  | .error _ => none

/-- The doc of the text of an attribute, if it has a token. -/
def learntDocFor (a : Annotator) (f : String → Doc) (m : Message) (which : Attribute) : Option Doc :=
  (a.docFor f m which).filter fun d => !d.isEmpty

section Pointwise

variable {a : Annotator} {f : String → Doc}

theorem message_annotate (hf : ∀ t, a.model.doc t = .ok (f t)) (m : Message) :
    (a.annotate m).message = m.withDocs (a.docFor f m) :=
  eq_withDocs (texts_annotateEach a m Attribute.all) (annotate_of_total hf m).2

theorem learnedAmong_of_pointwise (hf : a.model.Pointwise f) (before after : List Message) (m : Message) :
    a.learnedAmong before after m = some (m.withDocs (a.learntDocFor f m)) := by
  obtain ⟨all, hall, hkeys, hgains⟩ : ∃ all, (a.learnDocs (before ++ m :: after)).result = .ok all ∧
      all.map Prod.fst = Attribute.all ∧ ∀ x ∈ all, Gains a (before ++ m :: after) x.1 x.2 := by
    have hdocs := docsOfEach_spec a (before ++ m :: after) Attribute.all
    have hnone : Attribute.all.findSome? (a.fault? (before ++ m :: after)) = none :=
      List.findSome?_eq_none_iff.mpr fun which _ => fault?_of_pointwise hf _ which
    rwa [hnone] at hdocs
  have hm : (before ++ m :: after)[before.length]? = some m := by
    rw [List.getElem?_append_right (Nat.le_refl _), Nat.sub_self]
    rfl
  obtain ⟨t, ht, htexts, hdoc⟩ := attachEach_spec hkeys hgains hm
  rw [learnedAmong, learnInPlace_of_ok hall]
  refine ht.trans (congrArg some (eq_withDocs htexts fun which => ?_))
  rw [hdoc which, gain?_of_pointwise hf hm, learntDocFor]

/-! ## One after the other -/

/-- An attached doc changes no text, so the same docs are made again. -/
theorem docFor_withDocs (a : Annotator) (f : String → Doc) (m : Message) (docs : Attribute → Option Doc) :
    a.docFor f (m.withDocs docs) = a.docFor f m := rfl

theorem learntDocFor_withDocs (a : Annotator) (f : String → Doc) (m : Message)
    (docs : Attribute → Option Doc) : a.learntDocFor f (m.withDocs docs) = a.learntDocFor f m := rfl

theorem learntDocFor_or_docFor (a : Annotator) (f : String → Doc) (m : Message) (which : Attribute) :
    (a.learntDocFor f m which).or (a.docFor f m which) = a.docFor f m which := by
  rw [learntDocFor]
  cases a.docFor f m which with
  | none => rfl
  | some d =>
    rw [Option.filter_some]
    split <;> rfl

theorem docFor_or_learntDocFor (a : Annotator) (f : String → Doc) (m : Message) (which : Attribute) :
    (a.docFor f m which).or (a.learntDocFor f m which) = a.docFor f m which := by
  rw [learntDocFor]
  cases a.docFor f m which <;> rfl

/-- A message that was annotated is not changed by annotating it or by learning from it, and learning from a
message a second time changes nothing either, whatever the other examples are. A message that was learnt from
becomes, once annotated, what it would have become without. -/
theorem learn_annotate_swap (hf : a.model.Pointwise f) (m : Message) :
    let p := (a.annotate m).message
    (a.annotate m).result = .ok () ∧ (a.annotate p).result = .ok () ∧ (a.annotate p).message = p ∧
    (∀ before after, a.learnedAmong before after p = some p) ∧
    ∃ t, (∀ before after, a.learnedAmong before after m = some t) ∧
      (∀ before after, a.learnedAmong before after t = some t) ∧
      (a.annotate t).result = .ok () ∧ (a.annotate t).message = p := by
  intro p
  have hp : p = m.withDocs (a.docFor f m) := message_annotate hf.doc m
  have hresult := fun m => (annotate_of_total hf.doc m).1
  refine ⟨hresult m, hresult p, ?_, fun before after => ?_, m.withDocs (a.learntDocFor f m),
    fun before after => learnedAmong_of_pointwise hf before after m, fun before after => ?_, hresult _, ?_⟩
  · rw [message_annotate hf.doc, hp, docFor_withDocs, withDocs_withDocs]
    simp only [Option.or_self]
  · rw [learnedAmong_of_pointwise hf, hp, learntDocFor_withDocs, withDocs_withDocs]
    simp only [learntDocFor_or_docFor]
  · rw [learnedAmong_of_pointwise hf, learntDocFor_withDocs, withDocs_withDocs]
    simp only [Option.or_self]
  · rw [message_annotate hf.doc, hp, docFor_withDocs, withDocs_withDocs]
    simp only [docFor_or_learntDocFor]

end Pointwise

/-- A text of blanks and one of words, and the doc of a text that is not there. -/
theorem learn_annotate_swap_stub :
    let s : Stub := ⟨"en", true, false⟩
    let a : Annotator := ⟨Options.default, s.model⟩
    let m := ((Message.ofText " ").setText .response "Hi").setDoc .actionText (s.doc "old")
    let p := (a.annotate m).message
    a.model.Pointwise s.doc ∧
    (a.annotate m).result = .ok () ∧ (a.annotate p).result = .ok () ∧ (a.annotate p).message = p ∧
    (∀ before after, a.learnedAmong before after p = some p) ∧
    ∃ t, (∀ before after, a.learnedAmong before after m = some t) ∧
      (∀ before after, a.learnedAmong before after t = some t) ∧
      (a.annotate t).result = .ok () ∧ (a.annotate t).message = p := by
  intro s a m p
  have hf : a.model.Pointwise s.doc := pointwise_stub rfl
  exact ⟨hf, learn_annotate_swap hf m⟩

end Annotator

end TextAnnotation
