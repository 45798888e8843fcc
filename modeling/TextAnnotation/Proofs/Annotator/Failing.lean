import TextAnnotation.LanguageModel
import TextAnnotation.Proofs.Annotator.Annotating
import TextAnnotation.Tokenizer

/-!
# What a failed attempt to annotate leaves behind

The model may fail at any text. Attributes are worked on in turn, on the message itself, so the docs that
were made before the failure stay attached.

* `reached`: the attributes in front of the first failure.
* `annotateEach_exact`: what becomes of a message, for any attributes and any model.
* `annotate_exact`: the same for all attributes, and when the message is left as it was.
* `annotate_keeps_docs_before_failure`: a failed attempt that has changed the docs of its message.
-/

namespace TextAnnotation.Annotator

/-- The answer of the model to the text of an attribute, if that text has content. -/
def reply? (a : Annotator) (m : Message) (which : Attribute) : Option (Except ModelError Doc) :=
  (contentOf m which).map fun t => a.model.doc (a.preprocess (some t))

/-- The failure of the model at the text of an attribute. -/
def failure? (a : Annotator) (m : Message) (which : Attribute) : Option ModelError :=
  match a.reply? m which with
  | some (.error e) => some e
  | _ => none

def made? (a : Annotator) (m : Message) (which : Attribute) : Option Doc :=
  match a.reply? m which with
  | some (.ok d) => some d
  | _ => none

/-- The attributes in front of the first failure. -/
def reached (a : Annotator) (m : Message) (attributes : List Attribute) : List Attribute :=
  attributes.takeWhile fun which => (a.failure? m which).isNone

section Reply

variable {a : Annotator} {m : Message} {which : Attribute} {t : String}

theorem failure?_of_blank (h : contentOf m which = none) : a.failure? m which = none := by
  simp only [failure?, reply?, h, Option.map_none]

theorem made?_of_blank (h : contentOf m which = none) : a.made? m which = none := by
  simp only [made?, reply?, h, Option.map_none]

theorem failure?_of_error {e : ModelError} (h : contentOf m which = some t)
    (he : a.model.doc (a.preprocess (some t)) = .error e) : a.failure? m which = some e := by
  simp only [failure?, reply?, h, Option.map_some, he]

theorem failure?_of_ok {d : Doc} (h : contentOf m which = some t)
    (hd : a.model.doc (a.preprocess (some t)) = .ok d) : a.failure? m which = none := by
  simp only [failure?, reply?, h, Option.map_some, hd]

theorem made?_of_ok {d : Doc} (h : contentOf m which = some t)
    (hd : a.model.doc (a.preprocess (some t)) = .ok d) : a.made? m which = some d := by
  simp only [made?, reply?, h, Option.map_some, hd]

theorem reached_cons_of_failure {e : ModelError} (h : a.failure? m which = some e)
    (rest : List Attribute) : a.reached m (which :: rest) = [] := by
  rw [reached, List.takeWhile_cons_of_neg]
  rw [h]
  exact Bool.false_ne_true

theorem reached_cons (h : a.failure? m which = none) (rest : List Attribute) :
    a.reached m (which :: rest) = which :: a.reached m rest := by
  rw [reached, List.takeWhile_cons_of_pos]
  · rfl
  · rw [h]
    rfl

end Reply

/-- The first failure decides. Docs are attached for the attributes in front of it, and for no others. -/
theorem annotateEach_exact (a : Annotator) (m : Message) (attributes : List Attribute) :
    (a.annotateEach m attributes).result =
      (match attributes.findSome? (a.failure? m) with
        | some e => .error e
        | none => .ok ()) ∧
    ∀ which, (a.annotateEach m attributes).message.doc which =
      if which ∈ a.reached m attributes then (a.made? m which).or (m.doc which)
      else m.doc which := by
  induction attributes generalizing m with
  | nil => exact ⟨rfl, fun _ => rfl⟩
  | cons first rest ih =>
    rw [List.findSome?_cons]
    cases hcontent : contentOf m first with
    | none =>
      obtain ⟨hresult, hdoc⟩ := ih m
      have hfailure : a.failure? m first = none := failure?_of_blank hcontent
      rw [annotateEach_of_blank a hcontent, hfailure, reached_cons hfailure]
      refine ⟨hresult, fun which => ?_⟩
      rw [hdoc which]
      by_cases hwhich : which = first
      · subst hwhich
        simp [made?_of_blank hcontent]
      · simp [hwhich]
    | some t =>
      cases hreply : a.model.doc (a.preprocess (some t)) with
      | error e =>
        have hfailure : a.failure? m first = some e := failure?_of_error hcontent hreply
        rw [annotateEach_of_error hcontent hreply, hfailure, reached_cons_of_failure hfailure]
        exact ⟨rfl, fun _ => rfl⟩
      | ok d =>
        obtain ⟨hresult, hdoc⟩ := ih (m.setDoc first d)
        have hfailure : a.failure? m first = none := failure?_of_ok hcontent hreply
        rw [annotateEach_of_ok hcontent hreply, hfailure, reached_cons hfailure]
        refine ⟨hresult, fun which => ?_⟩
        -- the model sees texts only, so the doc just attached changes none of its further answers
        have hreached : a.reached (m.setDoc first d) rest = a.reached m rest := rfl
        have hmade : a.made? (m.setDoc first d) which = a.made? m which := rfl
        rw [hdoc which, hreached, hmade, Message.doc_setDoc]
        by_cases hwhich : first = which
        · subst hwhich
          simp [made?_of_ok hcontent hreply]
        · simp [hwhich, Ne.symm hwhich]

/-- Annotating fails with the first failure of the model, if there is one. It changes no text, and it
attaches the docs of the attributes in front of the failure, whether it fails or not. So it leaves the
message as it was exactly if each of these docs was attached before. -/
theorem annotate_exact (a : Annotator) (m : Message) :
    let front := a.reached m Attribute.all
    (a.annotate m).result =
      (match Attribute.all.findSome? (a.failure? m) with
        | some e => .error e
        | none => .ok ()) ∧
    (a.annotate m).message.texts = m.texts ∧
    (∀ which, (a.annotate m).message.doc which =
      if which ∈ front then (a.made? m which).or (m.doc which) else m.doc which) ∧
    ((a.annotate m).message = m ↔
      ∀ which ∈ front, ∀ d, a.made? m which = some d → m.doc which = some d) := by
  intro front
  obtain ⟨hresult, hdoc⟩ := annotateEach_exact a m Attribute.all
  have htexts : (a.annotate m).message.texts = m.texts := texts_annotateEach a m Attribute.all
  refine ⟨hresult, htexts, hdoc, fun hsame which hfront d hmade => ?_,
    fun hsame => eq_of_texts_of_doc htexts fun which => ?_⟩
  · have hattached := hdoc which
    rw [if_pos hfront, hmade, Option.some_or] at hattached
    rw [← hattached]
    exact congrArg (Message.doc · which) hsame.symm
  · rw [annotate, hdoc which]
    split
    · next hfront =>
      cases hmade : a.made? m which with
      | none => rw [Option.none_or]
      | some d => rw [Option.some_or, hsame which hfront d hmade]
    · rfl

/-- A model that knows one word only fails at the second text of a message, whose first text has its doc by
then. -/
theorem annotate_keeps_docs_before_failure :
    let tokenizer : Tokenizer := ⟨[("hi", 0)], "[UNK]", false, true, none, none, []⟩
    let model : LanguageModel := ⟨Manifest.blank "en", some "/models/en", tokenizer.encoder, none, [], []⟩
    let a : Annotator := ⟨Options.default, model.model⟩
    let m := (Message.ofText "hi").setText .response "who"
    (a.annotate m).result = .error (.tokenizationFailed (.refused Tokenizer.noUnknown)) ∧
    (a.annotate m).message ≠ m ∧
    (m.doc .text).isSome = false ∧ ((a.annotate m).message.doc .text).isSome = true := by
  intro tokenizer model a m
  have hhi : a.preprocess (some "hi") = "hi" := rfl
  have hwho : a.preprocess (some "who") = "who" := rfl
  let d := model.docOfItems "hi" [⟨0, "hi", 0, 2⟩]
  have hmade : a.model.doc (a.preprocess (some "hi")) = .ok d := by rw [hhi]; rfl
  have hfailed : a.model.doc (a.preprocess (some "who")) =
      .error (.tokenizationFailed (.refused Tokenizer.noUnknown)) := by rw [hwho]; rfl
  have htext : contentOf m .text = some "hi" := rfl
  have hresponse : contentOf (m.setDoc .text d) .response = some "who" := rfl
  have hattached : ((m.setDoc .text d).doc .text).isSome = true := rfl
  rw [annotate, Attribute.all, annotateEach_of_ok htext hmade, annotateEach_of_error hresponse hfailed]
  refine ⟨rfl, fun hsame => ?_, rfl, hattached⟩
  replace hsame : m.setDoc .text d = m := hsame
  rw [hsame] at hattached
  cases hattached

end TextAnnotation.Annotator
