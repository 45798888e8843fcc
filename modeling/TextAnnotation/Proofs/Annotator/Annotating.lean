import TextAnnotation.Annotator

/-!
# What annotating does to a message

Attributes are worked on one after the other, on the message itself.

* `annotateEach_of_blank`, `annotateEach_of_error`, `annotateEach_of_ok`: the three things that can happen
  at one attribute.
* `texts_annotateEach`: no text is ever changed.
* `annotateEach_of_total`, `annotate_of_total`: with a model that never fails, each attribute whose text has
  content ends up with the doc of that text.
-/

namespace TextAnnotation.Annotator

def contentOf (m : Message) (which : Attribute) : Option String :=
  (m.get which).filter fun t => !t.isEmpty

/-- The doc of the text of an attribute, for a model that makes docs by `f`. -/
def docFor (a : Annotator) (f : String → Doc) (m : Message) (which : Attribute) : Option Doc :=
  (contentOf m which).map fun t => f (a.preprocess (some t))

theorem preprocess_eq_empty_iff {a : Annotator} {m : Message} {which : Attribute} :
    a.preprocess (m.get which) = "" ↔ contentOf m which = none := by
  rw [contentOf]
  cases m.get which with
  | none => exact ⟨fun _ => rfl, fun _ => rfl⟩
  | some t =>
    rw [preprocess, preprocessText_some_eq_empty_iff]
    by_cases ht : t = ""
    · simp [ht, Option.filter]
    · simp [ht, Option.filter]

theorem eq_of_texts_of_doc {m m' : Message} (htexts : m'.texts = m.texts)
    (hdoc : ∀ which, m'.doc which = m.doc which) : m' = m := by
  obtain ⟨texts, docs⟩ := m
  obtain ⟨texts', docs'⟩ := m'
  have hdocs : docs' = docs := Slots.ext_get hdoc
  subst hdocs
  rw [show texts' = texts from htexts]

/-! ## One attribute -/

theorem annotateEach_of_blank (a : Annotator) {m : Message} {which : Attribute}
    (h : contentOf m which = none) (rest : List Attribute) :
    a.annotateEach m (which :: rest) = a.annotateEach m rest := by
  unfold contentOf at h
  rw [annotateEach, h]

theorem annotateEach_of_error {a : Annotator} {m : Message} {which : Attribute} {t : String}
    {e : ModelError} (h : contentOf m which = some t)
    (he : a.model.doc (a.preprocess (some t)) = .error e) (rest : List Attribute) :
    a.annotateEach m (which :: rest) = ⟨m, .error e, [.single (a.preprocess (some t))]⟩ := by
  unfold contentOf at h
  rw [annotateEach, h]
  simp only [docOf, he]

theorem annotateEach_of_ok {a : Annotator} {m : Message} {which : Attribute} {t : String} {d : Doc}
    (h : contentOf m which = some t) (hd : a.model.doc (a.preprocess (some t)) = .ok d)
    (rest : List Attribute) :
    a.annotateEach m (which :: rest) =
      ⟨(a.annotateEach (m.setDoc which d) rest).message, (a.annotateEach (m.setDoc which d) rest).result,
        .single (a.preprocess (some t)) :: (a.annotateEach (m.setDoc which d) rest).calls⟩ := by
  unfold contentOf at h
  rw [annotateEach, h]
  simp only [docOf, hd]
  rfl

/-! ## All attributes -/

theorem texts_annotateEach (a : Annotator) (m : Message) (attributes : List Attribute) :
    (a.annotateEach m attributes).message.texts = m.texts := by
  induction attributes generalizing m with
  | nil => rfl
  | cons which rest ih =>
    cases hcontent : contentOf m which with
    | none => rw [annotateEach_of_blank a hcontent, ih]
    | some t =>
      cases hdoc : a.model.doc (a.preprocess (some t)) with
      | error e => rw [annotateEach_of_error hcontent hdoc]
      | ok d =>
        rw [annotateEach_of_ok hcontent hdoc]
        exact ih (m.setDoc which d)

theorem annotateEach_of_total {a : Annotator} {f : String → Doc}
    (hf : ∀ t, a.model.doc t = .ok (f t)) (m : Message) (attributes : List Attribute) :
    (a.annotateEach m attributes).result = .ok () ∧
      ∀ which, (a.annotateEach m attributes).message.doc which =
        if which ∈ attributes then (a.docFor f m which).or (m.doc which) else m.doc which := by
  induction attributes generalizing m with
  | nil => exact ⟨rfl, fun _ => rfl⟩
  | cons first rest ih =>
    cases hcontent : contentOf m first with
    | none =>
      obtain ⟨hresult, hdoc⟩ := ih m
      rw [annotateEach_of_blank a hcontent]
      refine ⟨hresult, fun which => ?_⟩
      rw [hdoc which]
      by_cases hwhich : which = first
      · subst hwhich
        simp [docFor, hcontent]
      · simp [hwhich]
    | some t =>
      obtain ⟨hresult, hdoc⟩ := ih (m.setDoc first (f (a.preprocess (some t))))
      rw [annotateEach_of_ok hcontent (hf _)]
      refine ⟨hresult, fun which => ?_⟩
      -- attaching a doc changes no text, so what the rest attaches is as before
      have hsame : a.docFor f (m.setDoc first (f (a.preprocess (some t)))) which =
          a.docFor f m which := rfl
      rw [hdoc which, hsame, Message.doc_setDoc]
      by_cases hwhich : first = which
      · subst hwhich
        simp [docFor, hcontent]
      · simp [hwhich, Ne.symm hwhich]

theorem annotate_of_total {a : Annotator} {f : String → Doc} (hf : ∀ t, a.model.doc t = .ok (f t))
    (m : Message) :
    (a.annotate m).result = .ok () ∧
      ∀ which, (a.annotate m).message.doc which = (a.docFor f m which).or (m.doc which) := by
  obtain ⟨hresult, hdoc⟩ := annotateEach_of_total hf m Attribute.all
  refine ⟨hresult, fun which => ?_⟩
  rw [annotate, hdoc which, if_pos (Attribute.mem_all which)]

end TextAnnotation.Annotator
