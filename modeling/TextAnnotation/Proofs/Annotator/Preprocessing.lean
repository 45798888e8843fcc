import TextAnnotation.Proofs.Annotator.Annotating
import TextAnnotation.Proofs.Annotator.Learning
import TextAnnotation.Proofs.Text.Lowering
import TextAnnotation.Stub

/-!
# Texts that are handed to a model again

A text is lowered before the model sees it, or it is left as it is. What has been handed to the model once is
not changed a second time, and it is empty only if the text was.

* `preprocessText_again`: to preprocess twice is to preprocess once.
* `mem_split_samples_iff`: a batch and a single message pass over the same texts.
* `preprocess_stable`: both of them, and what follows for the doc of a text.
-/

namespace TextAnnotation.Annotator

theorem preprocessText_again (caseSensitive : Bool) (t : String) :
    preprocessText caseSensitive (some (preprocessText caseSensitive (some t))) =
      preprocessText caseSensitive (some t) := by
  cases caseSensitive with
  | true => rfl
  | false => exact Text.lower_lower t

/-- A model that keeps the text it is given makes the same doc from the text of a doc. -/
theorem docOf_again {a : Annotator} (hkeep : ∀ t d, a.model.doc t = .ok d → d.text = t) {t : String} {d : Doc}
    (h : (a.docOf t).result = .ok d) : (a.docOf d.text).result = .ok d := by
  have htext : d.text = a.preprocess (some t) := hkeep _ _ h
  have hagain : a.preprocess (some d.text) = a.preprocess (some t) := by
    rw [htext]
    exact preprocessText_again a.options.caseSensitive t
  show a.model.doc (a.preprocess (some d.text)) = .ok d
  rw [hagain]
  exact h

section Samples

variable {a : Annotator} {examples : List Message} {i : Nat} {m : Message}

theorem mem_samples (h : examples[i]? = some m) (which : Attribute) :
    (i, a.preprocess (m.get which)) ∈ a.samples which examples := by
  refine List.mem_map.mpr ⟨(m, i), ?_, rfl⟩
  rw [List.mem_zipIdx_iff_getElem?]
  exact h

/-- A text of an example reaches the model in a batch exactly if it has content before it is preprocessed. -/
theorem mem_split_samples_iff (h : examples[i]? = some m) (which : Attribute) :
    ((i, a.preprocess (m.get which)) ∈ (Batch.split (a.samples which examples)).1 ↔
      (contentOf m which).isSome) ∧
    ((i, a.preprocess (m.get which)) ∈ (Batch.split (a.samples which examples)).2 ↔
      contentOf m which = none) := by
  have hmem := mem_samples (a := a) h which
  rw [Batch.split_eq, Batch.mem_content, Batch.mem_blanks]
  dsimp only
  rw [Ne, preprocess_eq_empty_iff, ← Ne, Option.ne_none_iff_isSome]
  exact ⟨and_iff_right hmem, and_iff_right hmem⟩

end Samples

/-- Preprocessing a second time changes nothing, and only the empty text becomes empty. So the doc of a text
is the doc of its own text, and whether a text is passed over does not depend on when this is asked. -/
theorem preprocess_stable :
    (∀ (caseSensitive : Bool) (t : String),
      preprocessText caseSensitive (some (preprocessText caseSensitive (some t))) =
        preprocessText caseSensitive (some t) ∧
      (preprocessText caseSensitive (some t) = "" ↔ t = "")) ∧
    ∀ a : Annotator,
      ((∀ t d, a.model.doc t = .ok d → d.text = t) →
        ∀ t d, (a.docOf t).result = .ok d → (a.docOf d.text).result = .ok d) ∧
      ∀ (examples : List Message) (i : Nat) (m : Message) (which : Attribute), examples[i]? = some m →
        ((i, a.preprocess (m.get which)) ∈ (Batch.split (a.samples which examples)).1 ↔
          ((m.get which).filter fun t => !t.isEmpty).isSome) ∧
        ((i, a.preprocess (m.get which)) ∈ (Batch.split (a.samples which examples)).2 ↔
          (m.get which).filter (fun t => !t.isEmpty) = none) := by
  refine ⟨fun caseSensitive t => ⟨?_, preprocessText_some_eq_empty_iff⟩, fun a => ⟨?_, ?_⟩⟩
  · exact preprocessText_again caseSensitive t
  · intro hkeep t d hd
    exact docOf_again hkeep hd
  · intro examples i m which hm
    exact mem_split_samples_iff hm which

/-- A word that ends with a sigma has the same doc a second time. -/
theorem preprocess_stable_sigma :
    let s : Stub := ⟨"en", true, false⟩
    let a : Annotator := ⟨Options.default, s.model⟩
    let m := Message.ofText "ΟΔΟΣ"
    (∀ t d, a.model.doc t = .ok d → d.text = t) ∧
      (a.docOf "ΟΔΟΣ").result = .ok (s.doc "οδος") ∧ (a.docOf (s.doc "οδος").text).result = .ok (s.doc "οδος") ∧
      [m][0]? = some m ∧ (0, a.preprocess (m.get .text)) ∈ (Batch.split (a.samples .text [m])).1 := by
  intro s a m
  have hkeep : ∀ t d, a.model.doc t = .ok d → d.text = t := by
    intro t d h
    cases h
    rfl
  have hlower : Text.lower "ΟΔΟΣ" = "οδος" := by decide +kernel
  have hdoc : (a.docOf "ΟΔΟΣ").result = .ok (s.doc "οδος") := by
    show Except.ok (s.doc (Text.lower "ΟΔΟΣ")) = _
    rw [hlower]
  have hstable := preprocess_stable.2 a
  exact ⟨hkeep, hdoc, hstable.1 hkeep _ _ hdoc, rfl, (hstable.2 [m] 0 m .text rfl).1.mpr rfl⟩

end TextAnnotation.Annotator
