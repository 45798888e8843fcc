import TextAnnotation.Proofs.Annotator.Annotating
import TextAnnotation.Stub

/-!
# Messages that are edited and annotated again

A text may be set and the message annotated any number of times, in any order. A doc is replaced when its
attribute is annotated with a text that has content, and it is never removed.

* `textBehind`, `annotated`: the text of an attribute behind a history of edits, and the texts that it had
  whenever the message was annotated.
* `get_run`, `doc_run`: the texts and the docs behind a history.
* `doc_run_annotate`: the docs right behind the last annotation.
* `doc_run_of_emptied_text`: the doc of a text that is gone.
-/

namespace TextAnnotation

inductive MessageEdit where
  | setText (which : Attribute) (text : String)
  | annotate
  deriving DecidableEq, Repr

namespace MessageEdit

open Annotator (contentOf docFor)

def step (a : Annotator) (m : Message) : MessageEdit → Message
  | setText which text => m.setText which text
  | annotate => (a.annotate m).message

def run (a : Annotator) (m : Message) (history : List MessageEdit) : Message :=
  history.foldl (step a) m

/-- The text of an attribute behind a history, if it was `text` in front of it. -/
def textBehind (which : Attribute) (text : Option String) : List MessageEdit → Option String
  | [] => text
  | setText b t :: rest => textBehind which (if b = which then some t else text) rest
  | annotate :: rest => textBehind which text rest

/-- The texts with content that an attribute had when the message was annotated, if its text was `text` in
front of the history. -/
def annotated (which : Attribute) (text : Option String) : List MessageEdit → List String
  | [] => []
  | setText b t :: rest => annotated which (if b = which then some t else text) rest
  | annotate :: rest => (text.filter fun t => !t.isEmpty).toList ++ annotated which text rest

theorem run_snoc (a : Annotator) (m : Message) (history : List MessageEdit) (e : MessageEdit) :
    run a m (history ++ [e]) = step a (run a m history) e :=
  List.foldl_append

theorem get_annotate (a : Annotator) (m : Message) (which : Attribute) :
    (a.annotate m).message.get which = m.get which := by
  rw [Message.get, Annotator.annotate, Annotator.texts_annotateEach]
  rfl

theorem get_run (a : Annotator) (m : Message) (history : List MessageEdit) (which : Attribute) :
    (run a m history).get which = textBehind which (m.get which) history := by
  induction history generalizing m with
  | nil => rfl
  | cons e rest ih =>
    have hrest := ih (step a m e)
    cases e with
    | setText b t =>
      rw [step, Message.get_setText] at hrest
      exact hrest
    | annotate =>
      rw [step, get_annotate] at hrest
      exact hrest

section Total

variable {a : Annotator} {f : String → Doc}

/-- An attribute has the doc of the last text with which it was annotated, or else what it had at first. -/
theorem doc_run (hf : ∀ t, a.model.doc t = .ok (f t)) (m : Message) (history : List MessageEdit)
    (which : Attribute) :
    (run a m history).doc which =
      ((annotated which (m.get which) history).getLast?.map fun t => f (a.preprocess (some t))).or
        (m.doc which) := by
  induction history generalizing m with
  | nil => rfl
  | cons e rest ih =>
    have hrest := ih (step a m e)
    cases e with
    | setText b t =>
      rw [step, Message.get_setText, Message.doc_setText] at hrest
      exact hrest
    | annotate =>
      obtain ⟨-, hdoc⟩ := Annotator.annotate_of_total hf m
      have hlast : ∀ text : Option String, text.toList.getLast? = text := by
        intro text
        cases text <;> rfl
      rw [step, get_annotate, hdoc which, docFor, contentOf] at hrest
      rw [annotated, List.getLast?_append, hlast, Option.map_or, Option.or_assoc]
      exact hrest

/-- Behind the last annotation an attribute has the doc of its text, if that has content. If it has none,
the attribute still has the doc of the last text with content with which it was annotated, if there was
one. -/
theorem doc_run_annotate (hf : ∀ t, a.model.doc t = .ok (f t)) {m : Message}
    (hbare : ∀ which, m.doc which = none) (history : List MessageEdit) (which : Attribute) :
    let text := textBehind which (m.get which) history
    let done := run a m (history ++ [.annotate])
    (a.annotate (run a m history)).result = .ok () ∧ done.get which = text ∧
    (∀ t, text = some t → t ≠ "" → done.doc which = some (f (a.preprocess (some t)))) ∧
    (text = none ∨ text = some "" →
      done.doc which = (annotated which (m.get which) history).getLast?.map fun t =>
        f (a.preprocess (some t))) := by
  intro text done
  obtain ⟨hresult, hdoc⟩ := Annotator.annotate_of_total hf (run a m history)
  have hdone : done = (a.annotate (run a m history)).message := run_snoc a m history .annotate
  have hget : (run a m history).get which = text := get_run a m history which
  rw [hdone, get_annotate, hdoc which, docFor, contentOf, hget, doc_run hf, hbare which, Option.or_none]
  refine ⟨hresult, rfl, fun t ht hne => ?_, fun hblank => ?_⟩
  · rw [ht]
    simp [Option.filter, hne]
  · rcases hblank with hnone | hempty
    · rw [hnone]
      rfl
    · rw [hempty]
      rfl

end Total

/-- A text is set and taken back, a second one is replaced, and a third one is never set. -/
theorem doc_run_annotate_stub :
    let s : Stub := ⟨"en", true, false⟩
    let a : Annotator := ⟨Options.default, s.model⟩
    let history : List MessageEdit := [.setText .text "Hi", .setText .response "a b", .annotate,
      .setText .text "", .setText .response "C"]
    let done := run a .empty (history ++ [.annotate])
    (∀ t, a.model.doc t = .ok (s.doc t)) ∧ (∀ which, Message.empty.doc which = none) ∧
    (a.annotate (run a .empty history)).result = .ok () ∧
    done.doc .text = some (s.doc (a.preprocess (some "Hi"))) ∧
    done.doc .response = some (s.doc (a.preprocess (some "C"))) ∧
    done.doc .actionText = none := by
  intro s a history done
  have hf : ∀ t, a.model.doc t = .ok (s.doc t) := fun _ => rfl
  have hbare : ∀ which, Message.empty.doc which = none := fun which => Slots.get_empty which
  obtain ⟨hresult, -, -, htext⟩ := doc_run_annotate hf hbare history .text
  obtain ⟨-, -, hresponse, -⟩ := doc_run_annotate hf hbare history .response
  obtain ⟨-, -, -, haction⟩ := doc_run_annotate hf hbare history .actionText
  exact ⟨hf, hbare, hresult, htext (Or.inr rfl), hresponse "C" rfl (by decide), haction (Or.inl rfl)⟩

/-- A doc outlives the text that it was made of. -/
theorem doc_run_of_emptied_text :
    let s : Stub := ⟨"en", true, false⟩
    let a : Annotator := ⟨Options.default, s.model⟩
    let done := run a .empty [.setText .text "Hi", .annotate, .setText .text "", .annotate]
    (∀ t, a.model.doc t = .ok (s.doc t)) ∧ (∀ which, Message.empty.doc which = none) ∧
    done.get .text = some "" ∧ (done.doc .text).map (·.text) = some "hi" :=
  ⟨fun _ => rfl, fun which => Slots.get_empty which, rfl, rfl⟩

end MessageEdit

end TextAnnotation
