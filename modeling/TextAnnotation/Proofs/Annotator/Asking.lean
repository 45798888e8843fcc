import TextAnnotation.Proofs.Annotator.Annotating
import TextAnnotation.Proofs.Annotator.Learning
import TextAnnotation.Stub

/-!
# What the model is asked for

A model may be shared by annotators with options of their own. It is handed each text with content once, and
no empty text ever when annotators learn or annotate.

* `handed`: the texts of an attribute with content, as the model sees them.
* `attempted`: the attributes up to the first one for which there are no docs.
* `calls_docsOfEach`, `calls_annotateEach`: the requests of one use.
* `received_stub`: the requests that a stub receives in a history of uses by any annotators.
-/

namespace TextAnnotation

namespace Annotator

/-- The texts of an attribute that have content, as they are handed to the model. -/
def handed (a : Annotator) (examples : List Message) (which : Attribute) : List String :=
  (examples.filterMap (contentOf · which)).map fun t => a.preprocess (some t)

/-- The attributes up to the first one for which there are no docs, and this one too. -/
def attempted (a : Annotator) (examples : List Message) (attributes : List Attribute) : List Attribute :=
  attributes.takeWhile (fun which => (a.fault? examples which).isNone) ++
    (attributes.dropWhile fun which => (a.fault? examples which).isNone).take 1

theorem handed_cons (a : Annotator) (m : Message) (ms : List Message) (which : Attribute) :
    a.handed (m :: ms) which = a.handed [m] which ++ a.handed ms which := by
  unfold handed
  rw [← List.map_append, ← List.filterMap_append]
  rfl

theorem handed_of_blank (a : Annotator) {m : Message} {which : Attribute} (h : contentOf m which = none) :
    a.handed [m] which = [] := by
  simp only [handed, List.filterMap_cons, h, List.filterMap_nil, List.map_nil]

theorem handed_of_content (a : Annotator) {m : Message} {which : Attribute} {t : String}
    (h : contentOf m which = some t) : a.handed [m] which = [a.preprocess (some t)] := by
  simp only [handed, List.filterMap_cons, h, List.filterMap_nil, List.map_cons, List.map_nil]

/-- It makes no difference whether texts are found empty before they are prepared for the model or after. -/
theorem contentTexts_eq_handed (a : Annotator) (examples : List Message) (which : Attribute) :
    a.contentTexts examples which = a.handed examples which := by
  induction examples with
  | nil => rfl
  | cons m ms ih =>
    rw [handed_cons, ← ih, contentTexts, texts, List.map_cons, List.filter_cons]
    cases hcontent : contentOf m which with
    | none =>
      have hempty : a.preprocess (m.get which) = "" := preprocess_eq_empty_iff.mpr hcontent
      rw [hempty, handed_of_blank a hcontent]
      rfl
    | some t =>
      obtain ⟨hget, -⟩ := Option.filter_eq_some_iff.mp hcontent
      have hne : a.preprocess (m.get which) ≠ "" := by
        intro hempty
        rw [preprocess_eq_empty_iff.mp hempty] at hcontent
        cases hcontent
      rw [if_pos (by simpa using hne), handed_of_content a hcontent, hget]
      rfl

theorem not_mem_handed (a : Annotator) (examples : List Message) (which : Attribute) :
    "" ∉ a.handed examples which := by
  rw [← contentTexts_eq_handed, contentTexts]
  intro hmem
  have hne := (List.mem_filter.mp hmem).2
  simp at hne

/-! ## Learning -/

section Attempted

variable {a : Annotator} {examples : List Message} {which : Attribute}

theorem attempted_cons_of_fault {e : ModelError} (h : a.fault? examples which = some e)
    (rest : List Attribute) : a.attempted examples (which :: rest) = [which] := by
  simp [attempted, h]

theorem attempted_cons (h : a.fault? examples which = none) (rest : List Attribute) :
    a.attempted examples (which :: rest) = which :: a.attempted examples rest := by
  simp [attempted, h]

end Attempted

theorem length_pipe_stub (s : Stub) (texts : List String) :
    (s.pipe texts).length = if s.dropsLast then texts.length - 1 else texts.length := by
  unfold Stub.pipe
  dsimp only
  split
  · rw [List.length_dropLast, List.length_map]
  · rw [List.length_map]

/-- A stub has no docs for an attribute just if it loses one of them. -/
theorem isSome_fault?_stub (s : Stub) (options : Options) (examples : List Message) (which : Attribute) :
    (fault? ⟨options, s.model⟩ examples which).isSome ↔
      s.dropsLast = true ∧ handed ⟨options, s.model⟩ examples which ≠ [] := by
  have hanswer : answer ⟨options, s.model⟩ examples which =
      .ok (s.pipe (contentTexts ⟨options, s.model⟩ examples which)) := rfl
  rw [← contentTexts_eq_handed, fault?, hanswer]
  generalize contentTexts ⟨options, s.model⟩ examples which = texts
  by_cases hnil : texts = []
  · simp [hnil]
  · have hpos := List.length_pos_iff.mpr hnil
    have hless : texts.length - 1 ≠ texts.length := by omega
    cases hdrops : s.dropsLast with
    | false => simp [length_pipe_stub, hdrops]
    | true => simp [length_pipe_stub, hdrops, hless, hnil]

/-- The batches that are asked for when attributes are worked on. Nothing is asked for an attribute without
content. -/
def batchesOf (a : Annotator) (examples : List Message) (attributes : List Attribute) :
    List (List String) :=
  (attributes.map (a.handed examples)).filter fun texts => !texts.isEmpty

theorem batchesOf_cons (a : Annotator) (examples : List Message) (which : Attribute)
    (rest : List Attribute) :
    a.batchesOf examples (which :: rest) = a.batchesOf examples [which] ++ a.batchesOf examples rest := by
  unfold batchesOf
  rw [← List.filter_append, ← List.map_append]
  rfl

theorem calls_docsOf (a : Annotator) (examples : List Message) (which : Attribute) :
    (a.docsOf which examples).calls = (a.batchesOf examples [which]).map .batch := by
  have hcontent := content_samples a examples which
  rw [contentTexts_eq_handed] at hcontent
  have hnil : Batch.content (a.samples which examples) = [] ↔ a.handed examples which = [] := by
    rw [← hcontent, List.map_eq_nil_iff]
  rw [docsOf, Traced.bind_return, Batch.calls_run, hcontent, batchesOf, List.map_cons, List.map_nil,
    List.filter_cons, List.filter_nil]
  by_cases hempty : a.handed examples which = []
  · rw [if_pos (hnil.mpr hempty), hempty]
    rfl
  · rw [if_neg (mt hnil.mp hempty), if_pos (by simpa using hempty)]
    rfl

theorem calls_docsOfEach (a : Annotator) (examples : List Message) (attributes : List Attribute) :
    (a.docsOfEach examples attributes).calls =
      (a.batchesOf examples (a.attempted examples attributes)).map .batch := by
  induction attributes with
  | nil => rfl
  | cons which rest ih =>
    have hfirst := docsOf_spec a examples which
    rw [docsOfEach]
    cases hfault : a.fault? examples which with
    | some e =>
      rw [hfault] at hfirst
      rw [Traced.bind_of_error hfirst, attempted_cons_of_fault hfault, calls_docsOf]
    | none =>
      rw [hfault] at hfirst
      obtain ⟨docs, hdocs, -⟩ := hfirst
      rw [Traced.bind_of_ok hdocs, Traced.bind_return, attempted_cons hfault, batchesOf_cons,
        List.map_append, calls_docsOf, ih]

theorem calls_learnInPlace (a : Annotator) (examples : List Message) :
    (a.learnInPlace examples).calls =
      (a.batchesOf examples (a.attempted examples Attribute.all)).map .batch := by
  rw [← calls_docsOfEach]
  cases hdocs : (a.learnDocs examples).result with
  | error e =>
    rw [learnInPlace_of_error hdocs]
    rfl
  | ok all =>
    rw [learnInPlace_of_ok hdocs]
    rfl

/-! ## Annotating -/

theorem calls_annotateEach {a : Annotator} {f : String → Doc} (hf : ∀ t, a.model.doc t = .ok (f t))
    (m : Message) (attributes : List Attribute) :
    (a.annotateEach m attributes).calls = (attributes.flatMap (a.handed [m])).map .single := by
  induction attributes generalizing m with
  | nil => rfl
  | cons which rest ih =>
    rw [List.flatMap_cons, List.map_append]
    cases hcontent : contentOf m which with
    | none => rw [annotateEach_of_blank a hcontent, ih, handed_of_blank a hcontent, List.map_nil, List.nil_append]
    | some t =>
      -- attaching a doc changes no text, so the same texts are handed on
      have hsame : a.handed [m.setDoc which (f (a.preprocess (some t)))] = a.handed [m] := rfl
      rw [annotateEach_of_ok hcontent (hf _), ih, hsame, handed_of_content a hcontent]
      rfl

end Annotator

/-! ## Histories -/

inductive AnnotatorUse where
  | learn (examples : List Message)
  | annotate (m : Message)
  | doc (text : String)

namespace AnnotatorUse

def calls (a : Annotator) : AnnotatorUse → List Call
  | learn examples => (a.learnInPlace examples).calls
  | annotate m => (a.annotate m).calls
  | doc text => (a.docOf text).calls

def batches (a : Annotator) : AnnotatorUse → List (List String)
  | learn examples => a.batchesOf examples (a.attempted examples Attribute.all)
  | annotate _ | doc _ => []

def singles (a : Annotator) : AnnotatorUse → List String
  | learn _ => []
  | annotate m => Attribute.all.flatMap (a.handed [m])
  | doc text => [a.preprocess (some text)]

/-- The requests that a model receives in a history of uses, each by an annotator with options of its own. -/
def received (model : Model) (history : List (Options × AnnotatorUse)) : List Call :=
  history.flatMap fun u => u.2.calls ⟨u.1, model⟩

end AnnotatorUse

namespace Call

theorem batches_append (xs ys : List Call) : batches (xs ++ ys) = batches xs ++ batches ys :=
  List.filterMap_append

theorem singles_append (xs ys : List Call) : singles (xs ++ ys) = singles xs ++ singles ys :=
  List.filterMap_append

theorem batches_requests (texts : List (List String)) (alone : List String) :
    batches (texts.map .batch ++ alone.map .single) = texts := by
  have hnone : batches (alone.map .single) = [] := by
    rw [batches, List.filterMap_map]
    exact List.filterMap_eq_nil_iff.mpr fun _ _ => rfl
  have hall : batches (texts.map .batch) = texts := by
    rw [batches, List.filterMap_map]
    exact List.filterMap_some
  rw [batches_append, hall, hnone, List.append_nil]

theorem singles_requests (texts : List (List String)) (alone : List String) :
    singles (texts.map .batch ++ alone.map .single) = alone := by
  have hnone : singles (texts.map .batch) = [] := by
    rw [singles, List.filterMap_map]
    exact List.filterMap_eq_nil_iff.mpr fun _ _ => rfl
  have hall : singles (alone.map .single) = alone := by
    rw [singles, List.filterMap_map]
    exact List.filterMap_some
  rw [singles_append, hall, hnone, List.nil_append]

end Call

namespace AnnotatorUse

/-- One use makes just the requests that it is to make. -/
theorem calls_of_total {a : Annotator} {f : String → Doc} (hf : ∀ t, a.model.doc t = .ok (f t))
    (use : AnnotatorUse) :
    use.calls a = (use.batches a).map .batch ++ (use.singles a).map .single := by
  cases use with
  | learn examples =>
    rw [calls, Annotator.calls_learnInPlace]
    exact (List.append_nil _).symm
  | annotate m =>
    rw [calls, Annotator.annotate, Annotator.calls_annotateEach hf]
    rfl
  | doc text => rfl

theorem received_of_total {model : Model} {f : String → Doc} (hf : ∀ t, model.doc t = .ok (f t))
    (history : List (Options × AnnotatorUse)) :
    Call.batches (received model history) = history.flatMap (fun u => u.2.batches ⟨u.1, model⟩) ∧
    Call.singles (received model history) = history.flatMap (fun u => u.2.singles ⟨u.1, model⟩) := by
  induction history with
  | nil => exact ⟨rfl, rfl⟩
  | cons u rest ih =>
    obtain ⟨hbatches, hsingles⟩ := ih
    rw [received] at hbatches hsingles ⊢
    rw [List.flatMap_cons, List.flatMap_cons, List.flatMap_cons, Call.batches_append,
      Call.singles_append, hbatches, hsingles, calls_of_total (a := ⟨u.1, model⟩) hf u.2,
      Call.batches_requests, Call.singles_requests]
    exact ⟨rfl, rfl⟩

theorem of_mem_batches {a : Annotator} {use : AnnotatorUse} {texts : List String}
    (h : texts ∈ use.batches a) : texts ≠ [] ∧ "" ∉ texts := by
  cases use with
  | learn examples =>
    obtain ⟨hmem, hne⟩ := List.mem_filter.mp h
    obtain ⟨which, -, rfl⟩ := List.mem_map.mp hmem
    exact ⟨by simpa using hne, a.not_mem_handed examples which⟩
  | annotate m => cases h
  | doc text => cases h

/-- A stub receives in a history of uses exactly what each of them is to ask for, in order. It is handed no
empty batch and, but for a doc that is asked for by itself, no empty text. Learning goes on to the next
attribute unless the stub has just lost a doc. -/
theorem received_stub (s : Stub) (history : List (Options × AnnotatorUse)) :
    Call.batches (received s.model history) = history.flatMap (fun u => u.2.batches ⟨u.1, s.model⟩) ∧
    Call.singles (received s.model history) = history.flatMap (fun u => u.2.singles ⟨u.1, s.model⟩) ∧
    (∀ texts ∈ Call.batches (received s.model history), texts ≠ [] ∧ "" ∉ texts) ∧
    (∀ options m, "" ∉ Call.singles ((annotate m).calls ⟨options, s.model⟩)) ∧
    ∀ options examples which, ((⟨options, s.model⟩ : Annotator).fault? examples which).isSome ↔
      s.dropsLast = true ∧ (⟨options, s.model⟩ : Annotator).handed examples which ≠ [] := by
  have hf : ∀ t, s.model.doc t = .ok (s.doc t) := fun _ => rfl
  obtain ⟨hbatches, hsingles⟩ := received_of_total hf history
  refine ⟨hbatches, hsingles, fun texts htexts => ?_, fun options m hmem => ?_,
    Annotator.isSome_fault?_stub s⟩
  · rw [hbatches] at htexts
    obtain ⟨u, -, hu⟩ := List.mem_flatMap.mp htexts
    exact of_mem_batches hu
  · rw [calls_of_total (a := ⟨options, s.model⟩) hf (annotate m), Call.singles_requests] at hmem
    obtain ⟨which, -, hwhich⟩ := List.mem_flatMap.mp hmem
    exact Annotator.not_mem_handed _ [m] which hwhich

-- two annotators share a stub that loses docs: learning stops at the responses, as no example has a text
example :
    let s : Stub := ⟨"en", true, true⟩
    let m := (Message.ofText "").setText .response "Hi"
    let history : List (Options × AnnotatorUse) :=
      [(⟨none, true, 2⟩, .learn [m, m.setText .actionText "go"]), (⟨none, false, 2⟩, .annotate m),
        (⟨none, false, 2⟩, .doc "")]
    received s.model history = [.batch ["Hi", "Hi"], .single "hi", .single ""] := by decide

end AnnotatorUse

end TextAnnotation
