import TextAnnotation.Annotator

/-!
# What the making of an annotator depends on

Whether there is an annotator, and with which model, depends on the name of the model alone; the other
options are only passed on.

* `modelFor`: the model of a name.
* `create_result`, `create_calls`: the annotator in terms of the model of its name, and what the catalog is
  asked for.
* `options_of_create`, `key_of_create`: its options and its key.
* `keyOf_inj`: different names are cached under different keys.
* `annotate_congr`: annotating depends on the model and on how texts are handed to it, on nothing else.
* `learnInPlace_congr`: so does learning, but for the size of batches where the model cares.
-/

namespace TextAnnotation.Annotator

/-- The name of the model for which options ask in a pipeline of a language. -/
def nameFor (options : Options) (language : String) : String :=
  modelName (options.model.getD "") language

/-- The key under which annotators with the model of a name are cached. -/
def keyOf (name : String) : String :=
  componentName ++ "-" ++ name

def modelFor (catalog : Catalog) (name : String) : Except AnnotatorError Model :=
  if name.isEmpty then .error (.settings .missingLanguage)
  else (loadValid catalog name).result.mapError .model

def annotatorFor (catalog : Catalog) (name : String) (options : Options) :
    Except AnnotatorError Annotator :=
  (modelFor catalog name).map fun m => ⟨{ options with model := some name }, m⟩

theorem componentKey_eq (options : Options) (language : String) :
    componentKey componentName options.model language = keyOf (nameFor options language) := rfl

theorem keyOf_inj {name name' : String} : keyOf name = keyOf name' ↔ name = name' :=
  String.append_right_inj _

theorem create_result (options : Options) (language : String) (catalog : Catalog) :
    (create options language catalog).result =
      annotatorFor catalog (nameFor options language) options := by
  unfold create annotatorFor modelFor nameFor
  dsimp only
  split
  · rfl
  · cases (loadValid catalog (modelName (options.model.getD "") language)).result <;> rfl

/-- With different options, the annotator of a name has the same model. -/
theorem annotatorFor_of_ok {catalog : Catalog} {name : String} {options : Options} {a : Annotator}
    (h : annotatorFor catalog name options = .ok a) (options' : Options) :
    a.options = { options with model := some name } ∧
      annotatorFor catalog name options' = .ok ⟨{ options' with model := some name }, a.model⟩ := by
  unfold annotatorFor at h ⊢
  cases hm : modelFor catalog name with
  | error e =>
    rw [hm] at h
    cases h
  | ok m =>
    rw [hm] at h
    cases h
    exact ⟨rfl, rfl⟩

theorem annotatorFor_of_error {catalog : Catalog} {name : String} {options : Options}
    {e : AnnotatorError} (h : annotatorFor catalog name options = .error e) (options' : Options) :
    annotatorFor catalog name options' = .error e := by
  unfold annotatorFor at h ⊢
  cases hm : modelFor catalog name with
  | error e' =>
    rw [hm] at h
    cases h
    rfl
  | ok m =>
    rw [hm] at h
    cases h

theorem create_calls (options : Options) (language : String) (catalog : Catalog) :
    (create options language catalog).calls =
      if nameFor options language = "" then [] else [⟨nameFor options language, disabledPipes⟩] := by
  unfold create nameFor
  by_cases hname : modelName (options.model.getD "") language = ""
  · simp only [hname, if_true]
    rfl
  · simp only [hname, if_false, String.isEmpty_iff]
    rfl

/-- An annotator has the options that were asked for, with the name of its model, which is not empty. -/
theorem options_of_create {options : Options} {language : String} {catalog : Catalog} {a : Annotator}
    (h : (create options language catalog).result = .ok a) :
    a.options = { options with model := some (nameFor options language) } ∧
      nameFor options language ≠ "" := by
  rw [create_result] at h
  refine ⟨(annotatorFor_of_ok h options).1, fun hempty => ?_⟩
  rw [hempty] at h
  cases h

theorem calls_of_create {options : Options} {language : String} {catalog : Catalog} {a : Annotator}
    (h : (create options language catalog).result = .ok a) :
    (create options language catalog).calls = [⟨nameFor options language, disabledPipes⟩] := by
  rw [create_calls, if_neg (options_of_create h).2]

theorem nameFor_of_model {options : Options} {name : String} (hmodel : options.model = some name)
    (hname : name ≠ "") (language : String) : nameFor options language = name := by
  rw [nameFor, modelName, hmodel]
  simp [hname]

/-- The key of an annotator is the one that was made of the options and the language, although the language
of its model may be another one. -/
theorem key_of_create {options : Options} {language : String} {catalog : Catalog} {a : Annotator}
    (h : (create options language catalog).result = .ok a) :
    a.key = keyOf (nameFor options language) := by
  obtain ⟨hoptions, hname⟩ := options_of_create h
  have hmodel : a.options.model = some (nameFor options language) := by rw [hoptions]
  rw [key, componentKey_eq, nameFor_of_model hmodel hname]

theorem annotateEach_congr {a b : Annotator} (hmodel : b.model = a.model)
    (hcase : b.options.caseSensitive = a.options.caseSensitive) (m : Message)
    (attributes : List Attribute) : b.annotateEach m attributes = a.annotateEach m attributes := by
  have hdoc : b.docOf = a.docOf := by
    funext t
    simp only [docOf, preprocess, hmodel, hcase]
  induction attributes generalizing m with
  | nil => rfl
  | cons which rest ih =>
    rw [annotateEach, annotateEach]
    simp only [hdoc, ih]

theorem annotate_congr {a b : Annotator} (hmodel : b.model = a.model)
    (hcase : b.options.caseSensitive = a.options.caseSensitive) (m : Message) :
    b.annotate m = a.annotate m :=
  annotateEach_congr hmodel hcase m Attribute.all

theorem docsOf_congr {a b : Annotator} (hmodel : b.model = a.model)
    (hcase : b.options.caseSensitive = a.options.caseSensitive)
    (hpipe : ∀ texts, a.model.pipe texts b.options.batchSize.toNat =
      a.model.pipe texts a.options.batchSize.toNat) (which : Attribute) (examples : List Message) :
    b.docsOf which examples = a.docsOf which examples := by
  have hsamples : b.samples which examples = a.samples which examples := by
    simp only [samples, preprocess, hcase]
  have hask : ∀ texts, Batch.ask a.model texts b.options.batchSize.toNat =
      Batch.ask a.model texts a.options.batchSize.toNat := by
    intro texts
    simp only [Batch.ask, hpipe]
  have hcontent : ∀ content, Batch.withContent a.model content b.options.batchSize.toNat =
      Batch.withContent a.model content a.options.batchSize.toNat := by
    intro content
    cases content with
    | nil => rfl
    | cons s rest => simp only [Batch.withContent, hask]
  simp only [docsOf, Batch.run, hmodel, hsamples, hcontent]

theorem learnInPlace_congr {a b : Annotator} (hmodel : b.model = a.model)
    (hcase : b.options.caseSensitive = a.options.caseSensitive)
    (hpipe : ∀ texts, a.model.pipe texts b.options.batchSize.toNat =
      a.model.pipe texts a.options.batchSize.toNat) (examples : List Message) :
    b.learnInPlace examples = a.learnInPlace examples := by
  have heach : ∀ attributes, b.docsOfEach examples attributes = a.docsOfEach examples attributes := by
    intro attributes
    induction attributes with
    | nil => rfl
    | cons which rest ih =>
      rw [docsOfEach, docsOfEach, docsOf_congr hmodel hcase hpipe, ih]
  rw [learnInPlace, learnInPlace, learnDocs, learnDocs, heach]

end TextAnnotation.Annotator
