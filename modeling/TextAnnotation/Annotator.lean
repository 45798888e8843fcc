import TextAnnotation.Batch
import TextAnnotation.Catalog
import TextAnnotation.Manifest
import TextAnnotation.Message
import TextAnnotation.Options
import TextAnnotation.Settings.Error
import TextAnnotation.Text.Lower

/-!
# Annotators

An annotator attaches the docs of a language model to messages: one message at a time, or a list of
examples by batches.

* `create`, `restore`: find the model and check it.
* `learnInPlace`: attaches docs to all examples, or to none of them.
* `annotate`: attaches docs to one message, text by text.
-/

namespace TextAnnotation

/-- What can go wrong when an annotator is made. -/
inductive AnnotatorError where
  | model (e : ModelError)
  | settings (e : SettingsError)

namespace AnnotatorError

def message : AnnotatorError → String
  | .model e => e.message
  | .settings e => e.message

def isUnusable : AnnotatorError → Bool
  | .model e => e.isUnusable
  | .settings _ => false

/-- Whether nothing goes on behind an error. -/
def isCrash : AnnotatorError → Bool
  | .model e => e.isCrash
  | .settings _ => false

end AnnotatorError

/-- A language model and the options with which it is used. -/
structure Annotator where
  options : Options
  model : Model

namespace Annotator

def componentName : String := "LanguageModelAdapter"

/-- The pipes that an annotator has no use for. -/
def disabledPipes : List String := [parserPipe]

/-- The name of the model: the explicit one, or else the fallback. -/
def modelName (explicit fallback : String) : String :=
  if explicit.isEmpty then fallback else explicit

def componentKey (component : String) (model : Option String) (fallback : String) : String :=
  component ++ "-" ++ modelName (model.getD "") fallback

/-- A text as it is handed to the model. A missing text is empty. -/
def preprocessText (caseSensitive : Bool) (text : Option String) : String :=
  match text with
  | none => ""
  | some t => if caseSensitive then t else Text.lower t

theorem preprocessText_some_eq_empty_iff {caseSensitive : Bool} {t : String} :
    preprocessText caseSensitive (some t) = "" ↔ t = "" := by
  cases caseSensitive
  · exact Text.lower_eq_empty_iff
  · exact Iff.rfl

/-! ## Making annotators -/

def load (catalog : Catalog) (name : String) : Traced LoadRequest ModelError (Option Model) :=
  ⟨catalog.load name disabledPipes, [⟨name, disabledPipes⟩]⟩

def validate : Option Model → Except ModelError Model
  | none => .error .noModel
  | some m => if m.path.isNone then .error (.notFromDisk m.lang) else .ok m

/-- Asks a catalog for a model and accepts only one that comes from a directory. -/
def loadValid (catalog : Catalog) (name : String) : Traced LoadRequest ModelError Model :=
  let x := load catalog name
  ⟨x.result.bind validate, x.calls⟩

/-- Makes an annotator for a pipeline of a language. The name of the model is kept in the options. -/
def create (options : Options) (language : String) (catalog : Catalog) :
    Traced LoadRequest AnnotatorError Annotator :=
  let name := modelName (options.model.getD "") language
  if name.isEmpty then Traced.fail (.settings .missingLanguage)
  else
    let x := loadValid catalog name
    ⟨match x.result with
      | .ok m => .ok ⟨{ options with model := some name }, m⟩
      | .error e => .error (.model e), x.calls⟩

def restore {α : Type} (make : Annotator → α) (options : Options) (language : String)
    (catalog : Catalog) (present : Option α) : Traced LoadRequest AnnotatorError α :=
  match present with
  | some a => Traced.pure a
  | none => do
    let a ← create options language catalog
    return make a

def key (a : Annotator) : String :=
  componentKey componentName a.options.model a.model.lang

def preprocess (a : Annotator) (text : Option String) : String :=
  preprocessText a.options.caseSensitive text

/-! ## Learning -/

def samples (a : Annotator) (which : Attribute) (examples : List Message) : List Batch.Sample :=
  examples.zipIdx.map fun (m, i) => (i, a.preprocess (m.get which))

def docsOf (a : Annotator) (which : Attribute) (examples : List Message) :
    Traced Call ModelError (List Doc) := do
  let results ← Batch.run a.model (a.samples which examples) a.options.batchSize.toNat
  return results.map (·.2)

def docsOfEach (a : Annotator) (examples : List Message) :
    List Attribute → Traced Call ModelError (List (Attribute × List Doc))
  | [] => Traced.pure []
  | which :: rest => do
    let docs ← a.docsOf which examples
    let more ← a.docsOfEach examples rest
    return (which, docs) :: more

/-- The docs of all attributes. -/
def learnDocs (a : Annotator) (examples : List Message) :
    Traced Call ModelError (List (Attribute × List Doc)) :=
  a.docsOfEach examples Attribute.all

def attachDocs (which : Attribute) : List Message → List Doc → List Message
  | m :: ms, d :: ds => m.attach which d :: attachDocs which ms ds
  | ms, _ => ms

def attachEach (examples : List Message) (docs : List (Attribute × List Doc)) : List Message :=
  docs.foldl (fun ms x => attachDocs x.1 ms x.2) examples

/-- Examples behind an attempt to learn from them, and the requests that were made. -/
structure Learning where
  examples : List Message
  result : Except ModelError Unit
  calls : List Call

/-- Learns from examples that are kept where they are. No doc is attached before all of them are made. -/
def learnInPlace (a : Annotator) (examples : List Message) : Learning :=
  let x := a.learnDocs examples
  match x.result with
  | .error e => ⟨examples, .error e, x.calls⟩
  | .ok docs => ⟨attachEach examples docs, .ok (), x.calls⟩

theorem learnInPlace_of_error {a : Annotator} {examples : List Message} {e : ModelError}
    (h : (a.learnDocs examples).result = .error e) :
    a.learnInPlace examples = ⟨examples, .error e, (a.learnDocs examples).calls⟩ := by
  simp only [learnInPlace, h]

theorem learnInPlace_of_ok {a : Annotator} {examples : List Message}
    {all : List (Attribute × List Doc)} (h : (a.learnDocs examples).result = .ok all) :
    a.learnInPlace examples =
      ⟨attachEach examples all, .ok (), (a.learnDocs examples).calls⟩ := by
  simp only [learnInPlace, h]

/-! ## Annotating -/

def docOf (a : Annotator) (text : String) : Traced Call ModelError Doc :=
  let t := a.preprocess (some text)
  ⟨a.model.doc t, [.single t]⟩

/-- A message behind an attempt to annotate it, and the requests that were made. -/
structure Annotation where
  message : Message
  result : Except ModelError Unit
  calls : List Call

/-- Attaches docs for the given attributes, up to the first failure. -/
def annotateEach (a : Annotator) (m : Message) : List Attribute → Annotation
  | [] => ⟨m, .ok (), []⟩
  | which :: rest =>
    match (m.get which).filter (!·.isEmpty) with
    | none => a.annotateEach m rest
    | some text =>
      let x := a.docOf text
      match x.result with
      | .error e => ⟨m, .error e, x.calls⟩
      | .ok d =>
        let y := a.annotateEach (m.setDoc which d) rest
        { y with calls := x.calls ++ y.calls }

/-- Attaches a doc for every text that is not empty, up to the first failure. -/
def annotate (a : Annotator) (m : Message) : Annotation :=
  a.annotateEach m Attribute.all

end Annotator

end TextAnnotation
