import TextAnnotation.Keyed
import TextAnnotation.Model
import TextAnnotation.Traced

/-!
# Batches

The texts of a batch are numbered. Those that are empty never reach the model: they have a placeholder,
and both parts are put together again by their numbers.

* `split`: the texts with content and the empty ones.
* `withContent`, `placeholders`: the docs of the two parts.
* `merge`: docs in the order of their numbers.
* `run`: all of this for one batch.
-/

namespace TextAnnotation.Batch

/-- A text with its number. -/
abbrev Sample := Nat × String

/-- A doc with the number of its text. -/
abbrev Result := Nat × Doc

def split (samples : List Sample) : List Sample × List Sample :=
  samples.partition fun s => !s.2.isEmpty

def ask (model : Model) (texts : List String) (batchSize : Nat) :
    Traced Call ModelError (List Doc) where
  result :=
    match model.pipe texts batchSize with
    | .error e => .error e
    | .ok docs =>
      if docs.length = texts.length then .ok docs
      else .error (.batchSizeMismatch texts.length docs.length)
  calls := [.batch texts]

/-- The docs of texts with content. Without any text the model is not asked. -/
def withContent (model : Model) (samples : List Sample) (batchSize : Nat) :
    Traced Call ModelError (List Result) :=
  match samples with
  | [] => Traced.pure []
  | _ => do
    let docs ← ask model (samples.map (·.2)) batchSize
    return (samples.map (·.1)).zip docs

def placeholders (model : Model) (samples : List Sample) : List Result :=
  samples.map fun s => (s.1, model.emptyDoc)

/-- The docs in the order of their numbers; the last doc of a number counts. -/
def merge (results : List Result) : List Result :=
  Keyed.ofList results

/-- The docs of a batch, in the order of their numbers. -/
def run (model : Model) (samples : List Sample) (batchSize : Nat) :
    Traced Call ModelError (List Result) := do
  let (content, empty) := split samples
  let results ← withContent model content batchSize
  return merge (results ++ placeholders model empty)

end TextAnnotation.Batch
