import TextAnnotation.Doc
import TextAnnotation.Model.Error

/-!
# Language models

* `Model`: what an annotator needs of a language model.
* `Call`: a request to a model.
-/

namespace TextAnnotation

/-- A language model, as an annotator sees it. It may fail, and it need not keep to the number of texts
that it is given. -/
structure Model where
  vocab : Vocab
  /-- The directory that the model was loaded from. -/
  path : Option String
  /-- The doc of one text. -/
  doc : String → Except ModelError Doc
  /-- The docs of several texts, which are worked on `batchSize` at a time. -/
  pipe : List String → (batchSize : Nat) → Except ModelError (List Doc)

namespace Model

def lang (m : Model) : String :=
  m.vocab.lang

def emptyDoc (m : Model) : Doc :=
  .empty m.vocab

end Model

inductive Call where
  | batch (texts : List String)
  | single (text : String)
  deriving DecidableEq, Repr

namespace Call

def batches (calls : List Call) : List (List String) :=
  calls.filterMap fun
    | .batch texts => some texts
    | .single _ => none

def singles (calls : List Call) : List String :=
  calls.filterMap fun
    | .batch _ => none
    | .single text => some text

end Call

end TextAnnotation
