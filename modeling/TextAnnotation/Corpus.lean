import TextAnnotation.Message.Json

/-!
# Corpora

A corpus is a list of messages from which a pipeline learns.
-/

namespace TextAnnotation

/-- Examples in order. -/
structure Corpus where
  examples : List Message

namespace Corpus

open Json (Tree Value Record)

def record : Record (Option (List Message)) where
  name := "TrainingData"
  fields := [
    ⟨"training_examples", (·.isSome), fun t _ => do
      let v ← t.list Message.ofTree
      .ok (some v), false⟩]

def ofTree (t : Tree) : Except Json.Error Corpus := do
  let d ← record.read none t
  let examples ← Json.require "training_examples" d
  .ok ⟨examples⟩

def decode (cs : List Char) : Except Json.Error Corpus :=
  Json.decode ofTree cs

def json (c : Corpus) : Value :=
  .object [("training_examples", .array (c.examples.map Message.json))]

end Corpus

end TextAnnotation
