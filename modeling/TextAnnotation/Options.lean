import TextAnnotation.Json.Decode

/-!
# Options of an annotator

* `Options`: which model is used, and how texts are handed to it.
* `Options.ofJson`, `Options.json`: options as JSON. What is not given has its default.
-/

namespace TextAnnotation

/-- Which model is used, and how texts are handed to it. -/
structure Options where
  /-- The name or the path of a model; without it the language of the pipeline is the name. -/
  model : Option String
  /-- Whether upper case is kept. -/
  caseSensitive : Bool
  /-- How many texts the model is given at a time. -/
  batchSize : UInt64
  deriving DecidableEq, Repr

namespace Options

open Json (Tree Value Record)

def defaultBatchSize : UInt64 := 50

def default : Options := ⟨none, false, defaultBatchSize⟩

structure Draft where
  model : Option (Option String)
  caseSensitive : Option Bool
  batchSize : Option UInt64

def record : Record Draft where
  name := "AdapterOptions"
  fields := [
    ⟨"model", (·.model.isSome), fun t d => do
      let v ← t.optional Tree.text
      .ok { d with model := some v }, true⟩,
    ⟨"case_sensitive", (·.caseSensitive.isSome), fun t d => do
      let v ← t.flag
      .ok { d with caseSensitive := some v }, true⟩,
    ⟨"batch_size", (·.batchSize.isSome), fun t d => do
      let v ← t.word
      .ok { d with batchSize := some v }, true⟩]

/-- The defaults, overridden by a draft. -/
def ofDraft (d : Draft) : Options where
  model := d.model.getD default.model
  caseSensitive := d.caseSensitive.getD default.caseSensitive
  batchSize := d.batchSize.getD default.batchSize

def ofTree (t : Tree) : Except Json.Error Options := do
  let d ← record.read ⟨none, none, none⟩ t
  .ok (ofDraft d)

/-- Reads options from a JSON value; `null` stands for the defaults. -/
def ofJson : Value → Except Json.Error Options
  | .null => .ok default
  | v => Json.decodeValue ofTree v

/-- Reads options from a text, by way of a JSON value. -/
def decode (cs : List Char) : Except Json.Error Options :=
  match Value.parse cs with
  | .ok v => ofJson v
  | .error f => .error (.fault f)

def json (o : Options) : Value :=
  .object [
    ("model", match o.model with | some m => .string m | none => .null),
    ("case_sensitive", .bool o.caseSensitive),
    ("batch_size", .nat o.batchSize.toNat)]

end Options

end TextAnnotation
