import TextAnnotation.Json.Decode

/-!
# Manifests of models

The manifest of a model names its language, the model itself, its version and the pipes that it consists
of. It is kept in a file of its own in the directory of the model.
-/

namespace TextAnnotation

/-! ## Pipes -/

def tokenizerPipe : String := "tokenizer"
def vectorsPipe : String := "vectors"
def parserPipe : String := "parser"

/-- What is known about a model. -/
structure Manifest where
  lang : String
  name : String
  version : String
  pipeline : List String
  /-- The fingerprint of the tokenizer's file, once that has been read. -/
  fingerprint : Option String
  deriving DecidableEq, Repr

namespace Manifest

open Json (Tree Value Record)

def fileName : String := "meta.json"

def defaultPipeline : List String := [tokenizerPipe, vectorsPipe, parserPipe]

/-- The manifest of a model that has only a tokenizer and no directory. -/
def blank (lang : String) : Manifest :=
  ⟨lang, "blank", "", [tokenizerPipe], none⟩

/-- The name of the model with its language in front. -/
def fullName (m : Manifest) : String :=
  if m.name.isEmpty then m.lang else m.lang ++ "_" ++ m.name

def enabledPipes (m : Manifest) (disabled : List String) : List String :=
  m.pipeline.filter fun pipe => !disabled.contains pipe

/-! ## JSON -/

structure Draft where
  lang : Option String
  name : Option String
  version : Option String
  pipeline : Option (List String)

def record : Record Draft where
  name := "ModelMeta"
  fields := [
    ⟨"lang", (·.lang.isSome), fun t d => do let v ← t.text; .ok { d with lang := some v }, false⟩,
    ⟨"name", (·.name.isSome), fun t d => do let v ← t.text; .ok { d with name := some v }, true⟩,
    ⟨"version", (·.version.isSome), fun t d => do let v ← t.text; .ok { d with version := some v }, true⟩,
    ⟨"pipeline", (·.pipeline.isSome), fun t d => do
      let v ← t.list Tree.text
      .ok { d with pipeline := some v }, true⟩]

def ofTree (t : Tree) : Except Json.Error Manifest := do
  let d ← record.read ⟨none, none, none, none⟩ t
  let lang ← Json.require "lang" d.lang
  .ok ⟨lang, d.name.getD "", d.version.getD "", d.pipeline.getD defaultPipeline, none⟩

def decode (cs : List Char) : Except Json.Error Manifest :=
  Json.decode ofTree cs

/-- A manifest as a JSON value, without the fingerprint. -/
def json (m : Manifest) : Value :=
  .object [
    ("lang", .string m.lang), ("name", .string m.name), ("version", .string m.version),
    ("pipeline", .strings m.pipeline)]

end Manifest

end TextAnnotation
