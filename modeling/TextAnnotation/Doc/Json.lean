import TextAnnotation.Doc
import TextAnnotation.Json.Decode

/-!
# Docs in JSON

* `Vocab.decode`, `Token.decode`: read a vocabulary and a token.
* `Vocab.json`, `Token.json`, `Doc.json`: write. The vocabulary of a doc is not written.
-/

namespace TextAnnotation

open Json (Tree Value Record)

def vectorJson (v : List Float32) : Value :=
  .array (v.map .single)

def vectorMember (vector : Option (List Float32)) : List (String × Value) :=
  match vector with
  | some v => [("vector", vectorJson v)]
  | none => []

namespace Vocab

structure Draft where
  lang : Option String
  size : Option Nat
  vectorsWidth : Option Nat

def record : Record Draft where
  name := "Vocab"
  fields := [
    ⟨"lang", (·.lang.isSome), fun t d => do let v ← t.text; .ok { d with lang := some v }, false⟩,
    ⟨"size", (·.size.isSome), fun t d => do let v ← t.size; .ok { d with size := some v }, false⟩,
    ⟨"vectors_width", (·.vectorsWidth.isSome),
      fun t d => do let v ← t.size; .ok { d with vectorsWidth := some v }, false⟩]

def ofTree (t : Tree) : Except Json.Error Vocab := do
  let d ← record.read ⟨none, none, none⟩ t
  let lang ← Json.require "lang" d.lang
  let size ← Json.require "size" d.size
  let vectorsWidth ← Json.require "vectors_width" d.vectorsWidth
  .ok ⟨lang, size, vectorsWidth⟩

def json (v : Vocab) : Value :=
  .object [("lang", .string v.lang), ("size", .nat v.size), ("vectors_width", .nat v.vectorsWidth)]

end Vocab

namespace Token

structure Draft where
  text : Option String
  id : Option Nat
  start : Option Nat
  stop : Option Nat
  vector : Option (Option (List Float32))

def record : Record Draft where
  name := "Token"
  fields := [
    ⟨"text", (·.text.isSome), fun t d => do let v ← t.text; .ok { d with text := some v }, false⟩,
    ⟨"id", (·.id.isSome), fun t d => do let v ← t.index; .ok { d with id := some v }, false⟩,
    ⟨"start", (·.start.isSome), fun t d => do let v ← t.size; .ok { d with start := some v }, false⟩,
    ⟨"end", (·.stop.isSome), fun t d => do let v ← t.size; .ok { d with stop := some v }, false⟩,
    ⟨"vector", (·.vector.isSome), fun t d => do
      let v ← t.optional (Tree.list Tree.single)
      .ok { d with vector := some v }, true⟩]

def ofTree (t : Tree) : Except Json.Error Token := do
  let d ← record.read ⟨none, none, none, none, none⟩ t
  let text ← Json.require "text" d.text
  let id ← Json.require "id" d.id
  let start ← Json.require "start" d.start
  let stop ← Json.require "end" d.stop
  .ok ⟨text, id, start, stop, d.vector.getD none⟩

def json (t : Token) : Value :=
  .object ([("text", .string t.text), ("id", .nat t.id), ("start", .nat t.start), ("end", .nat t.stop)]
    ++ vectorMember t.vector)

end Token

def Doc.json (d : Doc) : Value :=
  .object ([("text", .string d.text), ("tokens", .array (d.tokens.map Token.json))]
    ++ vectorMember d.vector)

end TextAnnotation
