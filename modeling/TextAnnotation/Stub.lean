import TextAnnotation.Blake3
import TextAnnotation.Catalog
import TextAnnotation.Text.Words

/-!
# Stub models

A stub stands in for a language model: it cuts a text into words, numbers them by their digests and has
no vectors. It can be made to lose the last doc of every batch.
-/

namespace TextAnnotation

/-- A stand-in for a language model. -/
structure Stub where
  lang : String
  /-- Whether it pretends to come from a directory. -/
  onDisk : Bool
  /-- Whether it loses the last doc of a batch. -/
  dropsLast : Bool

namespace Stub

def vocabSize : Nat := 1024

def directory : String := "/mock/models"

def vocab (s : Stub) : Vocab := ⟨s.lang, vocabSize, 0⟩

def wordId (word : List Char) : Nat :=
  let digest := Blake3.digest (String.ofList word).toUTF8
  ((digest.take 4).foldr (fun b n => n * 256 + b.toNat) 0) % vocabSize

/-- The tokens of a text, each found again in the text behind the one before. -/
def tokens (text : String) : List Token :=
  let cs := text.toList
  (Text.locateAll 0 cs (Text.split cs)).map fun p =>
    ⟨String.ofList p.chars, wordId p.chars, p.start, p.stop, none⟩

def doc (s : Stub) (text : String) : Doc :=
  .ofTokens s.vocab text (tokens text)

def pipe (s : Stub) (texts : List String) : List Doc :=
  let docs := texts.map s.doc
  if s.dropsLast then docs.dropLast else docs

def model (s : Stub) : Model where
  vocab := s.vocab
  path := if s.onDisk then some (directory ++ "/" ++ s.lang) else none
  doc text := .ok (s.doc text)
  pipe texts _ := .ok (s.pipe texts)

/-- A catalog of stubs. A name without a stub is known, but there is no model for it. -/
def catalog (stubs : List (String × Option Stub)) : Catalog where
  load name _ :=
    match stubs.lookup name with
    | some stub => .ok (stub.map model)
    | none => .error (.notFound name directory)

end Stub

end TextAnnotation
