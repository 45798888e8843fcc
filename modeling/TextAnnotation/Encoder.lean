import TextAnnotation.Files

/-!
# Encoders

An encoder turns a text into numbered items, each with the place in the text that it comes from. How it does so
is the business of another library, which also reads encoders from files. Both can be refused, and both can bring
down the whole program.

* `Encoder`: what a language model needs of an encoder.
* `Library`: what language models need of other libraries.
-/

namespace TextAnnotation

/-- Why there is no outcome. -/
inductive EncoderFault where
  | refused (reason : String)
  /-- Nothing goes on behind this. -/
  | crashed (reason : String)
  deriving DecidableEq, Repr

namespace EncoderFault

def isCrash : EncoderFault → Bool
  | refused _ => false
  | crashed _ => true

end EncoderFault

/-- A number with the bytes of the text from which it comes, and the word that it stands for. -/
structure Item where
  id : Nat
  surface : String
  start : Nat
  stop : Nat
  deriving DecidableEq, Repr

/-- What becomes of texts, one by one or several at once. -/
structure Encoder where
  /-- The number of entries of its vocabulary. -/
  vocabSize : Nat
  encode : List Char → Except EncoderFault (List Item)
  encodeBatch : List (List Char) → Except EncoderFault (List (List Item))

def Encoder.fileName : String := "tokenizer.json"

/-- What is left to other libraries: to read encoders, and to say why a file of vectors cannot be used. -/
structure Library where
  encoder : ByteArray → Except EncoderFault Encoder
  /-- Why there are no tensors under a path. -/
  tensorsReason : String → Except ReadFault ByteArray → String
  /-- Why a shape is not that of a table. -/
  shapeReason : List Nat → String

end TextAnnotation
