/-!
# Docs

A doc is what a language model makes of one text: its tokens, and a vector for the whole if every token
has one.

* `Vocab`, `Token`, `Doc`: the data. Two docs can be equal although their vocabularies differ.
* `meanVector`: the mean of the vectors of tokens.
* `Doc.similarity`: the cosine of the angle between the vectors of two docs.
-/

namespace TextAnnotation

/-- What a model and all its docs have in common: the language, the number of entries of the vocabulary,
and the length of the vectors, which is zero if there are none. -/
structure Vocab where
  lang : String
  size : Nat
  vectorsWidth : Nat
  deriving DecidableEq, Repr

/-- A part of a text from byte `start` to byte `stop`, and its number in the vocabulary. -/
structure Token where
  text : String
  id : Nat
  start : Nat
  stop : Nat
  vector : Option (List Float32)
  deriving BEq

/-! ## Vectors -/

/-- Adds the vector of each token to a sum; nothing if one is missing or has another length. -/
def addVectors (sum : List Float32) : List Token → Option (List Float32)
  | [] => some sum
  | t :: ts =>
    match t.vector with
    | some v => if v.length = sum.length then addVectors (List.zipWith (· + ·) sum v) ts else none
    | none => none

/-- A count as a number of 32 bits. -/
def countSingle (n : Nat) : Float32 :=
  (UInt64.ofNat n).toFloat32

/-- The mean of the vectors of tokens, if there are tokens and all have vectors of one length. -/
def meanVector (tokens : List Token) : Option (List Float32) :=
  match tokens with
  | [] => none
  | t :: _ =>
    match t.vector with
    | some v =>
      (addVectors (List.replicate v.length 0.0) tokens).map fun sum =>
        sum.map (· / countSingle tokens.length)
    | none => none

/-- The zero with a minus sign, which is neutral for addition. -/
def negativeZero : Float32 :=
  Float32.ofBits 0x80000000

def scalarProduct (a b : List Float32) : Float32 :=
  (List.zipWith (· * ·) a b).foldl (· + ·) negativeZero

def norm (a : List Float32) : Float32 :=
  (scalarProduct a a).sqrt

/-! ## Docs -/

/-- A text, its tokens, and a vector for the whole. -/
structure Doc where
  vocab : Vocab
  text : String
  tokens : List Token
  vector : Option (List Float32)

instance : BEq Doc where
  beq a b := a.text == b.text && a.tokens == b.tokens && a.vector == b.vector

namespace Doc

def ofTokens (vocab : Vocab) (text : String) (tokens : List Token) : Doc :=
  ⟨vocab, text, tokens, meanVector tokens⟩

def empty (vocab : Vocab) : Doc :=
  ⟨vocab, "", [], none⟩

def isEmpty (d : Doc) : Bool :=
  d.tokens.isEmpty

/-- The similarity of two docs, if both have vectors of one length. -/
def similarity (d e : Doc) : Option Float32 :=
  match d.vector, e.vector with
  | some a, some b =>
    if a.length = b.length then
      if norm a == 0.0 || norm b == 0.0 then some 0.0
      else some (scalarProduct a b / (norm a * norm b))
    else none
  | _, _ => none

end Doc

end TextAnnotation
