import TextAnnotation.Padding
import TextAnnotation.Text.Lower
import TextAnnotation.Text.Words

/-!
# Tokenizers

A tokenizer is an encoder that looks up whole words in a vocabulary. Added tokens are cut out of a text first, and
what is left is cut into words. Too many words are cut off; too few are filled up.

* `Tokenizer.cutFrom`: cuts added tokens out of a text. Where several of them start, the longest one counts.
* `Tokenizer.parts`, `Tokenizer.item`: the words of a text among the added tokens, and the numbers of them.
* `Truncation.apply`: cuts off, if that is possible.
* `Tokenizer.cut`: the numbers of one text, before it is filled up.
* `Tokenizer.encoder`: the encoder.
-/

namespace TextAnnotation

/-! ## Cutting off -/

/-- Which one of two texts is cut if they are too long together. There is no second one here. -/
inductive Strategy where
  | longestFirst
  | onlyFirst
  | onlySecond
  deriving DecidableEq, Repr

/-- How many words are kept, and at which end the others are cut off. -/
structure Truncation where
  length : Nat
  side : Side
  strategy : Strategy
  /-- How far the parts of a text that are cut off overlap. -/
  stride : Nat
  deriving DecidableEq, Repr

namespace Truncation

def noSecond : String := "Truncation error: Second sequence not provided"

def strideTooLong : String := "the stride must be strictly less than the maximal length"

def keep (t : Truncation) (items : List Item) : List Item :=
  match t.side with
  | .right => items.take t.length
  | .left => items.drop (items.length - t.length)

/-- Keeps a number of words. Nothing can go wrong where no word is kept, or where there is none to be cut
off. -/
def apply (t : Truncation) (items : List Item) : Except EncoderFault (List Item) :=
  if t.length = 0 then .ok []
  else if items.length ≤ t.length then .ok items
  else if t.strategy = .onlySecond then .error (.refused noSecond)
  else if t.length ≤ t.stride then .error (.crashed strideTooLong)
  else .ok (t.keep items)

end Truncation

/-! ## Words -/

/-- A token that is cut out of a text before anything else is done. -/
structure AddedToken where
  content : String
  id : Nat
  content_ne : content ≠ ""

structure Tokenizer where
  /-- The numbers of words. -/
  vocab : List (String × Nat)
  /-- The entry of the vocabulary that stands for words without one. -/
  unknown : String
  /-- Whether words are looked up in lower case. -/
  lowers : Bool
  /-- Whether a text is cut at its blanks; otherwise it is one word. -/
  splits : Bool
  truncation : Option Truncation
  padding : Option Padding
  added : List AddedToken

namespace Tokenizer

/-- A part of a text. An added token has its number with it. -/
structure Part where
  piece : Text.Piece
  added : Option Nat

def longestAt? (cs : List Char) : List AddedToken → Option AddedToken
  | [] => none
  | a :: rest =>
    if a.content.toList.isPrefixOf cs then
      match longestAt? cs rest with
      | some b => if a.content.length < b.content.length then some b else some a
      | none => some a
    else longestAt? cs rest

/-- Puts a character in front of parts: it lengthens the first one unless that is an added token. -/
def addFront (c : Char) (start : Nat) : List Part → List Part
  | ⟨p, none⟩ :: rest => ⟨⟨c :: p.chars, start⟩, none⟩ :: rest
  | rest => ⟨⟨[c], start⟩, none⟩ :: rest

/-- Cuts added tokens out of characters of which the first stands at byte `start`. The first `passed` of them belong
to a token that was cut out before. -/
def cutFrom (t : Tokenizer) (passed start : Nat) : List Char → List Part
  | [] => []
  | c :: cs =>
    match passed with
    | n + 1 => t.cutFrom n (start + c.utf8Size) cs
    | 0 =>
      match longestAt? (c :: cs) t.added with
      | some a =>
        let chars := a.content.toList
        ⟨⟨chars, start⟩, some a.id⟩ :: t.cutFrom (chars.length - 1) (start + c.utf8Size) cs
      | none => addFront c start (t.cutFrom 0 (start + c.utf8Size) cs)

/-- The words of a part that is no added token. -/
def words (t : Tokenizer) (p : Text.Piece) : List Text.Piece :=
  if t.splits then Text.wordsFrom p.start p.chars else [p]

def parts (t : Tokenizer) (text : List Char) : List Part :=
  (t.cutFrom 0 0 text).flatMap fun p =>
    match p.added with
    | some _ => [p]
    | none => (t.words p.piece).map fun word => ⟨word, none⟩

def entry? (t : Tokenizer) (word : String) : Option Nat :=
  t.vocab.lookup word

/-- The form in which a word is looked up. -/
def normal (t : Tokenizer) (word : List Char) : String :=
  String.ofList (if t.lowers then word.flatMap Text.lowerChar else word)

/-- The entry for a word with its number, or else that for unknown words. -/
def entryFor? (t : Tokenizer) (word : List Char) : Option (String × Nat) :=
  match t.entry? (t.normal word) with
  | some id => some (t.normal word, id)
  | none => (t.entry? t.unknown).map fun id => (t.unknown, id)

def noUnknown : String := "WordLevel error: Missing [UNK] token from the vocabulary"

def item (t : Tokenizer) (p : Part) : Except EncoderFault Item :=
  match p.added with
  | some id => .ok ⟨id, String.ofList p.piece.chars, p.piece.start, p.piece.stop⟩
  | none =>
    match t.entryFor? p.piece.chars with
    | some (surface, id) => .ok ⟨id, surface, p.piece.start, p.piece.stop⟩
    | none => .error (.refused noUnknown)

/-! ## Encoding -/

/-- The numbers of a text that are kept. -/
def cut (t : Tokenizer) (text : List Char) : Except EncoderFault (List Item) := do
  let items ← (t.parts text).mapM t.item
  match t.truncation with
  | some truncation => truncation.apply items
  | none => .ok items

def encode (t : Tokenizer) (text : List Char) : Except EncoderFault (List Item) :=
  (t.cut text).map (Padding.fillOne t.padding)

def vocabSize (t : Tokenizer) : Nat :=
  t.vocab.length + (t.added.filter fun a => (t.entry? a.content).isNone).length

/-- The tokenizer as an encoder. In a batch, each text is filled up on its own first, and then all of them
together. -/
def encoder (t : Tokenizer) : Encoder where
  vocabSize := t.vocabSize
  encode := t.encode
  encodeBatch texts := (texts.mapM t.encode).map (Padding.fillAll t.padding)

/-! ## Adding tokens -/

/-- The number of a new token: that of its entry, or else the next one behind the vocabulary and the tokens that
were added before. -/
def nextId (t : Tokenizer) (content : String) : Nat :=
  match t.entry? content with
  | some id => id
  | none => (t.added.map fun a => a.id + 1).foldl max t.vocab.length

/-- Adds a token, unless it is empty or was added before. -/
def add (t : Tokenizer) (content : String) : Tokenizer :=
  if h : content = "" then t
  else if t.added.any (·.content == content) then t
  else { t with added := t.added ++ [⟨content, t.nextId content, h⟩] }

end Tokenizer

end TextAnnotation
