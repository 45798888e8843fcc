import TextAnnotation.Json.Value.Parse
import TextAnnotation.Tokenizer

/-!
# Tokenizers in JSON

A tokenizer is kept as a JSON object. Only the vocabulary and the entry for unknown words must be there. Files
that ask for anything else than a `Tokenizer` can do are refused.

* `Tokenizer.ofJson?`, `Tokenizer.ofBytes`: read.
* `Tokenizer.library`: the library that reads these tokenizers and no other encoders.
* `Tokenizer.json`: the object of a tokenizer that only cuts at blanks.
-/

namespace TextAnnotation.Tokenizer

open Json (Value)

def version : String := "1.0"

def modelType : String := "WordLevel"

def lowerStep : String := "Lowercase"

def splitStep : String := "WhitespaceSplit"

def side? : Value → Option Side
  | .string "Left" => some .left
  | .string "Right" => some .right
  | _ => none

def strategy? : Value → Option Strategy
  | .string "LongestFirst" => some .longestFirst
  | .string "OnlyFirst" => some .onlyFirst
  | .string "OnlySecond" => some .onlySecond
  | _ => none

/-- Whether a step that is named by its type is taken. -/
def step? (name : String) : Value → Option Bool
  | .null => some false
  | v => if (v.get "type").text? == some name then some true else none

def noStep? : Value → Option Unit
  | .null => some ()
  | _ => none

def truncation? (v : Value) : Option Truncation := do
  let length ← (v.get "max_length").size?
  let side ← Value.orMissing? side? .right (v.member? "direction")
  let strategy ← strategy? (v.get "strategy")
  let stride ← (v.get "stride").size?
  some { length, side, strategy, stride }

/-- The length to reach: a fixed one, or the greatest. -/
def length? : Value → Option (Option Nat)
  | .string "BatchLongest" => some none
  | .object [("Fixed", v)] => v.size?.map some
  | _ => none

def padding? (v : Value) : Option Padding := do
  let length ← length? (v.get "strategy")
  let side ← side? (v.get "direction")
  let multiple ← Value.nullable? Value.size? (v.get "pad_to_multiple_of")
  let id ← (v.get "pad_id").index?
  let _ ← (v.get "pad_type_id").index?
  let surface ← (v.get "pad_token").text?
  some { length, side, multiple := multiple.getD 0, id, surface }

/-- The content of an added token. It is looked for in the text as it is, anywhere and with no blanks around it. -/
def addedToken? (v : Value) : Option String := do
  let _ ← (v.get "id").index?
  let _ ← (v.get "special").flag?
  for name in ["single_word", "lstrip", "rstrip", "normalized"] do
    guard ((v.get name).flag? == some false)
  (v.get "content").text?

def addedTokens? : Value → Option (List String)
  | .array items => items.mapM addedToken?
  | _ => none

def vocab? : Value → Option (List (String × Nat))
  | .object members => members.mapM fun (word, v) => v.index?.map fun id => (word, id)
  | _ => none

/-- Reads a tokenizer from a JSON value. The numbers of added tokens are given anew. -/
def ofJson? (v : Value) : Option Tokenizer := do
  let given ← Value.orMissing? Value.text? version (v.member? "version")
  guard (given == version)
  let truncation ← Value.nullable? truncation? (v.get "truncation")
  let padding ← Value.nullable? padding? (v.get "padding")
  let added ← Value.orMissing? addedTokens? [] (v.member? "added_tokens")
  let lowers ← step? lowerStep (v.get "normalizer")
  let splits ← step? splitStep (v.get "pre_tokenizer")
  noStep? (v.get "post_processor")
  noStep? (v.get "decoder")
  let model := v.get "model"
  let type ← Value.orMissing? Value.text? modelType (model.member? "type")
  guard (type == modelType)
  let vocab ← vocab? (model.get "vocab")
  let unknown ← (model.get "unk_token").text?
  some (added.foldl add { vocab, unknown, lowers, splits, truncation, padding, added := [] })

def ofBytes? (bytes : ByteArray) : Option Tokenizer := do
  let text ← String.fromUTF8? bytes
  let v ← (Value.parse text.toList).toOption
  ofJson? v

def noTokenizer : String := "no tokenizer that could be used"

/-- Tokenizers are all that can be read. -/
def library : Library where
  encoder bytes :=
    match ofBytes? bytes with
    | some t => .ok t.encoder
    | none => .error (.refused noTokenizer)
  tensorsReason _ _ := "no file of tensors"
  shapeReason _ := "unexpected number of dimensions"

/-- The object of a tokenizer that cuts at blanks. Members are in the order of their names. -/
def json (vocab : List (String × Nat)) (unknown : String) : Value :=
  .object [
    ("added_tokens", .array []),
    ("decoder", .null),
    ("model", .object [
      ("type", .string modelType),
      ("unk_token", .string unknown),
      ("vocab", .object (vocab.map fun (word, id) => (word, .nat id)))]),
    ("normalizer", .null),
    ("padding", .null),
    ("post_processor", .null),
    ("pre_tokenizer", .object [("type", .string splitStep)]),
    ("truncation", .null),
    ("version", .string version)]

end TextAnnotation.Tokenizer
