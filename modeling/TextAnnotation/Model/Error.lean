import TextAnnotation.Encoder
import TextAnnotation.Json.Error

/-!
# Why a model cannot be had or used

* `LoadFault`: why a directory does not hold a usable model.
* `ModelError`: everything that can go wrong with a model, with its wording.
-/

namespace TextAnnotation

/-- Why a directory does not hold a usable model. -/
inductive LoadFault where
  /-- The directory has no manifest. -/
  | manifestMissing (file dir : String)
  /-- The manifest is not text. -/
  | manifestNotText
  /-- The manifest cannot be read. -/
  | manifestInvalid (file : String) (error : Json.Error)
  | tokenizerMissing (path : String)
  | tokenizerUnreadable (fault : EncoderFault)
  /-- The file of the vectors cannot be read. -/
  | vectorsUnreadable (path reason : String)
  /-- The file of the vectors has no table of that name. -/
  | tableMissing (table path : String)
  /-- The table is not a list of rows. -/
  | tableShape (reason : String)

/-- The wording of bytes that are not text. -/
def notText : String := "stream did not contain valid UTF-8"

def LoadFault.message : LoadFault → String
  | .manifestMissing file dir => "missing " ++ file ++ " in " ++ dir
  | .manifestNotText => notText
  | .manifestInvalid file e => "invalid " ++ file ++ ": " ++ e.message
  | .tokenizerMissing path => "failed to load tokenizer: missing " ++ path
  | .tokenizerUnreadable (.refused reason) => "failed to load tokenizer: " ++ reason
  | .tokenizerUnreadable (.crashed reason) => reason
  | .vectorsUnreadable path reason => "failed to read " ++ path ++ ": " ++ reason
  | .tableMissing table path => "tensor '" ++ table ++ "' not found in " ++ path
  | .tableShape reason => "vector table must be 2-dimensional: " ++ reason

/-- Whether nothing goes on behind a failure to load a model. -/
def LoadFault.isCrash : LoadFault → Bool
  | .tokenizerUnreadable fault => fault.isCrash
  | .manifestMissing .. | .manifestNotText | .manifestInvalid .. | .tokenizerMissing _
  | .vectorsUnreadable .. | .tableMissing .. | .tableShape _ => false

inductive ModelError where
  /-- No directory belongs to the name. -/
  | notFound (name dataPath : String)
  /-- The catalog knows the name but has no model for it. -/
  | noModel
  /-- The model does not come from a directory. -/
  | notFromDisk (lang : String)
  | loadFailed (fault : LoadFault)
  /-- A text cannot be cut into tokens. -/
  | tokenizationFailed (fault : EncoderFault)
  /-- The model has not returned one doc for each text. -/
  | batchSizeMismatch (expected actual : Nat)

namespace ModelError

def message : ModelError → String
  | .notFound name dataPath =>
    "model '" ++ name ++ "' is not a linked language model. "
      ++ "Please download and/or link a model, e.g. by running:\n"
      ++ "  cp -r /path/to/en_core_web_md " ++ dataPath ++ "/en_core_web_md\n"
      ++ "  ln -s " ++ dataPath ++ "/en_core_web_md " ++ dataPath ++ "/en"
  | .noModel => "invalid language model: loading the model returned no model"
  | .notFromDisk lang =>
    "invalid language model: model for lang '" ++ lang ++ "' was not loaded from disk. "
      ++ "Make sure you have downloaded the correct model"
  | .loadFailed fault => "failed to load language model: " ++ fault.message
  | .tokenizationFailed (.refused reason) => "tokenization failed: " ++ reason
  | .tokenizationFailed (.crashed reason) => reason
  | .batchSizeMismatch expected actual =>
    "batch inference returned " ++ Text.decimal actual ++ " docs for " ++ Text.decimal expected ++ " texts"

/-- Whether the model itself is the reason that there can be no annotator. -/
def isUnusable : ModelError → Bool
  | .notFound .. | .noModel | .notFromDisk _ => true
  | .loadFailed _ | .tokenizationFailed _ | .batchSizeMismatch .. => false

def isCrash : ModelError → Bool
  | .loadFailed fault => fault.isCrash
  | .tokenizationFailed fault => fault.isCrash
  | .notFound .. | .noModel | .notFromDisk _ | .batchSizeMismatch .. => false

end ModelError

end TextAnnotation
