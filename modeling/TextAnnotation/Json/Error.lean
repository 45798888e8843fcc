import TextAnnotation.Decimal.Layout
import TextAnnotation.Json.Token
import TextAnnotation.Json.Value
import TextAnnotation.Text.Quoted

/-!
# Why a JSON text is not what is wanted

* `Found`, `Wanted`: what stands somewhere, and what should stand there.
* `Error`, `Error.message`: the first problem of a text, and its wording.
-/

namespace TextAnnotation.Json

/-- A value that stands in a wrong place. -/
inductive Found where
  | null
  | bool (b : Bool)
  | number (n : Number)
  | string (s : String)
  | sequence
  | map

/-- What should stand in a place. -/
inductive Wanted where
  | string
  | bool
  | sequence
  /-- A natural number of 64 bits. -/
  | size
  /-- A natural number of 32 bits. -/
  | index
  /-- A number that becomes one of 32 bits. -/
  | single
  | record (name : String)
  /-- The name of one of several cases. -/
  | variant
  /-- Nothing but `null`. -/
  | unit

/-- The first problem of a text. -/
inductive Error where
  /-- The text is not JSON, or ends too early. -/
  | fault (f : Fault)
  | invalidType (found : Found) (wanted : Wanted)
  | invalidValue (found : Found) (wanted : Wanted)
  | missingField (name : String)
  | duplicateField (name : String)
  | unknownVariant (name : String) (variants : List String)
  /-- An array that stands for a record has too few items. -/
  | tooShort (length : Nat) (record : String) (fields : Nat)
  /-- An array that stands for a record has too many items. -/
  | tooLong (length : Nat)

def Fault.message : Fault → String
  | .malformed => "<syntax>"
  | .truncated => "<eof>"

/-- The wording for a number that was found. -/
def Number.found : Number → String
  | .integer i => "integer `" ++ String.ofList (integerText i) ++ "`"
  | .double x => "floating point `" ++ String.ofList ((Decimal.doubleText? x).getD []) ++ "`"
  | .single x => "floating point `" ++ String.ofList ((Decimal.singleText? x).getD []) ++ "`"

def Found.text : Found → String
  | .null => "null"
  | .bool true => "boolean `true`"
  | .bool false => "boolean `false`"
  | .number n => n.found
  | .string s => "string " ++ Text.quoted s
  | .sequence => "sequence"
  | .map => "map"

def Wanted.text : Wanted → String
  | .string => "a string"
  | .bool => "a boolean"
  | .sequence => "a sequence"
  | .size => "usize"
  | .index => "u32"
  | .single => "f32"
  | .record name => "struct " ++ name
  | .variant => "variant identifier"
  | .unit => "unit"

def nameList (names : List String) : String :=
  ", ".intercalate (names.map fun n => "`" ++ n ++ "`")

def Error.message : Error → String
  | .fault f => f.message
  | .invalidType found wanted => "invalid type: " ++ found.text ++ ", expected " ++ wanted.text
  | .invalidValue found wanted => "invalid value: " ++ found.text ++ ", expected " ++ wanted.text
  | .missingField name => "missing field `" ++ name ++ "`"
  | .duplicateField name => "duplicate field `" ++ name ++ "`"
  | .unknownVariant name variants =>
    "unknown variant `" ++ name ++ "`, expected one of " ++ nameList variants
  | .tooShort n record fields =>
    "invalid length " ++ Text.decimal n ++ ", expected struct " ++ record ++ " with " ++ Text.decimal fields
      ++ if fields = 1 then " element" else " elements"
  | .tooLong n => "invalid length " ++ Text.decimal n ++ ", expected fewer elements in array"

end TextAnnotation.Json
