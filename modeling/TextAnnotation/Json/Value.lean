import TextAnnotation.Decimal.Layout
import TextAnnotation.Text.Hex
import TextAnnotation.Json.Number

/-!
# JSON values as text

* `Value`: a JSON value. The members of an object are kept as they are to be written.
* `Value.compact`: the text of a value without any blanks.
* `Value.pretty`: the text of a value on several lines, indented by two spaces a level.

In a string, the quote, the backslash and the characters below the space are escaped, and no others.
Numbers that are not finite are written as `null`.
-/

namespace TextAnnotation.Json

inductive Value where
  | null
  | bool (b : Bool)
  | number (n : Number)
  | string (s : String)
  | array (items : List Value)
  | object (members : List (String × Value))

namespace Value

def nat (n : Nat) : Value :=
  .number (.integer n)

def single (x : Float32) : Value :=
  .number (.single x)

def strings (ss : List String) : Value :=
  .array (ss.map .string)

end Value

def integerText (i : Int) : List Char :=
  if i < 0 then '-' :: Text.digits i.natAbs else Text.digits i.natAbs

def Number.text : Number → List Char
  | .integer i => integerText i
  | .double x => (Decimal.doubleText? x).getD "null".toList
  | .single x => (Decimal.singleText? x).getD "null".toList

def escapeChar (c : Char) : List Char :=
  if c == '"' then ['\\', '"']
  else if c == '\\' then ['\\', '\\']
  else if c == Char.ofNat 8 then ['\\', 'b']
  else if c == '\t' then ['\\', 't']
  else if c == '\n' then ['\\', 'n']
  else if c == Char.ofNat 12 then ['\\', 'f']
  else if c == '\r' then ['\\', 'r']
  else if c.toNat < 0x20 then
    ['\\', 'u', '0', '0', Text.hexDigit (c.toNat / 16), Text.hexDigit c.toNat]
  else [c]

def quote (s : String) : List Char :=
  '"' :: s.toList.flatMap escapeChar ++ ['"']

/-! ## Compact text -/

mutual

/-- The text of a value without blanks. -/
def Value.compact : Value → List Char
  | .null => "null".toList
  | .bool true => "true".toList
  | .bool false => "false".toList
  | .number n => n.text
  | .string s => quote s
  | .array [] => ['[', ']']
  | .array (v :: vs) => '[' :: v.compact ++ compactItems vs
  | .object [] => ['{', '}']
  | .object ((k, v) :: ms) => '{' :: quote k ++ ':' :: v.compact ++ compactMembers ms

def compactItems : List Value → List Char
  | [] => [']']
  | v :: vs => ',' :: v.compact ++ compactItems vs

def compactMembers : List (String × Value) → List Char
  | [] => ['}']
  | (k, v) :: ms => ',' :: quote k ++ ':' :: v.compact ++ compactMembers ms

end

/-! ## Text on several lines -/

def newline (level : Nat) : List Char :=
  '\n' :: List.replicate (2 * level) ' '

mutual

/-- The text of a value at a level of nesting, on several lines. -/
def Value.prettyAt (level : Nat) : Value → List Char
  | .array (v :: vs) =>
    '[' :: newline (level + 1) ++ v.prettyAt (level + 1) ++ prettyItems level vs
  | .object ((k, v) :: ms) =>
    '{' :: newline (level + 1) ++ quote k ++ ':' :: ' ' :: v.prettyAt (level + 1)
      ++ prettyMembers level ms
  | .array [] => ['[', ']']
  | .object [] => ['{', '}']
  | .null => "null".toList
  | .bool true => "true".toList
  | .bool false => "false".toList
  | .number n => n.text
  | .string s => quote s

def prettyItems (level : Nat) : List Value → List Char
  | [] => newline level ++ [']']
  | v :: vs => ',' :: newline (level + 1) ++ v.prettyAt (level + 1) ++ prettyItems level vs

def prettyMembers (level : Nat) : List (String × Value) → List Char
  | [] => newline level ++ ['}']
  | (k, v) :: ms =>
    ',' :: newline (level + 1) ++ quote k ++ ':' :: ' ' :: v.prettyAt (level + 1)
      ++ prettyMembers level ms

end

/-- The text of a value on several lines. -/
def Value.pretty (v : Value) : List Char :=
  v.prettyAt 0

def Value.text (v : Value) : String :=
  String.ofList v.compact

end TextAnnotation.Json
