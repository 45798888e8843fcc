import TextAnnotation.Attribute
import TextAnnotation.Json.Decode

/-!
# Attributes in JSON

An attribute is written as its name. It is read from its name too, or from an object that has the name as
its only member, with `null` as the value.
-/

namespace TextAnnotation.Attribute

def ofName (name : String) : Except Json.Error Attribute :=
  match ofName? name with
  | some a => .ok a
  | none => .error (.unknownVariant name (all.map Attribute.name))

def readName : Json.Token → Except Json.Error Attribute
  | .string (some s) => ofName s
  | t => .error (t.mismatch .variant)

/-- Reads what stands behind the name in an object with that one member, which has no value. -/
def readMember (a : Attribute) : List Json.Token → Except Json.Error Attribute
  | [] => .error (.fault .truncated)
  | .colon :: [] => .error (.fault .truncated)
  | .colon :: .null :: [] => .error (.fault .truncated)
  | .colon :: .null :: .closeObject :: [] => .ok a
  | .colon :: .null :: _ => .error (.fault .malformed)
  | .colon :: t :: _ => .error (t.mismatch .unit)
  | _ => .error (.fault .malformed)

/-- Reads an attribute from tokens: a string, or an object with one member that has no value. -/
def ofTokens : List Json.Token → Except Json.Error Attribute
  | [] => .error (.fault .truncated)
  | .openObject :: [] => .error (.fault .truncated)
  | .openObject :: t :: ts => do
    let a ← readName t
    readMember a ts
  | .string s :: ts => do
    let a ← readName (.string s)
    if ts.isEmpty then .ok a else .error (.fault .malformed)
  | .broken true f _ :: _ => .error (.fault f)
  | _ => .error (.fault .malformed)

def decode (cs : List Char) : Except Json.Error Attribute :=
  ofTokens (Json.lex cs)

def json (a : Attribute) : Json.Value :=
  .string a.name

end TextAnnotation.Attribute
