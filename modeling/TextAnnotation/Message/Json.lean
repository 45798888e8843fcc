import TextAnnotation.Message
import TextAnnotation.Doc.Json

/-!
# Messages in JSON

A message is read from a flat object of its texts; whatever else the object holds is passed over. It is
written with its docs, if it has any, and with the members of the object in the order of their names.
-/

namespace TextAnnotation.Message

open Json (Tree Value Record)

/-- The texts that have been read: those that were given, of which each may be `null`. -/
abbrev Draft := Slots (Option String)

def field (a : Attribute) : Json.Field Draft where
  name := a.name
  has d := (d.get a).isSome
  read t d := do
    let v ← t.optional Tree.text
    .ok (d.set a v)
  defaulted := false

def record : Record Draft where
  name := "RawMessage"
  fields := Attribute.all.map field

def ofDraft (d : Draft) : Message :=
  ⟨⟨d.text.join, d.response.join, d.actionText.join⟩, .empty⟩

def ofTree (t : Tree) : Except Json.Error Message := do
  let d ← record.read .empty t
  .ok (ofDraft d)

def decode (cs : List Char) : Except Json.Error Message :=
  Json.decode ofTree cs

/-! ## Writing -/

/-- The attributes in the order of their names. -/
def byName : List Attribute := [.actionText, .response, .text]

def docMembers (m : Message) : List (String × Value) :=
  byName.filterMap fun a => (m.doc a).map fun d => (a.docKey, d.json)

def textMember (m : Message) (a : Attribute) : List (String × Value) :=
  match m.get a with
  | some s => [(a.name, .string s)]
  | none => []

def docsMember (m : Message) : List (String × Value) :=
  match docMembers m with
  | [] => []
  | ms => [("docs", .object ms)]

def json (m : Message) : Value :=
  .object (textMember m .actionText ++ docsMember m ++ textMember m .response ++ textMember m .text)

end TextAnnotation.Message
