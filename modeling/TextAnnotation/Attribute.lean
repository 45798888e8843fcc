/-!
# The texts of a message

A message can have three texts. `Attribute` says which of them is meant, and `Attribute.all` lists them in
the order in which they are processed.
-/

namespace TextAnnotation

/-- Which text of a message is meant. -/
inductive Attribute where
  | text
  | response
  | actionText
  deriving DecidableEq, Repr

namespace Attribute

def all : List Attribute := [.text, .response, .actionText]

theorem mem_all (a : Attribute) : a ∈ all := by cases a <;> decide

def name : Attribute → String
  | .text => "text"
  | .response => "response"
  | .actionText => "action_text"

def docKey : Attribute → String
  | .text => "text_doc"
  | .response => "response_doc"
  | .actionText => "action_text_doc"

def ofName? (name : String) : Option Attribute :=
  all.find? (·.name == name)

theorem ofName?_name (a : Attribute) : ofName? a.name = some a := by cases a <;> decide

end Attribute

end TextAnnotation
