import TextAnnotation.Doc
import TextAnnotation.Slots

/-!
# Messages

A message holds up to three texts and, once it has been annotated, a doc for each of them.
-/

namespace TextAnnotation

/-- The texts of a message and the docs that are attached to it. -/
structure Message where
  texts : Slots String
  docs : Slots Doc

namespace Message

def empty : Message := ⟨.empty, .empty⟩

def get (m : Message) (a : Attribute) : Option String :=
  m.texts.get a

def doc (m : Message) (a : Attribute) : Option Doc :=
  m.docs.get a

/-- Sets the text of an attribute. A doc that is attached to it stays. -/
def setText (m : Message) (a : Attribute) (text : String) : Message :=
  { m with texts := m.texts.set a text }

def setDoc (m : Message) (a : Attribute) (doc : Doc) : Message :=
  { m with docs := m.docs.set a doc }

def ofText (text : String) : Message :=
  empty.setText .text text

/-- Attaches a doc to an attribute unless it has no tokens. -/
def attach (m : Message) (a : Attribute) (doc : Doc) : Message :=
  if doc.isEmpty then m else m.setDoc a doc

@[simp] theorem get_setText (m : Message) (a b : Attribute) (t : String) :
    (m.setText a t).get b = if a = b then some t else m.get b :=
  Slots.get_set m.texts a b t

@[simp] theorem doc_setText (m : Message) (a b : Attribute) (t : String) :
    (m.setText a t).doc b = m.doc b := rfl

@[simp] theorem texts_setDoc (m : Message) (a : Attribute) (d : Doc) :
    (m.setDoc a d).texts = m.texts := rfl

@[simp] theorem texts_attach (m : Message) (a : Attribute) (d : Doc) :
    (m.attach a d).texts = m.texts := by
  unfold attach; split <;> rfl

@[simp] theorem doc_setDoc (m : Message) (a b : Attribute) (d : Doc) :
    (m.setDoc a d).doc b = if a = b then some d else m.doc b := by
  simp [doc, setDoc]

theorem doc_attach (m : Message) (a b : Attribute) (d : Doc) :
    (m.attach a d).doc b = if a = b ∧ d.isEmpty = false then some d else m.doc b := by
  unfold attach
  cases d.isEmpty <;> simp

end Message

end TextAnnotation
