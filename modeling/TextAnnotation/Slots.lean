import TextAnnotation.Attribute

/-!
# Values for the texts of a message

* `Slots`: at most one value for each attribute.
* `get_set`, `ext_get`: setting a value, and when two of them are the same.
-/

namespace TextAnnotation

/-- At most one value for each attribute. -/
structure Slots (α : Type) where
  text : Option α
  response : Option α
  actionText : Option α
  deriving DecidableEq, Repr

namespace Slots

variable {α : Type}

def empty : Slots α := ⟨none, none, none⟩

def get (s : Slots α) : Attribute → Option α
  | .text => s.text
  | .response => s.response
  | .actionText => s.actionText

def set (s : Slots α) (a : Attribute) (v : α) : Slots α :=
  match a with
  | .text => { s with text := some v }
  | .response => { s with response := some v }
  | .actionText => { s with actionText := some v }

@[simp] theorem get_empty (a : Attribute) : (empty : Slots α).get a = none := by
  cases a <;> rfl

@[simp] theorem get_set (s : Slots α) (a b : Attribute) (v : α) :
    (s.set a v).get b = if a = b then some v else s.get b := by
  cases a <;> cases b <;> rfl

theorem ext_get {s t : Slots α} (h : ∀ a, s.get a = t.get a) : s = t := by
  cases s; cases t
  have h₁ := h .text
  have h₂ := h .response
  have h₃ := h .actionText
  simp_all [get]

end Slots

end TextAnnotation
