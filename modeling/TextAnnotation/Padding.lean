import TextAnnotation.Encoder

/-!
# Filling up

Texts that are worked on together can be filled up to one length.

* `Padding.fill`: fills up to a length.
* `Padding.fillOne`, `Padding.fillAll`: fill up one text on its own, or several texts to the longest of them.
-/

namespace TextAnnotation

inductive Side where
  | left
  | right
  deriving DecidableEq, Repr

structure Padding where
  /-- The length to reach; without it, the greatest length of all texts. -/
  length : Option Nat
  /-- The end at which a text is filled up. -/
  side : Side
  /-- Lengths are rounded up to a multiple of this; zero stands for no rounding. -/
  multiple : Nat
  /-- The number that fills up. -/
  id : Nat
  /-- The word that it stands for. -/
  surface : String
  deriving DecidableEq, Repr

namespace Padding

def target (p : Padding) (longest : Nat) : Nat :=
  let n := p.length.getD longest
  if p.multiple = 0 then n else (n + p.multiple - 1) / p.multiple * p.multiple

def filler (p : Padding) : Item :=
  ⟨p.id, p.surface, 0, 0⟩

/-- Fills up to a length. What is long enough stays as it is. -/
def fill (p : Padding) (length : Nat) (items : List Item) : List Item :=
  let more := List.replicate (length - items.length) p.filler
  match p.side with
  | .right => items ++ more
  | .left => more ++ items

/-- Fills up one text on its own. -/
def fillOne (padding : Option Padding) (items : List Item) : List Item :=
  match padding with
  | some p => p.fill (p.target items.length) items
  | none => items

/-- Fills up texts to one length. -/
def fillAll (padding : Option Padding) (encodings : List (List Item)) : List (List Item) :=
  match padding with
  | some p =>
    let longest := (encodings.map List.length).foldl max 0
    encodings.map (p.fill (p.target longest))
  | none => encodings

end Padding

end TextAnnotation
