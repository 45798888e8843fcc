import TextAnnotation.Tensors

/-!
# Tables of vectors

A table has one vector for each number of a word. Numbers beyond its end have the zero vector.

* `VectorTable.row?`: a row.
* `VectorTable.lookup`: the vectors of several numbers. The rows that exist are fetched together, and then
  handed out in the order in which they were asked for.
-/

namespace TextAnnotation

/-- A list of rows of one width, kept one behind the other. -/
structure VectorTable where
  rows : Nat
  width : Nat
  data : Array Float32
  size_data : data.size = rows * width

namespace VectorTable

def fileName : String := "vectors.safetensors"

def tensorName : String := "vectors"

/-- The table of a tensor, if that is a list of rows. -/
def ofTensor? (t : Tensor) : Option VectorTable :=
  match t.shape with
  | [rows, width] =>
    if h : t.data.size = rows * width then some ⟨rows, width, t.data, h⟩ else none
  | _ => none

def row? (t : VectorTable) (i : Nat) : Option (List Float32) :=
  if i < t.rows then some (t.data.extract (i * t.width) (i * t.width + t.width)).toList else none

def zero (t : VectorTable) : List Float32 :=
  List.replicate t.width 0.0

/-- The rows of the numbers that have one. -/
def gather (t : VectorTable) (ids : List Nat) : List (List Float32) :=
  ids.filterMap t.row?

/-- Hands out rows to the numbers that have one, and zeros to the others. -/
def handOut (t : VectorTable) : List Nat → List (List Float32) → List (List Float32)
  | [], _ => []
  | id :: ids, rows =>
    if id < t.rows then
      match rows with
      | row :: rest => row :: t.handOut ids rest
      | [] => t.zero :: t.handOut ids []
    else t.zero :: t.handOut ids rows

/-- The vectors of numbers. -/
def lookup (t : VectorTable) (ids : List Nat) : List (List Float32) :=
  t.handOut ids (t.gather ids)

end VectorTable

end TextAnnotation
