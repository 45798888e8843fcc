import TextAnnotation.Decimal.Single
import TextAnnotation.Json.Error
import TextAnnotation.Json.Value.Parse

/-!
# Reading typed values

A decoder walks through a tree from left to right and stops at the first problem.

* `Tree.string`, `Tree.bool`, `Tree.size`, `Tree.index`, `Tree.single`: single values.
* `Tree.list`, `Tree.optional`: lists, and values that may be `null`.
* `Record`, `Record.read`: records, written as an object or as an array of the fields in order.
* `decode`, `decodeValue`: a whole text, or a value that has been read already.
-/

namespace TextAnnotation.Json

def orFault {α : Type} : Except Fault α → Except Error α
  | .ok a => .ok a
  | .error f => .error (.fault f)

/-- The outcome of a container with a fault behind its contents. -/
def endsWith (fault : Option Fault) : Except Error Unit :=
  match fault with
  | some f => .error (.fault f)
  | none => .ok ()

/-- The problem of one who wants something else than the value of a tree. -/
def Tree.mismatch (wanted : Wanted) : Tree → Error
  | .null => .invalidType .null wanted
  | .bool b => .invalidType (.bool b) wanted
  | .number (some n) => .invalidType (.number n) wanted
  | .string (some s) => .invalidType (.string s) wanted
  | .array .. => .invalidType .sequence wanted
  | .object .. => .invalidType .map wanted
  | .number none | .string none => .fault .malformed
  | .cut f _ => .fault f

/-- The problem of one who wants something else than the value that starts with a token. -/
def Token.mismatch (wanted : Wanted) : Token → Error
  | .openArray => .invalidType .sequence wanted
  | .openObject => .invalidType .map wanted
  | t => t.leaf.mismatch wanted

/-! ## Single values -/

def Tree.text : Tree → Except Error String
  | .string (some s) => .ok s
  | t => .error (t.mismatch .string)

def Tree.flag : Tree → Except Error Bool
  | .bool b => .ok b
  | t => .error (t.mismatch .bool)

def Tree.nat (bound : Nat) (wanted : Wanted) : Tree → Except Error (Fin bound)
  | .number (some (.integer i)) =>
    if h : 0 ≤ i ∧ i < bound then .ok ⟨i.toNat, by omega⟩
    else .error (.invalidValue (.number (.integer i)) wanted)
  | t => .error (t.mismatch wanted)

def Tree.size (t : Tree) : Except Error Nat := do
  let n ← t.nat UInt64.size .size
  .ok n.val

def Tree.word (t : Tree) : Except Error UInt64 := do
  let n ← t.nat UInt64.size .size
  .ok (UInt64.ofNatLT n.val n.isLt)

def Tree.index (t : Tree) : Except Error Nat := do
  let n ← t.nat UInt32.size .index
  .ok n.val

def Number.toSingle : Number → Float32
  | .integer i => Decimal.singleOfInt i
  | .double x => x.toFloat32
  | .single x => x

def Tree.single : Tree → Except Error Float32
  | .number (some n) => .ok n.toSingle
  | t => .error (t.mismatch .single)

/-! ## Lists and missing values -/

def readList {α : Type} (read : Tree → Except Error α) : List Tree → Except Error (List α)
  | [] => .ok []
  | t :: ts => do
    let a ← read t
    let as ← readList read ts
    .ok (a :: as)

def Tree.list {α : Type} (read : Tree → Except Error α) : Tree → Except Error (List α)
  | .array items fault => do
    let as ← readList read items
    endsWith fault
    .ok as
  | t => .error (t.mismatch .sequence)

/-- A value, or `null` for none. -/
def Tree.optional {α : Type} (read : Tree → Except Error α) : Tree → Except Error (Option α)
  | .null => .ok none
  | t => do
    let a ← read t
    .ok (some a)

/-! ## Records -/

/-- A field of a record that is read into a draft: whether the draft has it already, how it is read, and
whether an array may end in front of it. -/
structure Field (δ : Type) where
  name : String
  has : δ → Bool
  read : Tree → δ → Except Error δ
  defaulted : Bool

/-- A record: its name and its fields in order. -/
structure Record (δ : Type) where
  name : String
  fields : List (Field δ)

namespace Record

variable {δ : Type}

def field? (r : Record δ) (name : String) : Option (Field δ) :=
  r.fields.find? (·.name == name)

/-- Reads the members of an object. Members that are not fields are passed over. -/
def readMembers (r : Record δ) (d : δ) : List Member → Except Error δ
  | [] => .ok d
  | (name, t) :: ms => do
    let k ← orFault name
    match r.field? k with
    | some f =>
      if f.has d then .error (.duplicateField k)
      else
        let d ← f.read t d
        r.readMembers d ms
    | none =>
      orFault t.skip
      r.readMembers d ms

/-- Reads the items of an array as the fields that remain, behind `count` others. -/
def readItems (r : Record δ) (count : Nat) (d : δ) (fault : Option Fault) :
    List (Field δ) → List Tree → Except Error δ
  | [], [] => do
    endsWith fault
    .ok d
  | [], t :: ts => .error (.tooLong (count + (t :: ts).length))
  | f :: fs, [] => do
    endsWith fault
    if f.defaulted then r.readItems count d fault fs []
    else .error (.tooShort count r.name r.fields.length)
  | f :: fs, t :: ts => do
    let d ← f.read t d
    r.readItems (count + 1) d fault fs ts

/-- Reads a record into an empty draft. -/
def read (r : Record δ) (blank : δ) : Tree → Except Error δ
  | .array items fault => r.readItems 0 blank fault r.fields items
  | .object members fault => do
    let d ← r.readMembers blank members
    endsWith fault
    .ok d
  | t => .error (t.mismatch (.record r.name))

end Record

/-- A field that an object must have. -/
def require {α : Type} (name : String) : Option α → Except Error α
  | some a => .ok a
  | none => .error (.missingField name)

/-! ## Texts -/

/-- An array with too many items is only met where the array was expected to end. -/
def Error.inText : Error → Error
  | .tooLong _ => .fault .malformed
  | e => e

def decode {α : Type} (read : Tree → Except Error α) (cs : List Char) : Except Error α :=
  let r := Json.read cs
  match read r.root with
  | .error e => .error e.inText
  | .ok a => if r.trailing then .error (.fault .malformed) else .ok a

/-- Reads a value. -/
def decodeValue {α : Type} (read : Tree → Except Error α) (v : Value) : Except Error α :=
  read v.tree

end TextAnnotation.Json
