import TextAnnotation.Json.Tree
import TextAnnotation.Json.Value
import TextAnnotation.Keyed

/-!
# Reading any JSON value

A value that is read without regard to its meaning has the members of its objects in the order of their
names; of two members with one name the last one counts.

* `Value.parse`: the value of a text.
* `Value.tree`: a value as the tree of a text without faults.
* `Value.get`, `Value.text?`, `Value.size?`: parts of a value. `Value.member?` tells a member that is missing from
  one that is `null`.
-/

namespace TextAnnotation.Json

/-- The outcome of a container with a fault behind its contents. -/
def unlessFault (fault : Option Fault) (v : Value) : Except Fault Value :=
  match fault with
  | some f => .error f
  | none => .ok v

mutual

/-- The value of a tree, with at most `depth` containers around any part of it. -/
def Tree.value (depth : Nat) : Tree → Except Fault Value
  | .null => .ok .null
  | .bool b => .ok (.bool b)
  | .number (some n) => .ok (.number n)
  | .string (some s) => .ok (.string s)
  | .number none | .string none => .error .malformed
  | .cut f _ => .error f
  | .array items fault =>
    match depth with
    | 0 => .error .malformed
    | depth + 1 => do
      let vs ← itemValues depth items
      unlessFault fault (.array vs)
  | .object members fault =>
    match depth with
    | 0 => .error .malformed
    | depth + 1 => do
      let ms ← memberValues depth [] members
      unlessFault fault (.object ms)

def itemValues (depth : Nat) : List Tree → Except Fault (List Value)
  | [] => .ok []
  | t :: ts => do
    let v ← t.value depth
    let vs ← itemValues depth ts
    .ok (v :: vs)

/-- The members of an object, added to those that stand in front of them. -/
def memberValues (depth : Nat) (before : List (String × Value)) :
    List (Except Fault String × Tree) → Except Fault (List (String × Value))
  | [] => .ok before
  | (name, t) :: ms => do
    let k ← name
    let v ← t.value depth
    memberValues depth (Keyed.insert k v before) ms

end

/-- How deeply the containers of a text may be nested. -/
def maxDepth : Nat := 127

/-- Reads a text. -/
def Value.parse (cs : List Char) : Except Fault Value := do
  let r := read cs
  let v ← r.root.value maxDepth
  if r.trailing then .error .malformed else .ok v

/-! ## Back to trees -/

mutual

/-- A value as a tree. -/
def Value.tree : Value → Tree
  | .null => .null
  | .bool b => .bool b
  | .number n => .number (some n)
  | .string s => .string (some s)
  | .array items => .array (itemTrees items) none
  | .object members => .object (memberTrees members) none

def itemTrees : List Value → List Tree
  | [] => []
  | v :: vs => v.tree :: itemTrees vs

def memberTrees : List (String × Value) → List (Except Fault String × Tree)
  | [] => []
  | (k, v) :: ms => (.ok k, v.tree) :: memberTrees ms

end

/-! ## Parts of values -/

namespace Value

def member? (v : Value) (name : String) : Option Value :=
  match v with
  | .object members => members.lookup name
  | _ => none

/-- The value under a name in an object; `null` if there is none. -/
def get (v : Value) (name : String) : Value :=
  (v.member? name).getD .null

def text? : Value → Option String
  | .string s => some s
  | _ => none

def nat? (bound : Nat) : Value → Option Nat
  | .number (.integer i) => if 0 ≤ i ∧ i < bound then some i.toNat else none
  | _ => none

def size? : Value → Option Nat :=
  nat? UInt64.size

def index? : Value → Option Nat :=
  nat? UInt32.size

def flag? : Value → Option Bool
  | .bool b => some b
  | _ => none

/-- A member that may be missing, but not `null`. -/
def orMissing? {α : Type} (read : Value → Option α) (default : α) : Option Value → Option α
  | none => some default
  | some v => read v

/-- A value that may be `null`. -/
def nullable? {α : Type} (read : Value → Option α) : Value → Option (Option α)
  | .null => some none
  | v => (read v).map some

end Value

end TextAnnotation.Json
