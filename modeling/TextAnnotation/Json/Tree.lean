import TextAnnotation.Json.Token

/-!
# Trees of JSON texts

A tree is what a text says, together with what is wrong with it. A reader walks through a tree from left
to right and stops at the first problem, so a fault is kept at the place where a reader meets it, and what
stands behind it is dropped.

* `Tree`: a value that may be faulty.
* `Tree.skip`: what one meets who passes over a tree.
* `Reading`, `read`: the tree of a text, and whether more than blanks follows it.
-/

namespace TextAnnotation.Json

/-- A value of a text as far as the text can be read. -/
inductive Tree where
  | null
  | bool (b : Bool)
  /-- A number, unless it is too large. -/
  | number (n : Option Number)
  /-- A string, unless it has half of a surrogate pair. -/
  | string (s : Option String)
  /-- An array, and what is wrong behind the last item. -/
  | array (items : List Tree) (fault : Option Fault)
  /-- An object, and what is wrong behind the last member. A name can have a fault of its own. -/
  | object (members : List (Except Fault String × Tree)) (fault : Option Fault)
  /-- Nothing that could be read. The first fault is met by one who wants a value here, the second by one
  who passes over it. -/
  | cut (read skip : Fault)

abbrev Member := Except Fault String × Tree

mutual

/-- What one meets who passes over a tree. -/
def Tree.skip : Tree → Except Fault Unit
  | .array items fault => do
    skipItems items
    match fault with
    | some f => .error f
    | none => .ok ()
  | .object members fault => do
    skipMembers members
    match fault with
    | some f => .error f
    | none => .ok ()
  | .cut _ f => .error f
  | .null | .bool _ | .number _ | .string _ => .ok ()

def skipItems : List Tree → Except Fault Unit
  | [] => .ok ()
  | t :: ts => do
    t.skip
    skipItems ts

def skipMembers : List (Except Fault String × Tree) → Except Fault Unit
  | [] => .ok ()
  | (_, t) :: ms => do
    t.skip
    skipMembers ms

end

/-! ## Reading -/

/-- A container that is still open, its contents backwards. -/
inductive Frame where
  | items (done : List Tree)
  | members (done : List Member)
  /-- An object in the middle of a member. -/
  | member (done : List Member) (name : Except Fault String)

/-- What is expected next. `first` holds right behind an opening bracket. -/
inductive Expected where
  | value (first : Bool)
  | name (first : Bool)
  | colon
  | more

/-- What has become of the text behind a token. -/
inductive Progress where
  /-- It goes on. -/
  | open (expected : Expected) (stack : List Frame)
  /-- The value is complete. -/
  | complete (root : Tree)
  /-- The text cannot be read on. -/
  | faulty (root : Tree)

/-- The value of a token that stands on its own where a value is expected. -/
def Token.leaf : Token → Tree
  | .null => .null
  | .bool b => .bool b
  | .number n => .number n
  | .string s => .string s
  | .broken _ read skip => .cut read skip
  | .openArray | .closeArray | .openObject | .closeObject | .comma | .colon => .cut .malformed .malformed

/-- The container with a fault, or closed as it should be. -/
def Frame.close (fault : Option Fault) : Frame → Tree
  | .items done => .array done.reverse fault
  | .members done | .member done _ => .object done.reverse fault

def Frame.put (t : Tree) : Frame → Frame
  | .items done => .items (t :: done)
  | .members done => .members done
  | .member done name => .members ((name, t) :: done)

def put (t : Tree) : List Frame → Progress
  | [] => .complete t
  | frame :: stack => .open .more (frame.put t :: stack)

/-- The whole that has `t` as its last part, with the same fault behind each container that is open. -/
def enclose (t : Tree) (f : Fault) : List Frame → Tree
  | [] => t
  | frame :: stack => enclose ((frame.put t).close (some f)) f stack

def failValue (read skip : Fault) (stack : List Frame) : Tree :=
  enclose (.cut read skip) skip stack

/-- The text cannot be read on where the name of a member is expected. -/
def failName (read skip : Fault) : List Frame → Tree
  | .members done :: stack => failValue skip skip (.member done (.error read) :: stack)
  | stack => failValue read skip stack

/-- The text cannot be read on where a comma or a closing bracket is expected. -/
def failMore (f : Fault) : List Frame → Tree
  | frame :: stack => enclose (frame.close (some f)) f stack
  | [] => .cut f f

def stepValue (first : Bool) (stack : List Frame) : Token → Progress
  | .openArray => .open (.value true) (.items [] :: stack)
  | .openObject => .open (.name true) (.members [] :: stack)
  | .closeArray =>
    match first, stack with
    | true, .items [] :: outer => put (.array [] none) outer
    | _, _ => .faulty (failValue .malformed .malformed stack)
  | .broken _ read skip => .faulty (failValue read skip stack)
  | .closeObject | .comma | .colon => .faulty (failValue .malformed .malformed stack)
  | t => put t.leaf stack

/-- What a token does where the name of a member is expected. -/
def stepName (first : Bool) (stack : List Frame) : Token → Progress
  | .string s =>
    match stack with
    | .members done :: outer =>
      .open .colon (.member done (match s with | some s => .ok s | none => .error .malformed) :: outer)
    | _ => .faulty (failName .malformed .malformed stack)
  | .closeObject =>
    match first, stack with
    | true, .members [] :: outer => put (.object [] none) outer
    | _, _ => .faulty (failName .malformed .malformed stack)
  | .broken true read skip => .faulty (failName read skip stack)
  | _ => .faulty (failName .malformed .malformed stack)

def stepColon (stack : List Frame) : Token → Progress
  | .colon => .open (.value false) stack
  | _ => .faulty (failValue .malformed .malformed stack)

def stepMore (stack : List Frame) : Token → Progress
  | .comma =>
    match stack with
    | .items _ :: _ => .open (.value false) stack
    | _ => .open (.name false) stack
  | .closeArray =>
    match stack with
    | .items done :: outer => put (.array done.reverse none) outer
    | _ => .faulty (failMore .malformed stack)
  | .closeObject =>
    match stack with
    | .members done :: outer => put (.object done.reverse none) outer
    | _ => .faulty (failMore .malformed stack)
  | _ => .faulty (failMore .malformed stack)

/-- What a token does. -/
def advance (expected : Expected) (stack : List Frame) (t : Token) : Progress :=
  match expected with
  | .value first => stepValue first stack t
  | .name first => stepName first stack t
  | .colon => stepColon stack t
  | .more => stepMore stack t

def truncated (expected : Expected) (stack : List Frame) : Tree :=
  match expected with
  | .value _ | .colon => failValue .truncated .truncated stack
  | .name _ => failName .truncated .truncated stack
  | .more => failMore .truncated stack

/-- What a text says, and whether more than blanks follows. -/
structure Reading where
  root : Tree
  trailing : Bool

def build (expected : Expected) (stack : List Frame) : List Token → Reading
  | [] => ⟨truncated expected stack, false⟩
  | t :: ts =>
    match advance expected stack t with
    | .open expected' stack' => build expected' stack' ts
    | .complete root => ⟨root, !ts.isEmpty⟩
    | .faulty root => ⟨root, false⟩

/-- Reads a text. -/
def read (cs : List Char) : Reading :=
  build (.value false) [] (lex cs)

end TextAnnotation.Json
