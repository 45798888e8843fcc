import TextAnnotation.Files

/-!
# Files in memory

A tree of files, directories and links, each under the names that lead to it from the top.

* `Tree.resolve`: follows names and links.
* `Tree.files`: the tree as it is seen from a current directory.
* `Tree.write`, `Tree.writeAll`, `Tree.makeLink`, `Tree.remove?`: change a tree.
-/

namespace TextAnnotation.Files

/-- What can stand under a name. -/
inductive Node where
  | file (bytes : ByteArray)
  | directory
  | link (target : String)

/-- Names that lead from the top to a place. -/
abbrev Place := List String

/-- Places and what stands there. There is always a directory at the top. -/
structure Tree where
  nodes : List (Place × Node)

namespace Tree

def node? (t : Tree) : Place → Option Node
  | [] => some .directory
  | place => t.nodes.lookup place

/-- The steps of a path. A slash at the end asks for a directory. -/
def steps (path : String) : List String :=
  let names := (parts path).filter (!·.isEmpty)
  if path.toList.getLast? == some '/' then names ++ ["."] else names

/-- How many links may be followed on the way. -/
def maxLinks : Nat := 40

def maxName : Nat := 255

def maxPath : Nat := 4095

/-- Whether a path can be the name of anything. -/
def isUsable (path : String) : Bool :=
  path.utf8ByteSize ≤ maxPath && !path.toList.contains (Char.ofNat 0)

/-- Follows steps from a directory. The links that may still be followed are counted down. -/
def walk (t : Tree) (links : Nat) (place : Place) : List String → Except Absence Place
  | [] => .ok place
  | step :: rest =>
    if step == "." then walk t links place rest
    else if step == ".." then walk t links place.dropLast rest
    else if maxName < step.utf8ByteSize then .error .unreachable
    else
      match t.node? (place ++ [step]) with
      | none => .error .notFound
      | some .directory => walk t links (place ++ [step]) rest
      | some (.file _) => if rest.isEmpty then .ok (place ++ [step]) else .error .notADirectory
      | some (.link target) =>
        match links with
        | 0 => .error .unreachable
        | links + 1 =>
          if target.isEmpty then .error .notFound
          else walk t links (if isAbsolute target then [] else place) (steps target ++ rest)
  termination_by rest => (links, rest.length)

def resolve (t : Tree) (current : Place) (path : String) : Except Absence Place :=
  if path.isEmpty then .error .notFound
  else if !isUsable path then .error .unreachable
  else t.walk maxLinks (if isAbsolute path then [] else current) (steps path)

def pathOf (place : Place) : String :=
  if place.isEmpty then "/" else String.join (place.map ("/" ++ ·))

def files (t : Tree) (current : Place) : Files where
  find path := do
    let place ← t.resolve current path
    match t.node? place with
    | some (.file bytes) => .ok ⟨pathOf place, .file bytes⟩
    | some .directory => .ok ⟨pathOf place, .directory⟩
    | _ => .error .notFound

/-! ## Changes -/

def put (t : Tree) (place : Place) (n : Node) : Tree :=
  ⟨t.nodes.filter (·.1 != place) ++ [(place, n)]⟩

/-- Goes down from a directory and makes those that are missing. -/
def enter (t : Tree) (place : Place) : List String → Tree × Place
  | [] => (t, place)
  | name :: rest =>
    match t.walk maxLinks place [name] with
    | .ok next => t.enter next rest
    | .error _ => (t.put (place ++ [name]) .directory).enter (place ++ [name]) rest

def makeDirectory (t : Tree) (current : Place) (path : String) : Tree :=
  (t.enter (if isAbsolute path then [] else current) (steps path)).1

/-- Puts a node under a path and makes the directories that lead to it. -/
def putUnder (t : Tree) (current : Place) (path : String) (n : Node) : Tree :=
  let names := steps path
  let (t, place) := t.enter (if isAbsolute path then [] else current) names.dropLast
  match names.getLast? with
  | some name => t.put (place ++ [name]) n
  | none => t

/-- Makes a link, which replaces what stands there. -/
def makeLink (t : Tree) (current : Place) (path target : String) : Tree :=
  t.putUnder current path (.link target)

/-- Writes a file. A link under its path is followed, and the directories that lead to it are made. -/
def write (t : Tree) (current : Place) (path : String) (bytes : ByteArray) : Tree :=
  match t.resolve current path with
  | .ok place => t.put place (.file bytes)
  | .error _ => t.putUnder current path (.file bytes)

def writeAll (t : Tree) (current : Place) (dir : String) (held : List (String × ByteArray)) : Tree :=
  held.foldl (fun t f => t.write current (join dir f.1) f.2) t

/-- Removes what stands under a path, with all that is in it. A link is removed itself; nothing comes of it
if there is nothing to remove. -/
def remove? (t : Tree) (current : Place) (path : String) : Option Tree :=
  let names := steps path
  match t.walk maxLinks (if isAbsolute path then [] else current) names.dropLast, names.getLast? with
  | .ok base, some name =>
    let place := base ++ [name]
    if (t.node? place).isSome then some ⟨t.nodes.filter fun x => !place.isPrefixOf x.1⟩ else none
  | _, _ => none

end Tree

end TextAnnotation.Files
