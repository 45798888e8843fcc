import Mathlib.Data.List.Basic
import TextAnnotation.Files.Tree

/-!
# Files in a directory

What a directory holds is told by the bytes that stand under each name in it. Where the directory itself
stands does not come into this.

* `IsName`: the names that can be given in a directory.
* `names`, `Tree.steps_join`: the way to a file is the way to its directory with one step more.
* `fileIn?`: the bytes of a file in a directory.
* `SameFiles`: two directories hold the same files, some names left aside.
* `fileIn?_files`: the way to a file in a directory of a tree.
* `shelf`: a tree of directories that hold the same files.
-/

namespace TextAnnotation.Files

/-- A name that can be given in a directory. -/
structure IsName (name : String) : Prop where
  ne_empty : name ≠ ""
  ne_here : name ≠ "."
  ne_up : name ≠ ".."
  no_slash : '/' ∉ name.toList
  no_zero : Char.ofNat 0 ∉ name.toList
  short : name.utf8ByteSize ≤ Tree.maxName

instance (name : String) : Decidable (IsName name) :=
  decidable_of_iff (name ≠ "" ∧ name ≠ "." ∧ name ≠ ".." ∧ '/' ∉ name.toList ∧
      Char.ofNat 0 ∉ name.toList ∧ name.utf8ByteSize ≤ Tree.maxName)
    ⟨fun ⟨h₁, h₂, h₃, h₄, h₅, h₆⟩ => ⟨h₁, h₂, h₃, h₄, h₅, h₆⟩,
      fun ⟨h₁, h₂, h₃, h₄, h₅, h₆⟩ => ⟨h₁, h₂, h₃, h₄, h₅, h₆⟩⟩

/-- The bytes of a file in a directory, if there is a file of that name. -/
def fileIn? (files : Files) (dir name : String) : Option ByteArray :=
  (files.read (join dir name)).toOption

/-- Two directories hold the same files. The names in `except` are left aside. -/
def SameFiles (except : List String) (files₁ : Files) (dir₁ : String) (files₂ : Files) (dir₂ : String) :
    Prop :=
  ∀ name, IsName name → name ∉ except → files₁.fileIn? dir₁ name = files₂.fileIn? dir₂ name

def Node.bytes? : Node → Option ByteArray
  | .file bytes => some bytes
  | _ => none

/-! ## Paths -/

theorem splitSlashes_of_not_mem {cs : List Char} (h : '/' ∉ cs) (word : List Char) :
    splitSlashes word cs = [word.reverse ++ cs] := by
  induction cs generalizing word with
  | nil => simp [splitSlashes]
  | cons c cs ih =>
    simp only [List.mem_cons, not_or] at h
    rw [splitSlashes.eq_3 _ _ _ (Ne.symm h.1), ih h.2]
    simp

/-- A slash ends a part. -/
theorem splitSlashes_append (word cs ds : List Char) :
    splitSlashes word (cs ++ '/' :: ds) = splitSlashes word cs ++ splitSlashes [] ds := by
  fun_induction splitSlashes word cs with
  | case1 word => simp [splitSlashes]
  | case2 word cs ih => rw [List.cons_append, splitSlashes, ih, List.cons_append]
  | case3 word c cs hc ih => rw [List.cons_append, splitSlashes.eq_3 _ _ _ hc, ih]

def names (path : String) : List String :=
  (parts path).filter (!·.isEmpty)

theorem names_append_slash (a b : String) : names (a ++ "/" ++ b) = names a ++ names b := by
  have hslash : "/".toList = ['/'] := by decide
  have htext : (a ++ "/" ++ b).toList = a.toList ++ '/' :: b.toList := by simp [hslash]
  rw [names, parts, htext, splitSlashes_append, List.map_append, List.filter_append]
  rfl

namespace IsName

variable {dir name : String}

theorem not_isAbsolute (h : IsName name) : isAbsolute name = false := by
  rw [isAbsolute, beq_eq_false_iff_ne]
  exact fun hhead => h.no_slash (List.mem_of_head? hhead)

theorem join_eq (hdir : IsName dir) (hname : IsName name) : join dir name = dir ++ "/" ++ name := by
  have hlast : (dir.toList.getLast? == some '/') = false := by
    rw [beq_eq_false_iff_ne]
    exact fun hlast => hdir.no_slash (List.mem_of_getLast? hlast)
  have hempty : dir.isEmpty = false := by simpa using hdir.ne_empty
  simp only [join, hname.not_isAbsolute, hempty, hlast, Bool.or_self, Bool.false_eq_true, if_false]

theorem toList_join (hdir : IsName dir) (hname : IsName name) :
    (join dir name).toList = dir.toList ++ '/' :: name.toList := by
  have hslash : "/".toList = ['/'] := by decide
  rw [join_eq hdir hname, String.toList_append, String.toList_append, hslash, List.append_assoc,
    List.singleton_append]

theorem getLast?_ne_slash (h : IsName name) : name.toList.getLast? ≠ some '/' :=
  fun hlast => h.no_slash (List.mem_of_getLast? hlast)

theorem names_eq (h : IsName name) : names name = [name] := by
  have hempty : name.isEmpty = false := by simpa using h.ne_empty
  simp [names, parts, splitSlashes_of_not_mem h.no_slash, hempty]

/-- A name stands behind a slash, which a directory may have at its end already. -/
theorem join_cases (hdir : dir ≠ "") (hname : IsName name) :
    (∃ front, dir = front ++ "/" ∧ join dir name = dir ++ name) ∨ join dir name = dir ++ "/" ++ name := by
  have hempty : dir.isEmpty = false := by simpa using hdir
  rw [join, hname.not_isAbsolute, hempty, Bool.or_self, if_neg Bool.false_ne_true]
  split
  · next hlast =>
    obtain ⟨front, hfront⟩ := List.getLast?_eq_some_iff.mp (beq_iff_eq.mp hlast)
    refine Or.inl ⟨String.ofList front, ?_, rfl⟩
    apply String.toList_injective
    simp [hfront]
  · exact Or.inr rfl

theorem names_join (hdir : dir ≠ "") (hname : IsName name) : names (join dir name) = names dir ++ [name] := by
  rcases join_cases hdir hname with ⟨front, rfl, hjoin⟩ | hjoin
  · have hfront := names_append_slash front ""
    have hnone : names "" = [] := by decide
    rw [String.append_empty, hnone, List.append_nil] at hfront
    rw [hjoin, hfront, names_append_slash, hname.names_eq]
  · rw [hjoin, names_append_slash, hname.names_eq]

/-- The path of a file is the path of its directory with something behind it, and the name at its end. -/
theorem exists_join_eq (hdir : dir ≠ "") (hname : IsName name) :
    ∃ between, (join dir name).toList = dir.toList ++ between ++ name.toList := by
  rcases join_cases hdir hname with ⟨front, -, hjoin⟩ | hjoin
  · exact ⟨[], by simp [hjoin]⟩
  · exact ⟨"/".toList, by simp [hjoin]⟩

theorem join_ne_empty (hdir : dir ≠ "") (hname : IsName name) : join dir name ≠ "" := by
  obtain ⟨between, hjoin⟩ := exists_join_eq hdir hname
  rw [Ne, ← String.toList_eq_nil_iff, hjoin]
  simp [hdir]

theorem isAbsolute_join (hdir : dir ≠ "") (hname : IsName name) :
    isAbsolute (join dir name) = isAbsolute dir := by
  obtain ⟨between, hjoin⟩ := exists_join_eq hdir hname
  obtain ⟨c, cs, hcs⟩ := List.exists_cons_of_ne_nil (mt String.toList_eq_nil_iff.mp hdir)
  rw [isAbsolute, isAbsolute, hjoin, hcs, List.cons_append, List.cons_append, List.head?_cons, List.head?_cons]

theorem getLast?_join (hdir : dir ≠ "") (hname : IsName name) :
    (join dir name).toList.getLast? ≠ some '/' := by
  obtain ⟨between, hjoin⟩ := exists_join_eq hdir hname
  rw [hjoin, List.getLast?_append_of_ne_nil _ (mt String.toList_eq_nil_iff.mp hname.ne_empty)]
  exact hname.getLast?_ne_slash

end IsName

open IsName

namespace Tree

variable {dir name : String} {t : Tree} {current : Place}

theorem steps_cases (path : String) : steps path = names path ∨ steps path = names path ++ ["."] := by
  rw [steps]
  split
  · exact Or.inr rfl
  · exact Or.inl rfl

theorem steps_of_getLast? {path : String} (h : path.toList.getLast? ≠ some '/') : steps path = names path := by
  rw [steps, if_neg (mt beq_iff_eq.mp h)]
  rfl

theorem steps_name (h : IsName name) : steps name = [name] := by
  rw [steps_of_getLast? h.getLast?_ne_slash, h.names_eq]

theorem steps_join (hdir : dir ≠ "") (hname : IsName name) : steps (join dir name) = names dir ++ [name] := by
  rw [steps_of_getLast? (getLast?_join hdir hname), names_join hdir hname]

theorem isUsable_name (h : IsName name) : isUsable name = true := by
  have hsize : name.utf8ByteSize ≤ maxPath := Nat.le_trans h.short (by decide)
  simp [isUsable, hsize, h.no_zero]

theorem isUsable_join (hdir : IsName dir) (hname : IsName name) : isUsable (join dir name) = true := by
  have hsize : (join dir name).utf8ByteSize ≤ maxPath := by
    have hslash : "/".utf8ByteSize = 1 := by decide
    have hdirShort := hdir.short
    have hnameShort := hname.short
    rw [join_eq hdir hname, String.utf8ByteSize_append, String.utf8ByteSize_append, hslash]
    unfold maxName at *
    unfold maxPath
    omega
  have hzero : Char.ofNat 0 ∉ (join dir name).toList := by
    rw [toList_join hdir hname, List.mem_append, List.mem_cons]
    rintro (h | h | h)
    · exact hdir.no_zero h
    · exact absurd h (by decide)
    · exact hname.no_zero h
  simp [isUsable, hsize, hzero]

/-- A step to a directory. -/
theorem walk_directory (hdir : IsName dir) {place : Place} (h : t.node? (place ++ [dir]) = some .directory)
    (links : Nat) (rest : List String) :
    t.walk links place (dir :: rest) = t.walk links (place ++ [dir]) rest := by
  have hshort : ¬maxName < dir.utf8ByteSize := Nat.not_lt.mpr hdir.short
  rw [walk]
  simp only [beq_iff_eq, hdir.ne_here, hdir.ne_up, hshort, if_false, h]

/-- The last step, unless it is a link that stands there. -/
theorem walk_last (hname : IsName name) {place : Place}
    (h : ∀ target, t.node? (place ++ [name]) ≠ some (.link target)) (links : Nat) :
    t.walk links place [name] =
      if (t.node? (place ++ [name])).isSome then .ok (place ++ [name]) else .error .notFound := by
  have hshort : ¬maxName < name.utf8ByteSize := Nat.not_lt.mpr hname.short
  rw [walk]
  simp only [beq_iff_eq, hname.ne_here, hname.ne_up, hshort, if_false]
  cases hnode : t.node? (place ++ [name]) with
  | none => rfl
  | some node =>
    cases node with
    | file bytes => rfl
    | directory => rw [walk]; rfl
    | link target => exact absurd hnode (h target)

theorem fileIn?_of_error {a : Absence} (h : t.resolve current (join dir name) = .error a) :
    (t.files current).fileIn? dir name = none := by
  simp [fileIn?, read, files, h, bind, Except.bind, Except.toOption]

theorem fileIn?_of_resolve {place : Place} (h : t.resolve current (join dir name) = .ok place) :
    (t.files current).fileIn? dir name = (t.node? place).bind Node.bytes? := by
  simp only [fileIn?, read, files, h, bind, Except.bind]
  cases t.node? place with
  | none => rfl
  | some node => cases node <;> rfl

theorem fileIn?_files (hdir : IsName dir) (hname : IsName name)
    (h : t.node? (current ++ [dir]) = some .directory)
    (hlink : ∀ target, t.node? (current ++ [dir, name]) ≠ some (.link target)) :
    (t.files current).fileIn? dir name = (t.node? (current ++ [dir, name])).bind Node.bytes? := by
  have hne : (join dir name).isEmpty = false := by simpa using join_ne_empty hdir.ne_empty hname
  have hplace : current ++ [dir] ++ [name] = current ++ [dir, name] := by simp
  have hresolve : t.resolve current (join dir name) =
      if (t.node? (current ++ [dir, name])).isSome then .ok (current ++ [dir, name])
      else .error .notFound := by
    simp only [resolve, hne, isUsable_join hdir hname, isAbsolute_join hdir.ne_empty hname,
      hdir.not_isAbsolute, steps_join hdir.ne_empty hname, hdir.names_eq, List.singleton_append,
      Bool.not_true, Bool.false_eq_true, if_false]
    rw [walk_directory hdir h, walk_last hname (by rw [hplace]; exact hlink), hplace]
  cases hnode : t.node? (current ++ [dir, name]) with
  | none =>
    rw [hnode] at hresolve
    exact fileIn?_of_error hresolve
  | some node =>
    rw [hnode] at hresolve
    rw [fileIn?_of_resolve hresolve, hnode]

theorem isDirectory_files (hdir : IsName dir) (h : t.node? (current ++ [dir]) = some .directory) :
    (t.files current).isDirectory dir := by
  have hempty : dir.isEmpty = false := by simpa using hdir.ne_empty
  have hresolve : t.resolve current dir = .ok (current ++ [dir]) := by
    simp only [resolve, hempty, isUsable_name hdir, hdir.not_isAbsolute, steps_name hdir, Bool.not_true,
      Bool.false_eq_true, if_false]
    rw [walk_directory hdir h, walk]
  simp [isDirectory, files, hresolve, h, bind, Except.bind]

/-! ## Shelves -/

def nodesIn (dir : String) (held : List (String × ByteArray)) : List (Place × Node) :=
  held.map fun (name, bytes) => ([dir, name], .file bytes)

/-- A tree of directories at the top that all hold the same files. -/
def shelf (dirs : List String) (held : List (String × ByteArray)) : Tree where
  nodes := dirs.flatMap fun dir => ([dir], .directory) :: nodesIn dir held

section Shelf

variable {dirs : List String} {held : List (String × ByteArray)}

theorem lookup_nodesIn (held : List (String × ByteArray)) (dir other name : String) :
    (nodesIn other held).lookup [dir, name] =
      if dir = other then (held.lookup name).map .file else none := by
  unfold nodesIn
  induction held with
  | nil => simp
  | cons entry held ih =>
    obtain ⟨name', bytes⟩ := entry
    rw [List.map_cons, List.lookup_cons, List.lookup_cons, ih]
    by_cases hdir : dir = other
    · subst hdir
      cases hname : name == name' <;> simp [hname]
    · have hne : ([dir, name] == [other, name']) = false := by simp [hdir]
      simp only [hne, hdir, if_false]

theorem lookup_nodesIn_top (held : List (String × ByteArray)) (dir other : String) :
    (nodesIn other held).lookup [dir] = none := by
  unfold nodesIn
  induction held with
  | nil => rfl
  | cons entry held ih =>
    rw [List.map_cons, List.lookup_cons, ih]
    simp

theorem node?_shelf_top (h : dir ∈ dirs) : (shelf dirs held).node? [dir] = some .directory := by
  unfold shelf node?
  induction dirs with
  | nil => cases h
  | cons other dirs ih =>
    by_cases hdir : dir = other
    · subst hdir
      simp
    · have hne : ([dir] == [other]) = false := by simpa using hdir
      simp only [List.flatMap_cons, List.cons_append, List.lookup_cons, hne, List.lookup_append,
        lookup_nodesIn_top, Option.none_or]
      exact ih ((List.mem_cons.mp h).resolve_left hdir)

theorem node?_shelf (dirs : List String) (held : List (String × ByteArray)) (dir name : String) :
    (shelf dirs held).node? [dir, name] = if dir ∈ dirs then (held.lookup name).map .file else none := by
  unfold shelf node?
  induction dirs with
  | nil => simp
  | cons other dirs ih =>
    have hne : ([dir, name] == [other]) = false := by simp
    simp only [List.flatMap_cons, List.cons_append, List.lookup_cons, hne, List.lookup_append,
      lookup_nodesIn, List.mem_cons]
    dsimp only at ih
    rw [ih]
    by_cases hdir : dir = other
    · subst hdir
      by_cases hmem : dir ∈ dirs <;> simp [hmem]
    · simp [hdir]

theorem isDirectory_shelf (hdir : IsName dir) (h : dir ∈ dirs) : ((shelf dirs held).files []).isDirectory dir :=
  isDirectory_files hdir (node?_shelf_top h)

theorem fileIn?_shelf (hdir : IsName dir) (h : dir ∈ dirs) (hname : IsName name) :
    ((shelf dirs held).files []).fileIn? dir name = held.lookup name := by
  have hnode := node?_shelf dirs held dir name
  rw [if_pos h] at hnode
  rw [fileIn?_files hdir hname (node?_shelf_top h), List.nil_append, hnode]
  · cases held.lookup name <;> rfl
  · intro target
    rw [List.nil_append, hnode]
    cases held.lookup name <;> simp

theorem sameFiles_shelf {dirs₁ dirs₂ except : List String} {held₁ held₂ : List (String × ByteArray)}
    {dir₁ dir₂ : String} (hdir₁ : IsName dir₁) (hdir₂ : IsName dir₂) (h₁ : dir₁ ∈ dirs₁) (h₂ : dir₂ ∈ dirs₂)
    (h : ∀ name, name ∉ except → held₁.lookup name = held₂.lookup name) :
    SameFiles except ((shelf dirs₁ held₁).files []) dir₁ ((shelf dirs₂ held₂).files []) dir₂ := by
  intro name hname hexcept
  rw [fileIn?_shelf hdir₁ h₁ hname, fileIn?_shelf hdir₂ h₂ hname, h name hexcept]

end Shelf

end Tree

end TextAnnotation.Files
