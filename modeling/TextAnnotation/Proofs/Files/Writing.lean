import TextAnnotation.Keyed
import TextAnnotation.Proofs.Files.Directories

/-!
# Writing files into a directory

Where steps lead depends on what stands on the way only. So a file that is put into a directory is found
there, and the directory is found as before.

* `Leads`: the way from one place to another. `walk_eq_ok_iff`: this is how steps are followed.
* `LeadsToDirectory`: a path whose way ends at a directory.
* `Holds`: a path leads to a directory with the given files in it, and with nothing else.
* `Holds.writeAll`: files are written into it one after the other.
* `Holds.fileIn?_of_lookup`, `Holds.fileIn?_of_lookup_eq_none`: just these are found in it.
* `Fresh`: a path that can be made such a directory, an empty one. Either it is one already (`Holds.fresh`), or
  nothing stands there (`fresh_of_absent`).
-/

namespace TextAnnotation.Files.Tree

/-! ## Ways -/

/-- Steps lead from one place to another, and at most `links` links are followed. -/
inductive Leads (t : Tree) : (links : Nat) → Place → List String → Place → Prop where
  | done {links : Nat} {place : Place} : Leads t links place [] place
  | here {links : Nat} {place goal : Place} {rest : List String} : Leads t links place rest goal →
      Leads t links place ("." :: rest) goal
  | up {links : Nat} {place goal : Place} {rest : List String} : Leads t links place.dropLast rest goal →
      Leads t links place (".." :: rest) goal
  | directory {links : Nat} {place goal : Place} {step : String} {rest : List String} : step ≠ "." →
      step ≠ ".." → step.utf8ByteSize ≤ maxName → t.node? (place ++ [step]) = some .directory →
      Leads t links (place ++ [step]) rest goal → Leads t links place (step :: rest) goal
  | file {links : Nat} {place : Place} {step : String} {bytes : ByteArray} : step ≠ "." → step ≠ ".." →
      step.utf8ByteSize ≤ maxName → t.node? (place ++ [step]) = some (.file bytes) →
      Leads t links place [step] (place ++ [step])
  | link {links : Nat} {place goal : Place} {step target : String} {rest : List String} : step ≠ "." →
      step ≠ ".." → step.utf8ByteSize ≤ maxName → t.node? (place ++ [step]) = some (.link target) →
      target ≠ "" → Leads t links (if isAbsolute target then [] else place) (steps target ++ rest) goal →
      Leads t (links + 1) place (step :: rest) goal

theorem leads_of_walk {t : Tree} {links : Nat} {place goal : Place} {a : List String}
    (h : t.walk links place a = .ok goal) : Leads t links place a goal := by
  fun_induction walk t links place a with
  | case1 =>
    cases h
    exact .done
  | case2 _ _ _ _ hstep ih =>
    rw [beq_iff_eq.mp hstep]
    exact .here (ih h)
  | case3 _ _ _ _ _ hstep ih =>
    rw [beq_iff_eq.mp hstep]
    exact .up (ih h)
  | case6 _ _ _ _ hhere hup hshort hnode ih =>
    exact .directory (mt beq_iff_eq.mpr hhere) (mt beq_iff_eq.mpr hup) (Nat.not_lt.mp hshort) hnode (ih h)
  | case7 _ _ _ rest hhere hup hshort bytes hnode hrest =>
    cases h
    rw [List.isEmpty_iff.mp hrest]
    exact .file (mt beq_iff_eq.mpr hhere) (mt beq_iff_eq.mpr hup) (Nat.not_lt.mp hshort) hnode
  | case11 _ _ _ hhere hup hshort target hnode _ htarget ih =>
    exact .link (mt beq_iff_eq.mpr hhere) (mt beq_iff_eq.mpr hup) (Nat.not_lt.mp hshort) hnode
      (by simpa using htarget) (ih h)
  | case4 => cases h
  | case5 => cases h
  | case8 => cases h
  | case9 => cases h
  | case10 => cases h

namespace Leads

variable {t u : Tree} {links more : Nat} {place goal : Place} {a b : List String}

theorem walk (h : Leads t links place a goal) : t.walk links place a = .ok goal := by
  induction h with
  | done => rw [Tree.walk]
  | here _ ih => rw [Tree.walk, if_pos (beq_self_eq_true _), ih]
  | up _ ih => rw [Tree.walk, if_neg (by decide), if_pos (beq_self_eq_true _), ih]
  | directory hhere hup hshort hnode _ ih =>
    rw [Tree.walk]
    simp only [beq_iff_eq, hhere, hup, Nat.not_lt.mpr hshort, if_false, hnode, ih]
  | file hhere hup hshort hnode =>
    rw [Tree.walk]
    simp only [beq_iff_eq, hhere, hup, Nat.not_lt.mpr hshort, if_false, hnode, List.isEmpty_nil, if_true]
  | link hhere hup hshort hnode htarget _ ih =>
    have hne := Bool.eq_false_iff.mpr (mt String.isEmpty_iff.mp htarget)
    rw [Tree.walk]
    simp only [beq_iff_eq, hhere, hup, Nat.not_lt.mpr hshort, if_false, hnode, hne, Bool.false_eq_true, ih]

theorem unique {other : Place} (h : Leads t links place a goal) (h' : Leads t links place a other) :
    goal = other :=
  Except.ok.inj (h.walk.symm.trans h'.walk)

theorem mono (h : Leads t links place a goal) (hle : links ≤ more) : Leads t more place a goal := by
  induction h generalizing more with
  | done => exact .done
  | here _ ih => exact .here (ih hle)
  | up _ ih => exact .up (ih hle)
  | directory hhere hup hshort hnode _ ih => exact .directory hhere hup hshort hnode (ih hle)
  | file hhere hup hshort hnode => exact .file hhere hup hshort hnode
  | link hhere hup hshort hnode htarget _ ih =>
    obtain ⟨fewer, rfl⟩ := Nat.exists_eq_add_of_le' (Nat.lt_of_lt_of_le (Nat.succ_pos _) hle)
    exact .link hhere hup hshort hnode htarget (ih (by omega))

/-- A way stays the same when something is put where nothing stands, and when the bytes of a file change. -/
theorem extend (h : Leads t links place a goal)
    (hsame : ∀ q n, t.node? q = some n →
      u.node? q = some n ∨ ∃ old new, n = .file old ∧ u.node? q = some (.file new)) :
    Leads u links place a goal := by
  induction h with
  | done => exact .done
  | here _ ih => exact .here ih
  | up _ ih => exact .up ih
  | directory hhere hup hshort hnode _ ih =>
    rcases hsame _ _ hnode with hsame | ⟨_, _, hfile, -⟩
    · exact .directory hhere hup hshort hsame ih
    · cases hfile
  | file hhere hup hshort hnode =>
    rcases hsame _ _ hnode with hsame | ⟨_, _, -, hfile⟩
    · exact .file hhere hup hshort hsame
    · exact .file hhere hup hshort hfile
  | link hhere hup hshort hnode htarget _ ih =>
    rcases hsame _ _ hnode with hsame | ⟨_, _, hfile, -⟩
    · exact .link hhere hup hshort hsame htarget ih
    · cases hfile

theorem append {end' : Place} (h : Leads t links place a goal) (hgoal : t.node? goal = some .directory)
    (hb : Leads t 0 goal b end') : Leads t links place (a ++ b) end' := by
  induction h with
  | done => exact hb.mono (Nat.zero_le _)
  | here _ ih => exact .here (ih hgoal hb)
  | up _ ih => exact .up (ih hgoal hb)
  | directory hhere hup hshort hnode _ ih => exact .directory hhere hup hshort hnode (ih hgoal hb)
  | file _ _ _ hnode =>
    rw [hnode] at hgoal
    cases hgoal
  | link hhere hup hshort hnode htarget _ ih =>
    exact .link hhere hup hshort hnode htarget (List.append_assoc _ _ b ▸ ih hgoal hb)

theorem split (h : Leads t links place (a ++ b) goal) :
    ∃ between, Leads t links place a between ∧ Leads t links between b goal := by
  generalize hab : a ++ b = ab at h
  induction h generalizing a with
  | done =>
    obtain ⟨rfl, rfl⟩ := List.append_eq_nil_iff.mp hab
    exact ⟨_, .done, .done⟩
  | here h ih =>
    cases a with
    | nil =>
      obtain rfl : b = _ := hab
      exact ⟨_, .done, .here h⟩
    | cons step a =>
      obtain ⟨rfl, rfl⟩ := List.cons.inj hab
      obtain ⟨between, ha, hb⟩ := ih rfl
      exact ⟨between, .here ha, hb⟩
  | up h ih =>
    cases a with
    | nil =>
      obtain rfl : b = _ := hab
      exact ⟨_, .done, .up h⟩
    | cons step a =>
      obtain ⟨rfl, rfl⟩ := List.cons.inj hab
      obtain ⟨between, ha, hb⟩ := ih rfl
      exact ⟨between, .up ha, hb⟩
  | directory hhere hup hshort hnode h ih =>
    cases a with
    | nil =>
      obtain rfl : b = _ := hab
      exact ⟨_, .done, .directory hhere hup hshort hnode h⟩
    | cons step a =>
      obtain ⟨rfl, rfl⟩ := List.cons.inj hab
      obtain ⟨between, ha, hb⟩ := ih rfl
      exact ⟨between, .directory hhere hup hshort hnode ha, hb⟩
  | file hhere hup hshort hnode =>
    cases a with
    | nil =>
      obtain rfl : b = _ := hab
      exact ⟨_, .done, .file hhere hup hshort hnode⟩
    | cons step a =>
      obtain ⟨rfl, hrest⟩ := List.cons.inj hab
      obtain ⟨rfl, rfl⟩ := List.append_eq_nil_iff.mp hrest
      exact ⟨_, .file hhere hup hshort hnode, .done⟩
  | link hhere hup hshort hnode htarget h ih =>
    cases a with
    | nil =>
      obtain rfl : b = _ := hab
      exact ⟨_, .done, .link hhere hup hshort hnode htarget h⟩
    | cons step a =>
      obtain ⟨rfl, rfl⟩ := List.cons.inj hab
      obtain ⟨between, ha, hb⟩ := ih (List.append_assoc _ _ _)
      exact ⟨between, .link hhere hup hshort hnode htarget ha, hb.mono (Nat.le_succ _)⟩

end Leads

theorem walk_eq_ok_iff {t : Tree} {links : Nat} {place goal : Place} {a : List String} :
    t.walk links place a = .ok goal ↔ Leads t links place a goal :=
  ⟨leads_of_walk, Leads.walk⟩

section Resolve

variable {t : Tree} {current goal : Place} {path : String}

theorem resolve_eq_ok_iff : t.resolve current path = .ok goal ↔
    path ≠ "" ∧ isUsable path = true ∧
      Leads t maxLinks (if isAbsolute path then [] else current) (steps path) goal := by
  rw [resolve, ← walk_eq_ok_iff]
  by_cases hempty : path = ""
  · simp [hempty]
  · have hfalse : path.isEmpty = false := by simpa using hempty
    cases husable : isUsable path <;> simp [hempty, hfalse]

/-- A path can be followed to its end, and a directory stands there. -/
def LeadsToDirectory (t : Tree) (current : Place) (path : String) : Prop :=
  path ≠ "" ∧ isUsable path = true ∧ ∃ place,
    Leads t maxLinks (if isAbsolute path then [] else current) (steps path) place ∧
      t.node? place = some .directory

theorem leadsToDirectory_iff : t.LeadsToDirectory current path ↔
    ∃ place, t.resolve current path = .ok place ∧ t.node? place = some .directory := by
  simp only [LeadsToDirectory, resolve_eq_ok_iff, and_assoc, exists_and_left]

theorem isDirectory_iff : (t.files current).isDirectory path = true ↔ t.LeadsToDirectory current path := by
  rw [leadsToDirectory_iff]
  cases hresolve : t.resolve current path with
  | error a => simp [isDirectory, files, hresolve, bind, Except.bind]
  | ok place =>
    cases hnode : t.node? place with
    | none => simp [isDirectory, files, hresolve, hnode, bind, Except.bind]
    | some node => cases node <;> simp [isDirectory, files, hresolve, hnode, bind, Except.bind]

/-- The way to a directory, without a slash at the end. -/
theorem leads_names (h : t.resolve current path = .ok goal) :
    Leads t maxLinks (if isAbsolute path then [] else current) (names path) goal := by
  obtain ⟨-, -, hsteps⟩ := resolve_eq_ok_iff.mp h
  rcases steps_cases path with hnames | hnames
  · rwa [hnames] at hsteps
  · rw [hnames] at hsteps
    obtain ⟨between, hfront, hlast⟩ := hsteps.split
    have hend := hlast.walk
    rw [walk, if_pos (beq_self_eq_true _), walk] at hend
    cases hend
    exact hfront

end Resolve

/-! ## Changes -/

section Change

variable {t : Tree} {place : Place}

theorem lookup_filter_ne (nodes : List (Place × Node)) (place q : Place) :
    (nodes.filter (·.1 != place)).lookup q = if q = place then none else nodes.lookup q := by
  induction nodes with
  | nil => simp
  | cons entry nodes ih =>
    obtain ⟨other, n⟩ := entry
    by_cases hother : other = place
    · subst hother
      rw [List.filter_cons_of_neg (by simp), ih, List.lookup_cons]
      by_cases hq : q = other
      · simp [hq]
      · simp [hq, beq_false_of_ne hq]
    · rw [List.filter_cons_of_pos (by simpa using hother), List.lookup_cons, List.lookup_cons, ih]
      by_cases hq : q = other
      · subst hq
        simp [hother]
      · rw [beq_false_of_ne hq]

theorem node?_put (t : Tree) (hplace : place ≠ []) (n : Node) (q : Place) :
    (t.put place n).node? q = if q = place then some n else t.node? q := by
  cases q with
  | nil =>
    rw [if_neg (Ne.symm hplace)]
    rfl
  | cons name q =>
    show (t.nodes.filter (·.1 != place) ++ [(place, n)]).lookup (name :: q) =
      if name :: q = place then some n else t.nodes.lookup (name :: q)
    rw [List.lookup_append, lookup_filter_ne, List.lookup_cons, List.lookup_nil]
    by_cases hq : name :: q = place
    · simp [hq]
    · rw [if_neg hq, if_neg hq, beq_false_of_ne hq, Option.or_none]

/-- Directories that are there are entered. -/
theorem enter_append {links : Nat} {goal : Place} {a : List String} (h : Leads t links place a goal)
    (hle : links ≤ maxLinks) (b : List String) : t.enter place (a ++ b) = t.enter goal b := by
  induction a generalizing place with
  | nil =>
    cases h
    rfl
  | cons name rest ih =>
    obtain ⟨between, hname, hrest⟩ := h.split (a := [name])
    rw [List.cons_append, enter, (hname.mono hle).walk]
    exact ih hrest

theorem enter_of_leads {links : Nat} {goal : Place} {a : List String} (h : Leads t links place a goal)
    (hle : links ≤ maxLinks) : t.enter place a = (t, goal) := by
  rw [← List.append_nil a, enter_append h hle, enter]

end Change

/-! ## Directories with files -/

/-- A path leads to a directory that holds files under the given names, and nothing else. -/
structure Holds (t : Tree) (current : Place) (dir : String) (place : Place)
    (held : List (String × ByteArray)) : Prop where
  resolve : t.resolve current dir = .ok place
  directory : t.node? place = some .directory
  node : ∀ name, t.node? (place ++ [name]) = (held.lookup name).map .file

/-- A path that can be made a directory is an empty one then. -/
def Fresh (t : Tree) (current : Place) (dir : String) (place : Place) : Prop :=
  (t.makeDirectory current dir).Holds current dir place []

namespace Holds

variable {t : Tree} {current place : Place} {dir name : String} {held : List (String × ByteArray)}

theorem ne_empty (h : t.Holds current dir place held) : dir ≠ "" :=
  (resolve_eq_ok_iff.mp h.resolve).1

/-- A name in the directory leads to the file of that name only. -/
theorem goal_eq (h : t.Holds current dir place held) (hname : IsName name) {links : Nat} {goal : Place}
    (hgoal : Leads t links place [name] goal) : goal = place ++ [name] := by
  have hnode := h.node name
  cases hgoal with
  | here => exact absurd rfl hname.ne_here
  | up => exact absurd rfl hname.ne_up
  | file => rfl
  | directory _ _ _ hdirectory =>
    rw [hdirectory] at hnode
    cases hheld : held.lookup name <;> rw [hheld] at hnode <;> cases hnode
  | link _ _ _ hlink =>
    rw [hlink] at hnode
    cases hheld : held.lookup name <;> rw [hheld] at hnode <;> cases hnode

theorem goal_of_resolve (h : t.Holds current dir place held) (hname : IsName name) {goal : Place}
    (hresolve : t.resolve current (join dir name) = .ok goal) : goal = place ++ [name] := by
  obtain ⟨-, -, hsteps⟩ := resolve_eq_ok_iff.mp hresolve
  rw [IsName.isAbsolute_join h.ne_empty hname, steps_join h.ne_empty hname] at hsteps
  obtain ⟨between, hfront, hlast⟩ := hsteps.split
  obtain rfl := (leads_names h.resolve).unique hfront
  exact h.goal_eq hname hlast

theorem write_eq (h : t.Holds current dir place held) (hname : IsName name) (bytes : ByteArray) :
    t.write current (join dir name) bytes = t.put (place ++ [name]) (.file bytes) := by
  rw [Tree.write]
  cases hresolve : t.resolve current (join dir name) with
  | ok goal => rw [h.goal_of_resolve hname hresolve]
  | error a =>
    dsimp only
    rw [putUnder, IsName.isAbsolute_join h.ne_empty hname, steps_join h.ne_empty hname, List.dropLast_concat,
      enter_of_leads (leads_names h.resolve) (Nat.le_refl _)]
    simp

/-- The directory is found as before when a file is put into it. -/
theorem put (h : t.Holds current dir place held) (name : String) (bytes : ByteArray) :
    (t.put (place ++ [name]) (.file bytes)).Holds current dir place ((name, bytes) :: held) := by
  have hnode := t.node?_put (List.append_ne_nil_of_right_ne_nil place (List.cons_ne_nil name [])) (.file bytes)
  have hplace : place ≠ place ++ [name] := by simp
  refine ⟨?_, by rw [hnode, if_neg hplace, h.directory], fun other => ?_⟩
  · obtain ⟨hempty, husable, hsteps⟩ := resolve_eq_ok_iff.mp h.resolve
    refine resolve_eq_ok_iff.mpr ⟨hempty, husable, hsteps.extend fun q n hq => ?_⟩
    rw [hnode]
    split
    · next hsame =>
      -- what stood there before can only have been a file
      rw [hsame, h.node] at hq
      obtain ⟨old, -, rfl⟩ := Option.map_eq_some_iff.mp hq
      exact Or.inr ⟨old, bytes, rfl, rfl⟩
    · exact Or.inl hq
  · rw [hnode, h.node, Keyed.lookup_cons_eq_ite]
    by_cases hother : other = name
    · subst hother
      simp
    · rw [if_neg (by simpa using hother), if_neg hother]

/-- Writing a file changes what is held under its name. -/
theorem write (h : t.Holds current dir place held) (hname : IsName name) (bytes : ByteArray) :
    (t.write current (join dir name) bytes).Holds current dir place ((name, bytes) :: held) := by
  rw [h.write_eq hname]
  exact h.put name bytes

theorem writeAll {files : List (String × ByteArray)} (h : t.Holds current dir place held)
    (hnames : ∀ f ∈ files, IsName f.1) :
    (t.writeAll current dir files).Holds current dir place (files.reverse ++ held) := by
  unfold Tree.writeAll
  induction files generalizing t held with
  | nil => exact h
  | cons f files ih =>
    obtain ⟨hname, hnames⟩ := List.forall_mem_cons.mp hnames
    rw [List.foldl_cons, List.reverse_cons, List.append_assoc]
    exact ih (h.write hname f.2) hnames

theorem isDirectory (h : t.Holds current dir place held) : (t.files current).isDirectory dir :=
  isDirectory_iff.mpr (leadsToDirectory_iff.mpr ⟨place, h.resolve, h.directory⟩)

/-! ### What is found -/

theorem resolve_of_lookup (h : t.Holds current dir place held) (hname : IsName name)
    (husable : isUsable (join dir name) = true) {bytes : ByteArray} (hheld : held.lookup name = some bytes) :
    t.resolve current (join dir name) = .ok (place ++ [name]) := by
  have hnode := h.node name
  rw [hheld] at hnode
  have hsteps := (leads_names h.resolve).append h.directory
    (.file hname.ne_here hname.ne_up hname.short hnode)
  rw [← steps_join h.ne_empty hname, ← IsName.isAbsolute_join h.ne_empty hname] at hsteps
  exact resolve_eq_ok_iff.mpr ⟨IsName.join_ne_empty h.ne_empty hname, husable, hsteps⟩

theorem fileIn?_of_lookup (h : t.Holds current dir place held) (hname : IsName name)
    (husable : isUsable (join dir name) = true) {bytes : ByteArray} (hheld : held.lookup name = some bytes) :
    (t.files current).fileIn? dir name = some bytes := by
  rw [fileIn?_of_resolve (h.resolve_of_lookup hname husable hheld), h.node, hheld]
  rfl

theorem fileIn?_of_lookup_eq_none (h : t.Holds current dir place held) (hname : IsName name)
    (hheld : held.lookup name = none) : (t.files current).fileIn? dir name = none := by
  have hnode := h.node name
  rw [hheld] at hnode
  cases hresolve : t.resolve current (join dir name) with
  | error a => exact fileIn?_of_error hresolve
  | ok goal =>
    rw [fileIn?_of_resolve hresolve, h.goal_of_resolve hname hresolve, hnode]
    rfl

end Holds

/-! ### Fresh directories -/

section Fresh

variable {t : Tree} {current place : Place} {dir name : String}

theorem makeDirectory_of_resolve (h : t.resolve current dir = .ok place) : t.makeDirectory current dir = t := by
  rw [makeDirectory, enter_of_leads (resolve_eq_ok_iff.mp h).2.2 (Nat.le_refl _)]

/-- An empty directory is a fresh one. -/
theorem Holds.fresh (h : t.Holds current dir place []) : t.Fresh current dir place := by
  rw [Fresh, makeDirectory_of_resolve h.resolve]
  exact h

/-- A path that leads nowhere becomes a fresh directory if there is a directory to make it in. -/
theorem fresh_of_absent (hdir : t.resolve current dir = .ok place) (hplace : t.node? place = some .directory)
    (hname : IsName name) (husable : isUsable (join dir name) = true)
    (habsent : ∀ rest, t.node? (place ++ name :: rest) = none) :
    t.Fresh current (join dir name) (place ++ [name]) := by
  have hempty := (resolve_eq_ok_iff.mp hdir).1
  have hway := leads_names hdir
  have hnone := habsent []
  have hnode := t.node?_put (List.append_ne_nil_of_right_ne_nil place (List.cons_ne_nil name [])) .directory
  have hmade : t.makeDirectory current (join dir name) = t.put (place ++ [name]) .directory := by
    have hnolink : ∀ target, t.node? (place ++ [name]) ≠ some (.link target) := by simp [hnone]
    have hwalk := walk_last hname hnolink maxLinks
    rw [hnone] at hwalk
    rw [makeDirectory, IsName.isAbsolute_join hempty hname, steps_join hempty hname,
      enter_append hway (Nat.le_refl _), enter, hwalk]
    rfl
  rw [Fresh, hmade]
  refine ⟨?_, by rw [hnode, if_pos rfl], fun other => ?_⟩
  · have hfront := hway.extend (u := t.put (place ++ [name]) .directory) fun q n hq => by
      have hne : q ≠ place ++ [name] := by
        rintro rfl
        rw [hnone] at hq
        cases hq
      rw [hnode, if_neg hne]
      exact Or.inl hq
    have hlast := @Leads.directory _ 0 _ _ _ _ hname.ne_here hname.ne_up hname.short
      ((hnode _).trans (if_pos rfl)) .done
    refine resolve_eq_ok_iff.mpr ⟨IsName.join_ne_empty hempty hname, husable, ?_⟩
    rw [IsName.isAbsolute_join hempty hname, steps_join hempty hname]
    exact hfront.append (by rw [hnode, if_neg (by simp), hplace]) hlast
  · rw [hnode, if_neg (by simp), List.append_assoc]
    exact habsent [other]

end Fresh

def emptyShelf : Tree := ⟨[(["models"], .directory)]⟩

theorem fresh_emptyShelf : emptyShelf.Fresh [] (join "models" "sm") (["models"] ++ ["sm"]) := by
  have hmodels : Leads emptyShelf maxLinks [] ["models"] ["models"] :=
    .directory (by decide) (by decide) (by decide) rfl .done
  have hsteps : steps "models" = ["models"] := by decide
  have habsolute : isAbsolute "models" = false := by decide
  have hresolve : emptyShelf.resolve [] "models" = .ok ["models"] := by
    rw [resolve_eq_ok_iff, habsolute, hsteps]
    exact ⟨by decide, by decide, hmodels⟩
  refine fresh_of_absent hresolve rfl (by decide) (by decide) fun rest => ?_
  rfl

end TextAnnotation.Files.Tree
