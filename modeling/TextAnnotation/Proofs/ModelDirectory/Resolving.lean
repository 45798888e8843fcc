import TextAnnotation.ModelDirectory
import TextAnnotation.Proofs.Files.Writing
import TextAnnotation.Tokenizer.Json

/-!
# Where the name of a model is looked for

The form of a name decides where it is looked for: a name with a slash is a path and nothing else, and any
other name, those of the steps `.` and `..` too, stands for what the directory of models has under it. A
second place is never tried.

* `resolve?_eq_some_iff`, `resolve?_eq_none_iff`: the one place.
* `firstDirectory?`: what comes of trying both places in order. `resolve?_eq_firstDirectory?_iff`: when it is
  the same.
* `load_eq_notFound_iff`: loading does not find a model exactly if there is no directory at the one place.
* `resolve?_in_one_place`: all this for the trees of files, links included.
-/

namespace TextAnnotation.ModelDirectory

open Files (IsName Tree Place)

/-! ## The one place -/

theorem isPath_iff {name : String} : isPath name = true ↔ '/' ∈ name.toList := by
  rw [isPath, List.contains_iff_mem]

theorem isPath_of_isAbsolute {name : String} (h : Files.isAbsolute name = true) : isPath name = true := by
  rw [Files.isAbsolute, beq_iff_eq] at h
  exact isPath_iff.mpr (List.mem_of_head? h)

/-- The path under which a name is looked for. -/
def candidate (d : ModelDirectory) (name : String) : String :=
  if isPath name then name else Files.join d.path name

section Resolve

variable {d : ModelDirectory} {name dir : String}

theorem resolve?_eq_ite (hname : name ≠ "") : d.resolve? name =
    if d.files.isDirectory (d.candidate name) then some (d.candidate name) else none := by
  rw [resolve?, if_neg (mt String.isEmpty_iff.mp hname)]
  rfl

theorem resolve?_eq_some_iff (hname : name ≠ "") :
    d.resolve? name = some dir ↔ dir = d.candidate name ∧ d.files.isDirectory dir = true := by
  rw [resolve?_eq_ite hname]
  constructor
  · intro h
    split at h
    · next hdir =>
      cases h
      exact ⟨rfl, hdir⟩
    · cases h
  · rintro ⟨rfl, hdir⟩
    rw [if_pos hdir]

theorem resolve?_eq_none_iff (hname : name ≠ "") :
    d.resolve? name = none ↔ ¬d.files.isDirectory (d.candidate name) = true := by
  rw [resolve?_eq_ite hname]
  split <;> simp [*]

end Resolve

/-! ## Two places in order -/

/-- The first directory among the path that a name is and the path that it has in the directory of models. -/
def firstDirectory? (d : ModelDirectory) (name : String) : Option String :=
  [name, Files.join d.path name].find? d.files.isDirectory

theorem join_eq_self {path name : String} (h : Files.isAbsolute name = true ∨ path = "") :
    Files.join path name = name := by
  rcases h with h | rfl
  · rw [Files.join, h, Bool.true_or, if_pos rfl]
  · have hempty : "".isEmpty = true := rfl
    rw [Files.join, hempty, Bool.or_true, if_pos rfl]

/-- What is joined is longer. -/
theorem join_ne_self {path name : String} (hname : Files.isAbsolute name = false) (hpath : path ≠ "") :
    Files.join path name ≠ name := by
  have hempty : path.isEmpty = false := by simpa using hpath
  have hlength : 0 < path.length := Nat.pos_of_ne_zero (mt String.length_eq_zero_iff.mp hpath)
  intro h
  have hsame := congrArg String.length h
  rw [Files.join, hname, hempty, Bool.or_self, if_neg Bool.false_ne_true] at hsame
  split at hsame
  · rw [String.length_append] at hsame
    omega
  · rw [String.length_append, String.length_append] at hsame
    omega

section Order

variable {d : ModelDirectory} {name : String}

theorem firstDirectory?_eq_ite : d.firstDirectory? name =
    if d.files.isDirectory name then some name
    else if d.files.isDirectory (Files.join d.path name) then some (Files.join d.path name) else none := by
  rw [firstDirectory?, List.find?_cons, List.find?_cons, List.find?_nil]
  cases d.files.isDirectory name <;> cases d.files.isDirectory (Files.join d.path name) <;> rfl

/-- Where both places are one path, nothing can be passed over. -/
theorem resolve?_eq_firstDirectory?_of_same (hname : name ≠ "")
    (h : Files.isAbsolute name = true ∨ d.path = "") : d.resolve? name = d.firstDirectory? name := by
  have hcandidate : d.candidate name = name := by rw [candidate, join_eq_self h, ite_self]
  rw [resolve?_eq_ite hname, firstDirectory?_eq_ite, hcandidate, join_eq_self h]
  cases d.files.isDirectory name <;> rfl

theorem resolve?_eq_firstDirectory?_iff (hname : name ≠ "") :
    d.resolve? name = d.firstDirectory? name ↔ Files.isAbsolute name = true ∨ d.path = "" ∨
      isPath name = true ∧
        (d.files.isDirectory name = true ∨ ¬d.files.isDirectory (Files.join d.path name) = true) ∨
      ¬isPath name = true ∧ ¬d.files.isDirectory name = true := by
  by_cases hsame : Files.isAbsolute name = true ∨ d.path = ""
  · rw [← or_assoc]
    exact iff_of_true (resolve?_eq_firstDirectory?_of_same hname hsame) (Or.inl hsame)
  · obtain ⟨habsolute, hpath⟩ := not_or.mp hsame
    have hne := join_ne_self (Bool.eq_false_iff.mpr habsolute) hpath
    rw [resolve?_eq_ite hname, firstDirectory?_eq_ite]
    by_cases hslash : isPath name = true
    · -- the place in the directory of models is passed over
      rw [candidate, if_pos hslash]
      cases d.files.isDirectory name <;> cases d.files.isDirectory (Files.join d.path name) <;>
        simp [habsolute, hpath, hslash]
    · -- the name as a path is passed over
      rw [candidate, if_neg hslash]
      cases d.files.isDirectory name <;> cases d.files.isDirectory (Files.join d.path name) <;>
        simp [habsolute, hpath, hslash, hne]

end Order

/-! ## Loading -/

section Load

variable {d : ModelDirectory} {name : String} {disabled : List String}

theorem load_eq_notFound_iff {n p : String} : d.load name disabled = .error (.notFound n p) ↔
    n = name ∧ p = d.path ∧ d.resolve? name = none := by
  rw [load]
  cases d.resolve? name with
  | none => simp [eq_comm]
  | some dir =>
    dsimp only
    cases LanguageModel.load d.library d.files dir disabled <;> simp

theorem catalog_load_eq_error_iff {e : ModelError} :
    d.catalog.load name disabled = .error e ↔ d.load name disabled = .error e := by
  show (d.load name disabled).map _ = .error e ↔ _
  cases d.load name disabled <;> simp [Except.map]

end Load

/-! ## Trees of files -/

open Files.Tree (isDirectory_iff)

theorem resolve?_in_one_place (library : Library) (t : Tree) (current : Place) (dataPath name : String)
    (disabled : List String) (hname : name ≠ "") :
    let d : ModelDirectory := ⟨library, t.files current, dataPath⟩
    let linked := Files.join dataPath name
    (Files.isAbsolute name = true ∨ '/' ∈ name.toList → ∀ dir, d.resolve? name = some dir ↔
      dir = name ∧ t.LeadsToDirectory current name) ∧
    ('/' ∉ name.toList → ∀ dir, d.resolve? name = some dir ↔
      dir = linked ∧ t.LeadsToDirectory current linked) ∧
    (d.resolve? name = d.firstDirectory? name ↔ Files.isAbsolute name = true ∨ dataPath = "" ∨
      '/' ∈ name.toList ∧ (t.LeadsToDirectory current name ∨ ¬t.LeadsToDirectory current linked) ∨
      '/' ∉ name.toList ∧ ¬t.LeadsToDirectory current name) ∧
    (∀ n p, d.catalog.load name disabled = .error (.notFound n p) ↔
      n = name ∧ p = dataPath ∧ d.resolve? name = none) ∧
    (¬t.LeadsToDirectory current name → ¬t.LeadsToDirectory current linked →
      d.catalog.load name disabled = .error (.notFound name dataPath)) := by
  intro d linked
  have hload : ∀ n p, d.catalog.load name disabled = .error (.notFound n p) ↔
      n = name ∧ p = dataPath ∧ d.resolve? name = none := fun n p =>
    catalog_load_eq_error_iff.trans load_eq_notFound_iff
  refine ⟨fun hform dir => ?_, fun hslash dir => ?_, ?_, hload, fun hdirect hlinked => ?_⟩
  · have hpath : isPath name = true := hform.elim isPath_of_isAbsolute isPath_iff.mpr
    rw [resolve?_eq_some_iff hname, candidate, if_pos hpath, ← isDirectory_iff]
    exact and_congr_right fun hdir => hdir ▸ Iff.rfl
  · rw [resolve?_eq_some_iff hname, candidate, if_neg (mt isPath_iff.mp hslash), ← isDirectory_iff]
    exact and_congr_right fun hdir => hdir ▸ Iff.rfl
  · rw [resolve?_eq_firstDirectory?_iff hname, ← isDirectory_iff, ← isDirectory_iff, isPath_iff]
  · refine (hload name dataPath).mpr ⟨rfl, rfl, (resolve?_eq_none_iff hname).mpr ?_⟩
    rw [isDirectory_iff, candidate]
    split
    · exact hdirect
    · exact hlinked

theorem resolve?_in_one_place_of_link :
    let t : Tree := ⟨[(["models"], .directory), (["models", "core"], .directory),
      (["models", "en"], .link "core"), (["en"], .directory)]⟩
    let d : ModelDirectory := ⟨Tokenizer.library, t.files [], "models"⟩
    "en" ≠ "" ∧ d.resolve? "en" = some "models/en" ∧ d.resolve? "en" ≠ d.firstDirectory? "en" ∧
      ∀ n p, d.catalog.load "en" [] ≠ .error (.notFound n p) := by
  intro t d
  have hmodels : IsName "models" := by decide
  have hcore : IsName "core" := by decide
  have hen : IsName "en" := by decide
  obtain ⟨-, hbare, horder, hload, -⟩ :=
    resolve?_in_one_place Tokenizer.library t [] "models" "en" [] hen.ne_empty
  have hhere : t.LeadsToDirectory [] "en" := isDirectory_iff.mp (Tree.isDirectory_files hen rfl)
  have hlinked : t.LeadsToDirectory [] (Files.join "models" "en") := by
    refine ⟨IsName.join_ne_empty hmodels.ne_empty hen, Tree.isUsable_join hmodels hen,
      ["models", "core"], ?_, rfl⟩
    rw [ite_self, Tree.steps_join hmodels.ne_empty hen, hmodels.names_eq]
    refine .directory hmodels.ne_here hmodels.ne_up hmodels.short rfl ?_
    refine .link hen.ne_here hen.ne_up hen.short rfl hcore.ne_empty ?_
    rw [hcore.not_isAbsolute, Tree.steps_name hcore]
    exact .directory hcore.ne_here hcore.ne_up hcore.short rfl .done
  have hresolve : d.resolve? "en" = some "models/en" := by
    have hjoin : Files.join "models" "en" = "models/en" := IsName.join_eq hmodels hen
    rw [hbare hen.no_slash, hjoin]
    exact ⟨rfl, hjoin ▸ hlinked⟩
  refine ⟨hen.ne_empty, hresolve, ?_, fun n p hnone => ?_⟩
  · rw [Ne, horder, hen.not_isAbsolute]
    simp [hhere]
  · obtain ⟨-, -, hnone⟩ := (hload n p).mp hnone
    rw [hresolve] at hnone
    cases hnone

/-- Either place can be passed over: the current directory for a name without a slash, and the directory of
models for a name with one. -/
theorem resolve?_passes_over :
    let t : Tree := ⟨[(["en"], .directory), (["models"], .directory), (["models", "sub"], .directory),
      (["models", "sub", "en"], .directory)]⟩
    let d : ModelDirectory := ⟨Tokenizer.library, t.files [], "models"⟩
    ("en" ≠ "" ∧ t.LeadsToDirectory [] "en" ∧ d.firstDirectory? "en" = some "en" ∧ d.resolve? "en" = none ∧
      d.catalog.load "en" ["parser"] = .error (.notFound "en" "models")) ∧
    ("sub/en" ≠ "" ∧ t.LeadsToDirectory [] "models/sub/en" ∧
      d.firstDirectory? "sub/en" = some "models/sub/en" ∧ d.resolve? "sub/en" = none ∧
      d.catalog.load "sub/en" ["parser"] = .error (.notFound "sub/en" "models")) := by
  intro t d
  have hmodels : IsName "models" := by decide
  have hsub : IsName "sub" := by decide
  have hen : IsName "en" := by decide
  have hpath : Tree.steps "sub/en" = ["sub", "en"] := by decide
  have hlinked : Tree.steps "models/sub/en" = ["models", "sub", "en"] := by decide
  have hjoin : Files.join "models" "sub/en" = "models/sub/en" := by decide
  constructor
  · have hhere : t.LeadsToDirectory [] "en" := isDirectory_iff.mp (Tree.isDirectory_files hen rfl)
    have hresolve : d.resolve? "en" = none := by
      rw [resolve?_eq_none_iff hen.ne_empty, isDirectory_iff, candidate,
        if_neg (mt isPath_iff.mp hen.no_slash)]
      rintro ⟨-, -, place, hleads, -⟩
      have hwalk := hleads.walk
      rw [ite_self, Tree.steps_join hmodels.ne_empty hen, hmodels.names_eq, List.singleton_append,
        Tree.walk_directory hmodels rfl, Tree.walk] at hwalk
      cases hwalk
    refine ⟨hen.ne_empty, hhere, ?_, hresolve, ?_⟩
    · rw [firstDirectory?_eq_ite, if_pos (isDirectory_iff.mpr hhere)]
    · exact catalog_load_eq_error_iff.mpr (load_eq_notFound_iff.mpr ⟨rfl, rfl, hresolve⟩)
  · have hthere : t.LeadsToDirectory [] "models/sub/en" := by
      refine ⟨by decide, by decide, ["models", "sub", "en"], ?_, rfl⟩
      rw [ite_self, hlinked]
      refine .directory hmodels.ne_here hmodels.ne_up hmodels.short rfl ?_
      refine .directory hsub.ne_here hsub.ne_up hsub.short rfl ?_
      exact .directory hen.ne_here hen.ne_up hen.short rfl .done
    have hnothere : ¬d.files.isDirectory "sub/en" = true := by
      rw [isDirectory_iff]
      rintro ⟨-, -, place, hleads, -⟩
      have hwalk := hleads.walk
      rw [hpath, Tree.walk] at hwalk
      cases hwalk
    have hresolve : d.resolve? "sub/en" = none := by
      rw [resolve?_eq_none_iff (by decide), candidate, if_pos (by decide)]
      exact hnothere
    refine ⟨by decide, hthere, ?_, hresolve, ?_⟩
    · rw [firstDirectory?_eq_ite, if_neg hnothere, hjoin, if_pos (isDirectory_iff.mpr hthere)]
    · exact catalog_load_eq_error_iff.mpr (load_eq_notFound_iff.mpr ⟨rfl, rfl, hresolve⟩)

end TextAnnotation.ModelDirectory
