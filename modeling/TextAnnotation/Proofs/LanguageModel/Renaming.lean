import TextAnnotation.Proofs.LanguageModel.Contents

/-!
# Directories with the same files

A model does not tell where its files were found, but for its path. But a directory that is called like the
file of a tokenizer is taken for that file, and so its own files are not asked for.

* `Alike`: models that differ at most in their paths.
* `SameOutcome`: what two directories give, but for their paths.
* `load_of_sameFiles`: directories with the same files give the same, unless one of the names is mistaken.
-/

namespace TextAnnotation.LanguageModel

open Files (IsName SameFiles Tree fileIn?)

/-- Two models that differ at most in the directories that they come from. -/
structure Alike (m₁ m₂ : LanguageModel) : Prop where
  manifest : m₁.manifest = m₂.manifest
  vocab : m₁.vocab = m₂.vocab
  vectors : m₁.vectors = m₂.vectors
  pipeNames : m₁.pipeNames = m₂.pipeNames
  disabled : m₁.disabled = m₂.disabled
  doc : ∀ text, m₁.model.doc text = m₂.model.doc text
  pipe : ∀ texts batchSize, m₁.model.pipe texts batchSize = m₂.model.pipe texts batchSize

theorem alike_placed (m : LanguageModel) (path₁ path₂ : String) :
    Alike (placed path₁ m) (placed path₂ m) :=
  ⟨rfl, rfl, rfl, rfl, rfl, fun _ => rfl, fun _ _ => rfl⟩

/-- Two directories give models that are alike, or none of them gives a model, for the same reason. -/
def SameOutcome (library : Library) (dir₁ dir₂ : String) :
    Except LoadFault LanguageModel → Except LoadFault LanguageModel → Prop
  | .ok m₁, .ok m₂ => Alike m₁ m₂
  | .error fault₁, .error fault₂ => ∃ flaw : Flaw, flaw.at library dir₁ = fault₁ ∧ flaw.at library dir₂ = fault₂
  | _, _ => False

theorem exists_of_sameOutcome {library : Library} {dir₁ dir₂ : String} {m₁ : LanguageModel}
    {x : Except LoadFault LanguageModel} (h : SameOutcome library dir₁ dir₂ (.ok m₁) x) :
    ∃ m₂, x = .ok m₂ ∧ Alike m₁ m₂ := by
  cases x with
  | error fault => exact absurd h id
  | ok m₂ => exact ⟨m₂, rfl, h⟩

section Two

variable {library : Library} {files₁ files₂ : Files} {dir₁ dir₂ : String} {disabled : List String}

theorem tokenizerIn_congr (hname : IsNamedTokenizer dir₁ ↔ IsNamedTokenizer dir₂)
    (h : files₁.fileIn? dir₁ Encoder.fileName = files₂.fileIn? dir₂ Encoder.fileName) :
    tokenizerIn files₁ dir₁ = tokenizerIn files₂ dir₂ := by
  rw [tokenizerIn, tokenizerIn, h]
  simp only [hname]

variable (hdir₁ : files₁.isDirectory dir₁) (hdir₂ : files₂.isDirectory dir₂)

include hdir₁ hdir₂

theorem sameOutcome_of_ofContents
    (h : ofContents library (contents files₁ dir₁) disabled = ofContents library (contents files₂ dir₂) disabled) :
    SameOutcome library dir₁ dir₂ (load library files₁ dir₁ disabled) (load library files₂ dir₂ disabled) := by
  rw [load_eq hdir₁, load_eq hdir₂, h]
  cases ofContents library (contents files₂ dir₂) disabled with
  | error flaw => exact ⟨flaw, rfl, rfl⟩
  | ok m => exact alike_placed m _ _

theorem nameTaken_of_sameOutcome
    (h : SameOutcome library dir₁ dir₂ (load library files₁ dir₁ disabled) (load library files₂ dir₂ disabled)) :
    ofContents library (contents files₁ dir₁) disabled = .error .nameTaken ↔
      ofContents library (contents files₂ dir₂) disabled = .error .nameTaken := by
  rw [load_eq hdir₁, load_eq hdir₂] at h
  cases h₁ : ofContents library (contents files₁ dir₁) disabled <;>
    cases h₂ : ofContents library (contents files₂ dir₂) disabled <;> rw [h₁, h₂] at h
  case error.error flaw₁ flaw₂ =>
    obtain ⟨flaw, hflaw₁, hflaw₂⟩ := h
    have htaken₁ : flaw = .nameTaken ↔ flaw₁ = .nameTaken := by
      rw [← Flaw.at_eq_nameTaken_iff, hflaw₁, Flaw.at_eq_nameTaken_iff]
    have htaken₂ : flaw = .nameTaken ↔ flaw₂ = .nameTaken := by
      rw [← Flaw.at_eq_nameTaken_iff, hflaw₂, Flaw.at_eq_nameTaken_iff]
    rw [Except.error.injEq, Except.error.injEq, ← htaken₁, ← htaken₂]
  case ok.ok => simp
  all_goals exact absurd h id

/-- Two directories with the same files are loaded alike just if none of them, or each of them, is called like
the file of a tokenizer, or if already the manifest is at fault. A directory of that name is never loaded. -/
theorem load_of_sameFiles (h : SameFiles [] files₁ dir₁ files₂ dir₂) (disabled : List String) :
    (SameOutcome library dir₁ dir₂ (load library files₁ dir₁ disabled) (load library files₂ dir₂ disabled) ↔
      ((IsNamedTokenizer dir₁ ↔ IsNamedTokenizer dir₂) ∨
        ¬∃ manifest, loadManifest files₁ dir₁ = .ok manifest)) ∧
    (IsNamedTokenizer dir₁ → ∀ manifest, loadManifest files₁ dir₁ = .ok manifest →
      load library files₁ dir₁ disabled = .error (.tokenizerMissing dir₁)) := by
  have hmanifest := h Manifest.fileName (by decide) (by decide)
  have htokenizer := h Encoder.fileName (by decide) (by decide)
  have hvectors := h VectorTable.fileName (by decide) (by decide)
  have hload : (∃ manifest, loadManifest files₁ dir₁ = .ok manifest) ↔
      ∃ manifest, loadManifest files₂ dir₂ = .ok manifest :=
    exists_congr (loadManifest_congr hmanifest)
  refine ⟨⟨?_, ?_⟩, ?_⟩
  · intro hsame
    -- the two directories are mistaken for a file together, and that tells their names
    have htaken := nameTaken_of_sameOutcome hdir₁ hdir₂ hsame
    rw [ofContents_contents_eq_nameTaken_iff, ofContents_contents_eq_nameTaken_iff, ← hload] at htaken
    by_cases hok : ∃ manifest, loadManifest files₁ dir₁ = .ok manifest
    · left
      simpa only [hok, and_true] using htaken
    · exact .inr hok
  · rintro (hname | hfault)
    · apply sameOutcome_of_ofContents hdir₁ hdir₂
      rw [contents, contents, hmanifest, tokenizerIn_congr hname htokenizer, hvectors]
    · obtain ⟨flaw, hflaw⟩ := exists_flaw hfault
      have hflaw₂ : manifestOf (files₂.fileIn? dir₂ Manifest.fileName) = .error flaw := hmanifest ▸ hflaw
      apply sameOutcome_of_ofContents hdir₁ hdir₂
      rw [ofContents_of_manifest (c := contents files₁ dir₁) hflaw,
        ofContents_of_manifest (c := contents files₂ dir₂) hflaw₂]
  · intro hname manifest hok
    exact load_of_named hdir₁ hname hok disabled

end Two

theorem load_of_sameFiles_trial :
    let files := (Tree.shelf ["en", "de"] trial).files []
    files.isDirectory "en" ∧ files.isDirectory "de" ∧ SameFiles [] files "en" files "de" ∧
      ∃ m₁ m₂, load Tokenizer.library files "en" [] = .ok m₁ ∧ load Tokenizer.library files "de" [] = .ok m₂ ∧
        Alike m₁ m₂ := by
  have hen : IsName "en" := by decide
  have hde : IsName "de" := by decide
  have hdir₁ : ((Tree.shelf ["en", "de"] trial).files []).isDirectory "en" :=
    Tree.isDirectory_shelf hen (by decide)
  have hdir₂ : ((Tree.shelf ["en", "de"] trial).files []).isDirectory "de" :=
    Tree.isDirectory_shelf hde (by decide)
  have hsame : SameFiles [] ((Tree.shelf ["en", "de"] trial).files []) "en"
      ((Tree.shelf ["en", "de"] trial).files []) "de" :=
    Tree.sameFiles_shelf hen hde (by decide) (by decide) fun _ _ => rfl
  obtain ⟨m₁, hm₁⟩ : ∃ m, load Tokenizer.library ((Tree.shelf ["en", "de"] trial).files []) "en" [] = .ok m :=
    exists_load_trial hen (by decide) (by decide) _
  obtain ⟨hout, -⟩ := @load_of_sameFiles Tokenizer.library _ _ _ _ hdir₁ hdir₂ hsame []
  have hout := hout.mpr (.inl (by decide))
  rw [hm₁] at hout
  obtain ⟨m₂, hm₂, halike⟩ := exists_of_sameOutcome hout
  exact ⟨hdir₁, hdir₂, hsame, m₁, m₂, hm₁, hm₂, halike⟩

/-- A directory that can be loaded cannot be loaded under the name of its tokenizer. -/
theorem load_renamed :
    let files := (Tree.shelf ["en", "tokenizer.json"] trial).files []
    files.isDirectory "en" ∧ files.isDirectory "tokenizer.json" ∧
      SameFiles [] files "en" files "tokenizer.json" ∧ (∃ m, load Tokenizer.library files "en" ["parser"] = .ok m) ∧
      load Tokenizer.library files "tokenizer.json" ["parser"] = .error (.tokenizerMissing "tokenizer.json") := by
  have hen : IsName "en" := by decide
  have hname : IsName "tokenizer.json" := by decide
  have hdir : ((Tree.shelf ["en", "tokenizer.json"] trial).files []).isDirectory "tokenizer.json" :=
    Tree.isDirectory_shelf hname (by decide)
  have hsame : SameFiles [] ((Tree.shelf ["en", "tokenizer.json"] trial).files []) "en"
      ((Tree.shelf ["en", "tokenizer.json"] trial).files []) "tokenizer.json" :=
    Tree.sameFiles_shelf hen hname (by decide) (by decide) fun _ _ => rfl
  have hfile : ((Tree.shelf ["en", "tokenizer.json"] trial).files []).fileIn? "tokenizer.json"
      Manifest.fileName = trial.lookup Manifest.fileName :=
    Tree.fileIn?_shelf hname (by decide) (by decide)
  have hmanifest := manifestOf_eq_ok_iff.mp (hfile ▸ manifestOf_trial)
  exact ⟨Tree.isDirectory_shelf hen (by decide), hdir, hsame,
    exists_load_trial hen (by decide) (by decide) _,
    load_of_named hdir (by decide) hmanifest _⟩

end TextAnnotation.LanguageModel
