import TextAnnotation.Proofs.Annotator.Making
import TextAnnotation.Proofs.Settings.Reading
import TextAnnotation.Proofs.Text.Natural

/-!
# Settings as variables

Settings can be written as variables in many ways: with blanks around each value, with other words for true
and false and in upper case, with a plus sign and zeros in front of a number. All of them are read back as the
same settings.

* `IsProper`: settings whose texts can stand in variables.
* `IsRendering`: variables that stand for settings. `environment` writes them in the plainest way.
* `ofEnvironment_of_isRendering`: they are read as these settings.
* `isProper_of_ofEnvironment`: settings that are read are proper.
* `ofEnvironment_rendering`: both, and what it means for the annotator.
-/

namespace TextAnnotation.Settings

open Text (BlanksAround IsTrimmed Writes isBlank)

variable {env : Environment} {name : String} {s : Settings}

/-! ## Texts -/

/-- A text that is not empty, with no blank at either end. -/
def IsProperText (t : String) : Prop :=
  t ≠ "" ∧ IsTrimmed t.toList

instance (t : String) : Decidable (IsProperText t) :=
  inferInstanceAs (Decidable (_ ∧ _))

/-- Settings whose texts can stand in variables. -/
structure IsProper (s : Settings) : Prop where
  language : IsProperText s.language
  model : ∀ m, s.model = some m → IsProperText m
  dataPath : IsProperText s.dataPath

theorem isProperText_of_text? {t : String} (h : text? env name = some t) : IsProperText t := by
  obtain ⟨⟨v, -, rfl⟩, hne⟩ := text?_eq_some_iff.mp h
  refine ⟨hne, ?_⟩
  rw [Text.toList_trim]
  exact Text.isTrimmed_trimmed _

theorem isProperText_getD {default : String} (hdefault : IsProperText default) :
    IsProperText ((text? env name).getD default) := by
  cases h : text? env name with
  | none => exact hdefault
  | some t => exact isProperText_of_text? h

theorem isProper_of_ofEnvironment (h : ofEnvironment env = .ok s) : s.IsProper := by
  obtain ⟨hlanguage, hmodel, -, hpath, -, -⟩ := ofEnvironment_eq_ok_iff.mp h
  refine ⟨?_, fun m hm => ?_, ?_⟩
  · rw [hlanguage]
    exact isProperText_getD (by decide)
  · exact isProperText_of_text? (hmodel ▸ hm)
  · rw [hpath]
    exact isProperText_getD (by decide)

theorem IsProperText.not_isBlankText {t : String} (h : IsProperText t) : ¬Text.isBlankText t := by
  obtain ⟨hne, hhead, -⟩ := h
  obtain ⟨c, cs, hcs⟩ := List.exists_cons_of_ne_nil (mt String.toList_eq_nil_iff.mp hne)
  rw [hcs] at hhead
  simp_all [Text.isBlankText]

/-! ## Variables -/

/-- A variable is set to a text with blanks around it. -/
def Holds (env : Environment) (name : String) (cs : List Char) : Prop :=
  ∃ v, env.get? name = some v ∧ BlanksAround cs v.toList

def wordsFor : Bool → List String
  | true => ["1", "true", "yes", "on"]
  | false => ["0", "false", "no", "off"]

/-- Variables that stand for settings. A word for a boolean may be in upper case, wholly or in part. -/
structure IsRendering (s : Settings) (env : Environment) : Prop where
  language : Holds env languageVariable s.language.toList
  model : match s.model with
    | some m => Holds env modelVariable m.toList
    | none => env.get? modelVariable = none
  caseSensitive : ∃ word : String, word.map Char.toLower ∈ wordsFor s.caseSensitive ∧
    Holds env caseVariable word.toList
  dataPath : Holds env dataPathVariable s.dataPath.toList
  batchSize : ∃ cs, Writes s.batchSize.toNat cs ∧ Holds env batchVariable cs
  cacheCapacity : ∃ cs, Writes s.cacheCapacity.toNat cs ∧ Holds env cacheVariable cs

def wordOf (b : Bool) : String :=
  if b then "true" else "false"

def environment (s : Settings) : Environment where
  get? name := List.lookup name <|
    (s.model.map fun m => (modelVariable, m)).toList ++
    [(languageVariable, s.language), (caseVariable, wordOf s.caseSensitive),
     (dataPathVariable, s.dataPath), (batchVariable, Text.decimal s.batchSize.toNat),
     (cacheVariable, Text.decimal s.cacheCapacity.toNat)]

theorem holds_of_get? {t : String} (h : env.get? name = some t) : Holds env name t.toList :=
  ⟨t, h, [], [], by simp, rfl, rfl⟩

theorem writes_decimal (n : Nat) : Writes n (Text.decimal n).toList :=
  ⟨[], 0, Or.inl rfl, by simp [Text.decimal]⟩

theorem wordOf_mem (b : Bool) : (wordOf b).map Char.toLower ∈ wordsFor b := by
  have hlower : (wordOf b).map Char.toLower = wordOf b := by
    rw [← String.toList_inj, String.toList_map]
    cases b <;> rfl
  rw [hlower]
  cases b <;> decide

theorem isRendering_environment (s : Settings) : s.IsRendering s.environment := by
  obtain ⟨language, model, caseSensitive, dataPath, batchSize, cacheCapacity⟩ := s
  cases model with
  | none =>
    exact ⟨holds_of_get? rfl, rfl, ⟨_, wordOf_mem _, holds_of_get? rfl⟩,
      holds_of_get? rfl, ⟨_, writes_decimal _, holds_of_get? rfl⟩,
      ⟨_, writes_decimal _, holds_of_get? rfl⟩⟩
  | some m =>
    exact ⟨holds_of_get? rfl, holds_of_get? rfl,
      ⟨_, wordOf_mem _, holds_of_get? rfl⟩,
      holds_of_get? rfl, ⟨_, writes_decimal _, holds_of_get? rfl⟩,
      ⟨_, writes_decimal _, holds_of_get? rfl⟩⟩

theorem text?_of_holds {t : String} (h : Holds env name t.toList) (ht : IsProperText t) :
    text? env name = some t := by
  obtain ⟨v, hget, hv⟩ := h
  exact text?_eq_some_iff.mpr ⟨⟨v, hget, Text.trim_of_blanksAround hv ht.2⟩, ht.1⟩

/-! ### Booleans -/

theorem isBlank_toLower (c : Char) : isBlank c.toLower = isBlank c := by
  unfold Char.toLower
  split
  · next h =>
    have hupper : 65 ≤ c.toNat ∧ c.toNat ≤ 90 := by
      simpa [UInt32.le_iff_toNat_le] using h
    have hlower : (c.val + ('a'.val - 'A'.val)).toNat = c.toNat + 32 := by
      have hshift : ('a'.val - 'A'.val).toNat = 32 := rfl
      have hval : c.val.toNat = c.toNat := rfl
      rw [UInt32.toNat_add, hshift]
      omega
    have hletter : ∀ n, 65 ≤ n ∧ n ≤ 90 ∨ 97 ≤ n ∧ n ≤ 122 →
        Text.inRanges Text.blankRanges n = false := by
      intro n hn
      simp [Text.inRanges, Text.blankRanges]
      omega
    rw [isBlank, isBlank, Char.toNat, hlower, hletter _ (Or.inl hupper), hletter _ (Or.inr (by omega))]
  · rfl

theorem isTrimmed_of_toLower {word : String} (h : IsTrimmed (word.map Char.toLower).toList) :
    IsTrimmed word.toList := by
  simpa only [IsTrimmed, String.toList_map, List.head?_map, List.getLast?_map, Option.all_map,
    Function.comp_def, isBlank_toLower] using h

theorem flag_of_holds {word : String} {b : Bool} (hword : word.map Char.toLower ∈ wordsFor b)
    (h : Holds env name word.toList) (default : Bool) : flag env name default = .ok b := by
  obtain ⟨v, hget, hv⟩ := h
  have hwords : ∀ b, ∀ w ∈ wordsFor b, IsTrimmed w.toList ∧ trueWords.contains w = b ∧
      falseWords.contains w = !b := by decide
  obtain ⟨htrimmed, htrue, hfalse⟩ := hwords b _ hword
  have htrim : Text.trim v = word := Text.trim_of_blanksAround hv (isTrimmed_of_toLower htrimmed)
  simp only [flag, hget, htrim, htrue, hfalse]
  cases b <;> rfl

/-! ### Numbers -/

theorem isBlank_of_isDigit {c : Char} (h : c.isDigit = true) : isBlank c = false := by
  have hdigit : 48 ≤ c.toNat ∧ c.toNat ≤ 57 := by
    simpa [Char.isDigit, UInt32.le_iff_toNat_le] using h
  simp [isBlank, Text.inRanges, Text.blankRanges]
  omega

theorem isTrimmed_of_writes {n : Nat} {cs : List Char} (h : Writes n cs) : IsTrimmed cs := by
  apply Text.isTrimmed_of_forall
  obtain ⟨sign, zeros, hsign, rfl⟩ := h
  intro c hc
  simp only [List.mem_append, List.mem_replicate] at hc
  rcases hc with (hc | ⟨-, rfl⟩) | hc
  · rcases hsign with rfl | rfl
    · cases hc
    · rw [List.mem_singleton.mp hc]
      rfl
  · rfl
  · exact isBlank_of_isDigit (Nat.isDigit_of_mem_toDigits (by omega) (by omega) hc)

theorem number_of_holds {n : UInt64} {cs : List Char} (hcs : Writes n.toNat cs) (h : Holds env name cs)
    (default : UInt64) : number env name default = .ok n := by
  obtain ⟨v, hget, hv⟩ := h
  simp only [number, hget, Text.trimmed_of_blanksAround hv (isTrimmed_of_writes hcs),
    Text.readNatural_of_writes hcs]

/-! ## Settings -/

theorem ofEnvironment_of_isRendering (hs : s.IsProper) (h : s.IsRendering env) :
    ofEnvironment env = .ok s := by
  obtain ⟨word, hword, hcase⟩ := h.caseSensitive
  obtain ⟨size, hsize, hbatch⟩ := h.batchSize
  obtain ⟨capacity, hcapacity, hcache⟩ := h.cacheCapacity
  refine ofEnvironment_eq_ok_iff.mpr ⟨?_, ?_, flag_of_holds hword hcase _, ?_,
    number_of_holds hsize hbatch _, number_of_holds hcapacity hcache _⟩
  · rw [text?_of_holds h.language hs.language, Option.getD_some]
  · have hmodel := h.model
    cases hm : s.model with
    | none =>
      rw [hm] at hmodel
      simp [text?, hmodel]
    | some m =>
      rw [hm] at hmodel
      exact (text?_of_holds hmodel (hs.model m hm)).symm
  · rw [text?_of_holds h.dataPath hs.dataPath, Option.getD_some]

theorem validate_ne_missingLanguage (h : s.IsProper) (files : Files) :
    s.validate files ≠ .error .missingLanguage := by
  rw [validate, Bool.eq_false_iff.mpr h.language.not_isBlankText]
  simp only [Bool.false_and, Bool.false_eq_true, if_false]
  split <;> [skip; split] <;> simp

/-- The name for which settings ask a catalog is that of the model, or else the language. -/
theorem nameFor_of_isProper (h : s.IsProper) :
    Annotator.nameFor s.options s.language = s.model.getD s.language ∧ s.model.getD s.language ≠ "" := by
  cases hm : s.model with
  | none => exact ⟨by rw [Annotator.nameFor, options, hm]; rfl, h.language.1⟩
  | some m => exact ⟨Annotator.nameFor_of_model hm (h.model m hm).1 _, (h.model m hm).1⟩

/-- Variables that stand for settings are read as these settings. The texts of settings that are read are not
empty and have no blanks around them, so there is always a language, and a catalog is asked for the model, or
else for the language. -/
theorem ofEnvironment_rendering :
    (∀ s : Settings, s.IsRendering s.environment ∧
      ∀ env : Environment, s.IsProper → s.IsRendering env → ofEnvironment env = .ok s) ∧
    ∀ (env : Environment) (s : Settings), ofEnvironment env = .ok s →
      s.IsProper ∧ (∀ files, s.validate files ≠ .error .missingLanguage) ∧
      s.model.getD s.language ≠ "" ∧
      ∀ catalog, (Annotator.create s.options s.language catalog).calls =
        [⟨s.model.getD s.language, Annotator.disabledPipes⟩] := by
  refine ⟨fun s => ⟨isRendering_environment s, fun env hs h => ofEnvironment_of_isRendering hs h⟩,
    fun env s h => ?_⟩
  have hs := isProper_of_ofEnvironment h
  obtain ⟨hname, hne⟩ := nameFor_of_isProper hs
  refine ⟨hs, validate_ne_missingLanguage hs, hne, fun catalog => ?_⟩
  rw [Annotator.create_calls, hname, if_neg hne]

theorem ofEnvironment_rendering_sample :
    let s : Settings := ⟨"de", some "sm", true, "/a b", 70, 0⟩
    s.IsProper ∧ s.IsRendering s.environment ∧ ofEnvironment s.environment = .ok s := by
  intro s
  have hs : s.IsProper := by
    refine ⟨by decide, ?_, by decide⟩
    intro m hm
    obtain rfl := Option.some.inj hm
    decide
  obtain ⟨hrendering, hread⟩ := ofEnvironment_rendering.1 s
  exact ⟨hs, hrendering, hread _ hs hrendering⟩

-- blanks of several kinds, a word in mixed case, a plus sign and zeros in front of a number
example :
    ofEnvironment ⟨([(languageVariable, "\t de\u2003"), (caseVariable, " yEs "), (dataPathVariable, "/a b\n"),
      (batchVariable, "\u3000+0070"), (cacheVariable, "000")].lookup ·)⟩ =
      .ok ⟨"de", none, true, "/a b", 70, 0⟩ := by cbv

end TextAnnotation.Settings
