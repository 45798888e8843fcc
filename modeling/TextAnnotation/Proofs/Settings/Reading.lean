import TextAnnotation.Proofs.Keyed.Ascending
import TextAnnotation.Proofs.Steps
import TextAnnotation.Proofs.Text.Trimming
import TextAnnotation.Settings

/-!
# What is read of an environment

Each setting is read from a variable of its own. Whether a variable is blank or not set makes no difference to
a text or a boolean; a number that is blank cannot be read.

* `ofEnvironment_eq_ok_iff`, `ofEnvironment_eq_error_iff`: the settings, variable by variable, and the first
  variable that cannot be read.
* `Environment.setAll`, `Environment.unsetAll`: an environment with other values, and without some of them.
* `text?_of_blank`, `flag_of_blank`, `number_of_blank`: what becomes of a variable that is blank.
* `ofEnvironment_setAll`: blank variables against variables that are not set.
-/

namespace TextAnnotation

namespace Environment

def setAll (env : Environment) (values : List (String × String)) : Environment where
  get? name := (values.lookup name).or (env.get? name)

def unsetAll (env : Environment) (names : List String) : Environment where
  get? name := if name ∈ names then none else env.get? name

end Environment

namespace Settings

open Text (isBlankText)

variable {env : Environment} {name : String} {s : Settings}

/-! ## Variable by variable -/

theorem text?_eq_none_iff : text? env name = none ↔ ∀ v, env.get? name = some v → isBlankText v := by
  rw [text?, Option.filter_eq_none_iff]
  cases env.get? name with
  | none => simp
  | some v =>
    simp only [Option.map_some, Option.some.injEq, forall_eq', Bool.not_eq_true, Bool.not_eq_false',
      Text.trim_isEmpty_iff]

theorem text?_eq_some_iff {t : String} :
    text? env name = some t ↔ (∃ v, env.get? name = some v ∧ Text.trim v = t) ∧ t ≠ "" := by
  simp [text?, Option.filter_eq_some_iff, and_comm]

theorem ofEnvironment_eq_ok_iff : ofEnvironment env = .ok s ↔
    s.language = (text? env languageVariable).getD defaultLanguage ∧
    s.model = text? env modelVariable ∧
    flag env caseVariable default.caseSensitive = .ok s.caseSensitive ∧
    s.dataPath = (text? env dataPathVariable).getD defaultDataPath ∧
    number env batchVariable default.batchSize = .ok s.batchSize ∧
    number env cacheVariable default.cacheCapacity = .ok s.cacheCapacity := by
  rw [ofEnvironment]
  simp only [bind_eq_ok_iff]
  constructor
  · rintro ⟨caseSensitive, hcase, batchSize, hbatch, cacheCapacity, hcache, h⟩
    cases h
    exact ⟨rfl, rfl, hcase, rfl, hbatch, hcache⟩
  · rintro ⟨hlanguage, hmodel, hcase, hpath, hbatch, hcache⟩
    refine ⟨_, hcase, _, hbatch, _, hcache, ?_⟩
    cases s
    cases hlanguage
    cases hmodel
    cases hpath
    rfl

/-- The first variable that cannot be read is the one that is reported. -/
theorem ofEnvironment_eq_error_iff {e : SettingsError} : ofEnvironment env = .error e ↔
    flag env caseVariable default.caseSensitive = .error e ∨
    (∃ sensitive, flag env caseVariable default.caseSensitive = .ok sensitive ∧
      number env batchVariable default.batchSize = .error e) ∨
    ∃ sensitive size, flag env caseVariable default.caseSensitive = .ok sensitive ∧
      number env batchVariable default.batchSize = .ok size ∧
      number env cacheVariable default.cacheCapacity = .error e := by
  rw [ofEnvironment]
  simp only [bind_eq_error_iff, reduceCtorEq, and_false, exists_false, or_false]
  constructor
  · rintro (hflag | ⟨sensitive, hflag, hbatch | ⟨size, hbatch, hcache⟩⟩)
    · exact Or.inl hflag
    · exact Or.inr (Or.inl ⟨sensitive, hflag, hbatch⟩)
    · exact Or.inr (Or.inr ⟨sensitive, size, hflag, hbatch, hcache⟩)
  · rintro (hflag | ⟨sensitive, hflag, hbatch⟩ | ⟨sensitive, size, hflag, hbatch, hcache⟩)
    · exact Or.inl hflag
    · exact Or.inr ⟨sensitive, hflag, Or.inl hbatch⟩
    · exact Or.inr ⟨sensitive, hflag, Or.inr ⟨size, hbatch, hcache⟩⟩

/-- An error about a number names its variable. -/
theorem exists_of_number_error {default : UInt64} {e : SettingsError}
    (h : number env name default = .error e) : ∃ v cause, e = .invalidNumber name v cause := by
  rw [number] at h
  split at h
  · cases h
  · next v _ =>
    split at h
    · cases h
    · next cause _ =>
      cases h
      exact ⟨v, cause, rfl⟩

/-! ## Blank variables -/

section Blank

variable {v : String} (hget : env.get? name = some v) (hv : isBlankText v)

include hget hv

theorem text?_of_blank : text? env name = none := by
  rw [text?_eq_none_iff]
  intro w hw
  rw [hget, Option.some.injEq] at hw
  exact hw ▸ hv

theorem flag_of_blank (default : Bool) : flag env name default = .ok default := by
  have hempty : Text.trim v = "" := by
    rw [← String.isEmpty_iff]
    exact Text.trim_isEmpty_iff.mpr hv
  have hword : "".map Char.toLower = "" := by
    rw [← String.toList_inj, String.toList_map]
    rfl
  simp only [flag, hget, hempty, hword]
  rfl

theorem number_of_blank (default : UInt64) :
    number env name default = .error (.invalidNumber name v .empty) := by
  have hnil : Text.trimmed v.toList = [] := Text.trimmed_eq_nil_iff.mpr hv
  simp only [number, hget, hnil]
  rfl

end Blank

/-! ## Blank variables against variables that are not set -/

section SetAll

variable {blanks : List (String × String)}

theorem get?_of_not_mem (env : Environment) (h : name ∉ blanks.map Prod.fst) :
    (env.setAll blanks).get? name = (env.unsetAll (blanks.map Prod.fst)).get? name := by
  rw [Environment.setAll, Environment.unsetAll]
  simp only [Keyed.lookup_eq_none_iff.mpr h, if_neg h, Option.none_or]

theorem get?_of_lookup (env : Environment) {v : String} (h : blanks.lookup name = some v) :
    (env.setAll blanks).get? name = some v ∧
      (env.unsetAll (blanks.map Prod.fst)).get? name = none := by
  have hmem : name ∈ blanks.map Prod.fst := Keyed.isSome_lookup_iff.mp (by rw [h]; rfl)
  rw [Environment.setAll, Environment.unsetAll]
  simp only [h, if_pos hmem, Option.some_or, and_self]

variable (hblank : ∀ x ∈ blanks, isBlankText x.2)

include hblank

theorem isBlankText_of_lookup {v : String} (h : blanks.lookup name = some v) : isBlankText v := by
  obtain ⟨l₁, l₂, rfl, -⟩ := List.lookup_eq_some_iff.mp h
  exact hblank (name, v) (by simp)

/-- A variable is the same in both environments, or it is blank in one of them and not set in the other. -/
theorem get?_cases (env : Environment) (name : String) :
    (env.setAll blanks).get? name = (env.unsetAll (blanks.map Prod.fst)).get? name ∨
      ∃ v, isBlankText v ∧ (env.setAll blanks).get? name = some v ∧
        (env.unsetAll (blanks.map Prod.fst)).get? name = none := by
  cases h : blanks.lookup name with
  | none => exact Or.inl (get?_of_not_mem env (Keyed.lookup_eq_none_iff.mp h))
  | some v => exact Or.inr ⟨v, isBlankText_of_lookup hblank h, get?_of_lookup env h⟩

theorem text?_setAll (env : Environment) (name : String) :
    text? (env.setAll blanks) name = text? (env.unsetAll (blanks.map Prod.fst)) name := by
  rcases get?_cases hblank env name with h | ⟨v, hv, hset, hunset⟩
  · rw [text?, text?, h]
  · rw [text?_of_blank hset hv, text?, hunset]
    rfl

theorem flag_setAll (env : Environment) (name : String) (default : Bool) :
    flag (env.setAll blanks) name default = flag (env.unsetAll (blanks.map Prod.fst)) name default := by
  rcases get?_cases hblank env name with h | ⟨v, hv, hset, hunset⟩
  · rw [flag, flag, h]
  · rw [flag_of_blank hset hv, flag, hunset]

end SetAll

theorem number_setAll {blanks : List (String × String)} (h : name ∉ blanks.map Prod.fst) (env : Environment)
    (default : UInt64) : number (env.setAll blanks) name default =
      number (env.unsetAll (blanks.map Prod.fst)) name default := by
  rw [number, number, get?_of_not_mem env h]

/-- Blank variables that are texts or booleans count as not set. A number that is blank is an error, unless
another variable that is read before cannot be read either. -/
theorem ofEnvironment_setAll (env : Environment) {blanks : List (String × String)}
    (hblank : ∀ x ∈ blanks, isBlankText x.2) :
    let names := blanks.map Prod.fst
    let set := env.setAll blanks
    let unset := env.unsetAll names
    (batchVariable ∉ names → cacheVariable ∉ names → ofEnvironment set = ofEnvironment unset) ∧
    (∀ e, flag unset caseVariable default.caseSensitive = .error e →
      ofEnvironment set = .error e ∧ ofEnvironment unset = .error e) ∧
    (∀ v sensitive, blanks.lookup batchVariable = some v →
      flag unset caseVariable default.caseSensitive = .ok sensitive →
        ofEnvironment set = .error (.invalidNumber batchVariable v .empty) ∧
          ofEnvironment unset ≠ ofEnvironment set) ∧
    ∀ v, batchVariable ∉ names → blanks.lookup cacheVariable = some v →
      (∀ e, ofEnvironment unset = .error e → ofEnvironment set = .error e) ∧
      ∀ s, ofEnvironment unset = .ok s →
        ofEnvironment set = .error (.invalidNumber cacheVariable v .empty) := by
  intro names set unset
  have hflag : flag set caseVariable default.caseSensitive = flag unset caseVariable default.caseSensitive :=
    flag_setAll hblank env caseVariable _
  refine ⟨fun hbatch hcache => ?_, fun e he => ?_, fun v sensitive hlookup hsensitive => ?_,
    fun v hbatch hlookup => ?_⟩
  · rw [ofEnvironment, ofEnvironment, hflag, text?_setAll hblank, text?_setAll hblank,
      text?_setAll hblank, number_setAll hbatch, number_setAll hcache]
  · exact ⟨ofEnvironment_eq_error_iff.mpr (Or.inl (hflag.trans he)),
      ofEnvironment_eq_error_iff.mpr (Or.inl he)⟩
  · obtain ⟨hget, hnone⟩ := get?_of_lookup env hlookup
    have hnumber := number_of_blank hget (isBlankText_of_lookup hblank hlookup) default.batchSize
    have herror : ofEnvironment set = .error (.invalidNumber batchVariable v .empty) :=
      ofEnvironment_eq_error_iff.mpr (Or.inr (Or.inl ⟨sensitive, hflag.trans hsensitive, hnumber⟩))
    refine ⟨herror, fun heq => ?_⟩
    -- without the variable, the size of a batch has its default, and no other error is about it
    have hsize : number unset batchVariable default.batchSize = .ok default.batchSize := by
      rw [number, hnone]
    rw [herror] at heq
    rcases ofEnvironment_eq_error_iff.mp heq with h | ⟨_, _, h⟩ | ⟨_, _, _, _, h⟩
    · rw [hsensitive] at h
      cases h
    · rw [hsize] at h
      cases h
    · obtain ⟨w, cause, he⟩ := exists_of_number_error h
      cases he
  · obtain ⟨hget, hnone⟩ := get?_of_lookup env hlookup
    have hnumber := number_of_blank hget (isBlankText_of_lookup hblank hlookup) default.cacheCapacity
    have hsize : number set batchVariable default.batchSize = number unset batchVariable default.batchSize :=
      number_setAll hbatch env _
    have hcapacity : number unset cacheVariable default.cacheCapacity = .ok default.cacheCapacity := by
      rw [number, hnone]
    refine ⟨fun e he => ?_, fun s hs => ?_⟩
    · rw [ofEnvironment_eq_error_iff] at he ⊢
      rw [hflag, hsize]
      rcases he with h | h | ⟨_, _, _, _, h⟩
      · exact Or.inl h
      · exact Or.inr (Or.inl h)
      · rw [hcapacity] at h
        cases h
    · obtain ⟨-, -, hcase, -, hbatchSize, -⟩ := ofEnvironment_eq_ok_iff.mp hs
      exact ofEnvironment_eq_error_iff.mpr (Or.inr (Or.inr
        ⟨_, _, hflag.trans hcase, hsize.trans hbatchSize, hnumber⟩))

theorem ofEnvironment_setAll_sample :
    let env : Environment := ⟨fun name => if name = languageVariable then some "de" else none⟩
    let blanks := [(modelVariable, "\t"), (batchVariable, "\u3000")]
    (∀ x ∈ blanks, isBlankText x.2) ∧
      ofEnvironment (env.setAll blanks) = .error (.invalidNumber batchVariable "\u3000" .empty) := by
  have hblank : ∀ x ∈ [(modelVariable, "\t"), (batchVariable, "\u3000")], isBlankText x.2 := by decide
  exact ⟨hblank, ((ofEnvironment_setAll _ hblank).2.2.1 "\u3000" false (by decide) (by decide)).1⟩

/-- Nothing but the size of a batch is set, to one blank. -/
theorem ofEnvironment_blank_batch :
    let env : Environment := ⟨fun _ => none⟩
    isBlankText " " ∧
      ofEnvironment (env.setAll [(batchVariable, " ")]) =
        .error (.invalidNumber batchVariable " " .empty) ∧
      ofEnvironment (env.unsetAll [batchVariable]) = .ok default := by
  decide

end Settings

end TextAnnotation
