import TextAnnotation.Cache
import TextAnnotation.Files
import TextAnnotation.Text.Blank

/-!
# Settings

Settings come from the environment. What is not set, or blank, has its default; only a number must not be
blank.

* `Environment`: the variables that are set.
* `Settings.ofEnvironment`: reads settings; `Settings.validate` checks them.
-/

namespace TextAnnotation

/-- The variables that are set to a text. -/
structure Environment where
  get? : String → Option String

/-- The environment of a list of variables. One that is not set to a text counts as not set. -/
def Environment.ofList (values : List (String × ByteArray)) : Environment where
  get? name := (values.lookup name).bind String.fromUTF8?

structure Settings where
  language : String
  model : Option String
  caseSensitive : Bool
  dataPath : String
  batchSize : UInt64
  cacheCapacity : UInt64
  deriving DecidableEq, Repr

namespace Settings

def defaultLanguage : String := "en"

def defaultDataPath : String := "./models"

def default : Settings where
  language := defaultLanguage
  model := none
  caseSensitive := false
  dataPath := defaultDataPath
  batchSize := Options.defaultBatchSize
  cacheCapacity := Cache.defaultCapacity

/-! ## Variables -/

def variableStart : String := "LANGMODEL_"

def languageVariable : String := variableStart ++ "LANGUAGE"
def modelVariable : String := variableStart ++ "MODEL"
def caseVariable : String := variableStart ++ "CASE_SENSITIVE"
def dataPathVariable : String := variableStart ++ "DATA_PATH"
def batchVariable : String := variableStart ++ "BATCH_SIZE"
def cacheVariable : String := variableStart ++ "CACHE_CAPACITY"

def text? (env : Environment) (name : String) : Option String :=
  ((env.get? name).map Text.trim).filter (!·.isEmpty)

def trueWords : List String := ["1", "true", "yes", "on"]

def falseWords : List String := ["0", "false", "no", "off"]

/-- A boolean. The blanks around it and its case do not matter. -/
def flag (env : Environment) (name : String) (default : Bool) : Except SettingsError Bool :=
  match env.get? name with
  | none => .ok default
  | some value =>
    let word := (Text.trim value).map Char.toLower
    if trueWords.contains word then .ok true
    else if falseWords.contains word then .ok false
    else if word.isEmpty then .ok default
    else .error (.invalidBool name value)

/-- A natural number. The blanks around it do not matter. -/
def number (env : Environment) (name : String) (default : UInt64) : Except SettingsError UInt64 :=
  match env.get? name with
  | none => .ok default
  | some value =>
    match Text.readNatural (Text.trimmed value.toList) with
    | .ok n => .ok n
    | .error e => .error (.invalidNumber name value e)

/-- Reads the settings; the first variable that cannot be read is reported. -/
def ofEnvironment (env : Environment) : Except SettingsError Settings := do
  let caseSensitive ← flag env caseVariable default.caseSensitive
  let batchSize ← number env batchVariable default.batchSize
  let cacheCapacity ← number env cacheVariable default.cacheCapacity
  .ok {
    language := (text? env languageVariable).getD default.language
    model := text? env modelVariable
    caseSensitive
    dataPath := (text? env dataPathVariable).getD default.dataPath
    batchSize
    cacheCapacity }

/-! ## Use -/

/-- Checks settings: batches have a size, there is a name for a model, and nothing but a directory stands
where models are looked for. -/
def validate (s : Settings) (files : Files) : Except SettingsError Unit :=
  if s.batchSize = 0 then .error .zeroBatchSize
  else if Text.isBlankText s.language && s.model.isNone then .error .missingLanguage
  else if files.exists? s.dataPath && !files.isDirectory s.dataPath then
    .error (.notADirectory s.dataPath)
  else .ok ()

def options (s : Settings) : Options :=
  ⟨s.model, s.caseSensitive, s.batchSize⟩

end Settings

end TextAnnotation
