import TextAnnotation.Text.Natural

/-!
# Why settings cannot be used
-/

namespace TextAnnotation

inductive SettingsError where
  | invalidBool (setting value : String)
  | invalidNumber (setting value : String) (cause : Text.NaturalError)
  | zeroBatchSize
  | missingLanguage
  | notADirectory (path : String)
  deriving DecidableEq, Repr

def SettingsError.message : SettingsError → String
  | .invalidBool setting value => "failed to parse boolean " ++ setting ++ "='" ++ value ++ "'"
  | .invalidNumber setting value cause =>
    "failed to parse " ++ setting ++ "='" ++ value ++ "': " ++ cause.message
  | .zeroBatchSize => "batch size must be greater than zero"
  | .missingLanguage => "no model name or pipeline language configured"
  | .notADirectory path => "path is not a directory: " ++ path

end TextAnnotation
