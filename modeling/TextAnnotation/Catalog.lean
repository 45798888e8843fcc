import TextAnnotation.Model

/-!
# Catalogs

A catalog finds a model by its name.
-/

namespace TextAnnotation

/-- Finds models. A name can be known without there being a model for it. -/
structure Catalog where
  /-- Loads the model of a name without the given pipes. -/
  load : String → (disabled : List String) → Except ModelError (Option Model)

structure LoadRequest where
  name : String
  disabled : List String
  deriving DecidableEq, Repr

end TextAnnotation
