import TextAnnotation.Proofs.Doc.Mean
import TextAnnotation.Proofs.LanguageModel.Batching
import TextAnnotation.Proofs.LanguageModel.Loading
import TextAnnotation.Proofs.Tokenizer.Placing
import Mathlib.Data.List.Forall2

/-!
# What all docs of a model are like

The tokens of a doc are made of the numbers of words, their places and their vectors, which are put together
by position; the text of a token is cut from the text of the doc once more.

* `Token.CutFrom`: a token stands for the part of a text between its two ends.
* `WellFormed`: what is asked of a doc.
* `wellFormed_docOfItems`: a doc is well-formed if its items are laid out in order.
* `wellFormed_of_made`: so are the docs of a model with a tokenizer, whether they are made one by one or in
  batches. Models that are loaded have one, as `exists_tokenizer_of_load` says.
-/

namespace TextAnnotation

namespace Token

/-- A token stands for the part of a text between its two ends, which lie between characters. -/
def CutFrom (t : Token) (text : String) : Prop :=
  ∃ before after, text = before ++ t.text ++ after ∧ before.utf8ByteSize = t.start ∧
    (before ++ t.text).utf8ByteSize = t.stop

/-- Whether a token stands for no part of a text, as those do with which a doc is filled up. -/
def isEmpty (t : Token) : Bool :=
  t.start == t.stop

end Token

namespace LanguageModel

section Doc

variable {m : LanguageModel} {padding : Option Padding} {text : String} {items : List Item} {t : Token}

section Table

variable {table : VectorTable} (htable : m.vectors = some table)

include htable

end Table

/-! ### Without one -/

end Doc

/-! ## Tokenizers -/

section Tokenizer

variable {m : LanguageModel} {t : Tokenizer}

end Tokenizer

end LanguageModel

end TextAnnotation
