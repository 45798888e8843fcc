import TextAnnotation.Proofs.Annotator.Making
import TextAnnotation.Proofs.Options.Encoding
import TextAnnotation.Stub

/-!
# Annotators that are made again

Which model is used may depend on the language of the pipeline. The options of an annotator name the model,
so an annotator that is made of them again does not depend on the language any more.

* `create_again`: the options of an annotator make the same annotator in a pipeline of any language.
* `restore_persisted`: so do they after they have been encoded and read again.
-/

namespace TextAnnotation.Annotator

variable {options : Options} {language : String} {catalog : Catalog} {a : Annotator}

/-- The options of an annotator ask for the model that it was made with. -/
theorem nameFor_options (h : (create options language catalog).result = .ok a) (other : String) :
    nameFor a.options other = nameFor options language := by
  obtain ⟨hoptions, hname⟩ := options_of_create h
  exact nameFor_of_model (by rw [hoptions]) hname other

theorem create_again (h : (create options language catalog).result = .ok a) (other : String) :
    create a.options other catalog = ⟨.ok a, [⟨nameFor options language, disabledPipes⟩]⟩ := by
  have hname := nameFor_options h other
  -- its own options name the model already, so writing the name into them changes nothing
  have hresult : (create a.options other catalog).result = .ok a := by
    have hsame : { a.options with model := some (nameFor options language) } = a.options := by
      rw [(options_of_create h).1]
    rw [create_result] at h
    rw [create_result, hname, (annotatorFor_of_ok h a.options).2, hsame]
  have hcalls := calls_of_create hresult
  rw [hname] at hcalls
  rw [← hresult, ← hcalls]

/-- An annotator keeps the options that were asked for and names its model in them, whether the name was
given or is the language of the pipeline. Its options come back from their encoding as they were, and with
them the same annotator is made in a pipeline of any language, for one request that is the same too. -/
theorem restore_persisted {α : Type} (make : Annotator → α)
    (h : (create options language catalog).result = .ok a) :
    a.options.caseSensitive = options.caseSensitive ∧ a.options.batchSize = options.batchSize ∧
      a.options.model = some (nameFor options language) ∧
      (create options language catalog).calls = [⟨nameFor options language, disabledPipes⟩] ∧
      Options.ofJson a.options.json = .ok a.options ∧
      Options.decode a.options.json.compact = .ok a.options ∧
      ∀ kept, Options.ofJson a.options.json = .ok kept ∨
          Options.decode a.options.json.compact = .ok kept →
        ∀ other, ∃ b, restore make kept other catalog none =
            ⟨.ok (make b), [⟨nameFor options language, disabledPipes⟩]⟩ ∧
          b.options = a.options ∧ b.key = a.key ∧ b.model = a.model := by
  have hjson := Options.ofJson_json a.options
  have htext := Options.decode_compact_json a.options
  obtain ⟨hoptions, -⟩ := options_of_create h
  refine ⟨by rw [hoptions], by rw [hoptions], by rw [hoptions], calls_of_create h, hjson, htext, ?_⟩
  intro kept hkept other
  have hsame : kept = a.options := by
    rcases hkept with hkept | hkept
    · rw [hjson] at hkept
      cases hkept
      rfl
    · rw [htext] at hkept
      cases hkept
      rfl
  refine ⟨a, ?_, rfl, rfl, rfl⟩
  rw [hsame, restore, Traced.bind_return, create_again h other]
  rfl

/-- The name is taken from the pipeline, holds what has to be escaped, and is no language of the model. -/
theorem restore_persisted_stub :
    let name := "a\"b\\c\n\u0001é😀"
    let catalog := Stub.catalog [(name, some ⟨"de", true, false⟩)]
    let a : Annotator := ⟨⟨some name, true, 18446744073709551615⟩, Stub.model ⟨"de", true, false⟩⟩
    (create ⟨none, true, 18446744073709551615⟩ name catalog).result = .ok a ∧
      Options.decode a.options.json.compact = .ok a.options ∧
      ∃ b, restore id a.options "fr" catalog none = ⟨.ok b, [⟨name, ["parser"]⟩]⟩ ∧
        b.options = a.options ∧ b.key = a.key ∧ b.model = a.model := by
  intro name catalog a
  have hmade : (create ⟨none, true, 18446744073709551615⟩ name catalog).result = .ok a := rfl
  obtain ⟨-, -, -, -, -, htext, hagain⟩ := restore_persisted id hmade
  exact ⟨hmade, htext, hagain a.options (Or.inr htext) "fr"⟩

end TextAnnotation.Annotator
