import TextAnnotation.LanguageModel
import TextAnnotation.Proofs.Steps
import TextAnnotation.Tokenizer.Json

/-!
# What a model is loaded from

The parts of a model that was loaded, each with the file that it comes from. Its encoder is a tokenizer if the
library reads no others.
-/

namespace TextAnnotation

namespace LanguageModel

variable {library : Library} {files : Files} {dir : String} {disabled : List String} {m : LanguageModel}

/-- A table is read only if the pipes ask for one. -/
theorem of_load (h : load library files dir disabled = .ok m) :
    ∃ manifest, loadManifest files dir = .ok manifest ∧
      loadTokenizer library files dir = .ok m.tokenizer ∧
      m.manifest = { manifest with
        fingerprint := (fingerprint files (Files.join dir Encoder.fileName)).toOption } ∧
      m.path = some ((files.find dir).toOption.elim dir Entry.path) ∧
      m.pipeNames = manifest.enabledPipes disabled ∧ m.disabled = disabled ∧
      (if m.pipeNames.contains vectorsPipe then loadVectors? library files dir else .ok none) = .ok m.vectors := by
  rw [load] at h
  obtain ⟨manifest, hmanifest, h⟩ := bind_eq_ok_iff.mp h
  obtain ⟨tokenizer, htokenizer, h⟩ := bind_eq_ok_iff.mp h
  dsimp only at h
  split at h
  · next hpipe =>
    obtain ⟨vectors, hvectors, h⟩ := bind_eq_ok_iff.mp h
    cases h
    exact ⟨manifest, hmanifest, htokenizer, rfl, rfl, rfl, rfl, by rw [if_pos hpipe, hvectors]⟩
  · next hpipe =>
    cases h
    exact ⟨manifest, hmanifest, htokenizer, rfl, rfl, rfl, rfl, by rw [if_neg hpipe]⟩

theorem exists_tokenizer_of_load (h : load Tokenizer.library files dir disabled = .ok m) :
    ∃ t : Tokenizer, m.tokenizer = t.encoder := by
  obtain ⟨-, -, htokenizer, -⟩ := of_load h
  dsimp only [loadTokenizer] at htokenizer
  split at htokenizer
  · cases htokenizer
  · have hread := mapError_eq_ok_iff.mp htokenizer
    dsimp only [Tokenizer.library] at hread
    split at hread
    · next t ht => exact ⟨t, (Except.ok.inj hread).symm⟩
    · cases hread

end LanguageModel

end TextAnnotation
