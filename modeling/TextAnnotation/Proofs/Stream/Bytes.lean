import TextAnnotation.Proofs.Text.Words
import TextAnnotation.Stream

/-!
# Texts as bytes

* `bytes`: the bytes of a text, in UTF-8.
* `text?_bytes`: a line of these bytes is read as that text.
* `exists_of_mem_bytes`: a byte of the ASCII range stands for a character of that range only.
-/

namespace TextAnnotation.Stream

def bytes (cs : List Char) : List UInt8 :=
  (String.ofList cs).toUTF8.data.toList

theorem bytes_eq_flatMap (cs : List Char) : bytes cs = cs.flatMap String.utf8EncodeChar :=
  List.toList_data_toByteArray

theorem bytes_append (cs ds : List Char) : bytes (cs ++ ds) = bytes cs ++ bytes ds := by
  simp only [bytes_eq_flatMap, List.flatMap_append]

theorem text?_bytes (cs : List Char) : text? (bytes cs) = some (String.ofList cs) := by
  rw [text?, bytes, Array.toArray_toList]
  exact Text.fromUTF8?_toUTF8 (String.ofList cs)

/-- A byte of the ASCII range is the number of its character; all other characters are made of greater
bytes. -/
theorem toNat_of_mem_utf8EncodeChar {b : UInt8} {c : Char} (hb : b.toNat < 128)
    (h : b ∈ String.utf8EncodeChar c) : c.toNat = b.toNat := by
  have hgreat : ∀ n, 128 ≤ n % 256 → b ≠ UInt8.ofNat n := by
    intro n hn hbn
    rw [hbn, UInt8.toNat_ofNat'] at hb
    omega
  rw [String.utf8EncodeChar.eq_1] at h
  by_cases hc : c.val.toNat ≤ 127
  · rw [if_pos hc, List.mem_singleton] at h
    rw [h, UInt8.toNat_ofNat', Nat.mod_eq_of_lt (by omega)]
    rfl
  · rw [if_neg hc] at h
    exfalso
    split at h
    · simp only [List.mem_cons, List.not_mem_nil, or_false] at h
      obtain h | h := h <;> exact hgreat _ (by omega) h
    · split at h
      · simp only [List.mem_cons, List.not_mem_nil, or_false] at h
        obtain h | h | h := h <;> exact hgreat _ (by omega) h
      · simp only [List.mem_cons, List.not_mem_nil, or_false] at h
        obtain h | h | h | h := h <;> exact hgreat _ (by omega) h

/-- A byte of the ASCII range is in a text only if its character is. -/
theorem exists_of_mem_bytes {b : UInt8} {cs : List Char} (hb : b.toNat < 128) (h : b ∈ bytes cs) :
    ∃ c ∈ cs, c.toNat = b.toNat := by
  rw [bytes_eq_flatMap] at h
  obtain ⟨c, hc, hbc⟩ := List.mem_flatMap.mp h
  exact ⟨c, hc, toNat_of_mem_utf8EncodeChar hb hbc⟩

end TextAnnotation.Stream
