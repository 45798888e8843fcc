import TextAnnotation.Text.Blank
import Mathlib.Data.List.DropRight

/-!
# Blanks around a text

Trimming takes away all blanks at both ends of a text and nothing else, so it finds a text again that was
written with blanks around it.

* `IsTrimmed`: there is no blank at either end.
* `BlanksAround`: a text with blanks around it, and nothing else.
* `isTrimmed_trimmed`, `trimmed_of_blanksAround`: what trimming comes to.
* `trimmed_eq_nil_iff`: nothing is left of a text of blanks alone.
-/

namespace TextAnnotation.Text

variable {cs core : List Char}

/-- Neither the first nor the last character is blank. -/
def IsTrimmed (cs : List Char) : Prop :=
  cs.head?.all (!isBlank ·) ∧ cs.getLast?.all (!isBlank ·)

/-- The second text is the first one with blanks around it. -/
def BlanksAround (core cs : List Char) : Prop :=
  ∃ front back, cs = front ++ core ++ back ∧ front.all isBlank ∧ back.all isBlank

instance (cs : List Char) : Decidable (IsTrimmed cs) :=
  inferInstanceAs (Decidable (_ ∧ _))

theorem isTrimmed_of_forall (h : ∀ c ∈ cs, isBlank c = false) : IsTrimmed cs := by
  rw [IsTrimmed, Option.all_eq_true, Option.all_eq_true]
  exact ⟨fun c hc => by simp [h c (List.mem_of_head? hc)],
    fun c hc => by simp [h c (List.mem_of_getLast? hc)]⟩

/-! ## One end -/

theorem dropWhile_of_head (h : cs.head?.all (!isBlank ·)) : cs.dropWhile isBlank = cs := by
  cases cs with
  | nil => rfl
  | cons c cs =>
    have hc : ¬isBlank c := by simpa using h
    exact List.dropWhile_cons_of_neg hc

theorem head_dropWhile (cs : List Char) : (cs.dropWhile isBlank).head?.all (!isBlank ·) := by
  have h := List.head?_dropWhile_not isBlank cs
  cases hhead : (cs.dropWhile isBlank).head? with
  | none => rfl
  | some c =>
    rw [hhead] at h
    simpa using h

/-! ## Both ends -/

theorem trimmed_eq_rdropWhile (cs : List Char) :
    trimmed cs = (cs.dropWhile isBlank).rdropWhile isBlank := rfl

theorem trimmed_eq_nil_iff : trimmed cs = [] ↔ cs.all isBlank := by
  rw [trimmed_eq_rdropWhile, List.rdropWhile_eq_nil_iff, List.all_eq_true]
  constructor
  · intro h
    have hnil : cs.dropWhile isBlank = [] := by
      have hhead := head_dropWhile cs
      cases hdrop : cs.dropWhile isBlank with
      | nil => rfl
      | cons c rest =>
        have hblank := h c (by rw [hdrop]; exact List.mem_cons_self)
        rw [hdrop] at hhead
        simp [hblank] at hhead
    exact List.dropWhile_eq_nil_iff.mp hnil
  · intro h c hc
    exact h c ((List.dropWhile_sublist _).mem hc)

theorem isTrimmed_trimmed (cs : List Char) : IsTrimmed (trimmed cs) := by
  rw [trimmed_eq_rdropWhile]
  constructor
  · -- what is left begins as the text does behind its blanks
    obtain ⟨rest, hrest⟩ := List.rdropWhile_prefix isBlank (cs.dropWhile isBlank)
    have hhead := head_dropWhile cs
    cases hleft : (cs.dropWhile isBlank).rdropWhile isBlank with
    | nil => rfl
    | cons c left =>
      rw [← hrest, hleft, List.cons_append, List.head?_cons] at hhead
      exact hhead
  · rw [List.rdropWhile, List.getLast?_reverse]
    exact head_dropWhile _

theorem trimmed_of_blanksAround (h : BlanksAround core cs) (hcore : IsTrimmed core) : trimmed cs = core := by
  obtain ⟨front, back, rfl, hfront, hback⟩ := h
  rw [List.all_eq_true] at hfront hback
  have hback' : ∀ c ∈ back.reverse, isBlank c = true := fun c hc => hback c (List.mem_reverse.mp hc)
  rw [trimmed, List.append_assoc, List.dropWhile_append_of_pos hfront]
  cases core with
  | nil =>
    rw [List.nil_append, List.dropWhile_eq_nil_iff.mpr hback]
    rfl
  | cons c rest =>
    have hhead : ((c :: rest) ++ back).head?.all (!isBlank ·) := hcore.1
    have hlast : (c :: rest).reverse.head?.all (!isBlank ·) := by
      rw [List.head?_reverse]
      exact hcore.2
    rw [dropWhile_of_head hhead, List.reverse_append, List.dropWhile_append_of_pos hback',
      dropWhile_of_head hlast, List.reverse_reverse]

/-! ## Texts -/

theorem toList_trim (s : String) : (trim s).toList = trimmed s.toList :=
  String.toList_ofList

theorem trim_of_blanksAround {v s : String} (h : BlanksAround s.toList v.toList) (hs : IsTrimmed s.toList) :
    trim v = s := by
  rw [trim, trimmed_of_blanksAround h hs, String.ofList_toList]

theorem trim_isEmpty_iff {s : String} : (trim s).isEmpty ↔ isBlankText s := by
  rw [String.isEmpty_iff, ← String.toList_eq_nil_iff, toList_trim, trimmed_eq_nil_iff, isBlankText]

end TextAnnotation.Text
