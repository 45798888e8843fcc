import Mathlib.Data.String.Basic
import TextAnnotation.Proofs.Json.Writing
import TextAnnotation.Proofs.Keyed.Ascending

/-!
# Reading back what is written on several lines

New lines and indentation are white space, so a value on several lines says the same as on one line.

* `spells_pretty`: what is written on several lines is JSON, and it is read back as from one line.
* `Value.Settled`: a value that comes back as it was from its tree, with its members in order.
* `settled_array`, `settled_object`: containers of such values are such values, if names are in order.
-/

namespace TextAnnotation.Json

theorem blanks_newline (level : Nat) : Blanks (newline level) := by
  intro c hc
  rcases List.mem_cons.mp hc with rfl | hc
  · rfl
  · rw [List.eq_of_mem_replicate hc]
    rfl

theorem Spells.indented {t : Tree} {cs : List Char} (h : Spells t cs) (level : Nat) :
    Spells t (newline level ++ cs) := by
  have hpadded := h.padded (blanks_newline level) blanks_nil
  rwa [List.append_nil] at hpadded

/-! ## Arrays and objects -/

theorem exists_spelt_items {level : Nat} {v : Value} {vs : List Value}
    (h : ∀ w ∈ v :: vs, Spells w.reread (w.prettyAt (level + 1))) :
    ∃ (first : Tree × List Char) (more : List (Tree × List Char)), (∀ i ∈ first :: more, Spells i.1 i.2) ∧
      (first :: more).map Prod.fst = (v :: vs).map Value.reread ∧
      newline (level + 1) ++ v.prettyAt (level + 1) ++ prettyItems level vs =
        first.2 ++ (more.map Prod.snd).flatMap (',' :: ·) ++ [']'] := by
  induction vs generalizing v with
  | nil =>
    have hv := (h v List.mem_cons_self).padded (blanks_newline (level + 1)) (blanks_newline level)
    exact ⟨(v.reread, newline (level + 1) ++ v.prettyAt (level + 1) ++ newline level), [], by simpa using hv,
      rfl, by simp [prettyItems]⟩
  | cons w vs ih =>
    obtain ⟨hv, hvs⟩ := List.forall_mem_cons.mp h
    obtain ⟨first, more, hspells, htrees, htext⟩ := ih hvs
    refine ⟨(v.reread, newline (level + 1) ++ v.prettyAt (level + 1)), first :: more,
      List.forall_mem_cons.mpr ⟨hv.indented _, hspells⟩, by rw [List.map_cons, htrees]; rfl, ?_⟩
    simp only [prettyItems, List.map_cons, List.flatMap_cons, List.append_assoc, List.cons_append] at htext ⊢
    rw [htext]

theorem exists_spelt_members {level : Nat} {m : String × Value} {ms : List (String × Value)}
    (h : ∀ n ∈ m :: ms, Spells n.2.reread (n.2.prettyAt (level + 1))) :
    ∃ (first : SpeltMember) (more : List SpeltMember), (∀ s ∈ first :: more, s.Sound) ∧
      (∀ s ∈ first :: more, Spells s.value s.text) ∧
      (first :: more).map SpeltMember.member = (m :: ms).map (fun n => (.ok n.1, n.2.reread)) ∧
      newline (level + 1) ++ quote m.1 ++ ':' :: ' ' :: m.2.prettyAt (level + 1) ++ prettyMembers level ms =
        first.spelling ++ (more.map SpeltMember.spelling).flatMap (',' :: ·) ++ ['}'] := by
  have hspace : Blanks [' '] := by decide
  induction ms generalizing m with
  | nil =>
    obtain ⟨ps, hps, hstring⟩ := exists_pieces_quote m.1
    have hv := (h m List.mem_cons_self).padded hspace (blanks_newline level)
    refine ⟨⟨ps, newline (level + 1), m.1.toList.flatMap escapeChar, [], m.2.reread,
      [' '] ++ m.2.prettyAt (level + 1) ++ newline level⟩, [], ?_, by simpa using hv, ?_, ?_⟩
    · simpa using SpeltMember.Sound.mk (blanks_newline (level + 1)) hps blanks_nil
    · simp [SpeltMember.member, hstring]
    · simp [SpeltMember.spelling, prettyMembers, quote]
  | cons n ms ih =>
    obtain ⟨hm, hms⟩ := List.forall_mem_cons.mp h
    obtain ⟨first, more, hsound, hspells, htrees, htext⟩ := ih hms
    obtain ⟨ps, hps, hstring⟩ := exists_pieces_quote m.1
    have hv := hm.padded hspace blanks_nil
    refine ⟨⟨ps, newline (level + 1), m.1.toList.flatMap escapeChar, [], m.2.reread,
      [' '] ++ m.2.prettyAt (level + 1) ++ []⟩, first :: more,
      List.forall_mem_cons.mpr ⟨⟨blanks_newline (level + 1), hps, blanks_nil⟩, hsound⟩,
      List.forall_mem_cons.mpr ⟨hv, hspells⟩, ?_, ?_⟩
    · rw [List.map_cons, htrees]
      simp [SpeltMember.member, hstring]
    · simp only [prettyMembers, List.map_cons, List.flatMap_cons, List.append_assoc, List.cons_append] at htext ⊢
      rw [htext]
      simp [SpeltMember.spelling, quote]

/-- A value on several lines says what it says on one line. -/
theorem spells_prettyAt (v : Value) (level : Nat) : Spells v.reread (v.prettyAt level) := by
  induction v using Value.induction generalizing level with
  | null => exact spells_reread .null
  | bool b => cases b <;> exact spells_reread (.bool _)
  | number n => exact spells_reread (.number n)
  | string s => exact spells_reread (.string s)
  | array vs ih =>
    cases vs with
    | nil => exact spells_reread (.array [])
    | cons v vs =>
      obtain ⟨first, more, hspells, htrees, htext⟩ := exists_spelt_items fun w hw => ih w hw (level + 1)
      have harray := Spells.array blanks_nil hspells
      rw [htrees, List.map_cons (l := more), intercalate_comma_cons] at harray
      rw [reread_array, Value.prettyAt]
      simp only [List.cons_append, List.nil_append] at harray htext ⊢
      rwa [htext]
  | object ms ih =>
    cases ms with
    | nil => exact spells_reread (.object [])
    | cons m ms =>
      obtain ⟨first, more, hsound, hspells, htrees, htext⟩ :=
        exists_spelt_members fun n hn => ih n hn (level + 1)
      have hobject := Spells.object blanks_nil hsound hspells
      rw [htrees, List.map_cons (l := more), intercalate_comma_cons] at hobject
      rw [reread_object, Value.prettyAt]
      simp only [List.cons_append, List.nil_append] at hobject htext ⊢
      rwa [htext]

theorem spells_pretty (v : Value) : Spells v.reread v.pretty :=
  spells_prettyAt v 0

/-! ## Values in order -/

/-- What is written is read back as the value that it was, if it stands in no more than a number of
containers. -/
structure Value.Settled (depth : Nat) (v : Value) : Prop where
  reread : v.reread = v.tree
  value : v.tree.value depth = .ok v

theorem Value.Exact.settled {v : Value} (h : v.Exact) (depth : Nat) : v.Settled depth :=
  ⟨h.reread, h.value depth⟩

theorem itemValues_itemTrees {vs : List Value} {depth : Nat} (h : ∀ v ∈ vs, v.tree.value depth = .ok v) :
    itemValues depth (itemTrees vs) = .ok vs := by
  induction vs with
  | nil => rfl
  | cons v vs ih =>
    obtain ⟨hv, hvs⟩ := List.forall_mem_cons.mp h
    simp only [itemTrees, itemValues, hv, ih hvs, bind, Except.bind]

theorem settled_array {vs : List Value} {depth : Nat} (h : ∀ v ∈ vs, v.Settled depth) :
    (Value.array vs).Settled (depth + 1) := by
  refine ⟨reread_array_eq_tree fun v hv => (h v hv).reread, ?_⟩
  rw [Value.tree, Tree.value, itemValues_itemTrees fun v hv => (h v hv).value]
  rfl

theorem settled_object {ms : List (String × Value)} {depth : Nat} (h : ∀ m ∈ ms, m.2.Settled depth)
    (hnames : Keyed.Ascending ms) : (Value.object ms).Settled (depth + 1) := by
  refine ⟨reread_object_eq_tree fun m hm => (h m hm).reread, ?_⟩
  rw [value_object fun m hm => (h m hm).value, Keyed.ofList_of_ascending hnames]

end TextAnnotation.Json
