import TextAnnotation.Proofs.Json.Lexing
import TextAnnotation.Json.Decode

/-!
# Reading what is spelt

* `Spells.reads`: a value that is spelt is read as it is meant, wherever it stands.
* `read_of_spells`: so is a whole text.
* `skip_of_spells`: one who passes over such a value meets no fault.
* `decode_of_spells`, `parse_of_spells`: what a decoder makes of such a text, and its value.
-/

namespace TextAnnotation.Json

/-- Reads on with the tokens behind a step. -/
def Progress.resume : Progress → List Token → Reading
  | .open expected stack, ts => build expected stack ts
  | .complete root, ts => ⟨root, !ts.isEmpty⟩
  | .faulty root, _ => ⟨root, false⟩

theorem build_cons (expected : Expected) (stack : List Frame) (t : Token) (ts : List Token) :
    build expected stack (t :: ts) = (advance expected stack t).resume ts := by
  rw [build]
  cases advance expected stack t <;> rfl

/-- A text is read as the value `t`, whatever is open in front of it and follows behind it. -/
def Reads (t : Tree) (cs : List Char) : Prop :=
  ∀ (first : Bool) (stack : List Frame) (rest : List Char), Delimited rest →
    build (.value first) stack (lex (cs ++ rest)) = (put t stack).resume (lex rest)

theorem reads_of_lex {t : Tree} {token : Token} {cs : List Char}
    (hlex : ∀ rest, Delimited rest → lex (cs ++ rest) = token :: lex rest)
    (hstep : ∀ first stack, stepValue first stack token = put t stack) : Reads t cs := by
  intro first stack rest hrest
  rw [hlex rest hrest, build_cons, advance, hstep]

theorem Reads.padded {t : Tree} {cs before after : List Char} (h : Reads t cs) (hbefore : Blanks before)
    (hafter : Blanks after) : Reads t (before ++ cs ++ after) := by
  intro first stack rest hrest
  have hread := h first stack (after ++ rest) (delimited_append hafter hrest)
  rw [lex_blanks hafter] at hread
  rw [List.append_assoc, List.append_assoc, lex_blanks hbefore, hread]

/-! ## Containers -/

theorem intercalate_comma_cons (x : List Char) (xs : List (List Char)) :
    [','].intercalate (x :: xs) = x ++ xs.flatMap (',' :: ·) := by
  induction xs generalizing x with
  | nil => simp
  | cons y ys ih => simp [ih]

/-- Behind an item or a member stands a comma or the closing bracket. -/
theorem delimited_further {close : Char} (hclose : close = ']' ∨ close = '}')
    (xs : List (List Char)) (rest : List Char) :
    Delimited (xs.flatMap (',' :: ·) ++ close :: rest) := by
  cases xs with
  | nil => exact delimited_cons (Or.inr hclose) rest
  | cons x xs => exact delimited_cons (Or.inl rfl) _

theorem build_comma_item (done : List Tree) (stack : List Frame) (cs : List Char) :
    build .more (.items done :: stack) (lex (',' :: cs)) =
      build (.value false) (.items done :: stack) (lex cs) := rfl

theorem build_closeArray (done : List Tree) (stack : List Frame) (cs : List Char) :
    build .more (.items done :: stack) (lex (']' :: cs)) =
      (put (.array done.reverse none) stack).resume (lex cs) := by
  rw [lex_closeArray, build_cons]
  rfl

theorem build_comma_member (done : List Member) (stack : List Frame) (cs : List Char) :
    build .more (.members done :: stack) (lex (',' :: cs)) =
      build (.name false) (.members done :: stack) (lex cs) := rfl

theorem build_closeObject (done : List Member) (stack : List Frame) (cs : List Char) :
    build .more (.members done :: stack) (lex ('}' :: cs)) =
      (put (.object done.reverse none) stack).resume (lex cs) := by
  rw [lex_closeObject, build_cons]
  rfl

/-- Further items behind those that are done, and the closing bracket. -/
theorem build_items {items : List (Tree × List Char)} (h : ∀ i ∈ items, Reads i.1 i.2)
    (done : List Tree) (stack : List Frame) (rest : List Char) :
    build .more (.items done :: stack)
        (lex ((items.map (·.2)).flatMap (',' :: ·) ++ ']' :: rest)) =
      (put (.array (done.reverse ++ items.map (·.1)) none) stack).resume (lex rest) := by
  induction items generalizing done with
  | nil =>
    rw [List.map_nil, List.map_nil, List.append_nil]
    exact build_closeArray done stack rest
  | cons i items ih =>
    have hitems := ih (fun j hj => h j (List.mem_cons_of_mem i hj)) (i.1 :: done)
    have hread := h i List.mem_cons_self false (.items done :: stack) _
      (delimited_further (Or.inl rfl) (items.map (·.2)) rest)
    rw [List.map_cons, List.flatMap_cons, List.append_assoc, List.cons_append, build_comma_item, hread]
    rw [List.reverse_cons, List.append_assoc] at hitems
    exact hitems

theorem reads_array {blanks : List Char} {items : List (Tree × List Char)} (hblanks : Blanks blanks)
    (h : ∀ i ∈ items, Reads i.1 i.2) :
    Reads (.array (items.map (·.1)) none)
      ('[' :: blanks ++ [','].intercalate (items.map (·.2)) ++ [']']) := by
  intro first stack rest hrest
  have hopen : ∀ cs, build (.value first) stack (lex ('[' :: blanks ++ cs)) =
      build (.value true) (.items [] :: stack) (lex cs) := by
    intro cs
    rw [← lex_blanks hblanks cs]
    rfl
  rw [List.append_assoc, List.append_assoc, hopen, List.singleton_append]
  cases items with
  | nil =>
    rw [List.map_nil, List.intercalate_nil, List.nil_append, lex_closeArray, build_cons]
    rfl
  | cons i items =>
    have hitems := build_items (fun j hj => h j (List.mem_cons_of_mem i hj)) [i.1] stack rest
    have hread := h i List.mem_cons_self true (.items [] :: stack) _
      (delimited_further (Or.inl rfl) (items.map (·.2)) rest)
    rw [List.map_cons, intercalate_comma_cons, List.append_assoc, hread]
    exact hitems

/-- The name of a member, the colon and the value. -/
theorem build_member {m : SpeltMember} (hm : m.Sound) (hread : Reads m.value m.text) (first : Bool)
    (done : List Member) (stack : List Frame) {rest : List Char} (hrest : Delimited rest) :
    build (.name first) (.members done :: stack) (lex (m.spelling ++ rest)) =
      build .more (.members (m.member :: done) :: stack) (lex rest) := by
  have hname : lex (m.spelling ++ rest) =
      .string (string? m.pieces) :: .colon :: lex (m.text ++ rest) := by
    have hassoc : m.spelling ++ rest =
        m.before ++ ('"' :: m.name ++ '"' :: (m.after ++ ':' :: (m.text ++ rest))) := by
      simp [SpeltMember.spelling]
    rw [hassoc, lex_blanks hm.before, lex_quoted hm.name, lex_blanks hm.after, lex_colon]
  have hvalue := hread false (.member done m.member.1 :: stack) rest hrest
  rw [hname, build_cons]
  exact hvalue

/-- Further members behind those that are done, and the closing brace. -/
theorem build_members {members : List SpeltMember} (hsound : ∀ m ∈ members, m.Sound)
    (h : ∀ m ∈ members, Reads m.value m.text) (done : List Member) (stack : List Frame)
    (rest : List Char) :
    build .more (.members done :: stack)
        (lex ((members.map SpeltMember.spelling).flatMap (',' :: ·) ++ '}' :: rest)) =
      (put (.object (done.reverse ++ members.map SpeltMember.member) none) stack).resume
        (lex rest) := by
  induction members generalizing done with
  | nil =>
    rw [List.map_nil, List.map_nil, List.append_nil]
    exact build_closeObject done stack rest
  | cons m members ih =>
    have hmembers := ih (fun j hj => hsound j (List.mem_cons_of_mem m hj))
      (fun j hj => h j (List.mem_cons_of_mem m hj)) (m.member :: done)
    have hread := build_member (hsound m List.mem_cons_self) (h m List.mem_cons_self) false done stack
      (delimited_further (Or.inr rfl) (members.map SpeltMember.spelling) rest)
    rw [List.map_cons, List.flatMap_cons, List.append_assoc, List.cons_append, build_comma_member, hread]
    rw [List.reverse_cons, List.append_assoc] at hmembers
    exact hmembers

theorem reads_object {blanks : List Char} {members : List SpeltMember} (hblanks : Blanks blanks)
    (hsound : ∀ m ∈ members, m.Sound) (h : ∀ m ∈ members, Reads m.value m.text) :
    Reads (.object (members.map SpeltMember.member) none)
      ('{' :: blanks ++ [','].intercalate (members.map SpeltMember.spelling) ++ ['}']) := by
  intro first stack rest hrest
  have hopen : ∀ cs, build (.value first) stack (lex ('{' :: blanks ++ cs)) =
      build (.name true) (.members [] :: stack) (lex cs) := by
    intro cs
    rw [← lex_blanks hblanks cs]
    rfl
  rw [List.append_assoc, List.append_assoc, hopen, List.singleton_append]
  cases members with
  | nil =>
    rw [List.map_nil, List.intercalate_nil, List.nil_append, lex_closeObject, build_cons]
    rfl
  | cons m members =>
    have hmembers := build_members (fun j hj => hsound j (List.mem_cons_of_mem m hj))
      (fun j hj => h j (List.mem_cons_of_mem m hj)) [m.member] stack rest
    have hread := build_member (hsound m List.mem_cons_self) (h m List.mem_cons_self) true [] stack
      (delimited_further (Or.inr rfl) (members.map SpeltMember.spelling) rest)
    rw [List.map_cons, intercalate_comma_cons, List.append_assoc, hread]
    exact hmembers

/-! ## Values -/

theorem Spells.reads {t : Tree} {cs : List Char} (h : Spells t cs) : Reads t cs := by
  induction h with
  | padded hbefore hafter _ ih => exact ih.padded hbefore hafter
  | null => exact reads_of_lex (fun rest _ => lex_null rest) fun _ _ => rfl
  | true => exact reads_of_lex (fun rest _ => lex_true rest) fun _ _ => rfl
  | false => exact reads_of_lex (fun rest _ => lex_false rest) fun _ _ => rfl
  | number hn => exact reads_of_lex (fun rest hrest => lex_numeral hn hrest) fun _ _ => rfl
  | @string cs ps hpieces =>
    have hlex : ∀ rest, Delimited rest →
        lex ('"' :: cs ++ ['"'] ++ rest) = .string (string? ps) :: lex rest := by
      intro rest _
      rw [List.append_assoc]
      exact lex_quoted hpieces rest
    exact reads_of_lex hlex fun _ _ => rfl
  | array hblanks _ ih => exact reads_array hblanks ih
  | object hblanks hsound _ ih => exact reads_object hblanks hsound ih

/-- The reader accepts every JSON text, and finds what it says. -/
theorem read_of_spells {t : Tree} {cs : List Char} (h : Spells t cs) : read cs = ⟨t, false⟩ := by
  have hread := h.reads false [] [] delimited_nil
  rw [List.append_nil] at hread
  exact hread

theorem skip_array (items : List Tree) : (Tree.array items none).skip = skipItems items := by
  rw [Tree.skip]
  cases skipItems items <;> rfl

theorem skip_object (members : List Member) :
    (Tree.object members none).skip = skipMembers members := by
  rw [Tree.skip]
  cases skipMembers members <;> rfl

theorem skipItems_eq_ok_iff {ts : List Tree} : skipItems ts = .ok () ↔ ∀ t ∈ ts, t.skip = .ok () := by
  induction ts with
  | nil => simp [skipItems]
  | cons t ts ih =>
    rw [skipItems, List.forall_mem_cons, ← ih]
    cases t.skip <;> simp [bind, Except.bind]

theorem skipMembers_eq_ok_iff {ms : List Member} :
    skipMembers ms = .ok () ↔ ∀ m ∈ ms, m.2.skip = .ok () := by
  induction ms with
  | nil => simp [skipMembers]
  | cons m ms ih =>
    rw [skipMembers, List.forall_mem_cons, ← ih]
    cases m.2.skip <;> simp [bind, Except.bind]

theorem skip_of_spells {t : Tree} {cs : List Char} (h : Spells t cs) : t.skip = .ok () := by
  induction h with
  | padded _ _ _ ih => exact ih
  | null | true | false | number _ | string _ => rfl
  | array _ _ ih =>
    rw [skip_array, skipItems_eq_ok_iff]
    exact List.forall_mem_map.mpr ih
  | object _ _ _ ih =>
    rw [skip_object, skipMembers_eq_ok_iff]
    exact List.forall_mem_map.mpr ih

theorem skip_member_of_spells {members : List Member} {cs : List Char}
    (h : Spells (.object members none) cs) : ∀ m ∈ members, m.2.skip = .ok () := by
  rw [← skipMembers_eq_ok_iff, ← skip_object]
  exact skip_of_spells h

/-- What a decoder makes of a JSON text. -/
theorem decode_of_spells {α : Type} (decoder : Tree → Except Error α) {t : Tree} {cs : List Char}
    (h : Spells t cs) : decode decoder cs = (decoder t).mapError Error.inText := by
  rw [decode, read_of_spells h]
  cases decoder t <;> rfl

/-- The value of a JSON text. -/
theorem parse_of_spells {t : Tree} {cs : List Char} (h : Spells t cs) :
    Value.parse cs = t.value maxDepth := by
  rw [Value.parse, read_of_spells h]
  cases t.value maxDepth <;> rfl

end TextAnnotation.Json
