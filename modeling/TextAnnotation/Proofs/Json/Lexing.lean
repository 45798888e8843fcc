import TextAnnotation.Proofs.Json.Grammar

/-!
# The tokens of what is spelt

* `lex_blanks`: white space between tokens has no effect.
* `lex_quoted`: a string between its quotes is one token, and it is the string that is spelt.
* `lex_numeral`: so is a number, if it is followed by something that cannot belong to it (`Delimited`).
-/

namespace TextAnnotation.Json

/-! ## White space and marks -/

theorem lex_cons_of_isSpace {c : Char} (h : isSpace c = true) (cs : List Char) :
    lex (c :: cs) = lex cs := by
  simp [lex, lexFrom, step, stepGap, h]

theorem lex_blanks {blanks : List Char} (h : Blanks blanks) (cs : List Char) :
    lex (blanks ++ cs) = lex cs := by
  induction blanks with
  | nil => rfl
  | cons c blanks ih =>
    have hc : isSpace c = true := h c List.mem_cons_self
    have hblanks : Blanks blanks := fun x hx => h x (List.mem_cons_of_mem c hx)
    rw [List.cons_append, lex_cons_of_isSpace hc, ih hblanks]

theorem lex_closeArray (cs : List Char) : lex (']' :: cs) = .closeArray :: lex cs := rfl

theorem lex_closeObject (cs : List Char) : lex ('}' :: cs) = .closeObject :: lex cs := rfl

theorem lex_colon (cs : List Char) : lex (':' :: cs) = .colon :: lex cs := rfl

theorem lex_null (cs : List Char) : lex ('n' :: 'u' :: 'l' :: 'l' :: cs) = .null :: lex cs := rfl

theorem lex_true (cs : List Char) : lex ('t' :: 'r' :: 'u' :: 'e' :: cs) = .bool true :: lex cs := rfl

theorem lex_false (cs : List Char) :
    lex ('f' :: 'a' :: 'l' :: 's' :: 'e' :: cs) = .bool false :: lex cs := rfl

/-! ## Strings -/

/-- What has been read of a string when a part of it is complete. -/
def QuoteReading.take (r : QuoteReading) : Piece → QuoteReading
  | .char c => r.push c
  | .unit u => r.pushUnit u

section Units

variable {text : List Char} {sound : Bool} {u v : Nat}

theorem pushUnit_of_isLow (h : IsLow u) :
    QuoteReading.pushUnit ⟨.plain, text, none, sound⟩ u = ⟨.plain, text, none, false⟩ := by
  simp [QuoteReading.pushUnit, h.1, h.2]

theorem pushUnit_of_isHigh (h : IsHigh u) :
    QuoteReading.pushUnit ⟨.plain, text, none, sound⟩ u = ⟨.plain, text, some u, sound⟩ := by
  have hlow : ¬0xDC00 ≤ u := by
    unfold IsHigh at h
    omega
  simp [QuoteReading.pushUnit, hlow, h.1, h.2]

theorem pushUnit_of_scalar (hhigh : ¬IsHigh u) (hlow : ¬IsLow u) :
    QuoteReading.pushUnit ⟨.plain, text, none, sound⟩ u =
      ⟨.plain, Char.ofNat u :: text, none, sound⟩ := by
  have hhigh' : (decide (0xD800 ≤ u) && decide (u ≤ 0xDBFF)) = false := by simpa [IsHigh] using hhigh
  have hlow' : (decide (0xDC00 ≤ u) && decide (u ≤ 0xDFFF)) = false := by simpa [IsLow] using hlow
  simp only [QuoteReading.pushUnit, hhigh', hlow', Bool.false_eq_true, if_false]

theorem pushUnit_of_pair (h : IsLow v) :
    QuoteReading.pushUnit ⟨.plain, text, some u, sound⟩ v =
      ⟨.plain, pairChar u v :: text, none, sound⟩ := by
  simp [QuoteReading.pushUnit, h.1, h.2, pairChar]

theorem pushUnit_of_no_pair (h : ¬IsLow v) :
    QuoteReading.pushUnit ⟨.plain, text, some u, sound⟩ v = ⟨.plain, text, none, false⟩ := by
  have hlow : (decide (0xDC00 ≤ v) && decide (v ≤ 0xDFFF)) = false := by simpa [IsLow] using h
  simp only [QuoteReading.pushUnit, hlow, Bool.false_eq_true, if_false]

end Units

/-- A part is complete when it has been taken up, and what has gone wrong stays so. -/
theorem take_plain (p : Piece) (text : List Char) (high : Option Nat) (sound : Bool) :
    ∃ text' high' sound', QuoteReading.take ⟨.plain, text, high, sound⟩ p =
      ⟨.plain, text', high', sound'⟩ ∧ (sound = false → sound' = false) := by
  cases p with
  | char c => exact ⟨_, _, _, rfl, fun h => by rw [h, Bool.false_and]⟩
  | unit u =>
    cases high with
    | some v =>
      by_cases hlow : IsLow u
      · exact ⟨_, _, _, pushUnit_of_pair hlow, id⟩
      · exact ⟨_, _, _, pushUnit_of_no_pair hlow, fun _ => rfl⟩
    | none =>
      by_cases hlow : IsLow u
      · exact ⟨_, _, _, pushUnit_of_isLow hlow, fun _ => rfl⟩
      · by_cases hhigh : IsHigh u
        · exact ⟨_, _, _, pushUnit_of_isHigh hhigh, id⟩
        · exact ⟨_, _, _, pushUnit_of_scalar hhigh hlow, id⟩

theorem escaped?_of_mem_letters {e c : Char} (h : (e, c) ∈ letters) : e ≠ 'u' ∧ escaped? e = some c := by
  simp only [letters, List.mem_cons, List.not_mem_nil, or_false, Prod.mk.injEq] at h
  rcases h with ⟨rfl, rfl⟩ | ⟨rfl, rfl⟩ | ⟨rfl, rfl⟩ | ⟨rfl, rfl⟩ | ⟨rfl, rfl⟩ | ⟨rfl, rfl⟩ |
    ⟨rfl, rfl⟩ | ⟨rfl, rfl⟩ <;> exact ⟨by decide, rfl⟩

/-- Four digits of a code unit. -/
theorem lexFrom_unit {a b c d : Char} {u : Nat} (h : codeUnit? a b c d = some u) {r : QuoteReading}
    (cs : List Char) :
    lexFrom (.quote { r with stage := .unit 0 0 }) (a :: b :: c :: d :: cs) =
      lexFrom (.quote (r.pushUnit u)) cs := by
  simp only [codeUnit?, Option.bind_eq_bind, Option.bind_eq_some_iff, Option.some.injEq] at h
  obtain ⟨i, hi, j, hj, k, hk, l, hl, rfl⟩ := h
  simp [lexFrom, step, stepQuote, hi, hj, hk, hl, QuoteReading.pushUnit]

/-- Reading a string takes up its parts one by one. -/
theorem lexFrom_pieces {cs : List Char} {ps : List Piece} (h : Pieces cs ps) (text : List Char)
    (high : Option Nat) (sound : Bool) (rest : List Char) :
    lexFrom (.quote ⟨.plain, text, high, sound⟩) (cs ++ '"' :: rest) =
      (ps.foldl QuoteReading.take ⟨.plain, text, high, sound⟩).token :: lex rest := by
  induction h generalizing text high sound with
  | nil => rfl
  | @plain c cs ps hquote hslash hsmall _ ih =>
    have hstep : step (.quote ⟨.plain, text, high, sound⟩) c (cs ++ '"' :: rest) =
        ⟨[], some (.quote (QuoteReading.push ⟨.plain, text, high, sound⟩ c))⟩ := by
      simp [step, stepQuote, hquote, hslash, Nat.not_lt.mpr hsmall]
    rw [List.cons_append, lexFrom, hstep]
    exact ih _ _ _
  | @letter e c cs ps hletter _ ih =>
    obtain ⟨hu, he⟩ := escaped?_of_mem_letters hletter
    have hstep : ∀ ds, lexFrom (.quote ⟨.plain, text, high, sound⟩) ('\\' :: e :: ds) =
        lexFrom (.quote (QuoteReading.push ⟨.plain, text, high, sound⟩ c)) ds := by
      intro ds
      simp [lexFrom, step, stepQuote, hu, he, QuoteReading.push]
    rw [List.cons_append, List.cons_append, hstep]
    exact ih _ _ _
  | @unit a b c d u cs ps hunit _ ih =>
    have hescape : ∀ ds, lexFrom (.quote ⟨.plain, text, high, sound⟩) ('\\' :: 'u' :: ds) =
        lexFrom (.quote ⟨.unit 0 0, text, high, sound⟩) ds := by
      intro ds
      simp [lexFrom, step, stepQuote]
    have hstep := lexFrom_unit hunit (r := ⟨.plain, text, high, sound⟩) (cs ++ '"' :: rest)
    obtain ⟨text', high', sound', htake, -⟩ := take_plain (.unit u) text high sound
    rw [QuoteReading.take] at htake
    rw [htake] at hstep
    simp only [List.cons_append]
    rw [hescape, hstep, List.foldl_cons, QuoteReading.take, htake]
    exact ih text' high' sound'

theorem token_of_not_sound {r : QuoteReading} (h : r.sound = false) : r.token = .string none := by
  rw [QuoteReading.token, h]
  rfl

/-- A string that has gone wrong stays so. -/
theorem token_foldl_take_of_not_sound (ps : List Piece) (text : List Char) (high : Option Nat) :
    (ps.foldl QuoteReading.take ⟨.plain, text, high, false⟩).token = .string none := by
  induction ps generalizing text high with
  | nil => exact token_of_not_sound rfl
  | cons p ps ih =>
    obtain ⟨text', high', sound', htake, hsound⟩ := take_plain p text high false
    rw [List.foldl_cons, htake, hsound rfl]
    exact ih text' high'

/-- The string that has been read when all parts are complete, without a first half of a pair that waits
and with one. -/
theorem token_foldl_take (ps : List Piece) (text : List Char) :
    (ps.foldl QuoteReading.take ⟨.plain, text, none, true⟩).token =
        .string ((joined? ps).map fun cs => String.ofList (text.reverse ++ cs)) ∧
      ∀ u, IsHigh u → (ps.foldl QuoteReading.take ⟨.plain, text, some u, true⟩).token =
        .string ((joined? (.unit u :: ps)).map fun cs => String.ofList (text.reverse ++ cs)) := by
  induction ps generalizing text with
  | nil =>
    refine ⟨by simp [joined?, QuoteReading.token], fun u hu => ?_⟩
    simp [joined?, hu, QuoteReading.token]
  | cons p ps ih =>
    constructor
    · cases p with
      | char c =>
        have hrest := (ih (c :: text)).1
        simpa [QuoteReading.take, QuoteReading.push, joined?, Function.comp_def] using hrest
      | unit u =>
        rw [List.foldl_cons, QuoteReading.take]
        by_cases hlow : IsLow u
        · rw [pushUnit_of_isLow hlow, token_foldl_take_of_not_sound, joined?_of_isLow hlow]
          rfl
        · by_cases hhigh : IsHigh u
          · rw [pushUnit_of_isHigh hhigh]
            exact (ih text).2 u hhigh
          · rw [pushUnit_of_scalar hhigh hlow, (ih _).1, joined?_of_scalar hhigh hlow]
            simp [Function.comp_def]
    · intro u hu
      rw [List.foldl_cons]
      cases p with
      | char c =>
        have htake : QuoteReading.take ⟨.plain, text, some u, true⟩ (.char c) =
            ⟨.plain, c :: text, none, false⟩ := rfl
        rw [htake, token_foldl_take_of_not_sound]
        simp [joined?, hu]
      | unit v =>
        rw [QuoteReading.take]
        by_cases hlow : IsLow v
        · rw [pushUnit_of_pair hlow, (ih _).1]
          simp [joined?, hu, hlow, Function.comp_def]
        · rw [pushUnit_of_no_pair hlow, token_foldl_take_of_not_sound]
          simp [joined?, hu, hlow]

theorem lex_quoted {cs : List Char} {ps : List Piece} (h : Pieces cs ps) (rest : List Char) :
    lex ('"' :: cs ++ '"' :: rest) = .string (string? ps) :: lex rest := by
  have hopen : lex ('"' :: (cs ++ '"' :: rest)) =
      lexFrom (.quote ⟨.plain, [], none, true⟩) (cs ++ '"' :: rest) := rfl
  rw [List.cons_append, hopen, lexFrom_pieces h, (token_foldl_take ps []).1]
  rfl

/-! ## Numbers -/

/-- What cannot belong to a number in front of it: the end, white space, or a mark behind a value. -/
def Delimited (rest : List Char) : Prop :=
  ∀ c ∈ rest.head?, isSpace c = true ∨ c = ',' ∨ c = ']' ∨ c = '}'

theorem delimited_nil : Delimited [] := by
  intro c hc
  cases hc

theorem delimited_cons {c : Char} (h : c = ',' ∨ c = ']' ∨ c = '}') (cs : List Char) :
    Delimited (c :: cs) := by
  intro d hd
  obtain rfl : c = d := by simpa using hd
  exact Or.inr h

theorem delimited_append {blanks rest : List Char} (hblanks : Blanks blanks) (h : Delimited rest) :
    Delimited (blanks ++ rest) := by
  cases blanks with
  | nil => exact h
  | cons c blanks =>
    intro d hd
    obtain rfl : c = d := by simpa using hd
    exact Or.inl (hblanks c List.mem_cons_self)

theorem not_isDigit_of_delimiter {c : Char} (h : isSpace c = true ∨ c = ',' ∨ c = ']' ∨ c = '}') :
    c.isDigit = false ∧ c ≠ '.' ∧ c ≠ 'e' ∧ c ≠ 'E' := by
  simp only [isSpace, Bool.or_eq_true, beq_iff_eq] at h
  rcases h with (((rfl | rfl) | rfl) | rfl) | rfl | rfl | rfl <;> decide

theorem ne_of_isDigit {c d : Char} (hc : c.isDigit = true) (hd : d.isDigit = false) : c ≠ d := by
  rintro rfl
  rw [hc] at hd
  cases hd

theorem lexFrom_of_stay {r r' : NumeralReading} {c : Char} (h : r.move c = .stay r') (cs : List Char) :
    lexFrom (.numeral r) (c :: cs) = lexFrom (.numeral r') cs := by
  simp [lexFrom, step, stepNumeral, h]

/-- A number ends in front of what cannot belong to it. -/
theorem lexFrom_of_final {r : NumeralReading} (h : r.stage.final = true) {rest : List Char}
    (hrest : Delimited rest) : lexFrom (.numeral r) rest = r.token :: lex rest := by
  cases rest with
  | nil => rfl
  | cons c cs =>
    obtain ⟨hdigit, hpoint, he, hE⟩ := not_isDigit_of_delimiter (hrest c rfl)
    obtain ⟨stage, n⟩ := r
    have hleave : NumeralReading.move ⟨stage, n⟩ c = .leave := by
      cases stage with
      | zero | whole | fraction | power => simp [NumeralReading.move, hdigit, hpoint, he, hE]
      | sign | point | mark | powerSign => cases h
    simp [lexFrom, lex, step, stepNumeral, hleave]

/-- A stage in which digits are taken up as they come; `make` puts them into the number. -/
theorem lexFrom_digits {stage : NumeralStage} {make : List Char → Numeral}
    (hmove : ∀ done c, c.isDigit = true →
      NumeralReading.move ⟨stage, make done⟩ c = .stay ⟨stage, make (c :: done)⟩)
    {ds : List Char} (hds : ∀ c ∈ ds, c.isDigit = true) (done rest : List Char) :
    lexFrom (.numeral ⟨stage, make done⟩) (ds ++ rest) =
      lexFrom (.numeral ⟨stage, make (ds.reverse ++ done)⟩) rest := by
  induction ds generalizing done with
  | nil => rfl
  | cons d ds ih =>
    have hd := hmove done d (hds d List.mem_cons_self)
    rw [List.cons_append, lexFrom_of_stay hd, ih fun c hc => hds c (List.mem_cons_of_mem d hc),
      List.reverse_cons, List.append_assoc, List.singleton_append]

/-- Where a number without an exponent may end. -/
def NumeralStage.plain (stage : NumeralStage) : Prop :=
  stage = .zero ∨ stage = .whole ∨ stage = .fraction

theorem isSpace_of_isDigit {c : Char} (h : c.isDigit = true) : isSpace c = false := by
  have hne : ∀ d : Char, d.isDigit = false → c ≠ d := fun d hd => ne_of_isDigit h hd
  simp [isSpace, hne ' ' rfl, hne '\n' rfl, hne '\t' rfl, hne '\r' rfl]

/-- A first digit that is no zero starts a number. -/
theorem lex_digit {c : Char} (h : c.isDigit = true) (h0 : c ≠ '0') (cs : List Char) :
    lex (c :: cs) = lexFrom (.numeral ⟨.whole, ⟨false, [c], [], false, []⟩⟩) cs := by
  have hstep : stepGap c = ⟨[], some (.numeral ⟨.whole, ⟨false, [c], [], false, []⟩⟩)⟩ := by
    simp only [stepGap, isSpace_of_isDigit h, Bool.false_eq_true, if_false, h, if_true]
    split <;> first | exact absurd rfl h0 | rfl | cases h
  simp [lex, lexFrom, step, hstep]

/-- The sign and the digits in front of the point. -/
theorem lex_front {n : Numeral} (hn : n.Sound) (rest : List Char) :
    ∃ stage : NumeralStage, (stage = .zero ∨ stage = .whole) ∧ lex (n.minus ++ n.whole ++ rest) =
      lexFrom (.numeral ⟨stage, ⟨n.negative, n.whole.reverse, [], false, []⟩⟩) rest := by
  obtain ⟨negative, whole, fraction, lowered, power⟩ := n
  rcases hn.whole with hzero | ⟨d, ds, hwhole, hd, hdigits⟩
  · obtain rfl : whole = ['0'] := hzero
    refine ⟨.zero, Or.inl rfl, ?_⟩
    cases negative <;> rfl
  · obtain rfl : whole = d :: ds := hwhole
    let make (done : List Char) : Numeral := ⟨negative, done, [], false, []⟩
    have hmove : ∀ done c, c.isDigit = true →
        NumeralReading.move ⟨.whole, make done⟩ c = .stay ⟨.whole, make (c :: done)⟩ := by
      intro done c hc
      simp [NumeralReading.move, hc, make]
    have hdigit : d.isDigit = true := hdigits d List.mem_cons_self
    have hds : ∀ c ∈ ds, c.isDigit = true := fun c hc => hdigits c (List.mem_cons_of_mem d hc)
    have hrest := lexFrom_digits hmove hds [d] rest
    refine ⟨.whole, Or.inr rfl, ?_⟩
    cases negative with
    | false =>
      have hfirst := lex_digit hdigit hd (ds ++ rest)
      simpa [Numeral.minus] using hfirst.trans hrest
    | true =>
      have hsign : lex ('-' :: d :: (ds ++ rest)) =
          lexFrom (.numeral ⟨.sign, ⟨true, [], [], false, []⟩⟩) (d :: (ds ++ rest)) := rfl
      have hfirst : NumeralReading.move ⟨.sign, ⟨true, [], [], false, []⟩⟩ d =
          .stay ⟨.whole, ⟨true, [d], [], false, []⟩⟩ := by
        simp [NumeralReading.move, hd, hdigit]
      simpa [Numeral.minus] using hsign.trans ((lexFrom_of_stay hfirst _).trans hrest)

/-- The point and the digits behind it. -/
theorem lexFrom_decimals {n : Numeral} (hn : n.Sound) {stage : NumeralStage}
    (hstage : stage = .zero ∨ stage = .whole) (negative : Bool) (whole rest : List Char) :
    ∃ stage' : NumeralStage, stage'.plain ∧
      lexFrom (.numeral ⟨stage, ⟨negative, whole, [], false, []⟩⟩) (n.decimals ++ rest) =
        lexFrom (.numeral ⟨stage', ⟨negative, whole, n.fraction.reverse, false, []⟩⟩) rest := by
  have hdigits := hn.fraction
  cases hfraction : n.fraction with
  | nil =>
    refine ⟨stage, ?_, ?_⟩
    · rcases hstage with rfl | rfl
      · exact Or.inl rfl
      · exact Or.inr (Or.inl rfl)
    · rw [Numeral.decimals, hfraction]
      rfl
  | cons d ds =>
    rw [hfraction] at hdigits
    have hpoint : ∀ n : Numeral, NumeralReading.move ⟨stage, n⟩ '.' = .stay ⟨.point, n⟩ := by
      intro n
      rcases hstage with rfl | rfl <;> rfl
    have hfirst : NumeralReading.move ⟨.point, ⟨negative, whole, [], false, []⟩⟩ d =
        .stay ⟨.fraction, ⟨negative, whole, [d], false, []⟩⟩ := by
      simp [NumeralReading.move, hdigits d List.mem_cons_self]
    let make (done : List Char) : Numeral := ⟨negative, whole, done, false, []⟩
    have hmove : ∀ done c, c.isDigit = true →
        NumeralReading.move ⟨.fraction, make done⟩ c = .stay ⟨.fraction, make (c :: done)⟩ := by
      intro done c hc
      simp [NumeralReading.move, hc, make]
    have hrest := lexFrom_digits hmove (fun c hc => hdigits c (List.mem_cons_of_mem d hc)) [d] rest
    refine ⟨.fraction, Or.inr (Or.inr rfl), ?_⟩
    rw [Numeral.decimals, hfraction, List.cons_append, List.cons_append, lexFrom_of_stay (hpoint _),
      lexFrom_of_stay hfirst, hrest, List.reverse_cons]

/-- The mark, the sign and the digits of an exponent. -/
theorem lexFrom_power {n : Numeral} (hn : n.Sound) (hpower : n.power ≠ []) {stage : NumeralStage}
    (hstage : stage.plain) {mark : Char} (hmark : mark = 'e' ∨ mark = 'E') {sign : List Char}
    (hsign : Numeral.PowerSign n.lowered sign) (negative : Bool) (whole fraction rest : List Char) :
    lexFrom (.numeral ⟨stage, ⟨negative, whole, fraction, false, []⟩⟩)
        (mark :: sign ++ n.power ++ rest) =
      lexFrom (.numeral ⟨.power, ⟨negative, whole, fraction, n.lowered, n.power.reverse⟩⟩) rest := by
  obtain ⟨d, ds, hds⟩ := List.exists_cons_of_ne_nil hpower
  have hdigits : ∀ c ∈ d :: ds, c.isDigit = true := hds ▸ hn.power
  have hdigit : d.isDigit = true := hdigits d List.mem_cons_self
  have henter : ∀ n : Numeral, NumeralReading.move ⟨stage, n⟩ mark = .stay ⟨.mark, n⟩ := by
    intro n
    rcases hstage with rfl | rfl | rfl <;> rcases hmark with rfl | rfl <;> rfl
  -- the first digit may stand behind the mark or behind a sign
  have hbehind : ∀ (s : NumeralStage) (lowered : Bool), s = .mark ∨ s = .powerSign →
      lexFrom (.numeral ⟨s, ⟨negative, whole, fraction, lowered, []⟩⟩) (n.power ++ rest) =
        lexFrom (.numeral ⟨.power, ⟨negative, whole, fraction, lowered, n.power.reverse⟩⟩) rest := by
    intro s lowered hs
    have hfirst : NumeralReading.move ⟨s, ⟨negative, whole, fraction, lowered, []⟩⟩ d =
        .stay ⟨.power, ⟨negative, whole, fraction, lowered, [d]⟩⟩ := by
      rcases hs with rfl | rfl <;> simp [NumeralReading.move, hdigit]
    let make (done : List Char) : Numeral := ⟨negative, whole, fraction, lowered, done⟩
    have hmove : ∀ done c, c.isDigit = true →
        NumeralReading.move ⟨.power, make done⟩ c = .stay ⟨.power, make (c :: done)⟩ := by
      intro done c hc
      simp [NumeralReading.move, hc, make]
    have hrest := lexFrom_digits hmove (fun c hc => hdigits c (List.mem_cons_of_mem d hc)) [d] rest
    rw [hds, List.cons_append, lexFrom_of_stay hfirst, hrest, List.reverse_cons]
  rw [List.cons_append, List.cons_append, lexFrom_of_stay (henter _)]
  unfold Numeral.PowerSign at hsign
  split at hsign
  · next hlowered =>
    subst hsign
    have hminus : NumeralReading.move ⟨.mark, ⟨negative, whole, fraction, false, []⟩⟩ '-' =
        .stay ⟨.powerSign, ⟨negative, whole, fraction, true, []⟩⟩ := rfl
    rw [hlowered, List.append_assoc, List.singleton_append, lexFrom_of_stay hminus]
    exact hbehind .powerSign true (Or.inr rfl)
  · next hlowered =>
    rw [Bool.eq_false_iff.mpr hlowered]
    rcases hsign with rfl | rfl
    · exact hbehind .mark false (Or.inl rfl)
    · have hplus : NumeralReading.move ⟨.mark, ⟨negative, whole, fraction, false, []⟩⟩ '+' =
          .stay ⟨.powerSign, ⟨negative, whole, fraction, false, []⟩⟩ := rfl
      rw [List.append_assoc, List.singleton_append, lexFrom_of_stay hplus]
      exact hbehind .powerSign false (Or.inr rfl)

theorem token_of_final (n : Numeral) {stage : NumeralStage} (h : stage.final = true) :
    NumeralReading.token ⟨stage, ⟨n.negative, n.whole.reverse, n.fraction.reverse, n.lowered,
      n.power.reverse⟩⟩ = .number n.number? := by
  simp [NumeralReading.token, h]

theorem lex_numeral {n : Numeral} {cs : List Char} (h : n.Spells cs) {rest : List Char}
    (hrest : Delimited rest) : lex (cs ++ rest) = .number n.number? :: lex rest := by
  cases h with
  | plain hn hpower =>
    obtain ⟨stage, hstage, hfront⟩ := lex_front hn (n.decimals ++ rest)
    obtain ⟨stage', hstage', hdecimals⟩ :=
      lexFrom_decimals hn hstage n.negative n.whole.reverse rest
    have hfinal : stage'.final = true := by rcases hstage' with rfl | rfl | rfl <;> rfl
    have htoken := token_of_final n hfinal
    rw [hn.unsigned hpower, hpower, List.reverse_nil] at htoken
    rw [List.append_assoc, hfront, hdecimals, lexFrom_of_final hfinal hrest, htoken]
  | @scaled mark sign hn hpower hmark hsign =>
    obtain ⟨stage, hstage, hfront⟩ := lex_front hn (n.decimals ++ (mark :: sign ++ n.power ++ rest))
    obtain ⟨stage', hstage', hdecimals⟩ := lexFrom_decimals hn hstage n.negative n.whole.reverse
      (mark :: sign ++ n.power ++ rest)
    have hpowers := lexFrom_power hn hpower hstage' hmark hsign n.negative n.whole.reverse
      n.fraction.reverse rest
    have hassoc : n.minus ++ n.whole ++ n.decimals ++ mark :: sign ++ n.power ++ rest =
        n.minus ++ n.whole ++ (n.decimals ++ (mark :: sign ++ n.power ++ rest)) := by simp
    rw [hassoc, hfront, hdecimals, hpowers, lexFrom_of_final rfl hrest, token_of_final n rfl]

end TextAnnotation.Json
