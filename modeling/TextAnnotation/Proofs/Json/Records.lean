import TextAnnotation.Json.Decode

/-!
# What a member does to a record that is being read

A member may be unknown, may have been met before, or may have a value that fits the field or does not.
-/

namespace TextAnnotation.Json.Record

variable {δ : Type} {r : Record δ} {d : δ} {name : String} {t : Tree} {f : Field δ}

theorem readMembers_of_unknown (h : r.field? name = none) (hskip : t.skip = .ok ())
    (rest : List Member) : r.readMembers d ((.ok name, t) :: rest) = r.readMembers d rest := by
  simp only [readMembers, orFault, bind, Except.bind, h, hskip]

theorem readMembers_of_duplicate (h : r.field? name = some f) (hhas : f.has d = true)
    (rest : List Member) :
    r.readMembers d ((.ok name, t) :: rest) = .error (.duplicateField name) := by
  simp only [readMembers, orFault, bind, Except.bind, h, hhas, if_true]

theorem readMembers_of_field (h : r.field? name = some f) (hhas : f.has d = false)
    (rest : List Member) :
    r.readMembers d ((.ok name, t) :: rest) = (f.read t d).bind fun d => r.readMembers d rest := by
  simp only [readMembers, orFault, bind, Except.bind, h, hhas, Bool.false_eq_true, if_false]

theorem readMembers_of_read {d' : δ} (h : r.field? name = some f) (hhas : f.has d = false)
    (hread : f.read t d = .ok d') (rest : List Member) :
    r.readMembers d ((.ok name, t) :: rest) = r.readMembers d' rest := by
  rw [readMembers_of_field h hhas, hread]
  rfl

end TextAnnotation.Json.Record
