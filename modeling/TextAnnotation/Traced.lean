/-!
# Outcomes with the requests made on the way

A step asks other parts of the program for something and succeeds or fails. What it asked for is known in
either case.

* `Traced`: an outcome and the requests, in order.
* `bind_of_ok`, `bind_of_error`: what becomes of both when steps follow each other.
-/

namespace TextAnnotation

/-- An outcome, together with the requests that were made on the way to it. -/
structure Traced (κ ε α : Type) where
  result : Except ε α
  calls : List κ

namespace Traced

variable {κ ε α β : Type}

def pure (a : α) : Traced κ ε α := ⟨.ok a, []⟩

def fail (e : ε) : Traced κ ε α := ⟨.error e, []⟩

/-- Goes on after a success. The requests of both steps are kept. -/
def bind (x : Traced κ ε α) (f : α → Traced κ ε β) : Traced κ ε β :=
  match x.result with
  | .error e => ⟨.error e, x.calls⟩
  | .ok a => ⟨(f a).result, x.calls ++ (f a).calls⟩

instance : Monad (Traced κ ε) where
  pure := pure
  bind := bind

@[simp] theorem result_pure (a : α) : (Pure.pure a : Traced κ ε α).result = .ok a := rfl

@[simp] theorem calls_pure (a : α) : (Pure.pure a : Traced κ ε α).calls = [] := rfl

theorem bind_of_ok {x : Traced κ ε α} {f : α → Traced κ ε β} {a : α} (h : x.result = .ok a) :
    x >>= f = ⟨(f a).result, x.calls ++ (f a).calls⟩ := by
  simp [Bind.bind, bind, h]

theorem bind_of_error {x : Traced κ ε α} {f : α → Traced κ ε β} {e : ε} (h : x.result = .error e) :
    x >>= f = ⟨.error e, x.calls⟩ := by
  simp [Bind.bind, bind, h]

theorem bind_pure (x : Traced κ ε α) : x >>= Pure.pure = x := by
  obtain ⟨result, calls⟩ := x
  cases result with
  | ok a =>
    rw [bind_of_ok rfl]
    simp
  | error e => rw [bind_of_error rfl]

theorem bind_return (x : Traced κ ε α) (f : α → β) :
    (x >>= fun a => Pure.pure (f a)) = ⟨x.result.map f, x.calls⟩ := by
  obtain ⟨result, calls⟩ := x
  cases result with
  | ok a =>
    rw [bind_of_ok rfl]
    simp [Except.map]
  | error e =>
    rw [bind_of_error rfl]
    rfl

theorem result_bind_of_ok {x : Traced κ ε α} {f : α → Traced κ ε β} {a : α} (h : x.result = .ok a) :
    (x >>= f).result = (f a).result := by
  rw [bind_of_ok h]

theorem result_bind_of_error {x : Traced κ ε α} {f : α → Traced κ ε β} {e : ε}
    (h : x.result = .error e) : (x >>= f).result = .error e := by
  rw [bind_of_error h]

theorem result_bind (x : Traced κ ε α) (f : α → Traced κ ε β) :
    (x >>= f).result = x.result >>= fun a => (f a).result := by
  cases h : x.result with
  | ok a => rw [bind_of_ok h]; rfl
  | error e => rw [bind_of_error h]; rfl

end Traced

end TextAnnotation
