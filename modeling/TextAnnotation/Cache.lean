import TextAnnotation.Annotator
import TextAnnotation.Keyed

/-!
# Caches

A cache keeps values under keys up to a number of entries. One that may keep none is always empty. Which entries
give way where there is no room is left open.

* `Eviction`: a way of choosing the entries that stay; `Eviction.oldest` is one of them.
* `Cache.size_insert_le`: there are never more entries than there may be.
* `Cache.getOrInit`: the value of a key, which is made and kept if it is missing.
* `Annotator.createCached`: annotators that are made once for each key.
-/

namespace TextAnnotation

/-- A choice of the entries that stay whenever one is set, for the first time, the second time and so on. All of
them stay while there is room. -/
structure Eviction (α : Type) (capacity : Nat) where
  keep : Nat → List (String × α) → List (String × α)
  sublist : ∀ n entries, (keep n entries).Sublist entries
  length_le : ∀ n entries, (keep n entries).length ≤ capacity
  of_room : ∀ n {entries}, entries.length ≤ capacity → keep n entries = entries

/-- The oldest entries give way. -/
def Eviction.oldest (α : Type) (capacity : Nat) : Eviction α capacity where
  keep _ entries := entries.drop (entries.length - capacity)
  sublist _ _ := List.drop_sublist _ _
  length_le _ _ := by
    rw [List.length_drop]
    omega
  of_room _ _ h := by rw [Nat.sub_eq_zero_of_le h, List.drop_zero]

/-- Values under keys, the oldest entry first. -/
structure Cache (α : Type) where
  capacity : Nat
  eviction : Eviction α capacity
  /-- How often an entry was set. -/
  inserted : Nat
  entries : List (String × α)

namespace Cache

variable {α κ ε : Type} {capacity : Nat}

def defaultCapacity : UInt64 := 16

def empty (eviction : Eviction α capacity) : Cache α := ⟨capacity, eviction, 0, []⟩

def size (c : Cache α) : Nat := c.entries.length

def keys (c : Cache α) : List String := c.entries.map (·.1)

def get? (c : Cache α) (key : String) : Option α :=
  c.entries.lookup key

def invalidate (c : Cache α) (key : String) : Cache α :=
  { c with entries := c.entries.filter (·.1 != key) }

/-- Sets the value of a key. Where there is no room, some entries give way, perhaps the new one. -/
def insert (c : Cache α) (key : String) (a : α) : Cache α :=
  { c with
    inserted := c.inserted + 1
    entries := c.eviction.keep c.inserted ((c.invalidate key).entries ++ [(key, a)]) }

theorem get?_empty (eviction : Eviction α capacity) (key : String) :
    (empty eviction).get? key = none := rfl

theorem get?_invalidate (c : Cache α) (key k : String) :
    (c.invalidate key).get? k = if k = key then none else c.get? k := by
  obtain ⟨capacity, eviction, inserted, entries⟩ := c
  simp only [get?, invalidate]
  induction entries with
  | nil => simp
  | cons p rest ih =>
    obtain ⟨k', v⟩ := p
    rw [List.filter_cons, Keyed.lookup_cons_eq_ite]
    by_cases hkey : k' = key
    · subst hkey
      simp only [bne_self_eq_false, Bool.false_eq_true, if_false, ih]
      by_cases hk : k = k' <;> simp [hk]
    · simp only [bne_iff_ne, ne_eq, hkey, not_false_eq_true, if_true, Keyed.lookup_cons_eq_ite, ih]
      by_cases hk : k = k' <;> simp [hk, hkey]

theorem mem_invalidate {c : Cache α} {key : String} {p : String × α} :
    p ∈ (c.invalidate key).entries ↔ p ∈ c.entries ∧ p.1 ≠ key := by
  simp [invalidate, List.mem_filter]

theorem mem_of_get? {c : Cache α} {key : String} {a : α} (h : c.get? key = some a) :
    (key, a) ∈ c.entries := by
  obtain ⟨front, back, hentries, -⟩ := List.lookup_eq_some_iff.mp h
  rw [hentries]
  exact List.mem_append_right _ List.mem_cons_self

/-- Whatever a full cache gives up, it has nothing but the new entry and some of the old ones. -/
theorem mem_insert {c : Cache α} {key : String} {a : α} {p : String × α}
    (h : p ∈ (c.insert key a).entries) : p = (key, a) ∨ p ∈ c.entries ∧ p.1 ≠ key := by
  rcases List.mem_append.mp ((c.eviction.sublist _ _).subset h) with h | h
  · exact Or.inr (mem_invalidate.mp h)
  · exact Or.inl (List.mem_singleton.mp h)

theorem nodup_keys_invalidate {c : Cache α} (h : c.keys.Nodup) (key : String) :
    (c.invalidate key).keys.Nodup :=
  h.sublist (List.filter_sublist.map _)

theorem nodup_keys_insert {c : Cache α} (h : c.keys.Nodup) (key : String) (a : α) :
    (c.insert key a).keys.Nodup := by
  have hnew : (((c.invalidate key).entries ++ [(key, a)]).map Prod.fst).Nodup := by
    rw [List.map_append, List.map_singleton, List.nodup_append]
    refine ⟨nodup_keys_invalidate h key, List.pairwise_singleton _ _, ?_⟩
    intro k hk k' hk'
    obtain ⟨p, hp, rfl⟩ := List.mem_map.mp hk
    rw [List.mem_singleton.mp hk']
    exact (mem_invalidate.mp hp).2
  exact hnew.sublist ((c.eviction.sublist _ _).map _)

theorem size_insert_le (c : Cache α) (key : String) (a : α) : (c.insert key a).size ≤ c.capacity :=
  c.eviction.length_le _ _

theorem insert_of_room {c : Cache α} {key : String} (a : α)
    (hroom : (c.invalidate key).entries.length < c.capacity) :
    c.insert key a =
      { c with inserted := c.inserted + 1, entries := (c.invalidate key).entries ++ [(key, a)] } := by
  have hlength : ((c.invalidate key).entries ++ [(key, a)]).length ≤ c.capacity := by
    rwa [List.length_append, List.length_singleton]
  rw [insert, c.eviction.of_room _ hlength]

theorem get?_insert_of_room {c : Cache α} {key : String} (a : α)
    (hroom : (c.invalidate key).entries.length < c.capacity) (k : String) :
    (c.insert key a).get? k = if k = key then some a else c.get? k := by
  have hrest := get?_invalidate c key k
  rw [get?] at hrest
  rw [insert_of_room a hroom, get?, List.lookup_append, hrest,
    show [(key, a)] = (key, a) :: [] from rfl, Keyed.lookup_cons_eq_ite]
  by_cases hk : k = key
  · simp [hk]
  · simp [hk]

/-- The value of a key. If it is missing it is made and kept; a failure leaves the cache as it was. -/
def getOrInit (c : Cache α) (key : String) (init : Traced κ ε α) : Traced κ ε α × Cache α :=
  match c.get? key with
  | some a => (Traced.pure a, c)
  | none =>
    match init.result with
    | .ok a => (init, c.insert key a)
    | .error _ => (init, c)

theorem getOrInit_of_hit {c : Cache α} {key : String} {a : α} (h : c.get? key = some a)
    (init : Traced κ ε α) : c.getOrInit key init = (Traced.pure a, c) := by
  rw [getOrInit, h]

theorem getOrInit_of_ok {c : Cache α} {key : String} {init : Traced κ ε α} {a : α}
    (h : c.get? key = none) (ha : init.result = .ok a) :
    c.getOrInit key init = (init, c.insert key a) := by
  simp only [getOrInit, h, ha]

theorem getOrInit_of_error {c : Cache α} {key : String} {init : Traced κ ε α} {e : ε}
    (h : c.get? key = none) (he : init.result = .error e) : c.getOrInit key init = (init, c) := by
  simp only [getOrInit, h, he]

theorem capacity_getOrInit (c : Cache α) (key : String) (init : Traced κ ε α) :
    (c.getOrInit key init).2.capacity = c.capacity := by
  unfold getOrInit
  split
  · rfl
  · split <;> rfl

theorem nodup_keys_getOrInit {c : Cache α} (h : c.keys.Nodup) (key : String)
    (init : Traced κ ε α) : (c.getOrInit key init).2.keys.Nodup := by
  unfold getOrInit
  split
  · exact h
  · split
    · exact nodup_keys_insert h _ _
    · exact h

/-- An entry of the cache behind a request was there before, or it is what the request has made. -/
theorem mem_getOrInit {c : Cache α} {key : String} {init : Traced κ ε α} {p : String × α}
    (h : p ∈ (c.getOrInit key init).2.entries) :
    p ∈ c.entries ∨ p.1 = key ∧ init.result = .ok p.2 := by
  cases hget : c.get? key with
  | some a =>
    rw [getOrInit_of_hit hget] at h
    exact Or.inl h
  | none =>
    cases hinit : init.result with
    | error e =>
      rw [getOrInit_of_error hget hinit] at h
      exact Or.inl h
    | ok a =>
      rw [getOrInit_of_ok hget hinit] at h
      rcases mem_insert h with rfl | ⟨hold, -⟩
      · exact Or.inr ⟨rfl, rfl⟩
      · exact Or.inl hold

theorem get?_getOrInit_of_room {c : Cache α} {key : String} (init : Traced κ ε α)
    (hroom : (c.invalidate key).entries.length < c.capacity) (k : String) :
    (c.getOrInit key init).2.get? k =
      if k = key then (c.get? key).or init.result.toOption else c.get? k := by
  cases hget : c.get? key with
  | some a =>
    rw [getOrInit_of_hit hget]
    split
    · next hk => rw [hk, hget, Option.some_or]
    · rfl
  | none =>
    cases hinit : init.result with
    | error e =>
      rw [getOrInit_of_error hget hinit]
      split
      · next hk => rw [hk, hget, Except.toOption, Option.or_none]
      · rfl
    | ok a =>
      rw [getOrInit_of_ok hget hinit, get?_insert_of_room a hroom]
      rfl

end Cache

def Annotator.createCached {α : Type} (make : Annotator → α) (cache : Cache α) (options : Options)
    (language : String) (catalog : Catalog) : Traced LoadRequest AnnotatorError α × Cache α :=
  cache.getOrInit (componentKey componentName options.model language) do
    let a ← create options language catalog
    return make a

end TextAnnotation
