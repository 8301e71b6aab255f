/-
Entries: values under keys, kept in the order in which the keys first came.

A key is found where it came first. Putting a value under a key that is there replaces the value
in its place; under a new key it goes to the end.
-/

namespace FrontDesk

/-- Values under keys, in order. -/
abbrev Entries (α : Type) := List (String × α)

namespace Entries

variable {α : Type}

/-- The value under a key. -/
def find? (es : Entries α) (key : String) : Option α := es.lookup key

/-- Whether there is a value under the key. -/
def has (es : Entries α) (key : String) : Bool := (es.find? key).isSome

/-- The entries with the value under the key. -/
def put (key : String) (value : α) : Entries α → Entries α
  | [] => [(key, value)]
  | (k, v) :: rest => if k == key then (k, value) :: rest else (k, v) :: put key value rest

/-- The entries with the value under the key, unless there is a value already. -/
def putNew (key : String) (value : α) (es : Entries α) : Entries α :=
  if es.has key then es else es ++ [(key, value)]

/-- The entries with nothing under the key. -/
def remove (es : Entries α) (key : String) : Entries α := es.filter fun e => e.1 != key

/-- The values. -/
def values (es : Entries α) : List α := es.map Prod.snd

/-- Entries from pairs in which a key may come more than once: it keeps its first place and its
last value. -/
def ofPairs (pairs : List (String × α)) : Entries α :=
  pairs.foldl (fun es (k, v) => put k v es) []

@[simp] theorem find?_nil (key : String) : find? ([] : Entries α) key = none := rfl

theorem find?_cons (e : String × α) (es : Entries α) (key : String) :
    find? (e :: es) key = if key == e.1 then some e.2 else find? es key := by
  obtain ⟨k, v⟩ := e
  simp only [find?, List.lookup_cons]
  split <;> simp_all

theorem find?_put (es : Entries α) (key k : String) (v : α) :
    (put key v es).find? k = if k = key then some v else es.find? k := by
  induction es with
  | nil => simp [put, find?_cons]
  | cons e rest ih =>
    obtain ⟨k', v'⟩ := e
    rw [put]
    by_cases h : k' = key
    · subst h
      by_cases hk : k = k' <;> simp [find?_cons, hk]
    · by_cases hk : k = k'
      · subst hk
        simp [find?_cons, h]
      · simp [find?_cons, h, hk, ih]

theorem find?_append (es es' : Entries α) (key : String) :
    find? (es ++ es') key = (es.find? key).or (es'.find? key) := by
  induction es with
  | nil => rfl
  | cons e rest ih =>
    rw [List.cons_append, find?_cons, find?_cons, ih]
    split <;> rfl

theorem find?_putNew (es : Entries α) (key k : String) (v : α) :
    (es.putNew key v).find? k = (es.find? k).or (if k = key then some v else none) := by
  unfold putNew has
  by_cases hk : k = key
  · subst hk
    cases h : es.find? k <;> simp [h, find?_append, find?_cons]
  · split <;> simp [hk, find?_append, find?_cons]

theorem find?_remove (es : Entries α) (key k : String) :
    (es.remove key).find? k = if k = key then none else es.find? k := by
  induction es with
  | nil => simp [remove]
  | cons e rest ih =>
    obtain ⟨k', v'⟩ := e
    rw [remove] at ih ⊢
    by_cases h : k' = key
    · subst h
      by_cases hk : k = k' <;> simp [find?_cons, hk] at ih ⊢ <;> simp [ih]
    · by_cases hk : k = k'
      · subst hk
        simp [find?_cons, h]
      · simp [find?_cons, h, hk, ih]

end Entries

end FrontDesk
