/-
Properties of code points, kept as ranges in a search tree.

A table is written as a list of inclusive ranges in increasing order; the tree built from it halves
what is left at every step. `mem_of_find?` says that a look-up answers nothing the table does not.
-/

namespace FrontDesk.Text

/-- A search tree of disjoint inclusive ranges, each with a value. -/
inductive RangeTree (α : Type) where
  | leaf
  | node (left : RangeTree α) (first last : Nat) (value : α) (right : RangeTree α)

namespace RangeTree

variable {α : Type}

/-- The range that holds the code point: its first member and its value. -/
def find? : RangeTree α → Nat → Option (Nat × α)
  | leaf, _ => none
  | node left first last value right, c =>
    if c < first then left.find? c
    else if last < c then right.find? c
    else some (first, value)

/-- Whether some range holds the code point. -/
def contains (t : RangeTree α) (c : Nat) : Bool := (t.find? c).isSome

/-- A tree of at most the given depth from the front of the list, and what is left of the list. -/
def build : Nat → List (Nat × Nat × α) → RangeTree α × List (Nat × Nat × α)
  | 0, entries => (leaf, entries)
  | depth + 1, entries =>
    match build depth entries with
    | (left, []) => (left, [])
    | (left, (first, last, value) :: rest) =>
      match build depth rest with
      | (right, rest) => (node left first last value right, rest)

/-- The tree of a table. -/
def ofList (entries : List (Nat × Nat × α)) : RangeTree α :=
  (build (entries.length.log2 + 1) entries).1

/-- The tree of a table that tells members from others only. -/
def ofRanges (ranges : List (Nat × Nat)) : RangeTree Unit :=
  ofList (ranges.map fun (first, last) => (first, last, ()))

/-- The tree holds only ranges of the list. -/
def Within (entries : List (Nat × Nat × α)) : RangeTree α → Prop
  | leaf => True
  | node left first last value right =>
    left.Within entries ∧ (first, last, value) ∈ entries ∧ right.Within entries

theorem Within.mono {es fs : List (Nat × Nat × α)} (h : ∀ e ∈ es, e ∈ fs) :
    ∀ {t : RangeTree α}, t.Within es → t.Within fs
  | leaf, _ => trivial
  | node .., ⟨hl, hm, hr⟩ => ⟨hl.mono h, h _ hm, hr.mono h⟩

theorem build_within (depth : Nat) (entries : List (Nat × Nat × α)) :
    (build depth entries).1.Within entries ∧ ∀ e ∈ (build depth entries).2, e ∈ entries := by
  induction depth generalizing entries with
  | zero => exact ⟨trivial, fun _ h => h⟩
  | succ depth ih =>
    have hl := ih entries
    rw [build]
    generalize build depth entries = l at hl
    obtain ⟨left, rest⟩ := l
    cases rest with
    | nil => exact ⟨hl.1, by simp⟩
    | cons e rest =>
      obtain ⟨first, last, value⟩ := e
      have hr := ih rest
      have hsub : ∀ e ∈ rest, e ∈ entries := fun e he => hl.2 e (List.mem_cons_of_mem _ he)
      dsimp only
      generalize build depth rest = r at hr
      exact ⟨⟨hl.1, hl.2 _ List.mem_cons_self, hr.1.mono hsub⟩, fun e he => hsub e (hr.2 e he)⟩

theorem Within.find? {es : List (Nat × Nat × α)} {c first : Nat} {value : α} :
    ∀ {t : RangeTree α}, t.Within es → t.find? c = some (first, value) →
      ∃ last, (first, last, value) ∈ es ∧ first ≤ c ∧ c ≤ last
  | leaf, _, h => by simp [RangeTree.find?] at h
  | node _ a b _ _, ⟨hl, hm, hr⟩, h => by
    rw [RangeTree.find?] at h
    split at h
    · exact hl.find? h
    · split at h
      · exact hr.find? h
      · obtain ⟨rfl, rfl⟩ := Prod.mk.injEq .. ▸ Option.some.injEq .. ▸ h
        exact ⟨b, hm, by omega, by omega⟩

/-- What a look-up answers stands in the table. -/
theorem mem_of_find? {es : List (Nat × Nat × α)} {c first : Nat} {value : α}
    (h : (ofList es).find? c = some (first, value)) :
    ∃ last, (first, last, value) ∈ es ∧ first ≤ c ∧ c ≤ last :=
  (build_within _ es).1.find? h

end RangeTree

end FrontDesk.Text
