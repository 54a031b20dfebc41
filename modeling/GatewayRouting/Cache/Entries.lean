import GatewayRouting.Cache.Key

/-!
# Entries by key

The contents of a cache: at most one value for a key, in order of first insertion. Each operation
is described by what `find?` says afterwards.
-/

namespace GatewayRouting

/-- Values under keys. -/
abbrev Entries (α : Type) := List (Key × α)

namespace Entries

variable {α : Type}

/-- The value of a key. -/
def find? : Entries α → Key → Option α
  | [], _ => none
  | (k, value) :: entries, key => if k = key then some value else find? entries key

/-- Stores a value; a key that is there keeps its place. -/
def put : Entries α → Key → α → Entries α
  | [], key, value => [(key, value)]
  | (k, old) :: entries, key, value =>
    if k = key then (k, value) :: entries else (k, old) :: put entries key value

/-- Drops a key. -/
def remove (entries : Entries α) (key : Key) : Entries α :=
  entries.filter fun entry => entry.1 ≠ key

@[simp] theorem find?_put_self (entries : Entries α) (key : Key) (value : α) :
    (entries.put key value).find? key = some value := by
  induction entries with
  | nil => simp [put, find?]
  | cons entry entries ih =>
    obtain ⟨k, old⟩ := entry
    by_cases h : k = key
    · simp [put, find?, h]
    · simp [put, find?, h, ih]

theorem find?_put_of_ne (entries : Entries α) {key other : Key} (value : α) (h : other ≠ key) :
    (entries.put key value).find? other = entries.find? other := by
  induction entries with
  | nil => simp [put, find?, Ne.symm h]
  | cons entry entries ih =>
    obtain ⟨k, old⟩ := entry
    by_cases hk : k = key
    · subst hk
      simp [put, find?, Ne.symm h]
    · by_cases ho : k = other
      · subst ho
        simp [put, find?, h]
      · simp [put, find?, hk, ho, ih]

@[simp] theorem find?_remove_self (entries : Entries α) (key : Key) :
    (entries.remove key).find? key = none := by
  induction entries with
  | nil => rfl
  | cons entry entries ih =>
    obtain ⟨k, old⟩ := entry
    by_cases h : k = key
    · simpa [remove, h] using ih
    · simpa [remove, find?, h] using ih

theorem find?_remove_of_ne (entries : Entries α) {key other : Key} (h : other ≠ key) :
    (entries.remove key).find? other = entries.find? other := by
  induction entries with
  | nil => rfl
  | cons entry entries ih =>
    obtain ⟨k, old⟩ := entry
    by_cases hk : k = key
    · subst hk
      simpa [remove, find?, Ne.symm h] using ih
    · by_cases ho : k = other
      · subst ho
        simp [remove, find?, h]
      · simpa [remove, find?, hk, ho] using ih

end Entries

end GatewayRouting
