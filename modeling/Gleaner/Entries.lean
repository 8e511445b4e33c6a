/-!
# Entries

Lists of keyed values that keep the order in which keys first appeared. Objects, named
selectors, filters and stored records are all of this shape. Writing a key that is present
replaces its value in place; a new key goes to the end.
-/

set_option autoImplicit false

namespace Gleaner

/-- Values under text keys, in order of first appearance. -/
abbrev Entries (α : Type) := List (String × α)

namespace Entries

variable {α β : Type}

def find? (key : String) : Entries α → Option α
  | [] => none
  | (k, v) :: rest => if k = key then some v else find? key rest

def has (key : String) (entries : Entries α) : Bool :=
  (find? key entries).isSome

/-- Writes a key: in place when it is present, at the end otherwise. -/
def put (key : String) (value : α) : Entries α → Entries α
  | [] => [(key, value)]
  | (k, v) :: rest => if k = key then (k, value) :: rest else (k, v) :: put key value rest

def erase (key : String) (entries : Entries α) : Entries α :=
  entries.filter fun entry => entry.1 ≠ key

def keys (entries : Entries α) : List String :=
  entries.map (·.1)

def values (entries : Entries α) : List α :=
  entries.map (·.2)

def mapValues (f : α → β) (entries : Entries α) : Entries β :=
  entries.map fun entry => (entry.1, f entry.2)

/-- Writes every entry of the second list over the first. -/
def overlay (base updates : Entries α) : Entries α :=
  updates.foldl (fun acc entry => put entry.1 entry.2 acc) base

/-- Entries with each key once: the last value at the place of the first. -/
def ofPairs (pairs : List (String × α)) : Entries α :=
  overlay [] pairs

theorem find?_sizeOf_lt [SizeOf α] {key : String} {entries : Entries α} {value : α}
    (found : find? key entries = some value) : sizeOf value < sizeOf entries := by
  induction entries with
  | nil => simp [find?] at found
  | cons entry rest ih =>
      obtain ⟨k, v⟩ := entry
      simp only [find?] at found
      split at found
      · cases found; simp +arith
      · have := ih found
        simp +arith
        omega

theorem find?_put (key other : String) (value : α) (entries : Entries α) :
    find? other (put key value entries) =
      if key = other then some value else find? other entries := by
  induction entries with
  | nil => simp [put, find?]
  | cons entry rest ih =>
      obtain ⟨k, v⟩ := entry
      simp only [put]
      split
      · next same => subst same; simp only [find?]; split <;> simp_all
      · next differs =>
          simp only [find?, ih]
          split <;> split <;> simp_all

end Entries

end Gleaner
