import Gleaner.Entries
import Mathlib.Data.List.Forall2
import Mathlib.Data.List.Induction
import Mathlib.Data.List.Nodup

/-!
# What entries hold

`find?` is all that a list of entries is asked: what it finds after writes, in a part of the
list and in a list with other values. Two lists that go together entry by entry still do after
the same keys are written in both.
-/

set_option autoImplicit false

namespace Gleaner.Entries

variable {α β : Type}

/-!
## Finding
-/

theorem find?_eq_none {key : String} {entries : Entries α}
    (absent : key ∉ entries.map (·.1)) : find? key entries = none := by
  induction entries with
  | nil => rfl
  | cons entry rest ih =>
      obtain ⟨differs, others⟩ := not_or.mp (mt List.mem_cons.mpr absent)
      obtain ⟨k, v⟩ := entry
      rw [find?, if_neg (Ne.symm differs)]
      exact ih others

theorem mem_of_find? {key : String} {entries : Entries α} {value : α}
    (found : find? key entries = some value) : (key, value) ∈ entries := by
  induction entries with
  | nil => cases found
  | cons entry rest ih =>
      obtain ⟨k, v⟩ := entry
      rw [find?] at found
      split at found
      next same =>
        subst same
        cases found
        exact List.mem_cons_self
      next => exact List.mem_cons_of_mem _ (ih found)

/-- Of entries with each key once, a part that is chosen by the values has the value that is
found in all of them, if it is of the chosen ones. -/
theorem find?_filter (chosen : α → Bool) (key : String) {entries : Entries α}
    (once : (entries.map (·.1)).Nodup) :
    find? key (entries.filter fun entry => chosen entry.2) = (find? key entries).filter chosen := by
  induction entries with
  | nil => rfl
  | cons entry rest ih =>
      obtain ⟨k, v⟩ := entry
      obtain ⟨fresh, others⟩ := List.nodup_cons.mp once
      have rest := ih others
      rw [List.filter_cons]
      by_cases same : k = key
      · subst same
        rw [find?_eq_none fresh] at rest
        cases taken : chosen v <;> simp [find?, rest, Option.filter, taken]
      · cases taken : chosen v <;> simp [find?, same, rest]

theorem find?_erase (key other : String) (entries : Entries α) :
    find? other (erase key entries) = if key = other then none else find? other entries := by
  induction entries with
  | nil => exact (ite_self _).symm
  | cons entry rest ih =>
      obtain ⟨first, value⟩ := entry
      rw [erase] at ih
      rw [erase, List.filter_cons, find?]
      by_cases erased : first = key
      · subst erased
        simp only [ne_eq, not_true_eq_false, decide_false, Bool.false_eq_true, if_false, ih]
        split <;> rfl
      · simp only [ne_eq, erased, not_false_eq_true, decide_true, if_true, find?, ih]
        split
        next same => rw [if_neg fun back => erased (same.trans back.symm)]
        next => rfl

/-- What is written over a list is found first. -/
theorem find?_overlay (key : String) (base updates : Entries α) :
    find? key (overlay base updates) = (find? key (ofPairs updates)).or (find? key base) := by
  induction updates generalizing base with
  | nil => rfl
  | cons entry rest ih =>
      have written (base : Entries α) :
          find? key (overlay base (entry :: rest)) =
            (find? key (ofPairs rest)).or
              (if entry.1 = key then some entry.2 else find? key base) :=
        (ih (put entry.1 entry.2 base)).trans (by rw [find?_put])
      rw [ofPairs, written, written, Option.or_assoc]
      split <;> rfl

/-- Two lists with the same keys in the same order find the same, if they have the same value
wherever the key is the one that is looked for. -/
theorem find?_congr {key : String} {entries others : Entries α}
    (same : List.Forall₂ (fun entry other => entry.1 = other.1 ∧ (entry.1 = key → entry.2 = other.2))
      entries others) : find? key entries = find? key others := by
  induction same with
  | nil => rfl
  | @cons entry other _ _ first _ ih =>
      obtain ⟨k, v⟩ := entry
      obtain ⟨k', v'⟩ := other
      obtain ⟨rfl, values⟩ := first
      simp only [find?, ih]
      split
      next found => exact congrArg some (values found)
      next => rfl

/-!
## Keys
-/

theorem mem_put {key : String} {value : α} {entries : Entries α} {entry : String × α}
    (found : entry ∈ put key value entries) : entry = (key, value) ∨ entry ∈ entries := by
  induction entries with
  | nil => exact .inl (List.mem_singleton.mp found)
  | cons first rest ih =>
      obtain ⟨k, v⟩ := first
      rw [put] at found
      split at found
      next same =>
        subst same
        rcases List.mem_cons.mp found with written | kept
        · exact .inl written
        · exact .inr (List.mem_cons_of_mem _ kept)
      next =>
        rcases List.mem_cons.mp found with rfl | further
        · exact .inr List.mem_cons_self
        · exact (ih further).imp_right (List.mem_cons_of_mem _)

theorem nodup_put (key : String) (value : α) {entries : Entries α}
    (once : (entries.map (·.1)).Nodup) : ((put key value entries).map (·.1)).Nodup := by
  induction entries with
  | nil => exact List.nodup_singleton key
  | cons first rest ih =>
      obtain ⟨k, v⟩ := first
      obtain ⟨fresh, others⟩ := List.nodup_cons.mp once
      rw [put]
      split
      · exact once
      next differs =>
        refine List.nodup_cons.mpr ⟨fun again => ?_, ih others⟩
        obtain ⟨entry, found, same⟩ := List.mem_map.mp again
        rcases mem_put found with rfl | kept
        · exact differs same.symm
        · exact fresh (List.mem_map.mpr ⟨entry, kept, same⟩)

theorem mem_overlay {base updates : Entries α} {entry : String × α}
    (found : entry ∈ overlay base updates) : entry ∈ updates ∨ entry ∈ base := by
  induction updates generalizing base with
  | nil => exact .inr found
  | cons first rest ih =>
      rcases ih found with later | earlier
      · exact .inl (List.mem_cons_of_mem _ later)
      · rcases mem_put earlier with rfl | kept
        · exact .inl List.mem_cons_self
        · exact .inr kept

theorem nodup_overlay {base : Entries α} (updates : Entries α) (once : (base.map (·.1)).Nodup) :
    ((overlay base updates).map (·.1)).Nodup := by
  induction updates generalizing base with
  | nil => exact once
  | cons first rest ih => exact ih (nodup_put _ _ once)

theorem find?_of_mem {key : String} {value : α} {entries : Entries α}
    (once : (entries.map (·.1)).Nodup) (found : (key, value) ∈ entries) :
    find? key entries = some value := by
  induction entries with
  | nil => exact absurd found List.not_mem_nil
  | cons first rest ih =>
      obtain ⟨k, v⟩ := first
      obtain ⟨fresh, others⟩ := List.nodup_cons.mp once
      rw [find?]
      rcases List.mem_cons.mp found with same | kept
      · cases same
        rw [if_pos rfl]
      · rw [if_neg fun same => fresh (List.mem_map.mpr ⟨_, kept, same.symm⟩)]
        exact ih others kept

theorem has_iff {key : String} {entries : Entries α} :
    entries.has key = true ↔ key ∈ entries.map (·.1) := by
  induction entries with
  | nil => exact ⟨nofun, nofun⟩
  | cons entry rest ih =>
      obtain ⟨k, v⟩ := entry
      rw [List.map_cons, List.mem_cons, ← ih, has, has, find?]
      by_cases same : k = key
      · simp [same]
      · simp [same, Ne.symm same]

/-!
## Erasing
-/

theorem erase_of_absent {key : String} {entries : Entries α} (absent : key ∉ entries.map (·.1)) :
    erase key entries = entries := by
  refine List.filter_eq_self.mpr fun entry among => ?_
  have differs : entry.1 ≠ key := fun same => absent (same ▸ List.mem_map_of_mem among)
  exact decide_eq_true differs

/-- Of entries with each key once one is gone, if it was there. -/
theorem length_erase {key : String} {entries : Entries α} (once : (entries.map (·.1)).Nodup)
    (there : key ∈ entries.map (·.1)) : (erase key entries).length + 1 = entries.length := by
  induction entries with
  | nil => cases there
  | cons entry rest ih =>
      obtain ⟨fresh, others⟩ := List.nodup_cons.mp once
      rw [erase, List.filter_cons]
      by_cases same : entry.1 = key
      · subst same
        have kept := erase_of_absent fresh
        rw [erase] at kept
        rw [if_neg (by simp), kept]
        rfl
      · have further : key ∈ rest.map (·.1) := (List.mem_cons.mp there).resolve_left (Ne.symm same)
        rw [if_pos (decide_eq_true same), List.length_cons, List.length_cons]
        exact congrArg (· + 1) (ih others further)

/-- Entries without some keys, one of which is taken away first. -/
theorem filter_erase (key : String) (keys : List String) (entries : Entries α) :
    (erase key entries).filter (·.1 ∉ keys) = entries.filter (·.1 ∉ key :: keys) := by
  rw [erase, List.filter_filter]
  refine List.filter_congr fun entry _ => ?_
  simp only [List.mem_cons, not_or, Bool.decide_and, Bool.and_comm]

/-!
## Writing a second time
-/

theorem put_eq_self {key : String} {value : α} {entries : Entries α}
    (found : find? key entries = some value) : put key value entries = entries := by
  induction entries with
  | nil => cases found
  | cons entry rest ih =>
      obtain ⟨k, v⟩ := entry
      rw [find?] at found
      rw [put]
      split at found
      next same =>
        cases found
        rw [if_pos same]
      next differs => rw [if_neg differs, ih found]

theorem overlay_eq_self {base updates : Entries α}
    (there : ∀ entry ∈ updates, find? entry.1 base = some entry.2) :
    overlay base updates = base := by
  induction updates with
  | nil => rfl
  | cons entry rest ih =>
      obtain ⟨first, others⟩ := List.forall_mem_cons.mp there
      rw [overlay, List.foldl_cons, put_eq_self first]
      exact ih others

theorem has_put {key other : String} (value : α) {entries : Entries α}
    (there : entries.has key = true) : (put other value entries).has key = true := by
  rw [has, find?_put]
  split
  · rfl
  · exact there

theorem has_overlay {key : String} {base : Entries α} (updates : Entries α)
    (there : base.has key = true) : (overlay base updates).has key = true := by
  induction updates generalizing base with
  | nil => exact there
  | cons entry rest ih => exact ih (has_put entry.2 there)

theorem has_overlay_of_mem {entry : String × α} {updates : Entries α} (among : entry ∈ updates)
    (base : Entries α) : (overlay base updates).has entry.1 = true := by
  induction updates generalizing base with
  | nil => cases among
  | cons first rest ih =>
      rcases List.mem_cons.mp among with rfl | later
      · refine has_overlay rest ?_
        rw [has, find?_put, if_pos rfl]
        rfl
      · exact ih later _

theorem put_put (key : String) (value earlier : α) (entries : Entries α) :
    put key value (put key earlier entries) = put key value entries := by
  induction entries with
  | nil => simp [put]
  | cons entry rest ih =>
      obtain ⟨k, v⟩ := entry
      by_cases same : k = key
      · simp [put, same]
      · simp [put, same, ih]

/-- Two keys may be written in either order, if the one is there already. -/
theorem put_comm {key other : String} (differs : key ≠ other) {entries : Entries α}
    (there : entries.has other = true) (value part : α) :
    put key value (put other part entries) = put other part (put key value entries) := by
  induction entries with
  | nil => cases there
  | cons entry rest ih =>
      obtain ⟨k, v⟩ := entry
      by_cases first : k = other
      · simp [put, first, differs.symm]
      · rw [has, find?, if_neg first] at there
        by_cases same : k = key
        · simp [put, same, differs]
        · simp [put, same, first, ih there]

/-- A value that is written over in the end may as well not have been written. -/
theorem put_overlay_put (key : String) (value earlier : α) {entries updates : Entries α}
    (there : ∀ entry ∈ updates, entries.has entry.1 = true) :
    put key value (overlay (put key earlier entries) updates) =
      put key value (overlay entries updates) := by
  induction updates generalizing entries with
  | nil => exact put_put key value earlier entries
  | cons entry rest ih =>
      obtain ⟨here, others⟩ := List.forall_mem_cons.mp there
      show put key value (overlay (put entry.1 entry.2 (put key earlier entries)) rest) =
        put key value (overlay (put entry.1 entry.2 entries) rest)
      by_cases same : entry.1 = key
      · rw [← same, put_put]
      · rw [← put_comm (Ne.symm same) here]
        exact ih fun entry later => has_put _ (others entry later)

/-- Writing the same entries a second time changes nothing. -/
theorem overlay_overlay (base updates : Entries α) :
    overlay (overlay base updates) updates = overlay base updates := by
  induction updates using List.reverseRecOn with
  | nil => rfl
  | append_singleton rest entry ih =>
      have last (base : Entries α) :
          overlay base (rest ++ [entry]) = put entry.1 entry.2 (overlay base rest) :=
        List.foldl_append
      rw [last base, last, put_overlay_put _ _ _ fun _ among => has_overlay_of_mem among base, ih]

/-!
## Writing in two lists
-/

/-- The same keys in the same order, with values that go together. -/
abbrev Alike (together : α → β → Prop) (entries : Entries α) (others : Entries β) : Prop :=
  List.Forall₂ (fun entry other => entry.1 = other.1 ∧ together entry.2 other.2) entries others

theorem Alike.put {together : α → β → Prop} {entries : Entries α} {others : Entries β}
    (alike : Alike together entries others) (key : String) {value : α} {other : β}
    (values : together value other) :
    Alike together (Entries.put key value entries) (Entries.put key other others) := by
  induction alike with
  | nil => exact .cons ⟨rfl, values⟩ .nil
  | @cons entry _ _ _ first rest ih =>
      obtain ⟨k, v⟩ := entry
      obtain ⟨rfl, together⟩ := first
      simp only [Entries.put]
      split
      next => exact .cons ⟨rfl, values⟩ rest
      next => exact .cons ⟨rfl, together⟩ ih

theorem Alike.overlay {together : α → β → Prop} {base updates : Entries α}
    {otherBase otherUpdates : Entries β} (bases : Alike together base otherBase)
    (alike : Alike together updates otherUpdates) :
    Alike together (Entries.overlay base updates) (Entries.overlay otherBase otherUpdates) := by
  induction alike generalizing base otherBase with
  | nil => exact bases
  | @cons entry other _ _ first _ ih =>
      obtain ⟨k, v⟩ := entry
      obtain ⟨k', v'⟩ := other
      obtain ⟨rfl, values⟩ := first
      exact ih (bases.put _ values)

theorem Alike.mapValues {together : α → β → Prop} {write : β → α}
    (written : ∀ value, together (write value) value) (entries : Entries β) :
    Alike together (entries.mapValues write) entries := by
  induction entries with
  | nil => exact .nil
  | cons entry rest ih => exact .cons ⟨rfl, written entry.2⟩ ih

theorem Alike.find? {together : α → β → Prop} {entries : Entries α} {others : Entries β}
    (alike : Alike together entries others) {key : String} {other : β}
    (found : Entries.find? key others = some other) :
    ∃ value, Entries.find? key entries = some value ∧ together value other := by
  induction alike with
  | nil => cases found
  | @cons entry _ _ _ first _ ih =>
      obtain ⟨k, v⟩ := entry
      obtain ⟨rfl, values⟩ := first
      simp only [Entries.find?] at found ⊢
      split
      next same =>
        rw [if_pos same] at found
        cases found
        exact ⟨v, rfl, values⟩
      next differs =>
        rw [if_neg differs] at found
        exact ih found

theorem Alike.swap {together : α → β → Prop} {entries : Entries α} {others : Entries β}
    (alike : Alike together entries others) :
    Alike (fun other value => together value other) others entries := by
  induction alike with
  | nil => exact .nil
  | cons first _ ih => exact .cons ⟨first.1.symm, first.2⟩ ih

theorem Alike.trans {γ : Type} {first : α → β → Prop} {second : β → γ → Prop}
    {both : α → γ → Prop} {entries : Entries α} {others : Entries β} {parts : Entries γ}
    (alike : Alike first entries others) (further : Alike second others parts)
    (compose : ∀ value other part, first value other → second other part → both value part) :
    Alike both entries parts := by
  induction alike generalizing parts with
  | nil =>
      cases further
      exact .nil
  | cons here _ ih =>
      cases further with
      | cons there rest =>
          exact .cons ⟨here.1.trans there.1, compose _ _ _ here.2 there.2⟩ (ih rest)

theorem Alike.exists_left {together : α → β → Prop} {entries : Entries α} {others : Entries β}
    (alike : Alike together entries others) {other : String × β} (among : other ∈ others) :
    ∃ entry ∈ entries, together entry.2 other.2 := by
  induction alike with
  | nil => cases among
  | cons first _ ih =>
      rcases List.mem_cons.mp among with rfl | later
      · exact ⟨_, List.mem_cons_self, first.2⟩
      · obtain ⟨entry, listed, values⟩ := ih later
        exact ⟨entry, List.mem_cons_of_mem _ listed, values⟩

end Gleaner.Entries
