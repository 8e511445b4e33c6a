import Gleaner.Json.Merge
import Gleaner.Proofs.Json.Keyed

/-!
# Values in merged objects

What is found in an object after another one was merged into it: under each key the two values
merged, and at the end of a path of keys the value of the upper object, if it has one there, and
else that of the lower.
-/

set_option autoImplicit false

namespace Gleaner

namespace Json

theorem keyed_obj_iff {fields : Fields} :
    Keyed (.obj fields) ↔ (fields.map (·.1)).Nodup ∧ ∀ field ∈ fields, Keyed field.2 :=
  ⟨fun keyed => by cases keyed with | obj once each => exact ⟨once, each⟩,
    fun parts => .obj parts.1 parts.2⟩

theorem Keyed.put {fields : Fields} (keyed : Keyed (.obj fields)) (key : String) {value : Json}
    (valueKeyed : Keyed value) : Keyed (.obj (Entries.put key value fields)) := by
  obtain ⟨once, each⟩ := keyed_obj_iff.mp keyed
  refine .obj (Entries.nodup_put key value once) fun field found => ?_
  rcases Entries.mem_put found with rfl | kept
  · exact valueKeyed
  · exact each field kept

theorem Keyed.inner {fields inner : Fields} {key : String} (keyed : Keyed (.obj fields))
    (found : Entries.find? key fields = some (.obj inner)) : Keyed (.obj inner) :=
  (keyed_obj_iff.mp keyed).2 _ (Entries.mem_of_find? found)

end Json

namespace Fields

/-- The value under a key of merged objects. -/
def mergedAt (lower : Option Json) (upper : Json) : Json :=
  match lower with
  | some lower => Json.merge lower upper
  | none => upper

theorem merge_cons (key : String) (value : Json) (rest base : Fields) :
    merge base ((key, value) :: rest) =
      merge (Entries.put key (mergedAt (Entries.find? key base) value) base) rest := by
  rw [merge]
  cases Entries.find? key base <;> rfl

/-- What is under a key after a merge. -/
theorem find?_merge (key : String) (base : Fields) {updates : Fields}
    (once : (updates.map (·.1)).Nodup) :
    Entries.find? key (merge base updates) =
      match Entries.find? key updates with
      | some upper => some (mergedAt (Entries.find? key base) upper)
      | none => Entries.find? key base := by
  induction updates generalizing base with
  | nil => rfl
  | cons update rest ih =>
      obtain ⟨k, v⟩ := update
      obtain ⟨fresh, others⟩ := List.nodup_cons.mp once
      rw [merge_cons, ih _ others, Entries.find?_put, Entries.find?]
      by_cases same : k = key
      · subst same
        rw [Entries.find?_eq_none fresh]
        simp
      · simp only [if_neg same]

mutual

theorem keyed_mergedValue {lower : Json} (keyed : Json.Keyed lower) (upper : Json)
    (upperKeyed : Json.Keyed upper) : Json.Keyed (Json.merge lower upper) := by
  cases upper with
  | obj updates =>
      cases lower with
      | obj base => exact keyed_merge keyed updates upperKeyed
      | _ => exact upperKeyed
  | _ => exact upperKeyed

theorem keyed_merge {base : Fields} (keyed : Json.Keyed (.obj base)) (updates : Fields)
    (updatesKeyed : Json.Keyed (.obj updates)) : Json.Keyed (.obj (merge base updates)) := by
  cases updates with
  | nil => exact keyed
  | cons update rest =>
      obtain ⟨key, value⟩ := update
      obtain ⟨once, each⟩ := Json.keyed_obj_iff.mp updatesKeyed
      obtain ⟨valueKeyed, restKeyed⟩ := List.forall_mem_cons.mp each
      have there : Json.Keyed (mergedAt (Entries.find? key base) value) := by
        cases found : Entries.find? key base with
        | none => exact valueKeyed
        | some lower =>
            have lowerKeyed := (Json.keyed_obj_iff.mp keyed).2 _ (Entries.mem_of_find? found)
            exact keyed_mergedValue lowerKeyed value valueKeyed
      rw [merge_cons]
      exact keyed_merge (keyed.put key there) rest
        (Json.keyed_obj_iff.mpr ⟨(List.nodup_cons.mp once).2, restKeyed⟩)

end

/-- What stands at the end of a path of keys. -/
def at? : List String → Fields → Option Json
  | [], _ => none
  | [key], fields => Entries.find? key fields
  | key :: rest, fields =>
      match Entries.find? key fields with
      | some (.obj inner) => at? rest inner
      | _ => none

theorem at?_cons {key next : String} {rest : List String} (fields : Fields) :
    at? (key :: next :: rest) fields =
      match Entries.find? key fields with
      | some (.obj inner) => at? (next :: rest) inner
      | _ => none :=
  rfl

theorem at?_nil (path : List String) : at? path [] = none := by
  rcases path with _ | ⟨key, _ | ⟨next, rest⟩⟩ <;> rfl

/-- A value that is written at a path stands there. -/
theorem at?_putAt (value : Json) {path : List String} (leads : path ≠ []) :
    at? path (putAt value path []) = some value := by
  induction path with
  | nil => exact absurd rfl leads
  | cons key rest ih =>
      cases rest with
      | nil => exact if_pos rfl
      | cons next rest =>
          have inner := ih (List.cons_ne_nil next rest)
          have there : Entries.find? key (putAt value (key :: next :: rest) []) =
              some (.obj (putAt value (next :: rest) [])) := if_pos rfl
          rw [at?_cons, there]
          exact inner

/-- No value but an object stands in the way of a path. -/
def Clear : List String → Fields → Prop
  | [], _ => True
  | [_], _ => True
  | key :: rest, fields =>
      ∀ value, Entries.find? key fields = some value →
        ∃ inner, value = .obj inner ∧ Clear rest inner

theorem mergedAt_of_plain {lower : Option Json} {upper : Json}
    (plain : ∀ inner, mergedAt lower upper ≠ .obj inner) : mergedAt lower upper = upper := by
  cases lower with
  | none => rfl
  | some lower =>
      cases upper with
      | obj updates =>
          cases lower with
          | obj base => exact absurd rfl (plain (merge base updates))
          | _ => rfl
      | _ => rfl

/-- An object at the place of two merged values is the upper one, or both merged. -/
theorem mergedAt_eq_obj {lower : Option Json} {upper : Json} {inner : Fields}
    (same : mergedAt lower upper = .obj inner) :
    ∃ updates, upper = .obj updates ∧
      ((∃ base, lower = some (.obj base) ∧ inner = merge base updates) ∨
        (∀ base, lower ≠ some (.obj base)) ∧ inner = updates) := by
  cases upper with
  | obj updates =>
      refine ⟨updates, rfl, ?_⟩
      cases lower with
      | none =>
          cases same
          exact .inr ⟨fun _ there => (by cases there), rfl⟩
      | some lower =>
          cases lower with
          | obj base =>
              cases same
              exact .inl ⟨base, rfl, rfl⟩
          | _ =>
              cases same
              exact .inr ⟨fun _ there => (by cases there), rfl⟩
  | _ => cases lower <;> cases same

/-- What is at the end of a path after a merge. -/
theorem at?_merge {path : List String} {base updates : Fields}
    (keyed : Json.Keyed (.obj updates)) (clear : Clear path (merge base updates)) :
    at? path (merge base updates) =
      match at? path updates with
      | some upper => some (mergedAt (at? path base) upper)
      | none => at? path base := by
  induction path generalizing base updates with
  | nil => rfl
  | cons key rest ih =>
      have once := (Json.keyed_obj_iff.mp keyed).1
      cases rest with
      | nil => exact find?_merge key base once
      | cons next rest =>
          simp only [Clear, at?_cons, find?_merge key base once] at clear ⊢
          cases found : Entries.find? key updates with
          | none => rfl
          | some upper =>
              rw [found] at clear
              obtain ⟨inner, same, clear⟩ := clear _ rfl
              dsimp only
              rw [same]
              obtain ⟨upper, rfl, ⟨lower, there, rfl⟩ | ⟨nothing, rfl⟩⟩ := mergedAt_eq_obj same
              · rw [there]
                exact ih (keyed.inner found) clear
              · have blocked : (match Entries.find? key base with
                    | some (.obj inner) => at? (next :: rest) inner
                    | _ => none) = none := by
                  split
                  next lower there => exact absurd there (nothing lower)
                  next => rfl
                dsimp only
                rw [blocked]
                cases at? (next :: rest) inner <;> rfl

/-- If no object is at the end of a path, there is what the upper object has there, and else
what the lower one has. -/
theorem at?_merge_of_plain {path : List String} {base updates : Fields}
    (keyed : Json.Keyed (.obj updates)) (clear : Clear path (merge base updates))
    (plain : ∀ inner, at? path (merge base updates) ≠ some (.obj inner)) :
    at? path (merge base updates) = (at? path updates).or (at? path base) := by
  rw [at?_merge keyed clear] at plain ⊢
  cases found : at? path updates with
  | none => rfl
  | some upper =>
      rw [found] at plain
      exact congrArg some (mergedAt_of_plain fun inner same => plain inner (congrArg some same))

/-- What is in the way of a path in the upper object is in its way after the merge. -/
theorem Clear.of_merge {path : List String} {base updates : Fields}
    (keyed : Json.Keyed (.obj updates)) (clear : Clear path (merge base updates)) :
    Clear path updates := by
  induction path generalizing base updates with
  | nil => trivial
  | cons key rest ih =>
      cases rest with
      | nil => trivial
      | cons next rest =>
          intro value found
          have once := (Json.keyed_obj_iff.mp keyed).1
          simp only [Clear, find?_merge key base once, found] at clear
          obtain ⟨inner, same, further⟩ := clear _ rfl
          obtain ⟨upper, rfl, ⟨lower, -, rfl⟩ | ⟨-, rfl⟩⟩ := mergedAt_eq_obj same
          · exact ⟨upper, rfl, ih (keyed.inner found) further⟩
          · exact ⟨inner, rfl, further⟩

end Fields

end Gleaner
