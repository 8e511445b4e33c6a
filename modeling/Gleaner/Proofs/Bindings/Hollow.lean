import Gleaner.Proofs.Bindings.Condition
import Gleaner.Run.Look

/-!
# Conditions with nothing to look at

Coercion leaves out the parts of conjunctions and disjunctions that are no conditions, at every
depth, and keeps the others in their order. It never refuses a list for what is in it, so a list
without a single usable part is kept as an empty one: a conjunction that always holds, or a
disjunction that never does.
-/

set_option autoImplicit false

namespace Gleaner.StateCondition

/-!
## Lists of parts
-/

mutual

/-- The lists of parts at every depth, outer ones first. -/
def lists : StateCondition → List (List StateCondition)
  | .allOf parts => parts :: listsAmong parts
  | .anyOf parts => parts :: listsAmong parts
  | _ => []

def listsAmong : List StateCondition → List (List StateCondition)
  | [] => []
  | part :: rest => lists part ++ listsAmong rest

end

/-- Whether an object with this one key lists parts. -/
def joins (key : String) : Bool :=
  ["and", "all_of", "or", "any_of"].contains key

mutual

/-- The lists of parts of a raw condition at every depth, outer ones first. An object with more
keys than one is no condition, so it is gone with all the lists in it. -/
def rawLists : Json → List (List Json)
  | .obj [(key, .arr items)] => if joins key then items :: rawListsAmong items else []
  | _ => []

def rawListsAmong : List Json → List (List Json)
  | [] => []
  | item :: rest => rawLists item ++ rawListsAmong rest

end

/-- Somewhere in the condition there is a conjunction or disjunction of nothing. -/
def Hollow (condition : StateCondition) : Prop :=
  [] ∈ condition.lists

theorem coerceAll_eq_filterMap (items : List Json) : coerceAll items = items.filterMap coerce? := by
  induction items with
  | nil => rfl
  | cons item rest ih =>
      rw [coerceAll, List.filterMap_cons, ih]
      cases coerce? item <;> rfl

theorem lists_ofText? {key text : String} {condition : StateCondition}
    (made : ofText? key text = some condition) : condition.lists = [] := by
  unfold ofText? at made
  split at made <;> cases made <;> rfl

theorem lists_ofThreshold? {key : String} {fields : Fields} {condition : StateCondition}
    (made : ofThreshold? key fields = some condition) : condition.lists = [] := by
  unfold ofThreshold? at made
  split at made
  · split at made
    · obtain ⟨count, -, rfl⟩ := Option.map_eq_some_iff.mp made
      rfl
    · cases made
  · cases made

theorem ofParts?_eq_some {key : String} {parts : List StateCondition} {condition : StateCondition}
    (made : ofParts? key parts = some condition) :
    joins key = true ∧ (condition = .allOf parts ∨ condition = .anyOf parts) := by
  unfold ofParts? at made
  split at made <;> cases made <;> exact ⟨rfl, by simp⟩

theorem joins_of_ofParts?_eq_none {key : String} {parts : List StateCondition}
    (refused : ofParts? key parts = none) : joins key = false := by
  unfold ofParts? at refused
  split at refused
  next => cases refused
  next => cases refused
  next => cases refused
  next => cases refused
  next noAnd noAllOf noOr noAnyOf =>
    simp only [joins, List.contains_eq_mem, List.mem_cons, List.not_mem_nil, or_false,
      decide_eq_false_iff_not, not_or]
    exact ⟨noAnd, noAllOf, noOr, noAnyOf⟩

/-!
## What coercion keeps of them
-/

/-- A condition without parts comes from a value without lists that count. -/
theorem lists_leaf {value : Json} (bare : rawLists value = [])
    (leaf : ∀ condition, coerce? value = some condition → condition.lists = []) :
    (coerce? value).elim [] lists = (rawLists value).map coerceAll := by
  rw [bare]
  cases made : coerce? value with
  | none => rfl
  | some condition => exact leaf condition made

mutual

/-- List by list, the parts of a coerced condition are the usable ones of the raw condition. -/
theorem lists_coerce? (value : Json) :
    (coerce? value).elim [] lists = (rawLists value).map coerceAll := by
  match value with
  | .null | .bool _ | .int _ | .float _ | .arr _ | .obj [] => rfl
  | .obj ((_, first) :: _ :: _) => cases first <;> rfl
  | .obj [(_, .null)] | .obj [(_, .bool _)] | .obj [(_, .int _)] | .obj [(_, .float _)] => rfl
  | .str text =>
      refine lists_leaf rfl fun condition made => ?_
      rw [coerce?] at made
      split at made <;> cases made
      rfl
  | .obj [(key, .str text)] =>
      refine lists_leaf rfl fun condition made => ?_
      rw [coerce?] at made
      split at made
      · cases made
        rfl
      · exact lists_ofText? made
  | .obj [(key, .obj fields)] =>
      refine lists_leaf rfl fun condition made => ?_
      rw [coerce?] at made
      exact lists_ofThreshold? made
  | .obj [(key, .arr items)] =>
      have inner := listsAmong_coerceAll items
      rw [coerce?, rawLists]
      cases made : ofParts? key (coerceAll items) with
      | none =>
          rw [joins_of_ofParts?_eq_none made]
          rfl
      | some condition =>
          obtain ⟨joined, whole⟩ := ofParts?_eq_some made
          rw [if_pos joined, List.map_cons, ← inner]
          rcases whole with rfl | rfl <;> rfl

theorem listsAmong_coerceAll (items : List Json) :
    listsAmong (coerceAll items) = (rawListsAmong items).map coerceAll := by
  match items with
  | [] => rfl
  | item :: rest =>
      have first := lists_coerce? item
      have others := listsAmong_coerceAll rest
      rw [coerceAll, rawListsAmong, List.map_append, ← first, ← others]
      cases coerce? item <;> rfl

end

/-!
## Conditions that are hollow
-/

/-- The lists of a coerced condition are those of the raw one, in the same order and each with its
usable parts. So the condition is hollow exactly if one of these lists has no usable part, and
when that is the outermost list, then it says nothing about any page: it holds always, or never. -/
theorem coerce?_hollow {value : Json} {condition : StateCondition}
    (made : coerce? value = some condition) :
    condition.lists = (rawLists value).map (List.filterMap coerce?) ∧
      (condition.Hollow ↔ ∃ items ∈ rawLists value, ∀ item ∈ items, coerce? item = none) ∧
      ∀ key items, value = .obj [(key, .arr items)] → (∀ item ∈ items, coerce? item = none) →
        (condition = .allOf [] ∧ ∀ (σ : Type) (host : Host σ) (session : Session σ),
          Interp.holds host condition session = (.ok true, session)) ∨
        (condition = .anyOf [] ∧ ∀ (σ : Type) (host : Host σ) (session : Session σ),
          Interp.holds host condition session = (.ok false, session)) := by
  have usable : coerceAll = List.filterMap coerce? := funext coerceAll_eq_filterMap
  have same : condition.lists = (rawLists value).map (List.filterMap coerce?) := by
    rw [← usable, ← lists_coerce? value, made]
    rfl
  refine ⟨same, ?_, fun key items shape unusable => ?_⟩
  · rw [Hollow, same, List.mem_map]
    simp only [List.filterMap_eq_nil_iff]
  · have empty : coerceAll items = [] := by
      rw [usable]
      exact List.filterMap_eq_nil_iff.mpr unusable
    rw [shape, coerce?, empty] at made
    obtain ⟨-, whole⟩ := ofParts?_eq_some made
    rcases whole with rfl | rfl
    · exact .inl ⟨rfl, fun _ _ _ => rfl⟩
    · exact .inr ⟨rfl, fun _ _ _ => rfl⟩

/-- A conjunction of a number, beside a selector in a disjunction. -/
theorem coerce?_hollow_inside :
    coerce? (.obj [("or", .arr [.obj [("and", .arr [.int 7])], .str " .end "])]) =
        some (.anyOf [.allOf [], .present ".end"]) ∧
      (anyOf [.allOf [], .present ".end"]).Hollow := by
  have made : coerce? (.obj [("or", .arr [.obj [("and", .arr [.int 7])], .str " .end "])]) =
      some (.anyOf [.allOf [], .present ".end"]) := rfl
  obtain ⟨-, hollow, -⟩ := coerce?_hollow made
  refine ⟨made, hollow.mpr ⟨[.int 7], ?_, List.forall_mem_singleton.mpr rfl⟩⟩
  exact List.mem_cons_of_mem _ List.mem_cons_self

/-- Lists of which every part is unusable are not dropped: they become conditions that always
hold and that never do, and so make a disjunction around them hold always. -/
theorem coerce?_empties :
    coerce? (.obj [("and", .arr [.int 7])]) = some (.allOf []) ∧
      coerce? (.obj [("or", .arr [.int 7])]) = some (.anyOf []) ∧
      coerce? (.obj [("or", .arr [.obj [("and", .arr [.int 7])]])]) = some (.anyOf [.allOf []]) ∧
      ∀ (σ : Type) (host : Host σ) (session : Session σ),
        Interp.holds host (.allOf []) session = (.ok true, session) ∧
          Interp.holds host (.anyOf []) session = (.ok false, session) ∧
          Interp.holds host (.anyOf [.allOf []]) session = (.ok true, session) :=
  ⟨rfl, rfl, rfl, fun _ _ _ => ⟨rfl, rfl, rfl⟩⟩

end Gleaner.StateCondition
