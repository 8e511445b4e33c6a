import Gleaner.Proofs.Entries
import Gleaner.Proofs.Recipe.Tidy

/-!
# Lists that are tidy

What tidying makes of an entry is told by a relation beside it: what is no object becomes a short
wait, the lists of loops and choices are tidied in turn, and all other fields stay as they are, in
their order. A list that was tidied is tidy: tidying it once more changes nothing, so it is read
like the list that it was made from.
-/

set_option autoImplicit false

namespace Gleaner

namespace Tidy

mutual

/-- What becomes of an entry of a list of commands. -/
inductive Tidies : Json → Json → Prop where
  | pause {value : Json} : value.asFields? = none → Tidies value shortWait
  /-- The commands of a loop are put under `body`; those under `commands` stay where they are if
  there is a body as well. -/
  | loop {fields tidied : Fields} {items body : List Json} :
      fields.Tagged "FOR_EACH_ITEM_IN_LIST" ∨ fields.Tagged "REPEAT" →
      Manner.lenient.items? (Manner.lenient.body.value? fields) = some items →
      List.Forall₂ Tidies items body →
      Entries.find? "body" tidied = some (.arr body) →
      Entries.find? "commands" tidied =
        (if Entries.has "body" fields then Entries.find? "commands" fields else none) →
      tidied.filter (·.1 ∉ ["body", "commands"]) = fields.filter (·.1 ∉ ["body", "commands"]) →
      Tidies (.obj fields) (.obj tidied)
  | choice {fields tidied : Fields} :
      fields.Tagged "IF" →
      BranchTidies (Entries.find? "then" fields) (Entries.find? "then" tidied) →
      BranchTidies (Entries.find? "else" fields) (Entries.find? "else" tidied) →
      tidied.filter (·.1 ∉ ["then", "else"]) = fields.filter (·.1 ∉ ["then", "else"]) →
      Tidies (.obj fields) (.obj tidied)
  | plain {fields : Fields} :
      ¬fields.Tagged "FOR_EACH_ITEM_IN_LIST" → ¬fields.Tagged "REPEAT" → ¬fields.Tagged "IF" →
      Tidies (.obj fields) (.obj fields)

/-- What becomes of a branch of a choice: one that is missing stays so, and one that is no list
becomes empty. -/
inductive BranchTidies : Option Json → Option Json → Prop where
  | missing : BranchTidies none none
  | given {value : Json} {items tidied : List Json} :
      Manner.lenient.items? (some value) = some items → List.Forall₂ Tidies items tidied →
      BranchTidies (some value) (some (.arr tidied))

end

/-!
## Once
-/

theorem items?_lenient (value : Json) : Manner.lenient.items? (some value) = some value.items := by
  cases value <;> rfl

/-- Only what is under the keys and not tidy yet is changed. -/
theorem nestedFields_eq_self {keys : List String} {fields : Fields}
    (tidy : ∀ field ∈ fields, field.1 ∈ keys → Json.arr (commands field.2) = field.2) :
    nestedFields keys fields = fields := by
  induction fields with
  | nil => rw [nestedFields]
  | cons field rest ih =>
      obtain ⟨key, value⟩ := field
      obtain ⟨first, others⟩ := List.forall_mem_cons.mp tidy
      rw [nestedFields, ih others]
      by_cases nested : key ∈ keys
      · rw [if_pos (List.contains_iff_mem.mpr nested), first nested]
      · rw [if_neg fun contains => nested (List.contains_iff_mem.mp contains)]

section Loops

variable {fields : Fields}

theorem loop_of_body (there : Entries.has "body" fields = true) :
    loop fields = nestedFields ["body"] fields := by
  rw [loop, Shape.nested, if_pos there, Shape.settle, has_nestedFields, if_pos there]

theorem loop_of_commands {value : Json} (none : Entries.has "body" fields = false)
    (found : Entries.find? "commands" fields = some value) :
    loop fields =
      Entries.put "body" (.arr (commands value))
        (Entries.erase "commands" (nestedFields ["commands"] fields)) := by
  have tidied : Entries.find? "commands" (nestedFields ["commands"] fields) =
      some (.arr (commands value)) := by
    rw [find?_nestedFields, found]
    rfl
  rw [loop, Shape.nested, none, if_neg Bool.false_ne_true, Shape.settle, has_nestedFields, none,
    if_neg Bool.false_ne_true, tidied]

theorem loop_of_neither (none : Entries.has "body" fields = false)
    (missing : Entries.find? "commands" fields = .none) :
    loop fields = Entries.put "body" (.arr []) fields := by
  have same : nestedFields ["commands"] fields = fields := by
    refine nestedFields_eq_self fun field among named => ?_
    have listed : field.1 ∈ fields.map (·.1) := List.mem_map_of_mem among
    rw [List.mem_singleton.mp named, ← Entries.has_iff, Entries.has, missing] at listed
    cases listed
  rw [loop, Shape.nested, none, if_neg Bool.false_ne_true, same, Shape.settle, none,
    if_neg Bool.false_ne_true, missing]

end Loops

/-- The body of a loop is the list that was found for it, tidied. -/
theorem find?_loop_body (fields : Fields) :
    ∃ items, Manner.lenient.items? (Manner.lenient.body.value? fields) = some items ∧
      Entries.find? "body" (loop fields) = some (.arr (items.map entry)) := by
  rw [Manner.body, FieldName.value?_either]
  cases body : Entries.find? "body" fields with
  | some value =>
      have there : Entries.has "body" fields = true := by
        rw [Entries.has, body]
        rfl
      refine ⟨value.items, items?_lenient value, ?_⟩
      rw [loop_of_body there, find?_nestedFields, body, ← commands_eq_map]
      rfl
  | none =>
      have none : Entries.has "body" fields = false := by
        rw [Entries.has, body]
        rfl
      cases found : Entries.find? "commands" fields with
      | some value =>
          refine ⟨value.items, items?_lenient value, ?_⟩
          rw [loop_of_commands none found, Entries.find?_put, if_pos rfl, ← commands_eq_map]
      | none =>
          refine ⟨[], rfl, ?_⟩
          rw [loop_of_neither none found, Entries.find?_put, if_pos rfl]
          rfl

theorem find?_loop_commands (fields : Fields) :
    Entries.find? "commands" (loop fields) =
      if Entries.has "body" fields then Entries.find? "commands" fields else none := by
  cases there : Entries.has "body" fields with
  | true =>
      rw [loop_of_body there, find?_nestedFields, if_pos rfl]
      simp
  | false =>
      rw [if_neg Bool.false_ne_true]
      cases found : Entries.find? "commands" fields with
      | some value =>
          rw [loop_of_commands there found, Entries.find?_put, if_neg (by decide),
            Entries.find?_erase, if_pos rfl]
      | none => rw [loop_of_neither there found, Entries.find?_put, if_neg (by decide), found]

/-!
The fields under other keys are passed over by every step of tidying.
-/

theorem nestedFields_apart {keys others : List String} (among : ∀ key ∈ keys, key ∈ others)
    (fields : Fields) :
    (nestedFields keys fields).filter (·.1 ∉ others) = fields.filter (·.1 ∉ others) := by
  induction fields with
  | nil => rw [nestedFields]
  | cons field rest ih =>
      obtain ⟨key, value⟩ := field
      rw [nestedFields, List.filter_cons, List.filter_cons, ih]
      by_cases nested : key ∈ keys
      · have other := among key nested
        simp [other]
      · simp [nested]

theorem put_apart {key : String} {keys : List String} (among : key ∈ keys) (value : Json)
    (fields : Fields) :
    (Entries.put key value fields).filter (·.1 ∉ keys) = fields.filter (·.1 ∉ keys) := by
  induction fields with
  | nil => simp [Entries.put, among]
  | cons field rest ih =>
      obtain ⟨first, found⟩ := field
      rw [Entries.put]
      split
      next same =>
        subst same
        simp [among]
      next => rw [List.filter_cons, List.filter_cons, ih]

theorem erase_apart {key : String} {keys : List String} (among : key ∈ keys) (fields : Fields) :
    (Entries.erase key fields).filter (·.1 ∉ keys) = fields.filter (·.1 ∉ keys) := by
  rw [Entries.filter_erase]
  refine List.filter_congr fun field _ => ?_
  have same : field.1 ∈ key :: keys ↔ field.1 ∈ keys :=
    ⟨fun either => (List.mem_cons.mp either).elim (· ▸ among) id, List.mem_cons_of_mem key⟩
  simp only [same]

theorem loop_apart (fields : Fields) :
    (loop fields).filter (·.1 ∉ ["body", "commands"]) =
      fields.filter (·.1 ∉ ["body", "commands"]) := by
  cases there : Entries.has "body" fields with
  | true => rw [loop_of_body there, nestedFields_apart (by simp)]
  | false =>
      cases found : Entries.find? "commands" fields with
      | some value =>
          rw [loop_of_commands there found, put_apart (by simp), erase_apart (by simp),
            nestedFields_apart (by simp)]
      | none => rw [loop_of_neither there found, put_apart (by simp)]

theorem branchTidies {key : String} (nested : key ∈ ["then", "else"]) {fields : Fields}
    (ih : ∀ value, fields.Inside value → Tidies value (entry value)) :
    BranchTidies (Entries.find? key fields) (Entries.find? key (choice fields)) := by
  simp only [choice, find?_nestedFields, List.contains_iff_mem.mpr nested, if_true]
  cases found : Entries.find? key fields with
  | none => exact .missing
  | some value =>
      rw [Option.map_some, commands_eq_map]
      refine .given (items?_lenient value) (List.forall₂_map_right_iff.mpr ?_)
      refine List.forall₂_same.mpr fun item among => ih item ?_
      cases value with
      | arr items => exact .item found among
      | _ => cases among

theorem tidies_entry (value : Json) : Tidies value (entry value) := by
  induction value using Json.induction_inside with
  | other value other =>
      rw [entry_other other]
      exact .pause other
  | object fields ih =>
      cases shape : Shape.of fields with
      | plain =>
          rw [entry_plain shape]
          refine .plain ?_ ?_ ?_
          all_goals
            intro tagged
            rw [Shape.of, tagged] at shape
            cases shape
      | loop =>
          rw [entry_loop shape]
          obtain ⟨items, given, body⟩ := find?_loop_body fields
          refine .loop (Command.tagged_of_loop shape) given ?_ body (find?_loop_commands fields)
            (loop_apart fields)
          refine List.forall₂_map_right_iff.mpr (List.forall₂_same.mpr fun item among => ?_)
          exact ih item (Manner.inside_items given among)
      | choice =>
          rw [entry_choice shape]
          exact .choice (Command.tagged_of_choice shape) (branchTidies (by simp) ih)
            (branchTidies (by simp) ih) (nestedFields_apart (fun _ among => among) fields)

/-!
## Once more
-/

/-- A list of commands is tidy if tidying it once more changes nothing. -/
def Twice (value : Json) : Prop :=
  commands (.arr (commands value)) = commands value

theorem nestedFields_nestedFields (keys : List String) {fields : Fields}
    (twice : ∀ field ∈ fields, Twice field.2) :
    nestedFields keys (nestedFields keys fields) = nestedFields keys fields := by
  induction fields with
  | nil => simp only [nestedFields]
  | cons field rest ih =>
      obtain ⟨key, value⟩ := field
      obtain ⟨first, others⟩ := List.forall_mem_cons.mp twice
      rw [nestedFields, nestedFields, ih others]
      split
      next => rw [first]
      next => rfl

/-- A body that was put where there was none is the only one, and tidy if it was tidied. -/
theorem nestedFields_put {fields : Fields} {body : Json}
    (none : Entries.has "body" fields = false) (tidy : Json.arr (commands body) = body) :
    nestedFields ["body"] (Entries.put "body" body fields) = Entries.put "body" body fields := by
  refine nestedFields_eq_self fun field among named => ?_
  rcases Entries.mem_put among with rfl | kept
  · exact tidy
  · have listed : field.1 ∈ fields.map (·.1) := List.mem_map_of_mem kept
    rw [List.mem_singleton.mp named, ← Entries.has_iff, none] at listed
    cases listed

theorem loop_loop {fields : Fields} (twice : ∀ field ∈ fields, Twice field.2) :
    loop (loop fields) = loop fields := by
  have again : Entries.has "body" (loop fields) = true := by
    obtain ⟨items, -, body⟩ := find?_loop_body fields
    rw [Entries.has, body]
    rfl
  rw [loop_of_body again]
  cases there : Entries.has "body" fields with
  | true => rw [loop_of_body there, nestedFields_nestedFields _ twice]
  | false =>
      cases found : Entries.find? "commands" fields with
      | some value =>
          have absent : Entries.has "body"
              (Entries.erase "commands" (nestedFields ["commands"] fields)) = false := by
            rw [Entries.has, Entries.find?_erase, if_neg (by decide)]
            exact (has_nestedFields _ _ _).trans there
          have tidy := twice _ (Entries.mem_of_find? found)
          rw [loop_of_commands there found, nestedFields_put absent (congrArg Json.arr tidy)]
      | none =>
          rw [loop_of_neither there found, nestedFields_put there (by rw [commands, entries])]

theorem shape_congr {fields others : Fields}
    (same : Entries.find? "type" fields = Entries.find? "type" others) :
    Shape.of fields = Shape.of others := by
  unfold Shape.of
  rw [same]

theorem twice_of_none {value : Json} (none : value.items = []) : Twice value := by
  rw [Twice, commands_eq_map value, none, List.map_nil, commands, entries]

theorem entry_of_other {value : Json} (other : value.asFields? = none) :
    entry (entry value) = entry value := by
  rw [entry_other other, shortWait, entry_plain rfl]

mutual

theorem commands_commands (value : Json) : Twice value := by
  cases value with
  | arr items => rw [Twice, commands, commands, entries_entries items]
  | _ => exact twice_of_none rfl

theorem entries_entries (items : List Json) : entries (entries items) = entries items := by
  cases items with
  | nil => simp only [entries]
  | cons item rest => rw [entries, entries, entry_entry item, entries_entries rest]

theorem entry_entry (value : Json) : entry (entry value) = entry value := by
  cases value with
  | obj fields =>
      have twice := fields_twice fields
      cases shape : Shape.of fields with
      | plain => rw [entry_plain shape, entry_plain shape]
      | loop =>
          have same : Shape.of (loop fields) = Shape.of fields :=
            shape_congr (find?_loop (by decide) (by decide) fields)
          rw [entry_loop shape, entry_loop (same.trans shape), loop_loop twice]
      | choice =>
          have same : Shape.of (choice fields) = Shape.of fields :=
            shape_congr (find?_choice (by decide) (by decide) fields)
          rw [entry_choice shape, entry_choice (same.trans shape), choice, choice,
            nestedFields_nestedFields _ twice]
  | _ => exact entry_of_other rfl

theorem fields_twice (fields : Fields) : ∀ field ∈ fields, Twice field.2 := by
  cases fields with
  | nil => exact List.forall_mem_nil _
  | cons field rest =>
      exact List.forall_mem_cons.mpr ⟨commands_commands field.2, fields_twice rest⟩

end

end Tidy

/-- A list that was tidied is tidy, so it is read as the same commands or refused for the same
problems. Tidying keeps the number of entries and changes nothing but entries that are no objects,
the lists of loops, and the branches of choices, and inside these the same. -/
theorem Command.parseList_tidied (value : Json) :
    Tidy.commands (.arr (Tidy.commands value)) = Tidy.commands value ∧
      parseList (.arr (Tidy.commands value)) = parseList value ∧
      (Tidy.commands value).length = value.items.length ∧
      List.Forall₂ Tidy.Tidies value.items (Tidy.commands value) := by
  have twice : Tidy.commands (.arr (Tidy.commands value)) = Tidy.commands value :=
    Tidy.commands_commands value
  refine ⟨twice, ?_, ?_, ?_⟩
  · rw [parseList, twice, parseList]
  · rw [Tidy.commands_eq_map, List.length_map]
  · rw [Tidy.commands_eq_map, List.forall₂_map_right_iff, List.forall₂_same]
    exact fun item _ => Tidy.tidies_entry item

end Gleaner
