import Gleaner.Json.Parts
import Gleaner.Proofs.Recipe.Meaning

/-!
# Lists that are tidied first

Tidying and reading one after the other is reading leniently, in one pass: tidying puts the
commands of an object where a strict reading finds those that a lenient one takes, and leaves
the other fields alone.
-/

set_option autoImplicit false

namespace Gleaner

namespace Tidy

theorem commands_arr (items : List Json) : commands (.arr items) = items.map entry := by
  rw [commands]
  induction items with
  | nil => rfl
  | cons item rest ih => rw [entries, ih, List.map_cons]

theorem commands_eq_map (value : Json) : commands value = value.items.map entry := by
  cases value with
  | arr items => exact commands_arr items
  | _ =>
      rw [commands]
      · rfl
      · exact nofun

theorem entry_other {value : Json} (other : value.asFields? = none) : entry value = shortWait := by
  cases value with
  | obj fields => cases other
  | _ => rw [entry]; exact nofun

theorem nestedFields_nil (fields : Fields) : nestedFields [] fields = fields := by
  induction fields with
  | nil => rw [nestedFields]
  | cons field rest ih =>
      obtain ⟨key, value⟩ := field
      rw [nestedFields, ih]
      rfl

theorem find?_nestedFields (keys : List String) (key : String) (fields : Fields) :
    Entries.find? key (nestedFields keys fields) =
      (Entries.find? key fields).map fun value =>
        if keys.contains key then .arr (commands value) else value := by
  induction fields with
  | nil => rw [nestedFields]; rfl
  | cons field rest ih =>
      obtain ⟨first, value⟩ := field
      rw [nestedFields, Entries.find?, Entries.find?]
      by_cases same : first = key
      · rw [if_pos same, if_pos same, same]
        rfl
      · rw [if_neg same, if_neg same, ih]

/-- What becomes of the fields of a loop. -/
def loop (fields : Fields) : Fields :=
  Shape.loop.settle (nestedFields (Shape.loop.nested fields) fields)

theorem has_nestedFields (keys : List String) (key : String) (fields : Fields) :
    Entries.has key (nestedFields keys fields) = Entries.has key fields := by
  rw [Entries.has, find?_nestedFields, Option.isSome_map]
  rfl

theorem strict_items?_commands (value : Json) :
    Manner.strict.items? (some (.arr (commands value))) =
      (Manner.lenient.items? (some value)).map (List.map entry) := by
  cases value with
  | arr items => rw [commands_arr]; rfl
  | _ =>
      rw [commands]
      · rfl
      · exact nofun

/-- The body of a loop is taken from where a lenient reading finds it. -/
theorem items?_body (fields : Fields) :
    Manner.strict.items? (Manner.strict.body.value? (loop fields)) =
      (Manner.lenient.items? (Manner.lenient.body.value? fields)).map (List.map entry) := by
  simp only [Manner.body, FieldName.value?_alone, FieldName.value?_either, loop, Shape.settle,
    has_nestedFields, find?_nestedFields]
  cases body : Entries.find? "body" fields with
  | some value =>
      have has : Entries.has "body" fields = true := by rw [Entries.has, body]; rfl
      rw [if_pos has, find?_nestedFields, body, Shape.nested, if_pos has]
      exact strict_items?_commands value
  | none =>
      have has : ¬Entries.has "body" fields = true := by
        rw [Entries.has, body]
        exact Bool.false_ne_true
      rw [if_neg has, Shape.nested, if_neg has]
      cases Entries.find? "commands" fields with
      | some value =>
          simp only [Option.map_some, Entries.find?_put]
          exact strict_items?_commands value
      | none =>
          simp only [Option.map_none, Entries.find?_put]
          rfl

theorem find?_loop {key : String} (notBody : key ≠ "body") (notCommands : key ≠ "commands")
    (fields : Fields) : Entries.find? key (loop fields) = Entries.find? key fields := by
  have other : key ∉ Shape.loop.nested fields := by
    rw [Shape.nested]
    split <;> simp [notBody, notCommands]
  have kept : Entries.find? key (nestedFields (Shape.loop.nested fields) fields) =
      Entries.find? key fields := by
    simp [find?_nestedFields, other]
  simp only [loop, Shape.settle]
  split
  · exact kept
  · split
    · rw [Entries.find?_put, if_neg notBody.symm, Entries.find?_erase, if_neg notCommands.symm, kept]
    · rw [Entries.find?_put, if_neg notBody.symm, kept]

/-- What becomes of the fields of a choice. -/
def choice (fields : Fields) : Fields :=
  nestedFields ["then", "else"] fields

theorem find?_choice {key : String} (notThen : key ≠ "then") (notElse : key ≠ "else")
    (fields : Fields) : Entries.find? key (choice fields) = Entries.find? key fields := by
  simp [choice, find?_nestedFields, notThen, notElse]

theorem items?_then (fields : Fields) :
    Manner.strict.items? (FieldName.value? "then" (choice fields)) =
      (Manner.lenient.items? (FieldName.value? "then" fields)).map (List.map entry) := by
  rw [FieldName.value?_alone, FieldName.value?_alone, choice, find?_nestedFields]
  cases Entries.find? "then" fields with
  | some value => exact strict_items?_commands value
  | none => rfl

/-- A second branch is tidied under its own key only. -/
theorem items?_else (fields : Fields) :
    Manner.strict.items? (FieldName.value? ⟨"else", ["else_"]⟩ (choice fields)) =
      if Entries.has "else" fields then
        (Manner.lenient.items? (FieldName.value? ⟨"else", ["else_"]⟩ fields)).map (List.map entry)
      else Manner.strict.items? (FieldName.value? ⟨"else", ["else_"]⟩ fields) := by
  have other : Entries.find? "else_" (choice fields) = Entries.find? "else_" fields :=
    find?_choice (by decide) (by decide) fields
  have branch : Entries.find? "else" (choice fields) =
      (Entries.find? "else" fields).map fun value => .arr (commands value) :=
    find?_nestedFields _ _ _
  rw [FieldName.value?_either, FieldName.value?_either, other, branch, Entries.has]
  cases Entries.find? "else" fields with
  | some value => exact strict_items?_commands value
  | none => rfl

theorem entry_plain {fields : Fields} (plain : Shape.of fields = .plain) :
    entry (.obj fields) = .obj fields := by
  rw [entry, plain]
  exact congrArg Json.obj (nestedFields_nil fields)

theorem entry_loop {fields : Fields} (shape : Shape.of fields = .loop) :
    entry (.obj fields) = .obj (loop fields) := by
  rw [entry, shape, loop]

theorem entry_choice {fields : Fields} (shape : Shape.of fields = .choice) :
    entry (.obj fields) = .obj (choice fields) := by
  rw [entry, shape]
  rfl

end Tidy

namespace Command

variable {fields : Fields} {manner : Manner} {command : Command}

theorem Means.tagged (means : Means manner (.obj fields) command) : fields.Tagged command.tag := by
  cases means with
  | pause other => cases other
  | _ => assumption

/-- Without nested commands there is no difference between the manners. -/
theorem Means.plain (means : Means manner (.obj fields) command)
    (plain : Tidy.Shape.of fields = .plain) (other : Manner) :
    Means other (.obj fields) command := by
  cases means with
  | forEachItem tagged => rw [Tidy.Shape.of, tagged] at plain; cases plain
  | choose tagged => rw [Tidy.Shape.of, tagged] at plain; cases plain
  | repeatUntil tagged => rw [Tidy.Shape.of, tagged] at plain; cases plain
  | pause other => cases other
  | _ => constructor <;> assumption

variable {tag : String}

theorem tag_eq (means : Means manner (.obj fields) command) (tagged : fields.Tagged tag) :
    command.tag = tag :=
  Json.str.inj (Option.some.inj (means.tagged.symm.trans tagged))

theorem means_forEachItem (tagged : fields.Tagged "FOR_EACH_ITEM_IN_LIST") :
    Means manner (.obj fields) command ↔ ∃ items body skipProcessed,
      manner.items? (manner.body.value? fields) = some items ∧ AllMean manner items body ∧
        fields.Reads ⟨"skipProcessed", ["skip_processed"]⟩ true Reading.bool skipProcessed ∧
          command = .forEachItem body skipProcessed := by
  constructor
  · intro means
    have same := tag_eq means tagged
    cases means with
    | forEachItem _ found means reads => exact ⟨_, _, _, found, means, reads, rfl⟩
    | _ => exact absurd same (by simp [tag])
  · rintro ⟨items, body, skipProcessed, found, means, reads, rfl⟩
    exact .forEachItem tagged found means reads

theorem means_repeatUntil (tagged : fields.Tagged "REPEAT") :
    Means manner (.obj fields) command ↔ ∃ items body value goal,
      manner.items? (manner.body.value? fields) = some items ∧ AllMean manner items body ∧
        FieldName.value? "until" fields = some value ∧ goal.Means value ∧
          command = .repeatUntil body goal := by
  constructor
  · intro means
    have same := tag_eq means tagged
    cases means with
    | repeatUntil _ found means given goal => exact ⟨_, _, _, _, found, means, given, goal, rfl⟩
    | _ => exact absurd same (by simp [tag])
  · rintro ⟨items, body, value, goal, found, means, given, goal, rfl⟩
    exact .repeatUntil tagged found means given goal

theorem means_choose (tagged : fields.Tagged "IF") :
    Means manner (.obj fields) command ↔
      ∃ value condition thenItems thenBranch elseItems elseBranch,
        FieldName.value? "condition" fields = some value ∧ condition.Means value ∧
          manner.items? (FieldName.value? "then" fields) = some thenItems ∧
          AllMean manner thenItems thenBranch ∧
          (manner.forElse fields).items? (FieldName.value? ⟨"else", ["else_"]⟩ fields) =
            some elseItems ∧
          AllMean (manner.forElse fields) elseItems elseBranch ∧
          command = .choose condition thenBranch elseBranch := by
  constructor
  · intro means
    have same := tag_eq means tagged
    cases means with
    | choose _ given condition found means foundElse meansElse =>
        exact ⟨_, _, _, _, _, _, given, condition, found, means, foundElse, meansElse, rfl⟩
    | _ => exact absurd same (by simp [tag])
  · rintro ⟨value, condition, thenItems, thenBranch, elseItems, elseBranch, given, condition, found,
      means, foundElse, meansElse, rfl⟩
    exact .choose tagged given condition found means foundElse meansElse

theorem means_shortWait : Means .strict Tidy.shortWait command ↔ command = .wait 0.1 := by
  have read : Command.read Tidy.shortWait = .ok (.wait 0.1) := by
    rw [Tidy.shortWait, Command.read]
    rfl
  rw [← read_eq_ok, read]
  exact ⟨fun same => by cases same; rfl, fun same => by rw [same]⟩

theorem tagged_of_loop (shape : Tidy.Shape.of fields = .loop) :
    fields.Tagged "FOR_EACH_ITEM_IN_LIST" ∨ fields.Tagged "REPEAT" := by
  unfold Tidy.Shape.of at shape
  split at shape
  next forEach => exact .inl forEach
  next repeated => exact .inr repeated
  next => cases shape
  next => cases shape

theorem tagged_of_choice (shape : Tidy.Shape.of fields = .choice) : fields.Tagged "IF" := by
  unfold Tidy.Shape.of at shape
  split at shape
  next => cases shape
  next => cases shape
  next found => exact found
  next => cases shape

section Nested

variable (ih : ∀ value, fields.Inside value → ∀ {command : Command},
  Means .strict (Tidy.entry value) command ↔ Means .lenient value command)

include ih

theorem allMean_tidy {name : FieldName} {items : List Json} {commands : List Command}
    (found : Manner.lenient.items? (name.value? fields) = some items) :
    AllMean .strict (items.map Tidy.entry) commands ↔ AllMean .lenient items commands := by
  rw [allMean_iff, allMean_iff, List.forall₂_map_left_iff]
  constructor
  · intro means
    exact forall₂_imp_left means fun item among _ => (ih item (Manner.inside_items found among)).mp
  · intro means
    exact forall₂_imp_left means fun item among _ => (ih item (Manner.inside_items found among)).mpr

/-- The same commands stand in a block before it is tidied and after. -/
theorem block_tidy {name other : FieldName} {tidied : Fields} (commands : List Command)
    (same : Manner.strict.items? (other.value? tidied) =
      (Manner.lenient.items? (name.value? fields)).map (List.map Tidy.entry)) :
    (∃ items, Manner.strict.items? (other.value? tidied) = some items ∧
        AllMean .strict items commands) ↔
      ∃ items, Manner.lenient.items? (name.value? fields) = some items ∧
        AllMean .lenient items commands := by
  rw [same]
  constructor
  · rintro ⟨_, tidied, means⟩
    obtain ⟨items, found, rfl⟩ := Option.map_eq_some_iff.mp tidied
    exact ⟨items, found, (allMean_tidy ih found).mp means⟩
  · rintro ⟨items, found, means⟩
    exact ⟨_, Option.map_eq_some_iff.mpr ⟨items, found, rfl⟩, (allMean_tidy ih found).mpr means⟩

theorem means_loop (shape : Tidy.Shape.of fields = .loop) :
    Means .strict (.obj (Tidy.loop fields)) command ↔ Means .lenient (.obj fields) command := by
  have kept {key : String} (notBody : key ≠ "body") (notCommands : key ≠ "commands") :=
    Tidy.find?_loop notBody notCommands fields
  have body (commands : List Command) := block_tidy ih commands (Tidy.items?_body fields)
  have type : Entries.find? "type" (Tidy.loop fields) = Entries.find? "type" fields :=
    kept (by decide) (by decide)
  rcases tagged_of_loop shape with tagged | tagged
  · have skip : FieldName.value? ⟨"skipProcessed", ["skip_processed"]⟩ (Tidy.loop fields) =
        FieldName.value? ⟨"skipProcessed", ["skip_processed"]⟩ fields := by
      rw [FieldName.value?_either, FieldName.value?_either, kept (by decide) (by decide),
        kept (by decide) (by decide)]
    rw [means_forEachItem (type.trans tagged), means_forEachItem tagged]
    constructor
    · rintro ⟨_, commands, skipProcessed, found, means, reads, same⟩
      obtain ⟨items, found, means⟩ := (body _).mp ⟨_, found, means⟩
      exact ⟨items, commands, skipProcessed, found, means, reads.congr skip.symm, same⟩
    · rintro ⟨_, commands, skipProcessed, found, means, reads, same⟩
      obtain ⟨items, found, means⟩ := (body _).mpr ⟨_, found, means⟩
      exact ⟨items, commands, skipProcessed, found, means, reads.congr skip, same⟩
  · have goal : FieldName.value? "until" (Tidy.loop fields) = FieldName.value? "until" fields := by
      rw [FieldName.value?_alone, FieldName.value?_alone, kept (by decide) (by decide)]
    rw [means_repeatUntil (type.trans tagged), means_repeatUntil tagged, goal]
    constructor
    · rintro ⟨_, commands, value, goal, found, means, rest⟩
      obtain ⟨items, found, means⟩ := (body _).mp ⟨_, found, means⟩
      exact ⟨items, commands, value, goal, found, means, rest⟩
    · rintro ⟨_, commands, value, goal, found, means, rest⟩
      obtain ⟨items, found, means⟩ := (body _).mpr ⟨_, found, means⟩
      exact ⟨items, commands, value, goal, found, means, rest⟩

theorem block_else (commands : List Command) :
    (∃ items, Manner.strict.items? (FieldName.value? ⟨"else", ["else_"]⟩ (Tidy.choice fields)) =
        some items ∧ AllMean .strict items commands) ↔
      ∃ items, (Manner.lenient.forElse fields).items?
        (FieldName.value? ⟨"else", ["else_"]⟩ fields) = some items ∧
          AllMean (Manner.lenient.forElse fields) items commands := by
  have same := Tidy.items?_else fields
  unfold Manner.forElse
  split
  next has =>
    rw [if_pos has] at same
    exact block_tidy ih commands same
  next none =>
    rw [if_neg none] at same
    rw [same]

theorem means_choice (shape : Tidy.Shape.of fields = .choice) :
    Means .strict (.obj (Tidy.choice fields)) command ↔ Means .lenient (.obj fields) command := by
  have tagged := tagged_of_choice shape
  have kept {key : String} (notThen : key ≠ "then") (notElse : key ≠ "else") :=
    Tidy.find?_choice notThen notElse fields
  have type : Entries.find? "type" (Tidy.choice fields) = Entries.find? "type" fields :=
    kept (by decide) (by decide)
  have given : FieldName.value? "condition" (Tidy.choice fields) =
      FieldName.value? "condition" fields := by
    rw [FieldName.value?_alone, FieldName.value?_alone, kept (by decide) (by decide)]
  have branch (commands : List Command) := block_tidy ih commands (Tidy.items?_then fields)
  have other (commands : List Command) := block_else ih commands
  rw [means_choose (type.trans tagged), means_choose tagged, given, Manner.strict_forElse]
  constructor
  · rintro ⟨value, condition, _, thenBranch, _, elseBranch, given, holds, found, means, foundElse,
      meansElse, same⟩
    obtain ⟨thenItems, found, means⟩ := (branch _).mp ⟨_, found, means⟩
    obtain ⟨elseItems, foundElse, meansElse⟩ := (other _).mp ⟨_, foundElse, meansElse⟩
    exact ⟨value, condition, thenItems, thenBranch, elseItems, elseBranch, given, holds, found, means,
      foundElse, meansElse, same⟩
  · rintro ⟨value, condition, _, thenBranch, _, elseBranch, given, holds, found, means, foundElse,
      meansElse, same⟩
    obtain ⟨thenItems, found, means⟩ := (branch _).mpr ⟨_, found, means⟩
    obtain ⟨elseItems, foundElse, meansElse⟩ := (other _).mpr ⟨_, foundElse, meansElse⟩
    exact ⟨value, condition, thenItems, thenBranch, elseItems, elseBranch, given, holds, found, means,
      foundElse, meansElse, same⟩

end Nested

/-- To be tidied and then read strictly is to be read leniently. -/
theorem means_entry {value : Json} {command : Command} :
    Means .strict (Tidy.entry value) command ↔ Means .lenient value command := by
  induction value using Json.induction_inside generalizing command with
  | other value other =>
      rw [Tidy.entry_other other, means_shortWait]
      constructor
      · rintro rfl
        exact .pause other
      · intro means
        cases means with
        | pause => rfl
        | _ => cases other
  | object fields ih =>
      cases shape : Tidy.Shape.of fields with
      | plain =>
          rw [Tidy.entry_plain shape]
          exact ⟨fun means => means.plain shape .lenient, fun means => means.plain shape .strict⟩
      | loop =>
          rw [Tidy.entry_loop shape]
          exact means_loop ih shape
      | choice =>
          rw [Tidy.entry_choice shape]
          exact means_choice ih shape

/-- What a list that is tidied is read as is what its entries mean, one by one. -/
theorem readList_tidy {value : Json} {commands : List Command} :
    readList (Tidy.commands value) = .ok commands ↔ AllMean .lenient value.items commands := by
  rw [readList, Reading.eachIn_eq_ok, Tidy.commands_eq_map, List.forall₂_map_left_iff, allMean_iff]
  simp only [read_eq_ok, means_entry]

theorem parseList_eq_ok {value : Json} {commands : List Command} :
    parseList value = .ok commands ↔ AllMean .lenient value.items commands := by
  rw [← readList_tidy, parseList]
  exact Checked.toExcept_eq_ok

end Command

end Gleaner
