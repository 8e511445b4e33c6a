import Gleaner.Proofs.Recipe.Tidy

/-!
# What is wrong with a recipe

The flaws that keep a list of commands from being read: somewhere among the objects that are
read, one has no type or an unknown one, lacks a field or has a value in it that does not fit.
What each type asks of its fields, and which values inside them are read in their turn, stands in
two tables. A value without a flaw has a meaning and a value with one has none.
-/

set_option autoImplicit false

namespace Gleaner

/-- What an object is to be read as. -/
inductive Form where
  | command (manner : Manner)
  | condition
  | goal

/-- What is asked of a field: that it is there, or only that its value is fit if it is. -/
structure Rule where
  name : FieldName
  required : Bool
  fits : Json → Prop

namespace Rule

def needs {α : Type} (name : FieldName) (read : Reading α) : Rule :=
  ⟨name, true, fun value => ∃ result, read value = .ok result⟩

def allows {α : Type} (name : FieldName) (read : Reading α) : Rule :=
  ⟨name, false, fun value => ∃ result, read value = .ok result⟩

/-- An object or a list of objects, whose own flaws count for themselves. -/
def needsPart (name : FieldName) : Rule :=
  ⟨name, true, fun _ => True⟩

def needsParts (name : FieldName) : Rule :=
  ⟨name, true, fun value => value.asList?.isSome = true⟩

/-- Commands, which only a strict reading wants to be a list. -/
def allowsBlock (manner : Manner) (name : FieldName) : Rule :=
  ⟨name, false, fun value => (manner.items? (some value)).isSome = true⟩

def Met (rule : Rule) (fields : Fields) : Prop :=
  (rule.name.value? fields).elim (rule.required = false) rule.fits

end Rule

namespace Form

def tags : Form → List String
  | command _ => Command.tags
  | condition => Condition.tags
  | goal => Until.tags

/-- What is asked of the fields of an object with some tag. -/
def rules (form : Form) (fields : Fields) (tag : String) : List Rule :=
  match form, tag with
  | condition, "EXISTS" => [.needs "name" Reading.string]
  | condition, "VISIBLE" => [.needs "name" Reading.string]
  | condition, "NOT" => [.needsPart "condition"]
  | condition, "AND" => [.needsParts "conditions"]
  | condition, "OR" => [.needsParts "conditions"]
  | goal, "COLLECTED" => [.needs "count" (Reading.natural 0)]
  | goal, "MAX_SCROLLS" => [.needs "count" (Reading.natural 0)]
  | goal, "AND" => [.needsParts "conditions"]
  | goal, "OR" => [.needsParts "conditions"]
  | command _, "OPEN_PAGE" => [.needs "url" Reading.string]
  | command _, "WAIT_FOR" => [.needs "target" (Reading.choice WaitTarget.names)]
  | command _, "WAIT" => [.needs "seconds" Reading.seconds]
  | command _, "GO_TO" => [.needs "name" Reading.string]
  | command _, "GO_TO_FILTER" => [.needs "name" Reading.string]
  | command _, "GO_TO_ITEM" => [.allows "which" (Reading.choice ItemChoice.names)]
  | command _, "TYPE" => [.needs "text" Reading.string]
  | command _, "CLICK_IF_EXISTS" => [.needs "name" Reading.string]
  | command _, "SELECT" => [.needs "option" Reading.string]
  | command _, "SET_CHECKED" => [.allows "checked" Reading.bool]
  | command _, "SCROLL" =>
      [.allows "target" (Reading.choice ScrollTarget.names),
        .allows "direction" (Reading.choice Direction.names)]
  | command _, "SCROLL_IF_NOT_END" => [.allows "target" (Reading.choice ScrollTarget.names)]
  | command _, "SCROLL_TO" => [.needs "percent" Reading.percentage]
  | command _, "EXTRACT_DETAILS" =>
      [.allows "selectors" (Reading.orNull (Reading.list Reading.string))]
  | command _, "SAVE" => [.allows ⟨"as", ["save_as"]⟩ Reading.string]
  | command manner, "FOR_EACH_ITEM_IN_LIST" =>
      [.allowsBlock manner manner.body,
        .allows ⟨"skipProcessed", ["skip_processed"]⟩ Reading.bool]
  | command manner, "IF" =>
      [.needsPart "condition", .allowsBlock manner "then",
        .allowsBlock (manner.forElse fields) ⟨"else", ["else_"]⟩]
  | command manner, "REPEAT" => [.allowsBlock manner manner.body, .needsPart "until"]
  | _, _ => []

/-- The value of a field, as a part that is read in its turn. -/
def one (form : Form) (name : FieldName) (fields : Fields) : List (Form × Json) :=
  ((name.value? fields).map (form, ·)).toList

/-- The items of a list in a field, as parts. -/
def each (form : Form) (name : FieldName) (fields : Fields) : List (Form × Json) :=
  (((name.value? fields).bind Json.asList?).getD []).map (form, ·)

/-- The values inside an object with some tag that are read in their turn. -/
def parts (form : Form) (fields : Fields) (tag : String) : List (Form × Json) :=
  match form, tag with
  | condition, "NOT" => condition.one "condition" fields
  | condition, "AND" => condition.each "conditions" fields
  | condition, "OR" => condition.each "conditions" fields
  | goal, "AND" => goal.each "conditions" fields
  | goal, "OR" => goal.each "conditions" fields
  | command manner, "FOR_EACH_ITEM_IN_LIST" => (command manner).each manner.body fields
  | command manner, "IF" =>
      condition.one "condition" fields ++ (command manner).each "then" fields ++
        (command (manner.forElse fields)).each ⟨"else", ["else_"]⟩ fields
  | command manner, "REPEAT" =>
      (command manner).each manner.body fields ++ goal.one "until" fields
  | _, _ => []

end Form

/-- Somewhere in a value, among the objects that are read, one has a flaw. -/
inductive Flawed : Form → Json → Prop where
  | noObject {form : Form} {value : Json} :
      form ≠ .command .lenient → value.asFields? = none → Flawed form value
  | noType {form : Form} {fields : Fields} :
      Entries.find? "type" fields = none → Flawed form (.obj fields)
  | unknownType {form : Form} {fields : Fields} {tag : Json} :
      Entries.find? "type" fields = some tag → (∀ name ∈ form.tags, tag ≠ .str name) →
      Flawed form (.obj fields)
  | missing {form : Form} {fields : Fields} {tag : String} {rule : Rule} :
      fields.Tagged tag → rule ∈ form.rules fields tag → rule.required = true →
      rule.name.value? fields = none → Flawed form (.obj fields)
  | unfit {form : Form} {fields : Fields} {tag : String} {rule : Rule} {value : Json} :
      fields.Tagged tag → rule ∈ form.rules fields tag → rule.name.value? fields = some value →
      ¬rule.fits value → Flawed form (.obj fields)
  | inside {form inner : Form} {fields : Fields} {tag : String} {value : Json} :
      fields.Tagged tag → (inner, value) ∈ form.parts fields tag → Flawed inner value →
      Flawed form (.obj fields)

/-- A value means something, read in some form. -/
def Form.Meant : Form → Json → Prop
  | .command manner, value => ∃ command, Command.Means manner value command
  | .condition, value => ∃ condition, Condition.Means value condition
  | .goal, value => ∃ goal, Until.Means value goal

/-- What an object of some tag is asked, of its fields and of the values inside, it has. -/
def Form.Fulfilled (form : Form) (fields : Fields) (tag : String) : Prop :=
  (∀ rule ∈ form.rules fields tag, rule.Met fields) ∧
    ∀ part ∈ form.parts fields tag, part.1.Meant part.2

/-!
## Rows of the tables
-/

namespace Rule

variable {α : Type} {fields : Fields} {name : FieldName} {read : Reading α}

theorem met_needs : (needs name read).Met fields ↔ ∃ result, fields.Holds name read result := by
  unfold Met needs Fields.Holds
  cases name.value? fields <;> simp

theorem met_allows (default : α) :
    (allows name read).Met fields ↔ ∃ result, fields.Reads name default read result := by
  unfold Met allows Fields.Reads
  cases name.value? fields with
  | none => exact ⟨fun _ => ⟨default, rfl⟩, fun _ => rfl⟩
  | some value => exact Iff.rfl

theorem met_needsPart : (needsPart name).Met fields ↔ ∃ value, name.value? fields = some value := by
  unfold Met needsPart
  cases name.value? fields <;> simp

theorem met_needsParts :
    (needsParts name).Met fields ↔ ∃ items, name.value? fields = some (.arr items) := by
  unfold Met needsParts
  rcases name.value? fields with _ | value
  · simp
  · cases value <;> simp [Json.asList?]

theorem met_allowsBlock {manner : Manner} :
    (allowsBlock manner name).Met fields ↔
      ∃ items, manner.items? (name.value? fields) = some items := by
  unfold Met allowsBlock
  cases name.value? fields with
  | none => exact ⟨fun _ => ⟨[], rfl⟩, fun _ => rfl⟩
  | some value => exact Option.isSome_iff_exists

end Rule

namespace Form

variable {form : Form} {name : FieldName} {fields : Fields}

theorem forall_one {good : Form × Json → Prop} {value : Json}
    (found : name.value? fields = some value) :
    (∀ part ∈ form.one name fields, good part) ↔ good (form, value) := by
  rw [one, found]
  exact List.forall_mem_singleton

theorem forall_each {good : Form × Json → Prop} {items : List Json}
    (found : name.value? fields = some (.arr items)) :
    (∀ part ∈ form.each name fields, good part) ↔ ∀ item ∈ items, good (form, item) := by
  rw [each, found]
  exact List.forall_mem_map

theorem forall_block {good : Form × Json → Prop} {manner : Manner} {items : List Json}
    (found : manner.items? (name.value? fields) = some items) :
    (∀ part ∈ form.each name fields, good part) ↔ ∀ item ∈ items, good (form, item) := by
  cases given : name.value? fields with
  | none =>
      rw [given] at found
      cases found
      rw [each, given]
      exact List.forall_mem_map
  | some value =>
      rw [given] at found
      cases value with
      | arr others =>
          cases found
          exact forall_each given
      | _ =>
          cases manner with
          | strict => cases found
          | lenient =>
              cases found
              rw [each, given]
              exact List.forall_mem_map

theorem meant_block {manner : Manner} {items : List Json} :
    (∀ item ∈ items, (command manner).Meant item) ↔
      ∃ commands, Command.AllMean manner items commands := by
  simp only [Command.allMean_iff]
  exact exists_forall₂.symm

theorem fulfilled_bare {tag : String} (rules : form.rules fields tag = [])
    (parts : form.parts fields tag = []) : form.Fulfilled fields tag := by
  rw [Fulfilled, rules, parts]
  exact ⟨List.forall_mem_nil _, List.forall_mem_nil _⟩

theorem fulfilled_needs {α : Type} {tag : String} {read : Reading α} {result : α}
    (holds : fields.Holds name read result) (rules : form.rules fields tag = [.needs name read])
    (parts : form.parts fields tag = []) : form.Fulfilled fields tag := by
  rw [Fulfilled, rules, parts]
  exact ⟨List.forall_mem_singleton.mpr (Rule.met_needs.mpr ⟨_, holds⟩), List.forall_mem_nil _⟩

theorem fulfilled_allows {α : Type} {tag : String} {read : Reading α} {default result : α}
    (reads : fields.Reads name default read result)
    (rules : form.rules fields tag = [.allows name read])
    (parts : form.parts fields tag = []) : form.Fulfilled fields tag := by
  rw [Fulfilled, rules, parts]
  exact ⟨List.forall_mem_singleton.mpr ((Rule.met_allows _).mpr ⟨_, reads⟩),
    List.forall_mem_nil _⟩

end Form

section Rows

open Rule Form

variable {fields : Fields} {tag : String}

theorem Condition.Means.fulfilled {condition : Condition}
    (means : Means (.obj fields) condition) : Form.condition.Fulfilled fields condition.tag := by
  have parts {items : List Json} {parts : List Condition}
      (found : FieldName.value? "conditions" fields = some (.arr items))
      (means : List.Forall₂ Means items parts) :
      ∀ part ∈ Form.condition.each "conditions" fields, part.1.Meant part.2 :=
    (forall_each found).mpr (exists_forall₂.mp ⟨_, means⟩)
  cases means with
  | present _ holds => exact fulfilled_needs holds rfl rfl
  | visible _ holds => exact fulfilled_needs holds rfl rfl
  | listEnd => exact fulfilled_bare rfl rfl
  | pageEnd => exact fulfilled_bare rfl rfl
  | newItems => exact fulfilled_bare rfl rfl
  | not _ found inner =>
      exact ⟨List.forall_mem_singleton.mpr (met_needsPart.mpr ⟨_, found⟩),
        (forall_one found).mpr ⟨_, inner⟩⟩
  | all _ found means =>
      exact ⟨List.forall_mem_singleton.mpr (met_needsParts.mpr ⟨_, found⟩), parts found means⟩
  | any _ found means =>
      exact ⟨List.forall_mem_singleton.mpr (met_needsParts.mpr ⟨_, found⟩), parts found means⟩

theorem Condition.meant_of_fulfilled (tagged : fields.Tagged tag) (known : tag ∈ Condition.tags)
    (fulfilled : Form.condition.Fulfilled fields tag) : Form.condition.Meant (.obj fields) := by
  obtain ⟨rules, parts⟩ := fulfilled
  have list (each : ∀ part ∈ Form.condition.each "conditions" fields, part.1.Meant part.2)
      (rules : (needsParts "conditions").Met fields) : ∃ items parts,
        FieldName.value? "conditions" fields = some (.arr items) ∧
          List.Forall₂ Means items parts := by
    obtain ⟨items, found⟩ := met_needsParts.mp rules
    obtain ⟨parts, means⟩ := exists_forall₂.mpr ((forall_each found).mp each)
    exact ⟨items, parts, found, means⟩
  simp only [Condition.tags, List.mem_cons, List.not_mem_nil, or_false] at known
  rcases known with rfl | rfl | rfl | rfl | rfl | rfl | rfl | rfl
  · obtain ⟨name, holds⟩ := met_needs.mp (rules _ (.head _))
    exact ⟨_, .present tagged holds⟩
  · obtain ⟨name, holds⟩ := met_needs.mp (rules _ (.head _))
    exact ⟨_, .visible tagged holds⟩
  · exact ⟨_, .listEnd tagged⟩
  · exact ⟨_, .pageEnd tagged⟩
  · exact ⟨_, .newItems tagged⟩
  · obtain ⟨value, found⟩ := met_needsPart.mp (rules _ (.head _))
    obtain ⟨inner, means⟩ := (forall_one found).mp parts
    exact ⟨_, .not tagged found means⟩
  · obtain ⟨items, all, found, means⟩ := list parts (rules _ (.head _))
    exact ⟨_, .all tagged found means⟩
  · obtain ⟨items, any, found, means⟩ := list parts (rules _ (.head _))
    exact ⟨_, .any tagged found means⟩

theorem Until.Means.fulfilled {goal : Until} (means : Means (.obj fields) goal) :
    Form.goal.Fulfilled fields goal.tag := by
  have parts {items : List Json} {parts : List Until}
      (found : FieldName.value? "conditions" fields = some (.arr items))
      (means : List.Forall₂ Means items parts) :
      ∀ part ∈ Form.goal.each "conditions" fields, part.1.Meant part.2 :=
    (forall_each found).mpr (exists_forall₂.mp ⟨_, means⟩)
  cases means with
  | collected _ holds => exact fulfilled_needs holds rfl rfl
  | noMoreItems => exact fulfilled_bare rfl rfl
  | maxScrolls _ holds => exact fulfilled_needs holds rfl rfl
  | all _ found means =>
      exact ⟨List.forall_mem_singleton.mpr (met_needsParts.mpr ⟨_, found⟩), parts found means⟩
  | any _ found means =>
      exact ⟨List.forall_mem_singleton.mpr (met_needsParts.mpr ⟨_, found⟩), parts found means⟩

theorem Until.meant_of_fulfilled (tagged : fields.Tagged tag) (known : tag ∈ Until.tags)
    (fulfilled : Form.goal.Fulfilled fields tag) : Form.goal.Meant (.obj fields) := by
  obtain ⟨rules, parts⟩ := fulfilled
  have list (each : ∀ part ∈ Form.goal.each "conditions" fields, part.1.Meant part.2)
      (rules : (needsParts "conditions").Met fields) : ∃ items parts,
        FieldName.value? "conditions" fields = some (.arr items) ∧
          List.Forall₂ Means items parts := by
    obtain ⟨items, found⟩ := met_needsParts.mp rules
    obtain ⟨parts, means⟩ := exists_forall₂.mpr ((forall_each found).mp each)
    exact ⟨items, parts, found, means⟩
  simp only [Until.tags, List.mem_cons, List.not_mem_nil, or_false] at known
  rcases known with rfl | rfl | rfl | rfl | rfl
  · obtain ⟨count, holds⟩ := met_needs.mp (rules _ (.head _))
    exact ⟨_, .collected tagged holds⟩
  · exact ⟨_, .noMoreItems tagged⟩
  · obtain ⟨count, holds⟩ := met_needs.mp (rules _ (.head _))
    exact ⟨_, .maxScrolls tagged holds⟩
  · obtain ⟨items, all, found, means⟩ := list parts (rules _ (.head _))
    exact ⟨_, .all tagged found means⟩
  · obtain ⟨items, any, found, means⟩ := list parts (rules _ (.head _))
    exact ⟨_, .any tagged found means⟩

theorem Command.Means.fulfilled {manner : Manner} {command : Command}
    (means : Means manner (.obj fields) command) :
    (Form.command manner).Fulfilled fields command.tag := by
  have block {manner : Manner} {name : FieldName} {items : List Json} {commands : List Command}
      (found : manner.items? (name.value? fields) = some items)
      (means : AllMean manner items commands) :
      ∀ part ∈ (Form.command manner).each name fields, part.1.Meant part.2 :=
    (forall_block found).mpr (meant_block.mpr ⟨_, means⟩)
  have both {first second : Rule} (one : first.Met fields) (other : second.Met fields) :
      ∀ rule ∈ [first, second], rule.Met fields :=
    List.forall_mem_cons.mpr ⟨one, List.forall_mem_singleton.mpr other⟩
  cases means with
  | pause other => cases other
  | openPage _ holds => exact fulfilled_needs holds rfl rfl
  | goBack => exact fulfilled_bare rfl rfl
  | refresh => exact fulfilled_bare rfl rfl
  | waitFor _ holds => exact fulfilled_needs holds rfl rfl
  | wait _ holds => exact fulfilled_needs holds rfl rfl
  | goTo _ holds => exact fulfilled_needs holds rfl rfl
  | goToFilter _ holds => exact fulfilled_needs holds rfl rfl
  | goToItem _ reads => exact fulfilled_allows reads rfl rfl
  | type _ holds => exact fulfilled_needs holds rfl rfl
  | submit => exact fulfilled_bare rfl rfl
  | click => exact fulfilled_bare rfl rfl
  | clickIfExists _ holds => exact fulfilled_needs holds rfl rfl
  | select _ holds => exact fulfilled_needs holds rfl rfl
  | clear => exact fulfilled_bare rfl rfl
  | setChecked _ reads => exact fulfilled_allows reads rfl rfl
  | scroll _ target direction =>
      exact ⟨both ((met_allows _).mpr ⟨_, target⟩) ((met_allows _).mpr ⟨_, direction⟩), nofun⟩
  | scrollIfNotEnd _ reads => exact fulfilled_allows reads rfl rfl
  | scrollTo _ holds => exact fulfilled_needs holds rfl rfl
  | extractDetails _ reads => exact fulfilled_allows reads rfl rfl
  | save _ reads => exact fulfilled_allows reads rfl rfl
  | markDone => exact fulfilled_bare rfl rfl
  | forEachItem _ found means skip =>
      exact ⟨both (met_allowsBlock.mpr ⟨_, found⟩) ((met_allows _).mpr ⟨_, skip⟩),
        block found means⟩
  | choose _ given condition found means foundElse meansElse =>
      have one : ∀ part ∈ Form.condition.one "condition" fields, part.1.Meant part.2 :=
        (forall_one given).mpr ⟨_, condition⟩
      exact ⟨List.forall_mem_cons.mpr ⟨met_needsPart.mpr ⟨_, given⟩,
          both (met_allowsBlock.mpr ⟨_, found⟩) (met_allowsBlock.mpr ⟨_, foundElse⟩)⟩,
        List.forall_mem_append.mpr
          ⟨List.forall_mem_append.mpr ⟨one, block found means⟩, block foundElse meansElse⟩⟩
  | repeatUntil _ found means given goal =>
      have one : ∀ part ∈ Form.goal.one "until" fields, part.1.Meant part.2 :=
        (forall_one given).mpr ⟨_, goal⟩
      exact ⟨both (met_allowsBlock.mpr ⟨_, found⟩) (met_needsPart.mpr ⟨_, given⟩),
        List.forall_mem_append.mpr ⟨block found means, one⟩⟩
  | checkpointCount => exact fulfilled_bare rfl rfl
  | continueItem => exact fulfilled_bare rfl rfl
  | finish => exact fulfilled_bare rfl rfl

theorem Command.meant_of_fulfilled {manner : Manner} (tagged : fields.Tagged tag)
    (known : tag ∈ Command.tags) (fulfilled : (Form.command manner).Fulfilled fields tag) :
    (Form.command manner).Meant (.obj fields) := by
  obtain ⟨rules, parts⟩ := fulfilled
  have block {manner : Manner} {name : FieldName}
      (each : ∀ part ∈ (Form.command manner).each name fields, part.1.Meant part.2)
      (rule : (allowsBlock manner name).Met fields) : ∃ items commands,
        manner.items? (name.value? fields) = some items ∧ AllMean manner items commands := by
    obtain ⟨items, found⟩ := met_allowsBlock.mp rule
    obtain ⟨commands, means⟩ := meant_block.mp ((forall_block found).mp each)
    exact ⟨items, commands, found, means⟩
  simp only [Command.tags, List.mem_cons, List.not_mem_nil, or_false] at known
  rcases known with rfl | rfl | rfl | rfl | rfl | rfl | rfl | rfl | rfl | rfl | rfl | rfl | rfl |
    rfl | rfl | rfl | rfl | rfl | rfl | rfl | rfl | rfl | rfl | rfl | rfl | rfl | rfl
  · obtain ⟨url, holds⟩ := met_needs.mp (rules _ (.head _))
    exact ⟨_, .openPage tagged holds⟩
  · exact ⟨_, .goBack tagged⟩
  · exact ⟨_, .refresh tagged⟩
  · obtain ⟨target, holds⟩ := met_needs.mp (rules _ (.head _))
    exact ⟨_, .waitFor tagged holds⟩
  · obtain ⟨duration, holds⟩ := met_needs.mp (rules _ (.head _))
    exact ⟨_, .wait tagged holds⟩
  · obtain ⟨name, holds⟩ := met_needs.mp (rules _ (.head _))
    exact ⟨_, .goTo tagged holds⟩
  · obtain ⟨name, holds⟩ := met_needs.mp (rules _ (.head _))
    exact ⟨_, .goToFilter tagged holds⟩
  · obtain ⟨which, reads⟩ := (met_allows .next).mp (rules _ (.head _))
    exact ⟨_, .goToItem tagged reads⟩
  · obtain ⟨text, holds⟩ := met_needs.mp (rules _ (.head _))
    exact ⟨_, .type tagged holds⟩
  · exact ⟨_, .submit tagged⟩
  · exact ⟨_, .click tagged⟩
  · obtain ⟨name, holds⟩ := met_needs.mp (rules _ (.head _))
    exact ⟨_, .clickIfExists tagged holds⟩
  · obtain ⟨option, holds⟩ := met_needs.mp (rules _ (.head _))
    exact ⟨_, .select tagged holds⟩
  · exact ⟨_, .clear tagged⟩
  · obtain ⟨checked, reads⟩ := (met_allows true).mp (rules _ (.head _))
    exact ⟨_, .setChecked tagged reads⟩
  · obtain ⟨target, first⟩ := (met_allows .list).mp (rules _ (.head _))
    obtain ⟨direction, second⟩ := (met_allows .down).mp (rules _ (.tail _ (.head _)))
    exact ⟨_, .scroll tagged first second⟩
  · obtain ⟨target, reads⟩ := (met_allows .list).mp (rules _ (.head _))
    exact ⟨_, .scrollIfNotEnd tagged reads⟩
  · obtain ⟨percent, holds⟩ := met_needs.mp (rules _ (.head _))
    exact ⟨_, .scrollTo tagged holds⟩
  · obtain ⟨selectors, reads⟩ := (met_allows none).mp (rules _ (.head _))
    exact ⟨_, .extractDetails tagged reads⟩
  · obtain ⟨label, reads⟩ := (met_allows "item").mp (rules _ (.head _))
    exact ⟨_, .save tagged reads⟩
  · exact ⟨_, .markDone tagged⟩
  · obtain ⟨items, body, found, means⟩ := block parts (rules _ (.head _))
    obtain ⟨skipProcessed, reads⟩ := (met_allows true).mp (rules _ (.tail _ (.head _)))
    exact ⟨_, .forEachItem tagged found means reads⟩
  · obtain ⟨before, parts⟩ := List.forall_mem_append.mp parts
    obtain ⟨one, others⟩ := List.forall_mem_append.mp before
    obtain ⟨value, given⟩ := met_needsPart.mp (rules _ (.head _))
    obtain ⟨condition, holds⟩ := (forall_one given).mp one
    obtain ⟨thenItems, thenBranch, found, means⟩ := block others (rules _ (.tail _ (.head _)))
    obtain ⟨elseItems, elseBranch, foundElse, meansElse⟩ :=
      block parts (rules _ (.tail _ (.tail _ (.head _))))
    exact ⟨_, .choose tagged given holds found means foundElse meansElse⟩
  · obtain ⟨others, one⟩ := List.forall_mem_append.mp parts
    obtain ⟨items, body, found, means⟩ := block others (rules _ (.head _))
    obtain ⟨value, given⟩ := met_needsPart.mp (rules _ (.tail _ (.head _)))
    obtain ⟨goal, holds⟩ := (forall_one given).mp one
    exact ⟨_, .repeatUntil tagged found means given holds⟩
  · exact ⟨_, .checkpointCount tagged⟩
  · exact ⟨_, .continueItem tagged⟩
  · exact ⟨_, .finish tagged⟩

theorem Command.tag_mem_tags (command : Command) : command.tag ∈ Command.tags := by
  cases command <;> simp [tag, tags]

theorem Condition.tag_mem_tags (condition : Condition) : condition.tag ∈ Condition.tags := by
  cases condition <;> simp [tag, tags]

theorem Until.tag_mem_tags (goal : Until) : goal.tag ∈ Until.tags := by
  cases goal <;> simp [tag, tags]

theorem Condition.Means.tagged {condition : Condition} (means : Means (.obj fields) condition) :
    fields.Tagged condition.tag := by
  cases means <;> assumption

theorem Until.Means.tagged {goal : Until} (means : Means (.obj fields) goal) :
    fields.Tagged goal.tag := by
  cases means <;> assumption

/-- An object means something when its type is a known one and it has what is asked of that. -/
theorem Form.meant_obj {form : Form} :
    form.Meant (.obj fields) ↔ ∃ tag ∈ form.tags, fields.Tagged tag ∧ form.Fulfilled fields tag := by
  constructor
  · intro meant
    cases form with
    | command manner =>
        obtain ⟨command, means⟩ := meant
        exact ⟨_, command.tag_mem_tags, means.tagged, means.fulfilled⟩
    | condition =>
        obtain ⟨condition, means⟩ := meant
        exact ⟨_, condition.tag_mem_tags, means.tagged, means.fulfilled⟩
    | goal =>
        obtain ⟨goal, means⟩ := meant
        exact ⟨_, goal.tag_mem_tags, means.tagged, means.fulfilled⟩
  · rintro ⟨tag, known, tagged, fulfilled⟩
    cases form with
    | command manner => exact Command.meant_of_fulfilled tagged known fulfilled
    | condition => exact Condition.meant_of_fulfilled tagged known fulfilled
    | goal => exact Until.meant_of_fulfilled tagged known fulfilled

end Rows

/-!
## Values without a flaw
-/

namespace Form

variable {form inner : Form} {name : FieldName} {fields : Fields} {tag : String} {value : Json}

/-- What is no object means something only to a lenient reading. -/
theorem meant_other (other : value.asFields? = none) :
    form.Meant value ↔ form = .command .lenient := by
  constructor
  · intro meant
    cases form with
    | command manner =>
        obtain ⟨command, means⟩ := meant
        cases means with
        | pause => rfl
        | _ => cases other
    | condition =>
        obtain ⟨condition, means⟩ := meant
        cases means <;> cases other
    | goal =>
        obtain ⟨goal, means⟩ := meant
        cases means <;> cases other
  · rintro rfl
    exact ⟨_, .pause other⟩

theorem inside_one (among : (inner, value) ∈ form.one name fields) : fields.Inside value := by
  obtain ⟨given, found, same⟩ := Option.map_eq_some_iff.mp (Option.mem_toList.mp among)
  cases same
  exact FieldName.inside found

theorem inside_each (among : (inner, value) ∈ form.each name fields) : fields.Inside value := by
  obtain ⟨item, found, same⟩ := List.mem_map.mp among
  cases same
  cases given : name.value? fields with
  | none =>
      rw [given] at found
      cases found
  | some list =>
      rw [given] at found
      cases list with
      | arr items => exact FieldName.inside_list given found
      | _ => cases found

theorem inside_parts (among : (inner, value) ∈ form.parts fields tag) : fields.Inside value := by
  unfold parts at among
  split at among
  · exact inside_one among
  · exact inside_each among
  · exact inside_each among
  · exact inside_each among
  · exact inside_each among
  · exact inside_each among
  · rcases List.mem_append.mp among with among | among
    · rcases List.mem_append.mp among with among | among
      · exact inside_one among
      · exact inside_each among
    · exact inside_each among
  · rcases List.mem_append.mp among with among | among
    · exact inside_each among
    · exact inside_one among
  · cases among

end Form

theorem Flawed.not_meant {form : Form} {value : Json} (flawed : Flawed form value) :
    ¬form.Meant value := by
  induction flawed with
  | noObject strict other => exact fun meant => strict ((Form.meant_other other).mp meant)
  | noType absent =>
      intro meant
      obtain ⟨tag, -, tagged, -⟩ := Form.meant_obj.mp meant
      cases absent.symm.trans tagged
  | unknownType found unknown =>
      intro meant
      obtain ⟨tag, known, tagged, -⟩ := Form.meant_obj.mp meant
      exact unknown tag known (Option.some.inj (found.symm.trans tagged))
  | missing tagged among required absent =>
      intro meant
      obtain ⟨tag, -, again, rules, -⟩ := Form.meant_obj.mp meant
      cases tagged.symm.trans again
      have met := rules _ among
      rw [Rule.Met, absent, Option.elim_none, required] at met
      cases met
  | unfit tagged among found unfit =>
      intro meant
      obtain ⟨tag, -, again, rules, -⟩ := Form.meant_obj.mp meant
      cases tagged.symm.trans again
      have met := rules _ among
      rw [Rule.Met, found] at met
      exact unfit met
  | inside tagged among _ ih =>
      intro meant
      obtain ⟨tag, -, again, -, parts⟩ := Form.meant_obj.mp meant
      cases tagged.symm.trans again
      exact ih (parts _ among)

theorem Form.meant_of_not_flawed {form : Form} {value : Json} (sound : ¬Flawed form value) :
    form.Meant value := by
  induction value using Json.induction_inside generalizing form with
  | other value other =>
      refine (Form.meant_other other).mpr (Classical.byContradiction fun differs => ?_)
      exact sound (.noObject differs other)
  | object fields ih =>
      cases found : Entries.find? "type" fields with
      | none => exact absurd (.noType found) sound
      | some value =>
          by_cases known : ∃ tag ∈ form.tags, value = .str tag
          · obtain ⟨tag, known, rfl⟩ := known
            have rules (rule : Rule) (among : rule ∈ form.rules fields tag) : rule.Met fields := by
              rw [Rule.Met]
              cases given : rule.name.value? fields with
              | none =>
                  exact Bool.eq_false_iff.mpr fun required =>
                    sound (.missing found among required given)
              | some value =>
                  exact Classical.byContradiction fun unfit => sound (.unfit found among given unfit)
            have parts (part : Form × Json) (among : part ∈ form.parts fields tag) :
                part.1.Meant part.2 :=
              ih part.2 (inside_parts among) fun flawed => sound (.inside found among flawed)
            exact Form.meant_obj.mpr ⟨tag, known, found, rules, parts⟩
          · exact absurd (.unknownType found fun tag among same => known ⟨tag, among, same⟩) sound

/-- A value has a meaning exactly if it has no flaw. -/
theorem flawed_iff {form : Form} {value : Json} : Flawed form value ↔ ¬form.Meant value :=
  ⟨Flawed.not_meant, fun unread => Classical.byContradiction fun sound =>
    unread (Form.meant_of_not_flawed sound)⟩

theorem Form.meant_iff {form : Form} {value : Json} : form.Meant value ↔ ¬Flawed form value := by
  rw [flawed_iff, not_not]

/-!
## Lists of commands
-/

namespace Command

/-- A list that does not read gives the problems it has, and there is at least one. -/
theorem parseList_error {value : Json} {fault : RecipeFault}
    (failed : parseList value = .error fault) :
    ∃ problems, fault = .commands problems ∧
      fault.toFault = .plain .recipeValidation ("Invalid commands: " ++ problems.first.message)
        [("errors", .ofStrings (problems.first.message :: problems.rest.map Problem.message))] := by
  rw [parseList] at failed
  cases read : readList (Tidy.commands value) with
  | error problems =>
      rw [read] at failed
      obtain rfl : RecipeFault.commands problems = fault := Except.error.inj failed
      exact ⟨problems, rfl, rfl⟩
  | ok commands =>
      rw [read] at failed
      have impossible : Except.ok commands = Except.error fault := failed
      cases impossible

/-- Lists of commands are read in one pass: the commands are those that the entries mean, one for
each entry at every level of nesting. They are read if no entry has a flaw; with one, the reading
fails with at least one problem. -/
theorem parseList_one_pass (value : Json) :
    (∀ commands, parseList value = .ok commands ↔
      List.Forall₂ (Means .lenient) value.items commands) ∧
    (∀ manner items commands, AllMean manner items commands ↔
      List.Forall₂ (Means manner) items commands) ∧
    ((∃ commands, parseList value = .ok commands) ↔
      ∀ entry ∈ value.items, ¬Flawed (.command .lenient) entry) ∧
    ((∃ entry ∈ value.items, Flawed (.command .lenient) entry) →
      ∃ problems, parseList value = .error (.commands problems) ∧
        (RecipeFault.commands problems).toFault =
          .plain .recipeValidation ("Invalid commands: " ++ problems.first.message)
            [("errors", .ofStrings (problems.first.message :: problems.rest.map Problem.message))]) := by
  have read (commands : List Command) : parseList value = .ok commands ↔
      List.Forall₂ (Means .lenient) value.items commands :=
    parseList_eq_ok.trans allMean_iff
  have some_read : (∃ commands, parseList value = .ok commands) ↔
      ∀ entry ∈ value.items, ¬Flawed (.command .lenient) entry := by
    simp only [read, exists_forall₂, ← Form.meant_iff]
    exact Iff.rfl
  refine ⟨read, fun manner items commands => allMean_iff, some_read, ?_⟩
  rintro ⟨entry, among, flawed⟩
  cases made : parseList value with
  | ok commands => exact absurd flawed (some_read.mp ⟨commands, made⟩ entry among)
  | error fault =>
      obtain ⟨problems, rfl, described⟩ := parseList_error made
      exact ⟨problems, rfl, described⟩

end Command

end Gleaner
