import Gleaner.Proofs.Schema.Reading
import Gleaner.Recipe.Reader

/-!
# What recipes mean

A relation beside the readers: which condition, goal or command an object stands for, field by
field. Commands are taken in one of two manners. The strict manner is that of the readers alone;
the lenient one is that of a list that is tidied before it is read, and takes the list as its
author left it, with the commands of a loop under either key and with anything at all among the
commands.
-/

set_option autoImplicit false

namespace Gleaner

def Fields.Tagged (fields : Fields) (tag : String) : Prop :=
  Entries.find? "type" fields = some (.str tag)

theorem readTagged_eq_ok {α : Type} {tags : List String} {fields : Fields}
    {read : String → Option (Checked α)} {result : α} :
    readTagged tags fields read = .ok result ↔
      ∃ tag, fields.Tagged tag ∧ read tag = some (.ok result) := by
  unfold readTagged Fields.Tagged
  cases Entries.find? "type" fields with
  | none =>
      constructor
      · rintro ⟨⟩
      · rintro ⟨_, ⟨⟩, _⟩
  | some value =>
      cases value with
      | str tag =>
          dsimp only
          cases row : read tag with
          | none => simp [row, Checked.complain, Checked.failed, Checked.ok]
          | some checked => simp [row, Checked.under_eq_ok]
      | _ =>
          constructor
          · rintro ⟨⟩
          · rintro ⟨_, ⟨⟩, _⟩

/-!
A form that has one field of its own is read where that field is.
-/

namespace Fields

variable {α β : Type} {fields : Fields} {name : FieldName} {read : Reading α} {default part : α}
  {f : α → β} {result : β}

theorem Holds.row (holds : Holds fields name read part) :
    some (f <$> required fields name read) = some (.ok (f part)) :=
  congrArg some (Checked.map_ok (required_eq_ok.mpr holds))

theorem Holds.of_row (row : some (f <$> required fields name read) = some (.ok result)) :
    ∃ part, Holds fields name read part ∧ f part = result := by
  obtain ⟨part, made, same⟩ := Checked.map_eq_ok.mp (Option.some.inj row)
  exact ⟨part, required_eq_ok.mp made, same⟩

theorem Reads.row (reads : Reads fields name default read part) :
    some (f <$> optional fields name default read) = some (.ok (f part)) :=
  congrArg some (Checked.map_ok (optional_eq_ok.mpr reads))

theorem Reads.of_row (row : some (f <$> optional fields name default read) = some (.ok result)) :
    ∃ part, Reads fields name default read part ∧ f part = result := by
  obtain ⟨part, made, same⟩ := Checked.map_eq_ok.mp (Option.some.inj row)
  exact ⟨part, optional_eq_ok.mp made, same⟩

end Fields

/-!
## Conditions and goals
-/

/-- The condition that an object stands for. -/
inductive Condition.Means : Json → Condition → Prop where
  | present {fields : Fields} {name : String} :
      fields.Tagged "EXISTS" → fields.Holds "name" Reading.string name →
      Means (.obj fields) (.present name)
  | visible {fields : Fields} {name : String} :
      fields.Tagged "VISIBLE" → fields.Holds "name" Reading.string name →
      Means (.obj fields) (.visible name)
  | listEnd {fields : Fields} : fields.Tagged "LIST_END" → Means (.obj fields) .listEnd
  | pageEnd {fields : Fields} : fields.Tagged "PAGE_END" → Means (.obj fields) .pageEnd
  | newItems {fields : Fields} : fields.Tagged "NEW_ITEMS" → Means (.obj fields) .newItems
  | not {fields : Fields} {value : Json} {inner : Condition} :
      fields.Tagged "NOT" → FieldName.value? "condition" fields = some value →
      Means value inner → Means (.obj fields) (.not inner)
  | all {fields : Fields} {items : List Json} {parts : List Condition} :
      fields.Tagged "AND" → FieldName.value? "conditions" fields = some (.arr items) →
      List.Forall₂ Means items parts → Means (.obj fields) (.all parts)
  | any {fields : Fields} {items : List Json} {parts : List Condition} :
      fields.Tagged "OR" → FieldName.value? "conditions" fields = some (.arr items) →
      List.Forall₂ Means items parts → Means (.obj fields) (.any parts)

/-- The goal of a repetition that an object stands for. -/
inductive Until.Means : Json → Until → Prop where
  | collected {fields : Fields} {count : Nat} :
      fields.Tagged "COLLECTED" → fields.Holds "count" (Reading.natural 0) count →
      Means (.obj fields) (.collected count)
  | noMoreItems {fields : Fields} : fields.Tagged "NO_MORE_ITEMS" → Means (.obj fields) .noMoreItems
  | maxScrolls {fields : Fields} {count : Nat} :
      fields.Tagged "MAX_SCROLLS" → fields.Holds "count" (Reading.natural 0) count →
      Means (.obj fields) (.maxScrolls count)
  | all {fields : Fields} {items : List Json} {parts : List Until} :
      fields.Tagged "AND" → FieldName.value? "conditions" fields = some (.arr items) →
      List.Forall₂ Means items parts → Means (.obj fields) (.all parts)
  | any {fields : Fields} {items : List Json} {parts : List Until} :
      fields.Tagged "OR" → FieldName.value? "conditions" fields = some (.arr items) →
      List.Forall₂ Means items parts → Means (.obj fields) (.any parts)

theorem Condition.read_other {value : Json} (other : value.asFields? = none) :
    Condition.read value = .complain .notTagged := by
  cases value with
  | obj fields => cases other
  | _ => rw [Condition.read]; rintro _ ⟨⟩

theorem Condition.means_of_read {value : Json} {condition : Condition}
    (made : Condition.read value = .ok condition) : Means value condition := by
  induction value using Json.induction_inside generalizing condition with
  | other value other =>
      rw [Condition.read_other other] at made
      cases made
  | object fields ih =>
      have list {parts : List Condition}
          (made : Fields.requiredList fields "conditions" (fun item _ => read item) = .ok parts) :
          ∃ items, FieldName.value? "conditions" fields = some (.arr items) ∧
            List.Forall₂ Means items parts := by
        obtain ⟨items, found, each⟩ := Fields.requiredList_eq_ok.mp made
        exact ⟨items, found, forall₂_imp_left each fun item among _ =>
          ih item (FieldName.inside_list found among)⟩
      rw [Condition.read, readTagged_eq_ok] at made
      obtain ⟨tag, tagged, row⟩ := made
      split at row
      · obtain ⟨name, holds, rfl⟩ := Fields.Holds.of_row row
        exact .present tagged holds
      · obtain ⟨name, holds, rfl⟩ := Fields.Holds.of_row row
        exact .visible tagged holds
      · cases row
        exact .listEnd tagged
      · cases row
        exact .pageEnd tagged
      · cases row
        exact .newItems tagged
      · obtain ⟨inner, ⟨value, found, made⟩, rfl⟩ := Fields.Holds.of_row row
        exact .not tagged found (ih value (FieldName.inside found) made)
      · obtain ⟨parts, made, rfl⟩ := Checked.map_eq_ok.mp (Option.some.inj row)
        obtain ⟨items, found, means⟩ := list made
        exact .all tagged found means
      · obtain ⟨parts, made, rfl⟩ := Checked.map_eq_ok.mp (Option.some.inj row)
        obtain ⟨items, found, means⟩ := list made
        exact .any tagged found means
      · cases row

theorem Condition.read_of_means {value : Json} {condition : Condition}
    (means : Means value condition) : Condition.read value = .ok condition := by
  induction value using Json.induction_inside generalizing condition with
  | other value other => cases means <;> cases other
  | object fields ih =>
      have list {items : List Json} {parts : List Condition}
          (found : FieldName.value? "conditions" fields = some (.arr items))
          (means : List.Forall₂ Means items parts) :
          Fields.requiredList fields "conditions" (fun item _ => read item) = .ok parts :=
        Fields.requiredList_eq_ok.mpr ⟨items, found, forall₂_imp_left means fun item among _ =>
          ih item (FieldName.inside_list found among)⟩
      rw [Condition.read, readTagged_eq_ok]
      cases means with
      | present tagged holds => exact ⟨_, tagged, holds.row⟩
      | visible tagged holds => exact ⟨_, tagged, holds.row⟩
      | listEnd tagged => exact ⟨_, tagged, rfl⟩
      | pageEnd tagged => exact ⟨_, tagged, rfl⟩
      | newItems tagged => exact ⟨_, tagged, rfl⟩
      | not tagged found inner =>
          have made := ih _ (FieldName.inside found) inner
          exact ⟨_, tagged, Fields.Holds.row ⟨_, found, made⟩⟩
      | all tagged found parts =>
          exact ⟨_, tagged, congrArg some (Checked.map_ok (list found parts))⟩
      | any tagged found parts =>
          exact ⟨_, tagged, congrArg some (Checked.map_ok (list found parts))⟩

theorem Until.read_other {value : Json} (other : value.asFields? = none) :
    Until.read value = .complain .notTagged := by
  cases value with
  | obj fields => cases other
  | _ => rw [Until.read]; rintro _ ⟨⟩

theorem Until.means_of_read {value : Json} {goal : Until} (made : Until.read value = .ok goal) :
    Means value goal := by
  induction value using Json.induction_inside generalizing goal with
  | other value other =>
      rw [Until.read_other other] at made
      cases made
  | object fields ih =>
      have list {parts : List Until}
          (made : Fields.requiredList fields "conditions" (fun item _ => read item) = .ok parts) :
          ∃ items, FieldName.value? "conditions" fields = some (.arr items) ∧
            List.Forall₂ Means items parts := by
        obtain ⟨items, found, each⟩ := Fields.requiredList_eq_ok.mp made
        exact ⟨items, found, forall₂_imp_left each fun item among _ =>
          ih item (FieldName.inside_list found among)⟩
      rw [Until.read, readTagged_eq_ok] at made
      obtain ⟨tag, tagged, row⟩ := made
      split at row
      · obtain ⟨count, holds, rfl⟩ := Fields.Holds.of_row row
        exact .collected tagged holds
      · cases row
        exact .noMoreItems tagged
      · obtain ⟨count, holds, rfl⟩ := Fields.Holds.of_row row
        exact .maxScrolls tagged holds
      · obtain ⟨parts, made, rfl⟩ := Checked.map_eq_ok.mp (Option.some.inj row)
        obtain ⟨items, found, means⟩ := list made
        exact .all tagged found means
      · obtain ⟨parts, made, rfl⟩ := Checked.map_eq_ok.mp (Option.some.inj row)
        obtain ⟨items, found, means⟩ := list made
        exact .any tagged found means
      · cases row

theorem Until.read_of_means {value : Json} {goal : Until} (means : Means value goal) :
    Until.read value = .ok goal := by
  induction value using Json.induction_inside generalizing goal with
  | other value other => cases means <;> cases other
  | object fields ih =>
      have list {items : List Json} {parts : List Until}
          (found : FieldName.value? "conditions" fields = some (.arr items))
          (means : List.Forall₂ Means items parts) :
          Fields.requiredList fields "conditions" (fun item _ => read item) = .ok parts :=
        Fields.requiredList_eq_ok.mpr ⟨items, found, forall₂_imp_left means fun item among _ =>
          ih item (FieldName.inside_list found among)⟩
      rw [Until.read, readTagged_eq_ok]
      cases means with
      | collected tagged holds => exact ⟨_, tagged, holds.row⟩
      | noMoreItems tagged => exact ⟨_, tagged, rfl⟩
      | maxScrolls tagged holds => exact ⟨_, tagged, holds.row⟩
      | all tagged found parts =>
          exact ⟨_, tagged, congrArg some (Checked.map_ok (list found parts))⟩
      | any tagged found parts =>
          exact ⟨_, tagged, congrArg some (Checked.map_ok (list found parts))⟩

/-!
## Commands
-/

/-- How lists of commands are taken. A lenient reading takes what is no list for an empty one and
what is no object among the commands for a short wait; a strict one refuses both. -/
inductive Manner where
  | lenient
  | strict

namespace Manner

/-- The items of a value that should be a list of commands; a list that is absent is empty. -/
def items? : Manner → Option Json → Option (List Json)
  | _, none => some []
  | _, some (.arr items) => some items
  | .lenient, some _ => some []
  | .strict, some _ => none

/-- Where the commands of a loop stand; a lenient reading knows another key for them. -/
def body : Manner → FieldName
  | .lenient => ⟨"body", ["commands"]⟩
  | .strict => "body"

/-- How the second branch of a choice is taken: strictly, when it stands under its other key. -/
def forElse (manner : Manner) (fields : Fields) : Manner :=
  if Entries.has "else" fields then manner else strict

end Manner

section

open Reading

mutual

/-- The command that an entry of a list stands for. -/
inductive Command.Means : Manner → Json → Command → Prop where
  | pause {value : Json} : value.asFields? = none → Command.Means .lenient value (.wait 0.1)
  | openPage {manner : Manner} {fields : Fields} {url : String} :
      fields.Tagged "OPEN_PAGE" → fields.Holds "url" string url →
      Command.Means manner (.obj fields) (.openPage url)
  | goBack {manner : Manner} {fields : Fields} :
      fields.Tagged "GO_BACK" → Command.Means manner (.obj fields) .goBack
  | refresh {manner : Manner} {fields : Fields} :
      fields.Tagged "REFRESH" → Command.Means manner (.obj fields) .refresh
  | waitFor {manner : Manner} {fields : Fields} {target : WaitTarget} :
      fields.Tagged "WAIT_FOR" → fields.Holds "target" (choice WaitTarget.names) target →
      Command.Means manner (.obj fields) (.waitFor target)
  | wait {manner : Manner} {fields : Fields} {duration : Float} :
      fields.Tagged "WAIT" → fields.Holds "seconds" seconds duration →
      Command.Means manner (.obj fields) (.wait duration)
  | goTo {manner : Manner} {fields : Fields} {name : String} :
      fields.Tagged "GO_TO" → fields.Holds "name" string name →
      Command.Means manner (.obj fields) (.goTo name)
  | goToFilter {manner : Manner} {fields : Fields} {name : String} :
      fields.Tagged "GO_TO_FILTER" → fields.Holds "name" string name →
      Command.Means manner (.obj fields) (.goToFilter name)
  | goToItem {manner : Manner} {fields : Fields} {which : ItemChoice} :
      fields.Tagged "GO_TO_ITEM" → fields.Reads "which" .next (choice ItemChoice.names) which →
      Command.Means manner (.obj fields) (.goToItem which)
  | type {manner : Manner} {fields : Fields} {text : String} :
      fields.Tagged "TYPE" → fields.Holds "text" string text →
      Command.Means manner (.obj fields) (.type text)
  | submit {manner : Manner} {fields : Fields} :
      fields.Tagged "SUBMIT" → Command.Means manner (.obj fields) .submit
  | click {manner : Manner} {fields : Fields} :
      fields.Tagged "CLICK" → Command.Means manner (.obj fields) .click
  | clickIfExists {manner : Manner} {fields : Fields} {name : String} :
      fields.Tagged "CLICK_IF_EXISTS" → fields.Holds "name" string name →
      Command.Means manner (.obj fields) (.clickIfExists name)
  | select {manner : Manner} {fields : Fields} {option : String} :
      fields.Tagged "SELECT" → fields.Holds "option" string option →
      Command.Means manner (.obj fields) (.select option)
  | clear {manner : Manner} {fields : Fields} :
      fields.Tagged "CLEAR" → Command.Means manner (.obj fields) .clear
  | setChecked {manner : Manner} {fields : Fields} {checked : Bool} :
      fields.Tagged "SET_CHECKED" → fields.Reads "checked" true bool checked →
      Command.Means manner (.obj fields) (.setChecked checked)
  | scroll {manner : Manner} {fields : Fields} {target : ScrollTarget} {direction : Direction} :
      fields.Tagged "SCROLL" → fields.Reads "target" .list (choice ScrollTarget.names) target →
      fields.Reads "direction" .down (choice Direction.names) direction →
      Command.Means manner (.obj fields) (.scroll target direction)
  | scrollIfNotEnd {manner : Manner} {fields : Fields} {target : ScrollTarget} :
      fields.Tagged "SCROLL_IF_NOT_END" →
      fields.Reads "target" .list (choice ScrollTarget.names) target →
      Command.Means manner (.obj fields) (.scrollIfNotEnd target)
  | scrollTo {manner : Manner} {fields : Fields} {percent : Float} :
      fields.Tagged "SCROLL_TO" → fields.Holds "percent" percentage percent →
      Command.Means manner (.obj fields) (.scrollTo percent)
  | extractDetails {manner : Manner} {fields : Fields} {selectors : Option (List String)} :
      fields.Tagged "EXTRACT_DETAILS" →
      fields.Reads "selectors" none (orNull (Reading.list string)) selectors →
      Command.Means manner (.obj fields) (.extractDetails selectors)
  | save {manner : Manner} {fields : Fields} {label : String} :
      fields.Tagged "SAVE" → fields.Reads ⟨"as", ["save_as"]⟩ "item" string label →
      Command.Means manner (.obj fields) (.save label)
  | markDone {manner : Manner} {fields : Fields} :
      fields.Tagged "MARK_DONE" → Command.Means manner (.obj fields) .markDone
  | forEachItem {manner : Manner} {fields : Fields} {items : List Json} {body : List Command}
      {skipProcessed : Bool} :
      fields.Tagged "FOR_EACH_ITEM_IN_LIST" →
      manner.items? (manner.body.value? fields) = some items → Command.AllMean manner items body →
      fields.Reads ⟨"skipProcessed", ["skip_processed"]⟩ true bool skipProcessed →
      Command.Means manner (.obj fields) (.forEachItem body skipProcessed)
  | choose {manner : Manner} {fields : Fields} {condition : Condition} {value : Json}
      {thenItems elseItems : List Json} {thenBranch elseBranch : List Command} :
      fields.Tagged "IF" →
      FieldName.value? "condition" fields = some value → condition.Means value →
      manner.items? (FieldName.value? "then" fields) = some thenItems →
      Command.AllMean manner thenItems thenBranch →
      (manner.forElse fields).items? (FieldName.value? ⟨"else", ["else_"]⟩ fields) = some elseItems →
      Command.AllMean (manner.forElse fields) elseItems elseBranch →
      Command.Means manner (.obj fields) (.choose condition thenBranch elseBranch)
  | repeatUntil {manner : Manner} {fields : Fields} {items : List Json} {body : List Command}
      {value : Json} {goal : Until} :
      fields.Tagged "REPEAT" →
      manner.items? (manner.body.value? fields) = some items → Command.AllMean manner items body →
      FieldName.value? "until" fields = some value → goal.Means value →
      Command.Means manner (.obj fields) (.repeatUntil body goal)
  | checkpointCount {manner : Manner} {fields : Fields} :
      fields.Tagged "CHECKPOINT_COUNT" → Command.Means manner (.obj fields) .checkpointCount
  | continueItem {manner : Manner} {fields : Fields} :
      fields.Tagged "CONTINUE" → Command.Means manner (.obj fields) .continueItem
  | finish {manner : Manner} {fields : Fields} :
      fields.Tagged "END" → Command.Means manner (.obj fields) .finish

/-- The commands that the entries of a list stand for: one for each, in their order. -/
inductive Command.AllMean : Manner → List Json → List Command → Prop where
  | nil {manner : Manner} : Command.AllMean manner [] []
  | cons {manner : Manner} {item : Json} {rest : List Json} {command : Command}
      {others : List Command} :
      Command.Means manner item command → Command.AllMean manner rest others →
      Command.AllMean manner (item :: rest) (command :: others)

end

end

theorem Command.allMean_iff {manner : Manner} {items : List Json} {commands : List Command} :
    AllMean manner items commands ↔ List.Forall₂ (Means manner) items commands := by
  constructor
  · intro means
    induction items generalizing commands with
    | nil =>
        cases means
        exact .nil
    | cons item rest ih =>
        cases means with
        | cons first others => exact .cons first (ih others)
  · intro means
    induction means with
    | nil => exact .nil
    | cons first _ ih => exact .cons first ih

theorem Command.read_other {value : Json} (other : value.asFields? = none) :
    Command.read value = .complain .notTagged := by
  cases value with
  | obj fields => cases other
  | _ => rw [Command.read]; rintro _ ⟨⟩

/-- A list of commands is read strictly. -/
theorem Command.optionalList_eq_ok {fields : Fields} {name : FieldName} {commands : List Command} :
    Fields.optionalList fields name (fun item _ => Command.read item) = .ok commands ↔
      ∃ items, Manner.strict.items? (name.value? fields) = some items ∧
        List.Forall₂ (fun item command => Command.read item = .ok command) items commands := by
  rw [Fields.optionalList_eq_ok]
  rcases name.value? fields with _ | value
  · simp [Manner.items?, List.forall₂_nil_left_iff]
  · cases value <;> simp [Manner.items?]

theorem Manner.strict_forElse (fields : Fields) : strict.forElse fields = strict :=
  ite_self _

theorem FieldName.value?_alone (key : String) (fields : Fields) :
    FieldName.value? ⟨key, []⟩ fields = Entries.find? key fields := by
  simp only [FieldName.value?, FieldName.spellings, List.findSome?_cons, List.findSome?_nil]
  cases Entries.find? key fields <;> rfl

theorem FieldName.value?_either (key other : String) (fields : Fields) :
    FieldName.value? ⟨key, [other]⟩ fields =
      (Entries.find? key fields).or (Entries.find? other fields) := by
  simp only [FieldName.value?, FieldName.spellings, List.findSome?_cons, List.findSome?_nil]
  cases Entries.find? key fields <;> cases Entries.find? other fields <;> rfl

theorem Manner.inside_items {manner : Manner} {fields : Fields} {name : FieldName}
    {items : List Json} {item : Json} (found : manner.items? (name.value? fields) = some items)
    (among : item ∈ items) : fields.Inside item := by
  cases value : name.value? fields with
  | none =>
      rw [value] at found
      cases found
      cases among
  | some given =>
      rw [value] at found
      cases given with
      | arr others =>
          cases found
          exact FieldName.inside_list value among
      | _ =>
          cases manner with
          | lenient => cases found; cases among
          | strict => cases found

theorem Command.means_of_read {value : Json} {command : Command}
    (made : Command.read value = .ok command) : Means .strict value command := by
  induction value using Json.induction_inside generalizing command with
  | other value other =>
      rw [Command.read_other other] at made
      cases made
  | object fields ih =>
      have list {name : FieldName} {commands : List Command}
          (made : Fields.optionalList fields name (fun item _ => Command.read item) = .ok commands) :
          ∃ items, Manner.strict.items? (name.value? fields) = some items ∧
            AllMean .strict items commands := by
        obtain ⟨items, found, each⟩ := Command.optionalList_eq_ok.mp made
        exact ⟨items, found, allMean_iff.mpr (forall₂_imp_left each fun item among _ =>
          ih item (Manner.inside_items found among))⟩
      rw [Command.read, readTagged_eq_ok] at made
      obtain ⟨tag, tagged, row⟩ := made
      dsimp only at row
      split at row
      · obtain ⟨url, holds, rfl⟩ := Fields.Holds.of_row row
        exact .openPage tagged holds
      · cases row
        exact .goBack tagged
      · cases row
        exact .refresh tagged
      · obtain ⟨target, holds, rfl⟩ := Fields.Holds.of_row row
        exact .waitFor tagged holds
      · obtain ⟨duration, holds, rfl⟩ := Fields.Holds.of_row row
        exact .wait tagged holds
      · obtain ⟨name, holds, rfl⟩ := Fields.Holds.of_row row
        exact .goTo tagged holds
      · obtain ⟨name, holds, rfl⟩ := Fields.Holds.of_row row
        exact .goToFilter tagged holds
      · obtain ⟨which, reads, rfl⟩ := Fields.Reads.of_row row
        exact .goToItem tagged reads
      · obtain ⟨text, holds, rfl⟩ := Fields.Holds.of_row row
        exact .type tagged holds
      · cases row
        exact .submit tagged
      · cases row
        exact .click tagged
      · obtain ⟨name, holds, rfl⟩ := Fields.Holds.of_row row
        exact .clickIfExists tagged holds
      · obtain ⟨option, holds, rfl⟩ := Fields.Holds.of_row row
        exact .select tagged holds
      · cases row
        exact .clear tagged
      · obtain ⟨checked, reads, rfl⟩ := Fields.Reads.of_row row
        exact .setChecked tagged reads
      · obtain ⟨_, direction, first, further, rfl⟩ := Checked.seq_eq_ok.mp (Option.some.inj row)
        obtain ⟨target, made, rfl⟩ := Checked.map_eq_ok.mp first
        exact .scroll tagged (Fields.optional_eq_ok.mp made) (Fields.optional_eq_ok.mp further)
      · obtain ⟨target, reads, rfl⟩ := Fields.Reads.of_row row
        exact .scrollIfNotEnd tagged reads
      · obtain ⟨percent, holds, rfl⟩ := Fields.Holds.of_row row
        exact .scrollTo tagged holds
      · obtain ⟨selectors, reads, rfl⟩ := Fields.Reads.of_row row
        exact .extractDetails tagged reads
      · obtain ⟨label, reads, rfl⟩ := Fields.Reads.of_row row
        exact .save tagged reads
      · cases row
        exact .markDone tagged
      · obtain ⟨_, skipProcessed, first, further, rfl⟩ := Checked.seq_eq_ok.mp (Option.some.inj row)
        obtain ⟨body, made, rfl⟩ := Checked.map_eq_ok.mp first
        obtain ⟨items, found, means⟩ := list made
        exact .forEachItem tagged found means (Fields.optional_eq_ok.mp further)
      · obtain ⟨_, elseBranch, both, last, rfl⟩ := Checked.seq_eq_ok.mp (Option.some.inj row)
        obtain ⟨_, thenBranch, first, further, rfl⟩ := Checked.seq_eq_ok.mp both
        obtain ⟨condition, read, rfl⟩ := Checked.map_eq_ok.mp first
        obtain ⟨value, given, made⟩ := Fields.required_eq_ok.mp read
        obtain ⟨thenItems, found, means⟩ := list further
        obtain ⟨elseItems, foundElse, meansElse⟩ := list last
        have strict := Manner.strict_forElse fields
        exact .choose tagged given (Condition.means_of_read made) found means
          (by rw [strict]; exact foundElse) (by rw [strict]; exact meansElse)
      · obtain ⟨_, goal, first, further, rfl⟩ := Checked.seq_eq_ok.mp (Option.some.inj row)
        obtain ⟨body, made, rfl⟩ := Checked.map_eq_ok.mp first
        obtain ⟨items, found, means⟩ := list made
        obtain ⟨value, given, made⟩ := Fields.required_eq_ok.mp further
        exact .repeatUntil tagged found means given (Until.means_of_read made)
      · cases row
        exact .checkpointCount tagged
      · cases row
        exact .continueItem tagged
      · cases row
        exact .finish tagged
      · cases row

theorem Command.read_of_means {value : Json} {command : Command}
    (means : Means .strict value command) : Command.read value = .ok command := by
  induction value using Json.induction_inside generalizing command with
  | other value other => cases means <;> cases other
  | object fields ih =>
      have list {name : FieldName} {items : List Json} {commands : List Command}
          (found : Manner.strict.items? (name.value? fields) = some items)
          (means : AllMean .strict items commands) :
          Fields.optionalList fields name (fun item _ => Command.read item) = .ok commands :=
        Command.optionalList_eq_ok.mpr ⟨items, found,
          forall₂_imp_left (allMean_iff.mp means) fun item among _ =>
            ih item (Manner.inside_items found among)⟩
      rw [Command.read, readTagged_eq_ok]
      cases means with
      | openPage tagged holds => exact ⟨_, tagged, holds.row⟩
      | goBack tagged => exact ⟨_, tagged, rfl⟩
      | refresh tagged => exact ⟨_, tagged, rfl⟩
      | waitFor tagged holds => exact ⟨_, tagged, holds.row⟩
      | wait tagged holds => exact ⟨_, tagged, holds.row⟩
      | goTo tagged holds => exact ⟨_, tagged, holds.row⟩
      | goToFilter tagged holds => exact ⟨_, tagged, holds.row⟩
      | goToItem tagged reads => exact ⟨_, tagged, reads.row⟩
      | type tagged holds => exact ⟨_, tagged, holds.row⟩
      | submit tagged => exact ⟨_, tagged, rfl⟩
      | click tagged => exact ⟨_, tagged, rfl⟩
      | clickIfExists tagged holds => exact ⟨_, tagged, holds.row⟩
      | select tagged holds => exact ⟨_, tagged, holds.row⟩
      | clear tagged => exact ⟨_, tagged, rfl⟩
      | setChecked tagged reads => exact ⟨_, tagged, reads.row⟩
      | scroll tagged target direction =>
          exact ⟨_, tagged, congrArg some (Checked.seq_ok
            (Checked.map_ok (Fields.optional_eq_ok.mpr target)) (Fields.optional_eq_ok.mpr direction))⟩
      | scrollIfNotEnd tagged reads => exact ⟨_, tagged, reads.row⟩
      | scrollTo tagged holds => exact ⟨_, tagged, holds.row⟩
      | extractDetails tagged reads => exact ⟨_, tagged, reads.row⟩
      | save tagged reads => exact ⟨_, tagged, reads.row⟩
      | markDone tagged => exact ⟨_, tagged, rfl⟩
      | forEachItem tagged found means skipProcessed =>
          exact ⟨_, tagged, congrArg some (Checked.seq_ok (Checked.map_ok (list found means))
            (Fields.optional_eq_ok.mpr skipProcessed))⟩
      | choose tagged given condition found means foundElse meansElse =>
          rw [Manner.strict_forElse] at foundElse meansElse
          have given := Fields.required_eq_ok.mpr ⟨_, given, Condition.read_of_means condition⟩
          exact ⟨_, tagged, congrArg some (Checked.seq_ok
            (Checked.seq_ok (Checked.map_ok given) (list found means)) (list foundElse meansElse))⟩
      | repeatUntil tagged found means given goal =>
          have given := Fields.required_eq_ok.mpr ⟨_, given, Until.read_of_means goal⟩
          exact ⟨_, tagged, congrArg some (Checked.seq_ok (Checked.map_ok (list found means)) given)⟩
      | checkpointCount tagged => exact ⟨_, tagged, rfl⟩
      | continueItem tagged => exact ⟨_, tagged, rfl⟩
      | finish tagged => exact ⟨_, tagged, rfl⟩

theorem Command.read_eq_ok {value : Json} {command : Command} :
    Command.read value = .ok command ↔ Means .strict value command :=
  ⟨means_of_read, read_of_means⟩

end Gleaner
