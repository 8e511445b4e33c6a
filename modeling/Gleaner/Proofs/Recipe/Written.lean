import Gleaner.Proofs.Json.Indented
import Gleaner.Proofs.Recipe.Sound
import Gleaner.Recipe.Wire

/-!
# Recipes that are written and read

What is written for a recipe means that recipe: each command under its tag, with every field under
the first of its spellings. Tidying finds nothing to do, and the text has each key once.
-/

set_option autoImplicit false

namespace Gleaner

open Reading

/-!
## Fields as they are written
-/

namespace Fields

variable {α : Type} {fields : Fields} {name : FieldName} {default : α} {read : Reading α}

theorem holds_string {text : String} (found : name.value? fields = some (.str text)) :
    fields.Holds name string text :=
  ⟨_, found, rfl⟩

theorem holds_count {count : Nat} (found : name.value? fields = some (.int count)) :
    fields.Holds name (natural 0) count :=
  ⟨_, found, natural_int (Nat.zero_le count)⟩

theorem reads_choice {choices : List (String × α)} {word : String} {chosen : α}
    (found : name.value? fields = some (.str word))
    (listed : Entries.find? word choices = some chosen) :
    fields.Reads name default (choice choices) chosen :=
  (Reads.given found).mpr (choice_eq_ok.mpr ⟨word, rfl, listed⟩)

end Fields

theorem WaitTarget.find?_text (target : WaitTarget) :
    Entries.find? target.text names = some target := by
  cases target <;> rfl

theorem ItemChoice.find?_text (which : ItemChoice) :
    Entries.find? which.text names = some which := by
  cases which <;> rfl

theorem ScrollTarget.find?_text (target : ScrollTarget) :
    Entries.find? target.text names = some target := by
  cases target <;> rfl

theorem Direction.find?_text (direction : Direction) :
    Entries.find? direction.text names = some direction := by
  cases direction <;> rfl

/-!
## What is written means what was written
-/

mutual

theorem Condition.means_toJson (condition : Condition) : Means condition.toJson condition := by
  cases condition with
  | present name => exact .present rfl (Fields.holds_string rfl)
  | visible name => exact .visible rfl (Fields.holds_string rfl)
  | listEnd => exact .listEnd rfl
  | pageEnd => exact .pageEnd rfl
  | newItems => exact .newItems rfl
  | not inner => exact .not rfl rfl (Condition.means_toJson inner)
  | all parts => exact .all rfl rfl (Condition.means_listToJson parts)
  | any parts => exact .any rfl rfl (Condition.means_listToJson parts)

theorem Condition.means_listToJson (parts : List Condition) :
    List.Forall₂ Means (Condition.listToJson parts) parts := by
  cases parts with
  | nil => exact .nil
  | cons part rest =>
      exact .cons (Condition.means_toJson part) (Condition.means_listToJson rest)

end

mutual

theorem Until.means_toJson (goal : Until) : Means goal.toJson goal := by
  cases goal with
  | collected count => exact .collected rfl (Fields.holds_count rfl)
  | noMoreItems => exact .noMoreItems rfl
  | maxScrolls count => exact .maxScrolls rfl (Fields.holds_count rfl)
  | all parts => exact .all rfl rfl (Until.means_listToJson parts)
  | any parts => exact .any rfl rfl (Until.means_listToJson parts)

theorem Until.means_listToJson (parts : List Until) :
    List.Forall₂ Means (Until.listToJson parts) parts := by
  cases parts with
  | nil => exact .nil
  | cons part rest => exact .cons (Until.means_toJson part) (Until.means_listToJson rest)

end

theorem Manner.items?_list (manner : Manner) (items : List Json) :
    manner.items? (some (.arr items)) = some items := by
  cases manner <;> rfl

theorem Manner.items?_body (manner : Manner) {fields : Fields} {items : List Json}
    (found : Entries.find? "body" fields = some (.arr items)) :
    manner.items? (manner.body.value? fields) = some items := by
  cases manner with
  | lenient => rw [body, FieldName.value?_either, found]; rfl
  | strict => rw [body, FieldName.value?_alone, found]; rfl

mutual

theorem Command.means_toJson (manner : Manner) (command : Command) (sound : command.Sound) :
    Means manner command.toJson command := by
  cases command with
  | openPage url => exact .openPage rfl (Fields.holds_string rfl)
  | goBack => exact .goBack rfl
  | refresh => exact .refresh rfl
  | waitFor target =>
      exact .waitFor rfl ⟨_, rfl, choice_eq_ok.mpr ⟨_, rfl, target.find?_text⟩⟩
  | wait duration => exact .wait rfl ⟨_, rfl, seconds_eq_ok.mpr ⟨rfl, sound⟩⟩
  | goTo name => exact .goTo rfl (Fields.holds_string rfl)
  | goToFilter name => exact .goToFilter rfl (Fields.holds_string rfl)
  | goToItem which => exact .goToItem rfl (Fields.reads_choice rfl which.find?_text)
  | type text => exact .type rfl (Fields.holds_string rfl)
  | submit => exact .submit rfl
  | click => exact .click rfl
  | clickIfExists name => exact .clickIfExists rfl (Fields.holds_string rfl)
  | select option => exact .select rfl (Fields.holds_string rfl)
  | clear => exact .clear rfl
  | setChecked checked => exact .setChecked rfl rfl
  | scroll target direction =>
      exact .scroll rfl (Fields.reads_choice rfl target.find?_text)
        (Fields.reads_choice rfl direction.find?_text)
  | scrollIfNotEnd target =>
      exact .scrollIfNotEnd rfl (Fields.reads_choice rfl target.find?_text)
  | scrollTo percent => exact .scrollTo rfl ⟨_, rfl, percentage_eq_ok.mpr ⟨rfl, sound⟩⟩
  | extractDetails selectors =>
      cases selectors with
      | none => exact .extractDetails rfl rfl
      | some selectors =>
          exact .extractDetails rfl ((Fields.Reads.given rfl).mpr
            (orNull_some rfl (strings_eq_ok.mpr rfl)))
  | save label => exact .save rfl rfl
  | markDone => exact .markDone rfl
  | forEachItem body skipProcessed =>
      exact .forEachItem rfl (manner.items?_body rfl)
        (Command.means_listToJson manner body sound) rfl
  | choose condition thenBranch elseBranch =>
      exact .choose rfl rfl condition.means_toJson (manner.items?_list _)
        (Command.means_listToJson manner thenBranch sound.1) (Manner.items?_list _ _)
        (Command.means_listToJson _ elseBranch sound.2)
  | repeatUntil body goal =>
      exact .repeatUntil rfl (manner.items?_body rfl)
        (Command.means_listToJson manner body sound) rfl goal.means_toJson
  | checkpointCount => exact .checkpointCount rfl
  | continueItem => exact .continueItem rfl
  | finish => exact .finish rfl

theorem Command.means_listToJson (manner : Manner) (commands : List Command)
    (sound : AllSound commands) : AllMean manner (Command.listToJson commands) commands := by
  cases commands with
  | nil => exact .nil
  | cons command rest =>
      exact .cons (Command.means_toJson manner command sound.1)
        (Command.means_listToJson manner rest sound.2)

end

theorem RunLimits.read_toJson {limits : RunLimits} (sound : limits.Sound) :
    RunLimits.read limits.toJson = .ok limits := by
  obtain ⟨maxItems, timeoutMs⟩ := limits
  obtain ⟨someItems, someTime⟩ := sound
  have reads {fields : Fields} {name : FieldName} {n : Nat}
      (found : name.value? fields = some (.int n)) (least : 1 ≤ n) :
      fields.Reads name none (orNull (natural 1)) (some n) :=
    (Fields.Reads.given found).mpr (orNull_some rfl (natural_int least))
  rw [RunLimits.toJson, RunLimits.read_eq_ok]
  cases maxItems with
  | none =>
      cases timeoutMs with
      | none => exact ⟨rfl, rfl⟩
      | some time => exact ⟨rfl, reads rfl (someTime time rfl)⟩
  | some items =>
      cases timeoutMs with
      | none => exact ⟨reads rfl (someItems items rfl), rfl⟩
      | some time => exact ⟨reads rfl (someItems items rfl), reads rfl (someTime time rfl)⟩

theorem Recipe.parse_toJson {recipe : Recipe} (sound : recipe.Sound) (newId : String) :
    Recipe.parse newId recipe.toJson = .ok recipe := by
  refine Recipe.parse_eq_ok.mpr ⟨rfl, rfl, rfl, ?_, ?_⟩
  · exact Command.means_listToJson .lenient recipe.commands sound.commands
  · exact RunLimits.read_toJson sound.limits

/-!
## Each key once
-/

namespace Json

theorem keyed_tagged {tag : String} {fields : Fields}
    (once : ("type" :: fields.map (·.1)).Nodup) (each : ∀ field ∈ fields, Keyed field.2) :
    Keyed (.obj (("type", .str tag) :: fields)) :=
  .obj once (List.forall_mem_cons.mpr ⟨.str tag, each⟩)

theorem keyed_bare (tag : String) : Keyed (.obj [("type", .str tag)]) :=
  keyed_tagged (List.nodup_singleton _) (List.forall_mem_nil _)

theorem keyed_one {tag key : String} {value : Json} (other : key ≠ "type") (keyed : Keyed value) :
    Keyed (.obj [("type", .str tag), (key, value)]) :=
  keyed_tagged (by simp [other.symm]) (List.forall_mem_singleton.mpr keyed)

end Json

open Json

mutual

theorem Condition.keyed_toJson (condition : Condition) : Keyed condition.toJson := by
  cases condition with
  | present name => exact keyed_one (by decide) (.str name)
  | visible name => exact keyed_one (by decide) (.str name)
  | listEnd => exact keyed_bare _
  | pageEnd => exact keyed_bare _
  | newItems => exact keyed_bare _
  | not inner => exact keyed_one (by decide) (Condition.keyed_toJson inner)
  | all parts => exact keyed_one (by decide) (.arr (Condition.keyed_listToJson parts))
  | any parts => exact keyed_one (by decide) (.arr (Condition.keyed_listToJson parts))

theorem Condition.keyed_listToJson (parts : List Condition) :
    ∀ item ∈ Condition.listToJson parts, Keyed item := by
  cases parts with
  | nil => exact List.forall_mem_nil _
  | cons part rest =>
      exact List.forall_mem_cons.mpr
        ⟨Condition.keyed_toJson part, Condition.keyed_listToJson rest⟩

end

mutual

theorem Until.keyed_toJson (goal : Until) : Keyed goal.toJson := by
  cases goal with
  | collected count => exact keyed_one (by decide) (.int count)
  | noMoreItems => exact keyed_bare _
  | maxScrolls count => exact keyed_one (by decide) (.int count)
  | all parts => exact keyed_one (by decide) (.arr (Until.keyed_listToJson parts))
  | any parts => exact keyed_one (by decide) (.arr (Until.keyed_listToJson parts))

theorem Until.keyed_listToJson (parts : List Until) :
    ∀ item ∈ Until.listToJson parts, Keyed item := by
  cases parts with
  | nil => exact List.forall_mem_nil _
  | cons part rest =>
      exact List.forall_mem_cons.mpr ⟨Until.keyed_toJson part, Until.keyed_listToJson rest⟩

end

mutual

theorem Command.keyed_toJson (command : Command) : Keyed command.toJson := by
  cases command with
  | openPage url => exact keyed_one (by decide) (.str url)
  | goBack => exact keyed_bare _
  | refresh => exact keyed_bare _
  | waitFor target => exact keyed_one (by decide) (.str _)
  | wait duration => exact keyed_one (by decide) (.float duration)
  | goTo name => exact keyed_one (by decide) (.str name)
  | goToFilter name => exact keyed_one (by decide) (.str name)
  | goToItem which => exact keyed_one (by decide) (.str _)
  | type text => exact keyed_one (by decide) (.str text)
  | submit => exact keyed_bare _
  | click => exact keyed_bare _
  | clickIfExists name => exact keyed_one (by decide) (.str name)
  | select option => exact keyed_one (by decide) (.str option)
  | clear => exact keyed_bare _
  | setChecked checked => exact keyed_one (by decide) (.bool checked)
  | scroll target direction =>
      have once : ["type", "target", "direction"].Nodup := by decide
      exact keyed_tagged once (List.forall_mem_cons.mpr
        ⟨.str _, List.forall_mem_singleton.mpr (.str _)⟩)
  | scrollIfNotEnd target => exact keyed_one (by decide) (.str _)
  | scrollTo percent => exact keyed_one (by decide) (.float percent)
  | extractDetails selectors =>
      cases selectors with
      | none => exact keyed_bare _
      | some selectors => exact keyed_one (by decide) (keyed_ofStrings selectors)
  | save label => exact keyed_one (by decide) (.str label)
  | markDone => exact keyed_bare _
  | forEachItem body skipProcessed =>
      have once : ["type", "body", "skipProcessed"].Nodup := by decide
      exact keyed_tagged once (List.forall_mem_cons.mpr
        ⟨.arr (Command.keyed_listToJson body), List.forall_mem_singleton.mpr (.bool skipProcessed)⟩)
  | choose condition thenBranch elseBranch =>
      have once : ["type", "condition", "then", "else"].Nodup := by decide
      have thenKeyed : Keyed (.arr (Command.listToJson thenBranch)) :=
        .arr (Command.keyed_listToJson thenBranch)
      have elseKeyed : Keyed (.arr (Command.listToJson elseBranch)) :=
        .arr (Command.keyed_listToJson elseBranch)
      exact keyed_tagged once (List.forall_mem_cons.mpr ⟨condition.keyed_toJson,
        List.forall_mem_cons.mpr ⟨thenKeyed, List.forall_mem_singleton.mpr elseKeyed⟩⟩)
  | repeatUntil body goal =>
      have once : ["type", "body", "until"].Nodup := by decide
      exact keyed_tagged once (List.forall_mem_cons.mpr
        ⟨.arr (Command.keyed_listToJson body), List.forall_mem_singleton.mpr goal.keyed_toJson⟩)
  | checkpointCount => exact keyed_bare _
  | continueItem => exact keyed_bare _
  | finish => exact keyed_bare _

theorem Command.keyed_listToJson (commands : List Command) :
    ∀ item ∈ Command.listToJson commands, Keyed item := by
  cases commands with
  | nil => exact List.forall_mem_nil _
  | cons command rest =>
      exact List.forall_mem_cons.mpr
        ⟨Command.keyed_toJson command, Command.keyed_listToJson rest⟩

end

theorem RunLimits.keyed_toJson (limits : RunLimits) : Keyed limits.toJson := by
  obtain ⟨maxItems, timeoutMs⟩ := limits
  cases maxItems with
  | none =>
      cases timeoutMs with
      | none => exact .obj List.nodup_nil (List.forall_mem_nil _)
      | some time =>
          exact .obj (List.nodup_singleton _) (List.forall_mem_singleton.mpr (.int time))
  | some items =>
      cases timeoutMs with
      | none => exact .obj (List.nodup_singleton _) (List.forall_mem_singleton.mpr (.int items))
      | some time =>
          have once : ["maxItems", "timeout"].Nodup := by decide
          exact .obj once (List.forall_mem_cons.mpr
            ⟨.int items, List.forall_mem_singleton.mpr (.int time)⟩)

theorem Recipe.keyed_toJson (recipe : Recipe) : Keyed recipe.toJson := by
  have once : ["id", "name", "description", "commands", "config"].Nodup := by decide
  refine .obj once ?_
  simp only [List.forall_mem_cons]
  exact ⟨.str _, .str _, .str _, .arr (Command.keyed_listToJson recipe.commands),
    recipe.limits.keyed_toJson, List.forall_mem_nil _⟩

/-!
## Whole recipes
-/

namespace Recipe

variable {recipe : Recipe}

/-- What the text of a recipe is read as is the recipe, however far it is indented. -/
theorem parseText_toText (sound : recipe.Sound) (newId : String) (indent : Nat) :
    parseText newId (recipe.toText indent) = .ok recipe := by
  have read : Json.read (recipe.toText indent) = .ok recipe.toJson :=
    Json.read_writeIndented indent recipe.keyed_toJson
  rw [parseText, read]
  exact parse_toJson sound newId

theorem parseText_write (sound : recipe.Sound) (newId : String) :
    parseText newId recipe.toJson.write = .ok recipe := by
  have read : Json.read recipe.toJson.write = .ok recipe.toJson :=
    Json.read_write recipe.keyed_toJson
  rw [parseText, read]
  exact parse_toJson sound newId

/-- A recipe that was read, built or made from a template is what its JSON is read as, and what
its text is read as, on one line or indented by any amount. So to write a recipe that was read,
and to read it again, changes nothing. -/
theorem ofJson_written (obtained : recipe.Obtained) (newId : String) :
    ofJson newId recipe.toJson = .ok recipe ∧
      (∀ indent, ofJson newId (.str (recipe.toText indent)) = .ok recipe) ∧
      ofJson newId (.str recipe.toJson.write) = .ok recipe :=
  have sound := obtained.sound
  ⟨mapError_eq_ok.mpr (parse_toJson sound newId),
    fun indent => mapError_eq_ok.mpr (parseText_toText sound newId indent),
    mapError_eq_ok.mpr (parseText_write sound newId)⟩

theorem ofJson_written_loop :
    let value : Json := .obj
      [("id", .str "r"), ("config", .obj [("maxItems", .int 3)]),
        ("commands", .arr [.obj [("type", .str "REPEAT"), ("until", .obj [("type", .str "NO_MORE_ITEMS")]),
          ("commands", .arr [.obj [("type", .str "CLICK")], .str "wait"])]])]
    let recipe : Recipe :=
      { id := "r"
        commands := [.repeatUntil [.click, .wait 0.1] .noMoreItems]
        limits := { maxItems := some 3 } }
    ofJson "new" value = .ok recipe ∧ ofJson "new" recipe.toJson = .ok recipe ∧
      ofJson "new" (.str (recipe.toText 2)) = .ok recipe := by
  intro value recipe
  have body : Command.AllMean .lenient [.obj [("type", .str "CLICK")], .str "wait"]
      [.click, .wait 0.1] := .cons (.click rfl) (.cons (.pause rfl) .nil)
  have parsed : ofJson "new" value = .ok recipe :=
    mapError_eq_ok.mpr (parse_eq_ok.mpr
      ⟨rfl, rfl, rfl, .cons (.repeatUntil rfl rfl body rfl (.noMoreItems rfl)) .nil, rfl⟩)
  have written := ofJson_written (.parsed parsed) "new"
  exact ⟨parsed, written.1, written.2.1 2⟩

end Recipe

end Gleaner
