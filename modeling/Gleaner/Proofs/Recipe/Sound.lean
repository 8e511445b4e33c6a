import Gleaner.Proofs.Json.Grammar
import Gleaner.Proofs.Recipe.Tidy
import Gleaner.Recipe.Template

/-!
# What every recipe keeps to

The bounds that readings ensure: no wait is negative, no percentage lies outside its range, and
limits are positive. Recipes keep to them however they come about.
-/

set_option autoImplicit false

namespace Gleaner

mutual

/-- The numbers of a command lie within their bounds. -/
def Command.Sound : Command → Prop
  | .wait duration => ¬duration < 0
  | .scrollTo percent => ¬percent > 100 ∧ ¬percent < 0
  | .forEachItem body _ => Command.AllSound body
  | .choose _ thenBranch elseBranch => Command.AllSound thenBranch ∧ Command.AllSound elseBranch
  | .repeatUntil body _ => Command.AllSound body
  | _ => True

def Command.AllSound : List Command → Prop
  | [] => True
  | command :: rest => command.Sound ∧ Command.AllSound rest

end

structure RunLimits.Sound (limits : RunLimits) : Prop where
  maxItems : ∀ n ∈ limits.maxItems, 1 ≤ n
  timeoutMs : ∀ n ∈ limits.timeoutMs, 1 ≤ n

structure Recipe.Sound (recipe : Recipe) : Prop where
  commands : Command.AllSound recipe.commands
  limits : recipe.limits.Sound

/-- How recipes come about: from JSON or its text, by a builder or from a template. -/
inductive Recipe.Obtained : Recipe → Prop where
  | parsed {newId : String} {value : Json} {recipe : Recipe} :
      Recipe.ofJson newId value = .ok recipe → Obtained recipe
  | built {now : Float} {values : Fields} {recipe : Recipe} :
      Builder.buildRecipe now values = .ok recipe → Obtained recipe
  | template {now : Float} {name : String} {args : List Json} {named : Fields} {recipe : Recipe} :
      Template.call now name args named = .ok recipe → Obtained recipe

/-!
## Bounds of readings
-/

namespace Reading

theorem natural_least {least : Nat} {value : Json} {n : Nat}
    (made : natural least none value = .ok n) : least ≤ n := by
  simp only [natural] at made
  split at made
  next => cases made
  next given _ =>
    split at made
    next => cases made
    next enough =>
      obtain rfl : given.toNat = n := Except.ok.inj made
      omega

/-- A value that may be null is read when it is not. -/
theorem orNull_mem {α : Type} {read : Reading α} {value : Json} {part : Option α} {one : α}
    (made : orNull read value = .ok part) (given : one ∈ part) : read value = .ok one := by
  cases given
  cases value with
  | null => cases made
  | _ =>
      obtain ⟨_, read, same⟩ := Checked.map_eq_ok.mp made
      cases same
      exact read

theorem seconds_eq_ok {value : Json} {duration : Float} :
    seconds value = .ok duration ↔ float value = .ok duration ∧ ¬duration < 0 := by
  rw [seconds, Checked.demand_eq_ok]
  simp

theorem percentage_eq_ok {value : Json} {percent : Float} :
    percentage value = .ok percent ↔ float value = .ok percent ∧ ¬percent > 100 ∧ ¬percent < 0 := by
  rw [percentage, Checked.demand_eq_ok, Checked.demand_eq_ok]
  simp [and_assoc]

end Reading

namespace Command

theorem AllMean.sound {manner : Manner} {items : List Json} {commands : List Command}
    (each : ∀ item ∈ items, ∀ command, Means manner item command → command.Sound)
    (means : AllMean manner items commands) : AllSound commands := by
  induction items generalizing commands with
  | nil =>
      cases means
      trivial
  | cons item rest ih =>
      obtain ⟨here, later⟩ := List.forall_mem_cons.mp each
      cases means with
      | cons first others => exact ⟨here _ first, ih later others⟩

theorem Means.sound {manner : Manner} {value : Json} {command : Command}
    (means : Means manner value command) : command.Sound := by
  induction value using Json.induction_inside generalizing manner command with
  | other value other =>
      cases means with
      | pause => exact (by decide : ¬(0.1 : Float) < 0)
      | _ => cases other
  | object fields ih =>
      have block {manner : Manner} {name : FieldName} {items : List Json} {commands : List Command}
          (found : manner.items? (name.value? fields) = some items)
          (means : AllMean manner items commands) : AllSound commands :=
        means.sound fun item among command => ih item (Manner.inside_items found among)
      cases means with
      | pause other => cases other
      | wait _ holds =>
          obtain ⟨value, -, read⟩ := holds
          exact (Reading.seconds_eq_ok.mp read).2
      | scrollTo _ holds =>
          obtain ⟨value, -, read⟩ := holds
          exact (Reading.percentage_eq_ok.mp read).2
      | forEachItem _ found means => exact block found means
      | choose _ _ _ found means foundElse meansElse =>
          exact ⟨block found means, block foundElse meansElse⟩
      | repeatUntil _ found means => exact block found means
      | _ => trivial

end Command

/-!
## Recipes that come about
-/

theorem RunLimits.read_eq_ok {fields : Fields} {limits : RunLimits} :
    RunLimits.read (.obj fields) = .ok limits ↔
      fields.Reads ⟨"maxItems", ["max_items"]⟩ none (Reading.orNull (Reading.natural 1))
        limits.maxItems ∧
      fields.Reads ⟨"timeout", ["timeout_ms"]⟩ none (Reading.orNull (Reading.natural 1))
        limits.timeoutMs := by
  simp only [RunLimits.read, Checked.seq_eq_ok, Checked.map_eq_ok, Fields.optional_eq_ok]
  constructor
  · rintro ⟨_, timeoutMs, ⟨maxItems, first, rfl⟩, second, rfl⟩
    exact ⟨first, second⟩
  · rintro ⟨first, second⟩
    exact ⟨_, _, ⟨_, first, rfl⟩, second, rfl⟩

theorem RunLimits.sound_of_read {value : Json} {limits : RunLimits}
    (made : RunLimits.read value = .ok limits) : limits.Sound := by
  have least {fields : Fields} {name : FieldName} {part : Option Nat}
      (reads : fields.Reads name none (Reading.orNull (Reading.natural 1)) part) :
      ∀ n ∈ part, 1 ≤ n := by
    intro n given
    rw [Fields.Reads] at reads
    cases found : name.value? fields with
    | none =>
        rw [found] at reads
        cases reads
        cases given
    | some value =>
        rw [found] at reads
        exact Reading.natural_least (Reading.orNull_mem reads given)
  cases value with
  | obj fields =>
      obtain ⟨maxItems, timeoutMs⟩ := read_eq_ok.mp made
      exact ⟨least maxItems, least timeoutMs⟩
  | _ => cases made

namespace Recipe

/-- Each part of a recipe is read from its field. -/
structure ReadsFrom (newId : String) (fields : Fields) (recipe : Recipe) : Prop where
  id : fields.Reads "id" newId Reading.string recipe.id
  name : fields.Reads "name" "" Reading.string recipe.name
  description : fields.Reads "description" "" Reading.string recipe.description
  commands : fields.Reads "commands" [] (Reading.list Command.read) recipe.commands
  limits : fields.Reads "config" {} RunLimits.read recipe.limits

variable {newId : String} {fields : Fields} {recipe : Recipe}

theorem ofFields_eq_ok : ofFields newId fields = .ok recipe ↔ recipe.ReadsFrom newId fields := by
  simp only [ofFields, Checked.seq_eq_ok, Checked.map_eq_ok, Fields.optional_eq_ok]
  constructor
  · rintro ⟨_, _, ⟨_, _, ⟨_, _, ⟨_, _, ⟨_, id, rfl⟩, name, rfl⟩, description, rfl⟩, commands, rfl⟩,
      limits, rfl⟩
    exact ⟨id, name, description, commands, limits⟩
  · rintro ⟨id, name, description, commands, limits⟩
    exact ⟨_, _, ⟨_, _, ⟨_, _, ⟨_, _, ⟨_, id, rfl⟩, name, rfl⟩, description, rfl⟩, commands, rfl⟩,
      limits, rfl⟩

/-- A recipe is parsed from an object when its commands are what the entries of the list mean,
and its other parts are read from their fields. -/
theorem parse_eq_ok : parse newId (.obj fields) = .ok recipe ↔
    fields.Reads "id" newId Reading.string recipe.id ∧
    fields.Reads "name" "" Reading.string recipe.name ∧
    fields.Reads "description" "" Reading.string recipe.description ∧
    Command.AllMean .lenient ((Entries.find? "commands" fields).getD (.arr [])).items
      recipe.commands ∧
    fields.Reads "config" {} RunLimits.read recipe.limits := by
  have tidied : parse newId (.obj fields) = .ok recipe ↔
      ofFields newId (Entries.put "commands"
        (.arr (Tidy.commands ((Entries.find? "commands" fields).getD (.arr [])))) fields) =
          .ok recipe := by
    rw [parse]
    exact Checked.toExcept_eq_ok
  have commands := FieldName.value?_alone "commands" (Entries.put "commands"
    (.arr (Tidy.commands ((Entries.find? "commands" fields).getD (.arr [])))) fields)
  rw [Entries.find?_put, if_pos rfl] at commands
  have kept {key : String} (other : "commands" ≠ key) (value : Json) :
      FieldName.value? key (Entries.put "commands" value fields) = FieldName.value? key fields := by
    rw [FieldName.value?_alone, FieldName.value?_alone, Entries.find?_put, if_neg other]
  rw [tidied, ofFields_eq_ok, ← Command.readList_tidy]
  constructor
  · rintro ⟨id, name, description, reads, limits⟩
    exact ⟨id.congr (kept (by decide) _).symm, name.congr (kept (by decide) _).symm,
      description.congr (kept (by decide) _).symm, (Fields.Reads.given commands).mp reads,
      limits.congr (kept (by decide) _).symm⟩
  · rintro ⟨id, name, description, reads, limits⟩
    exact ⟨id.congr (kept (by decide) _), name.congr (kept (by decide) _),
      description.congr (kept (by decide) _), (Fields.Reads.given commands).mpr reads,
      limits.congr (kept (by decide) _)⟩

theorem sound_of_limits (reads : fields.Reads "config" {} RunLimits.read recipe.limits) :
    recipe.limits.Sound := by
  rw [Fields.Reads] at reads
  cases found : FieldName.value? "config" fields with
  | none =>
      rw [found] at reads
      obtain same : ({} : RunLimits) = recipe.limits := Except.ok.inj reads
      rw [← same]
      constructor <;> rintro _ ⟨⟩
  | some value =>
      rw [found] at reads
      exact RunLimits.sound_of_read reads

theorem sound_of_parse {value : Json} (parsed : parse newId value = .ok recipe) : recipe.Sound := by
  cases value with
  | obj fields =>
      obtain ⟨-, -, -, commands, limits⟩ := parse_eq_ok.mp parsed
      exact ⟨commands.sound fun _ _ _ means => means.sound, sound_of_limits limits⟩
  | _ => cases parsed

theorem sound_of_ofJson {value : Json} (made : ofJson newId value = .ok recipe) : recipe.Sound := by
  cases value with
  | str text =>
      have made : parseText newId text = .ok recipe := mapError_eq_ok.mp made
      rw [parseText] at made
      split at made
      next => exact sound_of_parse made
      next => cases made
  | obj fields => exact sound_of_parse (mapError_eq_ok.mp made)
  | _ => cases made

theorem sound_of_buildRecipe {now : Float} {values : Fields}
    (made : Builder.buildRecipe now values = .ok recipe) : recipe.Sound := by
  rw [Builder.buildRecipe] at made
  obtain ⟨entries, -, made⟩ := Json.bind_ok made
  obtain ⟨limits, read, made⟩ := Json.bind_ok made
  obtain ⟨built, filled, made⟩ := Json.bind_ok made
  cases made
  have reads := ofFields_eq_ok.mp (Checked.toExcept_eq_ok.mp filled)
  have commands : Command.readList entries = .ok built.commands :=
    (Fields.Reads.given (rfl : FieldName.value? _ _ = some (.arr entries))).mp reads.commands
  have means : Command.AllMean .strict entries built.commands := by
    rw [Command.readList, Reading.eachIn_eq_ok] at commands
    exact Command.allMean_iff.mpr (commands.imp fun _ _ => Command.read_eq_ok.mp)
  have read := Checked.toExcept_eq_ok.mp read
  exact ⟨means.sound fun _ _ _ means => means.sound, RunLimits.sound_of_read read⟩

/-!
## Templates
-/

theorem sound_extractionLoop (maxItems : Nat) :
    Command.AllSound (Template.extractionLoop maxItems) := by
  have short : ¬(1.5 : Float) < 0 := by decide
  have long : ¬(2 : Float) < 0 := by decide
  simp [Template.extractionLoop, Template.takeItems, Template.loadMore, Command.AllSound,
    Command.Sound, short, long]

theorem sound_jobListing (id url : String) {maxItems : Nat} (some : 1 ≤ maxItems) :
    (Template.jobListing id url maxItems).Sound where
  commands := ⟨trivial, trivial, trivial, sound_extractionLoop maxItems⟩
  limits := ⟨fun _ given => by cases given; exact some, nofun⟩

theorem sound_jobSearch (id url query : String) {maxItems : Nat} (some : 1 ≤ maxItems) :
    (Template.jobSearch id url query maxItems).Sound where
  commands := ⟨trivial, trivial, trivial, trivial, trivial, trivial,
    (by decide : ¬(2 : Float) < 0), trivial, sound_extractionLoop maxItems⟩
  limits := ⟨fun _ given => by cases given; exact some, nofun⟩

theorem sound_of_template {now : Float} {name : String} {args : List Json} {named : Fields}
    (made : Template.call now name args named = .ok recipe) : recipe.Sound := by
  unfold Template.call at made
  split at made
  · obtain ⟨bound, -, made⟩ := Json.bind_ok made
    split at made
    next =>
      obtain ⟨url, -, made⟩ := Json.bind_ok made
      obtain ⟨maxItems, counted, made⟩ := Json.bind_ok made
      obtain ⟨_, -, counted⟩ := Json.bind_ok counted
      have some := Reading.natural_least (Checked.under_eq_ok.mp (Checked.toExcept_eq_ok.mp counted))
      have sound := sound_jobListing (timedId "recipe" now) url some
      cases made
      exact ⟨sound.commands, sound.limits⟩
    next => cases made
  · obtain ⟨bound, -, made⟩ := Json.bind_ok made
    split at made
    next =>
      obtain ⟨url, -, made⟩ := Json.bind_ok made
      obtain ⟨query, -, made⟩ := Json.bind_ok made
      obtain ⟨maxItems, counted, made⟩ := Json.bind_ok made
      obtain ⟨_, -, counted⟩ := Json.bind_ok counted
      have some := Reading.natural_least (Checked.under_eq_ok.mp (Checked.toExcept_eq_ok.mp counted))
      have sound := sound_jobSearch (timedId "recipe" now) url query some
      cases made
      exact ⟨sound.commands, sound.limits⟩
    next => cases made
  · cases made

theorem Obtained.sound (obtained : recipe.Obtained) : recipe.Sound := by
  cases obtained with
  | parsed made => exact sound_of_ofJson made
  | built made => exact sound_of_buildRecipe made
  | template made => exact sound_of_template made

end Recipe

end Gleaner
