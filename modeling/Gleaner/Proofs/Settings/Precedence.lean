import Gleaner.Proofs.Settings.Forms
import Gleaner.Proofs.Settings.Sources

/-!
# Which source a setting is taken from

Every single setting of what is loaded comes from one source, and is what that source says of it,
whatever is said of the other settings: what is asked for explicitly, else the configuration
file, else the environment, else the default. The file is given as explicit values, which is why
it stands above the environment.
-/

set_option autoImplicit false

namespace Gleaner

namespace Settings

/-- The paths of all single settings. -/
def paths : List (List String) :=
  (sections.flatMap fun (name, known) => known.map fun key => [name, key]) ++ [["debug"]]

/-- The settings as they are written, secrets shown. -/
def open? (path : List String) (settings : Settings) : Option Json :=
  Fields.at? path (settings.toFields Secret.text)

/-- A setting stands at the end of a path, and is read from there. -/
structure Leads (path : List String) (setting : Setting Settings) : Prop where
  simple : setting.Simple
  clear {fields : Fields} {s : Settings} : ofFields fields = .ok s → Fields.Clear path fields
  given {fields : Fields} {s : Settings} {value : Json} :
    ofFields fields = .ok s → Fields.at? path fields = some value →
    setting.read value = .ok (setting.get s)
  missing {fields : Fields} {s : Settings} :
    ofFields fields = .ok s → Fields.at? path fields = none → setting.get s = setting.default
  written (s : Settings) : s.open? path = some (setting.write (setting.get s))
  alone {value : Json} {part : setting.α} :
    setting.read value = .ok part → ∃ s, ofFields (Fields.putAt value path []) = .ok s

end Settings

/-!
## Forms with one value
-/

namespace SettingsForm

variable {S : Type} (form : SettingsForm S) {setting other : Setting S} {value : Json}

theorem same_of_key (among : setting ∈ form.settings) (otherAmong : other ∈ form.settings)
    (same : other.key = setting.key) : other = setting :=
  List.inj_on_of_nodup_map form.once otherAmong among same

theorem find?_toFields (among : setting ∈ form.settings) (s : S) :
    Entries.find? setting.key (form.toFields s) = some (setting.write (setting.get s)) := by
  refine Entries.find?_of_mem ?_ (List.mem_map.mpr ⟨setting, among, rfl⟩)
  rw [keys_toFields]
  exact form.once

/-- A value that is read as a setting is a form with that setting alone. -/
theorem alone (among : setting ∈ form.settings) {part : setting.α}
    (read : setting.read value = .ok part) : ∃ s, form.ofFields [(setting.key, value)] = .ok s := by
  refine form.total fun other otherAmong => ?_
  by_cases same : other.key = setting.key
  · obtain rfl := form.same_of_key among otherAmong same
    exact ⟨part, (Setting.reads_of_found _ (by simp [Entries.find?])).mpr read⟩
  · have absent : Entries.find? other.key [(setting.key, value)] = none :=
      (if_neg (Ne.symm same)).trans rfl
    exact ⟨other.default, (other.reads_of_absent absent).mpr rfl⟩

end SettingsForm

namespace Settings

/-!
## The paths
-/

theorem debugging_leads : Leads ["debug"] debugging where
  simple := Setting.flag_simple ..
  clear _ := trivial
  given made found :=
    (debugging.reads_of_found found).mp (form.reads made debugging (by simp [form]))
  missing made absent :=
    (debugging.reads_of_absent absent).mp (form.reads made debugging (by simp [form]))
  written _ := rfl
  alone read := form.alone (by simp [form]) read

section Group

variable {group : SettingsGroup} (among : group ∈ groups)

include among

theorem setting_mem : group.setting ∈ form.settings :=
  List.mem_append_left _ (List.mem_map.mpr ⟨group, among, rfl⟩)

/-- What stands under the key of a section is read as that section. -/
theorem group_given {fields : Fields} {s : Settings} {value : Json}
    (made : ofFields fields = .ok s) (found : Entries.find? group.key fields = some value) :
    ∃ inner, value = .obj inner ∧ group.form.ofFields inner = .ok (group.get s) := by
  have read := (group.setting.reads_of_found found).mp (form.reads made _ (setting_mem among))
  cases value with
  | obj inner => exact ⟨inner, rfl, read⟩
  | _ => cases read

theorem group_missing {fields : Fields} {s : Settings} (made : ofFields fields = .ok s)
    (absent : Entries.find? group.key fields = none) : group.get s = group.usual :=
  (group.setting.reads_of_absent absent).mp (form.reads made _ (setting_mem among))

theorem group_leads {setting : Setting group.S} (inside : setting ∈ group.form.settings) :
    Leads [group.key, setting.key] { setting with get := setting.get ∘ group.get } where
  simple := { group.simple setting inside with }
  clear made value found := by
    obtain ⟨inner, rfl, -⟩ := group_given among made found
    exact ⟨inner, rfl, trivial⟩
  given {fields s value} made found := by
    rw [Fields.at?_cons] at found
    split at found
    next inner there =>
      obtain ⟨_, same, read⟩ := group_given among made there
      cases same
      exact (setting.reads_of_found found).mp (group.form.reads read setting inside)
    next => cases found
  missing {fields s} made absent := by
    show setting.get (group.get s) = setting.default
    cases there : Entries.find? group.key fields with
    | none =>
        rw [group_missing among made there]
        exact (setting.reads_of_absent rfl).mp (group.form.reads group.usual_eq setting inside)
    | some value =>
        obtain ⟨inner, rfl, read⟩ := group_given among made there
        rw [Fields.at?_cons, there] at absent
        exact (setting.reads_of_absent absent).mp (group.form.reads read setting inside)
  written s := by
    have there : Entries.find? group.key (s.toFields Secret.text) =
        some (.obj (group.form.toFields (group.get s))) :=
      form.find?_toFields (setting_mem among) s
    rw [open?, Fields.at?_cons, there]
    exact group.form.find?_toFields inside (group.get s)
  alone {value part} read := by
    obtain ⟨inner, made⟩ := group.form.alone inside read
    have whole : group.setting.read (.obj [(setting.key, value)]) = .ok inner := made
    obtain ⟨s, wholeMade⟩ := form.alone (setting_mem among) whole
    exact ⟨s, wholeMade⟩

end Group

theorem paths_eq : paths = groups.flatMap (fun group =>
    group.form.settings.map fun setting => [group.key, setting.key]) ++ [["debug"]] := by
  rfl

theorem paths_lead {path : List String} (among : path ∈ paths) : ∃ setting, Leads path setting := by
  rw [paths_eq, List.mem_append, List.mem_flatMap, List.mem_singleton] at among
  rcases among with ⟨group, groupAmong, among⟩ | rfl
  · obtain ⟨setting, inside, rfl⟩ := List.mem_map.mp among
    exact ⟨_, group_leads groupAmong inside⟩
  · exact ⟨_, debugging_leads⟩

/-!
## One reading
-/

/-- One setting is what is said of it: it is as if that value alone were given, or nothing. -/
def Takes (path : List String) (said : Option Json) (settings : Settings) : Prop :=
  ∃ alone, ofFields (said.elim [] fun value => Fields.putAt value path []) = .ok alone ∧
    settings.open? path = alone.open? path

namespace Leads

variable {path : List String} {setting : Setting Settings} (leads : Leads path setting)
  {fields later : Fields} {s t : Settings}

include leads

theorem takes_of_made (made : ofFields fields = .ok s) :
    Takes path (Fields.at? path fields) s := by
  cases said : Fields.at? path fields with
  | none =>
      refine ⟨{}, rfl, ?_⟩
      have usual : setting.get {} = setting.default := leads.missing rfl (Fields.at?_nil path)
      rw [leads.written, leads.written, leads.missing made said, usual]
  | some value =>
      have read := leads.given made said
      obtain ⟨alone, made⟩ := leads.alone read
      refine ⟨alone, made, ?_⟩
      have same := leads.given made (Fields.at?_putAt value fun none => by subst none; cases said)
      rw [leads.written, leads.written, Except.ok.inj (read.symm.trans same)]

/-- A setting that is given as it was written stays as it was. -/
theorem stays (again : ofFields later = .ok t) (same : Fields.at? path later = s.open? path) :
    t.open? path = s.open? path := by
  rw [leads.written] at same
  rw [leads.written, leads.written, leads.simple.faithful (leads.given again same)]

/-- What settings are read from has the values of the upper fields, and else of the lower. -/
theorem at?_of_made {below upper : Fields} (keyed : Json.Keyed (.obj upper))
    (made : ofFields (Fields.merge below upper) = .ok s) :
    Fields.at? path (Fields.merge below upper) =
      (Fields.at? path upper).or (Fields.at? path below) :=
  Fields.at?_merge_of_plain keyed (leads.clear made) fun _ said =>
    leads.simple.noObject (leads.given made said)

/-- The values of fields that are merged last, over the settings, and over what is below. -/
theorem at?_of_merged {below upper : Fields} (keyed : Json.Keyed (.obj upper))
    (made : ofFields (Fields.merge below (Fields.merge (t.toFields Secret.text) upper)) = .ok s) :
    Fields.at? path (Fields.merge below (Fields.merge (t.toFields Secret.text) upper)) =
      (Fields.at? path upper).or (t.open? path) := by
  have upperKeyed := Fields.keyed_merge t.keyed_toFields upper keyed
  have whole := leads.at?_of_made upperKeyed made
  have part : Fields.at? path (Fields.merge (t.toFields Secret.text) upper) =
      (Fields.at? path upper).or (t.open? path) := by
    refine Fields.at?_merge_of_plain keyed (.of_merge upperKeyed (leads.clear made)) ?_
    intro inner said
    rw [said] at whole
    exact leads.simple.noObject (leads.given made whole)
  rw [leads.written] at part ⊢
  rw [whole, part]
  cases Fields.at? path upper <;> rfl

end Leads

end Settings

/-!
## Loading
-/

namespace Settings

theorem read_eq_ok {env : Environment} {given : Fields} {s : Settings}
    (made : read env given = .ok s) : ∃ below, environmentFields env = .ok below ∧
      ofFields (Fields.merge below given) = .ok s := by
  unfold read at made
  cases found : environmentFields env with
  | error fault =>
      rw [found] at made
      cases made
  | ok below =>
      rw [found] at made
      refine ⟨below, rfl, ?_⟩
      simp only [bind, Except.bind] at made
      split at made
      next settings there =>
        cases made
        exact there
      next => cases made

theorem load_eq_ok {files : Files} {env after : Environment} {source : SettingsSource}
    {settings : Settings} (loaded : load files env source = .ok (settings, after)) :
    ∃ given first, source.configuration files = .ok given ∧ after = source.environment files env ∧
      read after given = .ok first ∧
      ((source.overrides = [] ∧ settings = first) ∨
        first.mergeWith after source.overrides = .ok settings) := by
  simp only [load] at loaded
  generalize reached : source.environment files env = present at loaded
  cases configured : source.configuration files with
  | error fault =>
      rw [configured] at loaded
      cases loaded
  | ok given =>
      rw [configured] at loaded
      cases made : read present given with
      | error fault =>
          simp only [bind, Except.bind, made] at loaded
          cases loaded
      | ok first =>
          simp only [bind, Except.bind, made] at loaded
          split at loaded
          next nothing =>
            cases loaded
            exact ⟨given, _, rfl, rfl, made, .inl ⟨List.isEmpty_iff.mp nothing, rfl⟩⟩
          next =>
            cases merged : first.mergeWith present source.overrides with
            | error fault =>
                rw [merged] at loaded
                cases loaded
            | ok settings =>
                rw [merged] at loaded
                cases loaded
                exact ⟨given, first, rfl, rfl, made, .inr merged⟩

namespace Examples

/-- The text of a file that turns debugging off. -/
def quietText : String := "\x7b\"debug\": \"no\"\x7d"

def quietFiles : Files := [("config.yaml", quietText)]

/-- Variables that turn debugging on. -/
def loudEnvironment : Environment := [("RECIPE_AGENT__DEBUG", "true")]

/-- The usual files, and only errors logged. -/
def strictSource : SettingsSource := { overrides := [("logging", .obj [("level", .str "ERROR")])] }

theorem read_quietText : Yaml.read quietText = .ok (.map [(.str "debug", .str "no")]) := by
  have joined : Yaml.joinLineEnds quietText.toList = quietText.toList := rfl
  have lines : Yaml.linesOf quietText.toList = [quietText.toList] :=
    Yaml.linesOf_of_absent (by decide +kernel)
  unfold Yaml.read
  extract_lets cs start
  have unmarked : cs = quietText.toList := rfl
  clear_value cs
  subst unmarked
  simp +zetaDelta only [joined, lines]
  rfl

theorem text?_quietFiles {path : String} (absent : '/' ∉ path.toList) (named : path ≠ "")
    (moves : path ≠ ".") (relative : path.startsWith "/" = false) :
    quietFiles.text? path = if "config.yaml" = path then some quietText else none := by
  rw [Files.text?, normalPath_of_absent absent named moves relative, quietFiles, Entries.find?]
  split <;> rfl

theorem configuration_quietFiles :
    strictSource.configuration quietFiles = .ok [("debug", .str "no")] := by
  have unused : quietFiles.text? "recipe-agent.yaml" = none :=
    text?_quietFiles (by decide +kernel) (by decide) (by decide) (by decide +kernel)
  have present : quietFiles.text? "config.yaml" = some quietText :=
    text?_quietFiles (by decide +kernel) (by decide) (by decide) (by decide +kernel)
  simp only [SettingsSource.configuration, strictSource, SettingsSource.usualPaths, List.find?,
    unused, present, Option.isSome, Option.getD_some]
  rw [SettingsSource.readConfiguration, read_quietText]
  rfl

theorem environment_quietFiles :
    strictSource.environment quietFiles loudEnvironment = loudEnvironment := by
  have first : quietFiles.text? ".env" = none :=
    text?_quietFiles (by decide +kernel) (by decide) (by decide) (by decide +kernel)
  have second : quietFiles.text? ".env.local" = none :=
    text?_quietFiles (by decide +kernel) (by decide) (by decide) (by decide +kernel)
  simp only [SettingsSource.environment, strictSource, SettingsSource.usualEnvironmentFiles,
    List.findSome?, first, second]

theorem environmentFields_loudEnvironment :
    environmentFields loudEnvironment = .ok [("debug", .str "true")] := by
  have lowered : loudEnvironment.lowered = [("recipe_agent__debug", "true")] := by
    decide +kernel
  have outside : ∀ part ∈ sections, "recipe_agent__debug" ≠ Environment.opening ++ part.1 ∧
      "recipe_agent__debug".startsWith (Environment.opening ++ part.1 ++ Environment.divider) =
        false := by
    decide +kernel
  have said : Entries.find? (Environment.opening ++ "debug") loudEnvironment.lowered =
      some "true" := by
    decide +kernel
  rw [environmentFields_of_silent, said]
  · rfl
  · intro part among
    obtain ⟨other, apart⟩ := outside part among
    have unnamed : Entries.find? (Environment.opening ++ part.1) loudEnvironment.lowered = none :=
      lowered ▸ if_neg other
    have single : Environment.leaves part.1 loudEnvironment.lowered = [] :=
      lowered ▸ if_neg (ne_true_of_eq_false apart)
    rw [Environment.section?, unnamed, single]
    rfl

/-- The file turns debugging off, though the environment turns it on. -/
theorem load_quietFiles : ∃ settings,
    load quietFiles loudEnvironment strictSource = .ok (settings, loudEnvironment) ∧
      settings.debug = false := by
  have quiet : (do
      let first ← read loudEnvironment [("debug", .str "no")]
      first.mergeWith loudEnvironment strictSource.overrides).toOption.map Settings.debug =
        some false := by
    decide +kernel
  obtain ⟨settings, made, off⟩ := Option.map_eq_some_iff.mp quiet
  refine ⟨settings, ?_, off⟩
  cases first : read loudEnvironment [("debug", .str "no")] with
  | error fault =>
      rw [first] at made
      cases made
  | ok usual =>
      cases merged : usual.mergeWith loudEnvironment strictSource.overrides with
      | error fault =>
          simp only [first, bind, Except.bind, merged] at made
          cases made
      | ok settings =>
          simp only [first, bind, Except.bind, merged] at made
          cases made
          simp only [load, environment_quietFiles, configuration_quietFiles, bind, Except.bind,
            first, merged]
          rfl

end Examples

end Settings

end Gleaner
