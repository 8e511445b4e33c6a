import Gleaner.Proofs.Json.Merged
import Gleaner.Proofs.Schema.Reading
import Gleaner.Proofs.Store.Text
import Gleaner.Settings.Environment

/-!
# The settings, one by one

Each section of the settings is a form: a list of settings, every one read from what stands
under its key and from nothing else, and written back under that key. The settings as a whole
are a form of the same kind, whose settings are the sections.
-/

set_option autoImplicit false

namespace Gleaner

variable {S α : Type}

/-- A setting: the key it stands under, what it is when nothing stands there, how it is read, and
how it is written. -/
structure Setting (S : Type) where
  {α : Type}
  key : String
  default : α
  read : Reading α
  write : α → Json
  get : S → α

namespace Setting

/-- The setting reads as a part of the settings. -/
def Reads (fields : Fields) (setting : Setting S) (part : setting.α) : Prop :=
  fields.Reads setting.key setting.default setting.read part

theorem reads_of_found (setting : Setting S) {fields : Fields} {value : Json} {part : setting.α}
    (found : Entries.find? setting.key fields = some value) :
    setting.Reads fields part ↔ setting.read value = .ok part :=
  Fields.Reads.given (by simp [FieldName.value?, FieldName.spellings, found])

theorem reads_of_absent (setting : Setting S) {fields : Fields} {part : setting.α}
    (absent : Entries.find? setting.key fields = none) :
    setting.Reads fields part ↔ part = setting.default := by
  have missing : FieldName.value? setting.key fields = none := by
    simp [FieldName.value?, FieldName.spellings, absent]
  rw [Reads, Fields.Reads, missing]
  exact ⟨fun same => (Except.ok.inj same).symm, fun same => congrArg Except.ok same.symm⟩

/-- What holds of a setting that is no section: it is no object, and it is not read as anything
but what was written. -/
structure Simple (setting : Setting S) : Prop where
  noObject {fields : Fields} {part : setting.α} : setting.read (.obj fields) ≠ .ok part
  faithful {part other : setting.α} :
    setting.read (setting.write part) = .ok other → other = part
  keyed (part : setting.α) : Json.Keyed (setting.write part)

/-!
## Kinds of settings
-/

def text (key default : String) (get : S → String) : Setting S :=
  { key, default, read := Reading.string, write := .str, get }

def flag (key : String) (default : Bool) (get : S → Bool) : Setting S :=
  { key, default, read := Reading.bool, write := .bool, get }

def count (key : String) (default least : Nat) (most : Option Nat) (get : S → Nat) : Setting S :=
  { key, default, read := Reading.natural least most, write := fun n => .int n, get }

def text? (key : String) (get : S → Option String) : Setting S :=
  { key, default := none, read := Reading.orNull Reading.string, write := .ofString?, get }

def choice (key : String) (choices : List (String × α)) (name : α → String) (default : α)
    (get : S → α) : Setting S :=
  { key, default, read := Reading.choice choices, write := fun one => .str (name one), get }

def size (key : String) (default : Float) (read : Reading Float) (get : S → Float) : Setting S :=
  { key, default, read, write := .float, get }

def secret? (key : String) (get : S → Option Secret) : Setting S :=
  { key
    default := none
    read := Reading.orNull fun value => Secret.mk <$> Reading.string value
    write := fun secret => .ofString? (secret.map Secret.text)
    get }

theorem text_simple (key default : String) (get : S → String) : (text key default get).Simple where
  noObject := nofun
  faithful made := (Except.ok.inj made).symm
  keyed part := .str part

theorem flag_simple (key : String) (default : Bool) (get : S → Bool) :
    (flag key default get).Simple where
  noObject := nofun
  faithful made := (Except.ok.inj made).symm
  keyed part := .bool part

/-- A number that is read from an integer is that integer, whatever its bounds are. -/
theorem natural_of_int {least part other : Nat} {most : Option Nat}
    (made : Reading.natural least most (.int part) = .ok other) : other = part := by
  have passed (test : Prop) [Decidable test] {complaint : Complaint} {rest : Checked Nat}
      (made : (if test then Checked.complain complaint else rest) = .ok other) :
      rest = .ok other := by
    by_cases refused : test
    · rw [if_pos refused] at made
      cases made
    · rwa [if_neg refused] at made
  cases most with
  | none => exact (Except.ok.inj (passed _ made)).symm
  | some most => exact (Except.ok.inj (passed _ (passed _ made))).symm

theorem count_simple (key : String) (default least : Nat) (most : Option Nat) (get : S → Nat) :
    (count key default least most get).Simple where
  noObject := nofun
  faithful made := natural_of_int made
  keyed (part : Nat) := .int part

theorem text?_simple (key : String) (get : S → Option String) : (text? key get).Simple where
  noObject := nofun
  faithful := by
    intro part other made
    cases part <;> exact (Except.ok.inj made).symm
  keyed part := Json.keyed_ofString? part

theorem secret?_simple (key : String) (get : S → Option Secret) : (secret? key get).Simple where
  noObject := nofun
  faithful := by
    intro part other made
    cases part <;> exact (Except.ok.inj made).symm
  keyed part := Json.keyed_ofString? _

theorem choice_simple (key : String) {choices : List (String × α)} {name : α → String}
    (named : ∀ one, Entries.find? (name one) choices = some one) (default : α) (get : S → α) :
    (choice key choices name default get).Simple where
  noObject := nofun
  faithful := by
    intro (part : α) (other : α) (made : Reading.choice choices (.str (name part)) = .ok other)
    obtain ⟨_, same, found⟩ := Reading.choice_eq_ok.mp made
    cases same
    exact Option.some.inj (found.symm.trans (named part))
  keyed part := .str _

theorem size_simple (key : String) (default : Float) {read : Reading Float}
    (kept : ∀ {value size}, read value = .ok size → Reading.float value = .ok size)
    (get : S → Float) : (size key default read get).Simple where
  noObject made := nomatch kept made
  faithful made := (Except.ok.inj (kept made)).symm
  keyed part := .float part

end Setting

/-!
## Forms
-/

/-- A form: settings that are read one by one. -/
structure SettingsForm (S : Type) where
  settings : List (Setting S)
  ofFields : Fields → Checked S
  once : (settings.map (·.key)).Nodup
  reads {fields : Fields} {s : S} :
    ofFields fields = .ok s → ∀ setting ∈ settings, setting.Reads fields (setting.get s)
  total {fields : Fields} :
    (∀ setting ∈ settings, ∃ part, setting.Reads fields part) → ∃ s, ofFields fields = .ok s

namespace SettingsForm

variable (form : SettingsForm S)

/-- What the settings of a form are written as. -/
def toFields (s : S) : Fields :=
  form.settings.map fun setting => (setting.key, setting.write (setting.get s))

theorem keys_toFields (s : S) : (form.toFields s).map (·.1) = form.settings.map (·.key) := by
  rw [toFields, List.map_map]
  rfl

theorem keyed_toFields (each : ∀ setting ∈ form.settings, ∀ part, Json.Keyed (setting.write part))
    (s : S) : Json.Keyed (.obj (form.toFields s)) := by
  refine .obj ?_ fun field among => ?_
  · rw [keys_toFields]
    exact form.once
  · obtain ⟨setting, inside, rfl⟩ := List.mem_map.mp among
    exact each setting inside _

/-- None of the settings is a section. -/
def Simple : Prop :=
  ∀ setting ∈ form.settings, setting.Simple

end SettingsForm

/-!
## The sections
-/

open Setting in
def ModelSettings.form : SettingsForm ModelSettings where
  settings :=
    [text "model" "gpt-4o-mini" (·.model), secret? "api_key" (·.apiKey),
      text "base_url" "https://api.openai.com" (·.baseUrl),
      size "temperature" 0 (Reading.floatBetween 0 2) (·.temperature),
      count "max_tokens" 4096 1 (some 128000) (·.maxTokens),
      count "timeout" 120 5 (some 600) (·.timeout),
      count "retry_attempts" 3 1 (some 10) (·.retryAttempts),
      text? "extractor_model" (·.extractorModel)]
  ofFields := ofFields
  once := by decide
  reads := by
    intro fields s made
    simp only [ModelSettings.ofFields, Checked.seq_eq_ok, Checked.map_eq_ok,
      Fields.optional_eq_ok] at made
    obtain ⟨_, _, ⟨_, _, ⟨_, _, ⟨_, _, ⟨_, _, ⟨_, _, ⟨_, _, ⟨_, model, rfl⟩, apiKey, rfl⟩, baseUrl,
      rfl⟩, temperature, rfl⟩, maxTokens, rfl⟩, timeout, rfl⟩, retryAttempts, rfl⟩, extractorModel,
      rfl⟩ := made
    simp only [List.forall_mem_cons]
    exact ⟨model, apiKey, baseUrl, temperature, maxTokens, timeout, retryAttempts, extractorModel,
      List.forall_mem_nil _⟩
  total := by
    intro fields each
    simp only [List.forall_mem_cons] at each
    obtain ⟨⟨_, model⟩, ⟨_, apiKey⟩, ⟨_, baseUrl⟩, ⟨_, temperature⟩, ⟨_, maxTokens⟩, ⟨_, timeout⟩,
      ⟨_, retryAttempts⟩, ⟨_, extractorModel⟩, -⟩ := each
    simp only [ModelSettings.ofFields, Checked.seq_eq_ok, Checked.map_eq_ok,
      Fields.optional_eq_ok]
    exact ⟨_, _, _, ⟨_, _, ⟨_, _, ⟨_, _, ⟨_, _, ⟨_, _, ⟨_, _, ⟨_, model, rfl⟩, apiKey, rfl⟩,
      baseUrl, rfl⟩, temperature, rfl⟩, maxTokens, rfl⟩, timeout, rfl⟩, retryAttempts, rfl⟩,
      extractorModel, rfl⟩

open Setting in
def BrowserSettings.form : SettingsForm BrowserSettings where
  settings :=
    [flag "headless" true (·.headless),
      choice "browser_type" BrowserKind.names BrowserKind.name .chromium (·.kind),
      count "timeout_ms" 30000 1000 (some 300000) (·.timeoutMs),
      count "viewport_width" 1280 320 (some 3840) (·.viewportWidth),
      count "viewport_height" 720 240 (some 2160) (·.viewportHeight),
      text? "user_agent" (·.userAgent)]
  ofFields := ofFields
  once := by decide
  reads := by
    intro fields s made
    simp only [BrowserSettings.ofFields, Checked.seq_eq_ok, Checked.map_eq_ok,
      Fields.optional_eq_ok] at made
    obtain ⟨_, _, ⟨_, _, ⟨_, _, ⟨_, _, ⟨_, _, ⟨_, headless, rfl⟩, kind, rfl⟩, timeoutMs, rfl⟩,
      viewportWidth, rfl⟩, viewportHeight, rfl⟩, userAgent, rfl⟩ := made
    simp only [List.forall_mem_cons]
    exact ⟨headless, kind, timeoutMs, viewportWidth, viewportHeight, userAgent, List.forall_mem_nil
      _⟩
  total := by
    intro fields each
    simp only [List.forall_mem_cons] at each
    obtain ⟨⟨_, headless⟩, ⟨_, kind⟩, ⟨_, timeoutMs⟩, ⟨_, viewportWidth⟩, ⟨_, viewportHeight⟩, ⟨_,
      userAgent⟩, -⟩ := each
    simp only [BrowserSettings.ofFields, Checked.seq_eq_ok, Checked.map_eq_ok,
      Fields.optional_eq_ok]
    exact ⟨_, _, _, ⟨_, _, ⟨_, _, ⟨_, _, ⟨_, _, ⟨_, headless, rfl⟩, kind, rfl⟩, timeoutMs, rfl⟩,
      viewportWidth, rfl⟩, viewportHeight, rfl⟩, userAgent, rfl⟩

open Setting in
def RunSettings.form : SettingsForm RunSettings where
  settings :=
    [count "poll_interval_ms" 300 1 none (·.pollIntervalMs),
      count "wait_timeout_ms" 10000 1 none (·.waitTimeoutMs),
      count "loading_timeout_ms" 10000 1 none (·.loadingTimeoutMs),
      count "inline_details_wait_ms" 100 0 none (·.inlineDetailsWaitMs),
      count "details_settle_ms" 300 0 none (·.detailsSettleMs),
      count "extract_retries" 3 1 (some 10) (·.extractRetries),
      count "extract_retry_delay_ms" 500 0 none (·.extractRetryDelayMs),
      count "max_repeat_iterations" 50 1 none (·.maxRepeatIterations),
      count "no_new_items_limit" 3 1 none (·.noNewItemsLimit),
      count "page_end_threshold_px" 50 0 none (·.pageEndThresholdPx),
      count "progress_every" 5 1 none (·.progressEvery)]
  ofFields := ofFields
  once := by decide
  reads := by
    intro fields s made
    simp only [RunSettings.ofFields, Checked.seq_eq_ok, Checked.map_eq_ok,
      Fields.optional_eq_ok] at made
    obtain ⟨_, _, ⟨_, _, ⟨_, _, ⟨_, _, ⟨_, _, ⟨_, _, ⟨_, _, ⟨_, _, ⟨_, _, ⟨_, _, ⟨_, pollInterval,
      rfl⟩, waitTimeout, rfl⟩, loadingTimeout, rfl⟩, inlineDetails, rfl⟩, detailsSettle, rfl⟩,
      retries, rfl⟩, retryDelay, rfl⟩, iterations, rfl⟩, noNewItems, rfl⟩, threshold, rfl⟩,
      progress, rfl⟩ := made
    simp only [List.forall_mem_cons]
    exact ⟨pollInterval, waitTimeout, loadingTimeout, inlineDetails, detailsSettle, retries,
      retryDelay, iterations, noNewItems, threshold, progress, List.forall_mem_nil _⟩
  total := by
    intro fields each
    simp only [List.forall_mem_cons] at each
    obtain ⟨⟨_, pollInterval⟩, ⟨_, waitTimeout⟩, ⟨_, loadingTimeout⟩, ⟨_, inlineDetails⟩, ⟨_,
      detailsSettle⟩, ⟨_, retries⟩, ⟨_, retryDelay⟩, ⟨_, iterations⟩, ⟨_, noNewItems⟩, ⟨_,
      threshold⟩, ⟨_, progress⟩, -⟩ := each
    simp only [RunSettings.ofFields, Checked.seq_eq_ok, Checked.map_eq_ok,
      Fields.optional_eq_ok]
    exact ⟨_, _, _, ⟨_, _, ⟨_, _, ⟨_, _, ⟨_, _, ⟨_, _, ⟨_, _, ⟨_, _, ⟨_, _, ⟨_, _, ⟨_, pollInterval,
      rfl⟩, waitTimeout, rfl⟩, loadingTimeout, rfl⟩, inlineDetails, rfl⟩, detailsSettle, rfl⟩,
      retries, rfl⟩, retryDelay, rfl⟩, iterations, rfl⟩, noNewItems, rfl⟩, threshold, rfl⟩,
      progress, rfl⟩

open Setting in
def BindingSettings.form : SettingsForm BindingSettings where
  settings :=
    [text "store_path" "~/.recipe-agent/bindings.json" (·.storePath),
      size "max_age_hours" 24 (Reading.floatAbove 0) (·.maxAgeHours),
      count "min_snapshot_chars" 50 0 none (·.minSnapshotChars),
      count "max_snapshot_chars" 30000 1000 none (·.maxSnapshotChars),
      count "max_repair_context_chars" 5000 500 none (·.maxRepairContextChars)]
  ofFields := ofFields
  once := by decide
  reads := by
    intro fields s made
    simp only [BindingSettings.ofFields, Checked.seq_eq_ok, Checked.map_eq_ok,
      Fields.optional_eq_ok] at made
    obtain ⟨_, _, ⟨_, _, ⟨_, _, ⟨_, _, ⟨_, storePath, rfl⟩, maxAge, rfl⟩, minSnapshot, rfl⟩,
      maxSnapshot, rfl⟩, maxRepair, rfl⟩ := made
    simp only [List.forall_mem_cons]
    exact ⟨storePath, maxAge, minSnapshot, maxSnapshot, maxRepair, List.forall_mem_nil _⟩
  total := by
    intro fields each
    simp only [List.forall_mem_cons] at each
    obtain ⟨⟨_, storePath⟩, ⟨_, maxAge⟩, ⟨_, minSnapshot⟩, ⟨_, maxSnapshot⟩, ⟨_, maxRepair⟩, -⟩ :=
      each
    simp only [BindingSettings.ofFields, Checked.seq_eq_ok, Checked.map_eq_ok,
      Fields.optional_eq_ok]
    exact ⟨_, _, _, ⟨_, _, ⟨_, _, ⟨_, _, ⟨_, storePath, rfl⟩, maxAge, rfl⟩, minSnapshot, rfl⟩,
      maxSnapshot, rfl⟩, maxRepair, rfl⟩

open Setting in
def LogSettings.form : SettingsForm LogSettings where
  settings :=
    [choice "level" LogLevel.names LogLevel.name .info (·.level), text? "file" (·.file),
      flag "json_format" false (·.jsonFormat)]
  ofFields := ofFields
  once := by decide
  reads := by
    intro fields s made
    simp only [LogSettings.ofFields, Checked.seq_eq_ok, Checked.map_eq_ok,
      Fields.optional_eq_ok] at made
    obtain ⟨_, _, ⟨_, _, ⟨_, level, rfl⟩, file, rfl⟩, jsonFormat, rfl⟩ := made
    simp only [List.forall_mem_cons]
    exact ⟨level, file, jsonFormat, List.forall_mem_nil _⟩
  total := by
    intro fields each
    simp only [List.forall_mem_cons] at each
    obtain ⟨⟨_, level⟩, ⟨_, file⟩, ⟨_, jsonFormat⟩, -⟩ := each
    simp only [LogSettings.ofFields, Checked.seq_eq_ok, Checked.map_eq_ok,
      Fields.optional_eq_ok]
    exact ⟨_, _, _, ⟨_, _, ⟨_, level, rfl⟩, file, rfl⟩, jsonFormat, rfl⟩

/-!
## Settings that are no sections
-/

section Simple

open Setting

theorem ModelSettings.simple : form.Simple := by
  have temperature {value : Json} {x : Float}
      (read : Reading.floatBetween 0 2 value = .ok x) : Reading.float value = .ok x :=
    (Checked.demand_eq_ok.mp (Checked.demand_eq_ok.mp read).1).1
  simp only [SettingsForm.Simple, form, List.forall_mem_cons, List.not_mem_nil, IsEmpty.forall_iff,
    implies_true, and_true]
  exact ⟨text_simple .., secret?_simple .., text_simple .., size_simple _ _ temperature _,
    count_simple .., count_simple .., count_simple .., text?_simple ..⟩

theorem BrowserSettings.simple : form.Simple := by
  simp only [SettingsForm.Simple, form, List.forall_mem_cons, List.not_mem_nil, IsEmpty.forall_iff,
    implies_true, and_true]
  exact ⟨flag_simple .., choice_simple _ (fun one => by cases one <;> rfl) _ _, count_simple ..,
    count_simple .., count_simple .., text?_simple ..⟩

theorem RunSettings.simple : form.Simple := by
  simp only [SettingsForm.Simple, form, List.forall_mem_cons, List.not_mem_nil, IsEmpty.forall_iff,
    implies_true, and_true]
  exact ⟨count_simple .., count_simple .., count_simple .., count_simple .., count_simple ..,
    count_simple .., count_simple .., count_simple .., count_simple .., count_simple ..,
    count_simple ..⟩

theorem BindingSettings.simple : form.Simple := by
  have age {value : Json} {x : Float} (read : Reading.floatAbove 0 value = .ok x) :
      Reading.float value = .ok x :=
    (Checked.demand_eq_ok.mp read).1
  simp only [SettingsForm.Simple, form, List.forall_mem_cons, List.not_mem_nil, IsEmpty.forall_iff,
    implies_true, and_true]
  exact ⟨text_simple .., size_simple _ _ age _, count_simple .., count_simple .., count_simple ..⟩

theorem LogSettings.simple : form.Simple := by
  simp only [SettingsForm.Simple, form, List.forall_mem_cons, List.not_mem_nil, IsEmpty.forall_iff,
    implies_true, and_true]
  exact ⟨choice_simple _ (fun one => by cases one <;> rfl) _ _, text?_simple .., flag_simple ..⟩

end Simple

/-!
## The settings as a whole
-/

/-- A section of the settings: a form of its own, for which the usual settings stand when
nothing is given. -/
structure SettingsGroup where
  {S : Type}
  key : String
  label : String
  form : SettingsForm S
  usual : S
  get : Settings → S
  simple : form.Simple
  usual_eq : form.ofFields [] = .ok usual

/-- A section as a setting of the whole. -/
def SettingsGroup.setting (group : SettingsGroup) : Setting Settings where
  key := group.key
  default := group.usual
  read := Reading.section group.label group.form.ofFields
  write s := .obj (group.form.toFields s)
  get := group.get

namespace Settings

def groups : List SettingsGroup :=
  [{ key := "llm", label := "LLMSettings", form := ModelSettings.form, usual := {}, get := (·.llm),
      simple := ModelSettings.simple, usual_eq := rfl },
    { key := "browser", label := "BrowserSettings", form := BrowserSettings.form, usual := {},
      get := (·.browser), simple := BrowserSettings.simple, usual_eq := rfl },
    { key := "executor", label := "ExecutorSettings", form := RunSettings.form, usual := {},
      get := (·.executor), simple := RunSettings.simple, usual_eq := rfl },
    { key := "bindings", label := "BindingSettings", form := BindingSettings.form, usual := {},
      get := (·.bindings), simple := BindingSettings.simple, usual_eq := rfl },
    { key := "logging", label := "LoggingSettings", form := LogSettings.form, usual := {},
      get := (·.logging), simple := LogSettings.simple, usual_eq := rfl }]

def debugging : Setting Settings :=
  .flag "debug" false (·.debug)

def form : SettingsForm Settings where
  settings := groups.map SettingsGroup.setting ++ [debugging]
  ofFields := ofFields
  once := by decide
  reads := by
    intro fields s made
    simp only [Settings.ofFields, Checked.seq_eq_ok, Checked.map_eq_ok,
      Fields.optional_eq_ok] at made
    obtain ⟨_, _, ⟨_, _, ⟨_, _, ⟨_, _, ⟨_, _, ⟨_, llm, rfl⟩, browser, rfl⟩, executor, rfl⟩,
      bindings, rfl⟩, logging, rfl⟩, debug, rfl⟩ := made
    simp only [groups, List.map_cons, List.map_nil, List.cons_append, List.nil_append,
      List.forall_mem_cons]
    exact ⟨llm, browser, executor, bindings, logging, debug, List.forall_mem_nil _⟩
  total := by
    intro fields each
    simp only [groups, List.map_cons, List.map_nil, List.cons_append, List.nil_append,
      List.forall_mem_cons] at each
    obtain ⟨⟨_, llm⟩, ⟨_, browser⟩, ⟨_, executor⟩, ⟨_, bindings⟩, ⟨_, logging⟩, ⟨_, debug⟩, -⟩ :=
      each
    simp only [Settings.ofFields, Checked.seq_eq_ok, Checked.map_eq_ok, Fields.optional_eq_ok]
    exact ⟨_, _, _, ⟨_, _, ⟨_, _, ⟨_, _, ⟨_, _, ⟨_, llm, rfl⟩, browser, rfl⟩, executor, rfl⟩,
      bindings, rfl⟩, logging, rfl⟩, debug, rfl⟩

theorem keyed_toFields (s : Settings) : Json.Keyed (.obj (s.toFields Secret.text)) := by
  refine form.keyed_toFields (fun setting among part => ?_) s
  rcases List.mem_append.mp among with grouped | single
  · obtain ⟨group, -, rfl⟩ := List.mem_map.mp grouped
    exact group.form.keyed_toFields (fun setting inside => (group.simple setting inside).keyed) part
  · cases List.mem_singleton.mp single
    exact .bool part

end Settings

end Gleaner
