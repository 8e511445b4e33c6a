import Gleaner.Proofs.Bindings.Amend
import Gleaner.Proofs.Bindings.Coercion
import Gleaner.Proofs.Harvest.Beside
import Gleaner.Proofs.Json.Grammar

/-!
# What a discovered record is made of

A record that is discovered comes from the first object of an answer of the model: its fields
are the coerced ones with defaults for what is missing. Its id is the one the answer gives, or
one made from the time, and its pattern is the one the answer gives, or the host of the page.
-/

set_option autoImplicit false

namespace Gleaner

/-!
## Completed fields
-/

theorem BindingKey.mem_wires {spelling wire : String}
    (named : BindingKey.wire? spelling = some wire) : wire ∈ PageBindings.wires := by
  obtain ⟨name, found, rfl⟩ := Option.map_eq_some_iff.mp named
  exact List.mem_map.mpr ⟨name, List.mem_of_find?_eq_some found, rfl⟩

theorem Coerce.wired_fields (raw : Fields) : Fields.Wired (Coerce.fields raw) := by
  intro key unknown
  cases found : Entries.find? key (Coerce.fields raw) with
  | none => rfl
  | some coerced =>
      obtain ⟨field, -, named, -⟩ := find?_fields found
      exact absurd (BindingKey.mem_wires named) unknown

namespace Complete

/-- One step of filling: a field that is empty takes its default, if there is one. -/
def fillOne (fields : Fields) (default : String × (Fields → Option Json)) : Fields :=
  if (given? default.1 fields).isSome then fields
  else
    match default.2 fields with
    | some value => Entries.put default.1 value fields
    | none => fields

theorem find?_fillOne {key : String} {default : String × (Fields → Option Json)}
    (differs : key ≠ default.1) (fields : Fields) :
    Entries.find? key (fillOne fields default) = Entries.find? key fields := by
  unfold fillOne
  split
  · rfl
  · split
    · rw [Entries.find?_put, if_neg (Ne.symm differs)]
    · rfl

theorem find?_fillAll {key : String} {table : List (String × (Fields → Option Json))}
    (other : key ∉ table.map (·.1)) (fields : Fields) :
    Entries.find? key (table.foldl fillOne fields) = Entries.find? key fields := by
  induction table generalizing fields with
  | nil => rfl
  | cons default rest ih =>
      obtain ⟨differs, others⟩ := not_or.mp (mt List.mem_cons.mpr other)
      exact (ih others _).trans (find?_fillOne differs fields)

/-- A field without a default is left as it is. -/
theorem find?_fill {key : String} (undefaulted : key ∉ defaults.map (·.1)) (fields : Fields) :
    Entries.find? key (fill fields) = Entries.find? key fields :=
  find?_fillAll undefaulted fields

theorem given?_fill_undefaulted {key : String} (undefaulted : key ∉ defaults.map (·.1))
    (fields : Fields) : given? key (fill fields) = given? key fields :=
  congrArg (Option.filter Json.truthy) (find?_fill undefaulted fields)

theorem given?_fillOne (key : String) (default : Fields → Option Json) (fields : Fields) :
    given? key (fillOne fields (key, default)) =
      (given? key fields).or ((default fields).filter Json.truthy) := by
  unfold fillOne
  cases given : given? key fields with
  | some value => rw [if_pos Option.isSome_some, given, Option.some_or]
  | none =>
      rw [if_neg (Option.isSome_none ▸ Bool.false_ne_true), Option.none_or]
      dsimp only
      cases default fields with
      | none => exact given
      | some value => rw [given?, Entries.find?_put, if_pos rfl]

/-- What a field with a default holds after filling: what it held before, or what follows from
fields that differ from the given ones in their defaults only. -/
theorem given?_fill {i : Nat} {key : String} {default : Fields → Option Json}
    (placed : defaults[i]? = some (key, default)) (fields : Fields) :
    ∃ gathered : Fields,
      (∀ other ∉ defaults.map (·.1), given? other gathered = given? other fields) ∧
      given? key (fill fields) =
        (given? key fields).or ((default gathered).filter Json.truthy) := by
  have once : (defaults.map (·.1)).Nodup := by decide
  obtain ⟨before, after, split⟩ := List.append_of_mem (List.mem_of_getElem? placed)
  rw [split, List.map_append, List.map_cons] at once
  obtain ⟨-, others, apart⟩ := List.nodup_append.mp once
  have early : key ∉ before.map (·.1) := fun there => apart key there key List.mem_cons_self rfl
  have late : key ∉ after.map (·.1) := (List.nodup_cons.mp others).1
  refine ⟨before.foldl fillOne fields, fun other undefaulted => ?_, ?_⟩
  · rw [given?, find?_fillAll, given?]
    intro there
    rw [split, List.map_append] at undefaulted
    exact undefaulted (List.mem_append_left _ there)
  · have filled : fill fields = defaults.foldl fillOne fields := rfl
    rw [filled, split, List.foldl_append, List.foldl_cons, given?, find?_fillAll late]
    exact (given?_fillOne key default _).trans (by rw [given?, find?_fillAll early, given?])

/-- What a field holds is not filled over. -/
theorem given?_fill_of_given {key : String} {fields : Fields} {value : Json}
    (given : given? key fields = some value) : given? key (fill fields) = some value := by
  have kept (table : List (String × (Fields → Option Json))) {fields : Fields}
      (given : given? key fields = some value) :
      given? key (table.foldl fillOne fields) = some value := by
    induction table generalizing fields with
    | nil => exact given
    | cons default rest ih =>
        refine ih ?_
        by_cases same : key = default.1
        · subst same
          rw [fillOne, given, if_pos Option.isSome_some]
          exact given
        · rw [given?, find?_fillOne same]
          exact given
  exact kept defaults given

/-- An empty field takes its default, if that is something whatever the other defaults are. -/
theorem given?_fill_of_default {i : Nat} {key : String} {default : Fields → Option Json}
    (placed : defaults[i]? = some (key, default)) {fields : Fields}
    (makes : ∀ gathered, (∀ other ∉ defaults.map (·.1), given? other gathered = given? other fields) →
      ∃ value, default gathered = some value ∧ value.truthy = true) :
    ∃ value, given? key (fill fields) = some value := by
  obtain ⟨gathered, same, filled⟩ := given?_fill placed fields
  obtain ⟨value, made, truthy⟩ := makes gathered same
  rw [filled, made, Option.filter_some, truthy]
  cases given? key fields with
  | some given => exact ⟨given, rfl⟩
  | none => exact ⟨value, rfl⟩

/-- There is nothing to fill where every empty field has no default. -/
theorem fill_eq_self {fields : Fields}
    (full : ∀ default ∈ defaults,
      (given? default.1 fields).isSome = true ∨ default.2 fields = none) :
    fill fields = fields := by
  have one {default : String × (Fields → Option Json)} (among : default ∈ defaults) :
      fillOne fields default = fields := by
    unfold fillOne
    rcases full default among with given | nothing
    · rw [if_pos given]
    · rw [nothing, ite_self]
  have each (table : List (String × (Fields → Option Json))) (part : table ⊆ defaults) :
      table.foldl fillOne fields = fields := by
    induction table with
    | nil => rfl
    | cons default rest ih =>
        obtain ⟨here, later⟩ := List.cons_subset.mp part
        rw [List.foldl_cons, one here, ih later]
  exact each defaults (List.Subset.refl _)

theorem given?_eq_some {key : String} {fields : Fields} {value : Json}
    (given : given? key fields = some value) :
    Entries.find? key fields = some value ∧ value.truthy = true := by
  obtain ⟨found, truthy⟩ := Option.filter_eq_some_iff.mp given
  exact ⟨found, truthy⟩

end Complete

namespace PageBindings

/-- The fields that a completed record is read from. -/
def completed (pattern id : Json) (now : Float) (raw : Fields) : Fields :=
  Entries.overlay (Complete.fill (Coerce.fields raw))
    [("urlPattern", pattern), ("id", id), ("version", .int 1), ("updatedAt", .float now)]

theorem find?_completed {pattern id : Json} {now : Float} {raw : Fields} {key : String}
    (other : key ∉ ["urlPattern", "id", "version", "updatedAt"]) :
    Entries.find? key (completed pattern id now raw) =
      Entries.find? key (Complete.fill (Coerce.fields raw)) := by
  simp only [List.mem_cons, List.not_mem_nil, or_false, not_or] at other
  obtain ⟨noPattern, noId, noVersion, noTime⟩ := other
  simp only [completed, Entries.overlay, List.foldl_cons, List.foldl_nil, Entries.find?_put]
  rw [if_neg (Ne.symm noTime), if_neg (Ne.symm noVersion), if_neg (Ne.symm noId),
    if_neg (Ne.symm noPattern)]

theorem wired_completed (pattern id : Json) (now : Float) (raw : Fields) :
    Fields.Wired (completed pattern id now raw) := by
  intro key unknown
  have other {keys : List String} (known : ∀ key ∈ keys, key ∈ wires) : key ∉ keys :=
    fun found => unknown (known key found)
  rw [find?_completed (other (by decide)), Complete.find?_fill (other (by decide +kernel))]
  exact Coerce.wired_fields raw key unknown

/-- The pattern of a completed record: the given one, or the host of the page. -/
def patternOf (raw : Fields) (url : String) : Except Fault Json :=
  match Complete.given? "urlPattern" (Complete.fill (Coerce.fields raw)) with
  | some pattern => .ok pattern
  | none => Json.str <$> (Url.host url).mapError Fault.badUrl

/-- The id of a completed record: the given one, or one made from the time. -/
def idOf (now : Float) (raw : Fields) : Json :=
  (Complete.given? "id" (Complete.fill (Coerce.fields raw))).getD (.str (timedId "bindings" now))

theorem complete_eq (now : Float) (raw : Fields) (url : String) :
    complete now raw url = patternOf raw url >>= fun pattern =>
      ofFieldsOrFault now (completed pattern (idOf now raw) now raw) := by
  unfold complete patternOf completed idOf
  -- The table of defaults is not to be opened by the comparison of the two sides.
  generalize Complete.fill (Coerce.fields raw) = fields
  dsimp only
  cases Complete.given? "urlPattern" fields <;> rfl

theorem complete_of_pattern {now : Float} {raw : Fields} {url : String} {pattern : Json}
    (given : patternOf raw url = .ok pattern) :
    complete now raw url = ofFieldsOrFault now (completed pattern (idOf now raw) now raw) := by
  rw [complete_eq, given]
  exact pure_bind pattern _

/-!
## Completed records
-/

variable {now : Float} {raw : Fields} {url : String} {b : PageBindings}

theorem complete_reads (made : complete now raw url = .ok b) :
    ∃ pattern, patternOf raw url = .ok pattern ∧
      b.ReadsFrom now (completed pattern (idOf now raw) now raw) := by
  rw [complete_eq] at made
  obtain ⟨pattern, given, made⟩ := Json.bind_ok made
  exact ⟨pattern, given, ofFieldsOrFault_eq_ok.mp made⟩

theorem complete_version (made : complete now raw url = .ok b) : b.version = 1 := by
  obtain ⟨pattern, -, reads⟩ := complete_reads made
  have found : Entries.find? "version" (completed pattern (idOf now raw) now raw) =
      some (.int 1) := by
    simp [completed, Entries.overlay, Entries.find?_put]
  have read : Reading.int (.int 1) = .ok b.version := reads_first reads.version found
  exact (Except.ok.inj read).symm

/-- The id of a record that is completed is the given one, or none is given and it is made from
the time. -/
theorem complete_id (made : complete now raw url = .ok b) :
    Complete.given? "id" (Coerce.fields raw) = some (.str b.id) ∨
      Complete.given? "id" (Coerce.fields raw) = none ∧ b.id = timedId "bindings" now := by
  obtain ⟨pattern, -, reads⟩ := complete_reads made
  have found : Entries.find? "id" (completed pattern (idOf now raw) now raw) =
      some (idOf now raw) := by
    simp [completed, Entries.overlay, Entries.find?_put]
  have text : idOf now raw = .str b.id := Reading.string_eq_ok.mp (reads_first reads.id found)
  rw [idOf, Complete.given?_fill_undefaulted (by decide +kernel)] at text
  cases given : Complete.given? "id" (Coerce.fields raw) with
  | none =>
      rw [given] at text
      exact .inr ⟨rfl, (Json.str.inj text).symm⟩
  | some value =>
      rw [given] at text
      obtain rfl : value = .str b.id := text
      exact .inl rfl

/-- The pattern of a record that is completed is the given one, or none is given and it is the host
of the page. -/
theorem complete_urlPattern (made : complete now raw url = .ok b) :
    Complete.given? "urlPattern" (Coerce.fields raw) = some (.str b.urlPattern) ∨
      Complete.given? "urlPattern" (Coerce.fields raw) = none ∧
        Url.host url = .ok b.urlPattern := by
  obtain ⟨pattern, given, reads⟩ := complete_reads made
  have found : Entries.find? "urlPattern" (completed pattern (idOf now raw) now raw) =
      some pattern := by
    simp [completed, Entries.overlay, Entries.find?_put]
  obtain rfl : pattern = .str b.urlPattern :=
    Reading.string_eq_ok.mp (reads_first reads.urlPattern found)
  have held : Complete.given? "urlPattern" (Complete.fill (Coerce.fields raw)) =
      Complete.given? "urlPattern" (Coerce.fields raw) :=
    Complete.given?_fill_undefaulted (by decide +kernel) _
  unfold patternOf at given
  rw [held] at given
  cases named : Complete.given? "urlPattern" (Coerce.fields raw) with
  | some value =>
      rw [named] at given
      cases given
      exact .inl rfl
  | none =>
      rw [named] at given
      cases host : Url.host url with
      | error fault =>
          rw [host] at given
          cases given
      | ok text =>
          rw [host] at given
          cases given
          exact .inr ⟨rfl, rfl⟩

end PageBindings

namespace Advisor

variable {σ : Type} {advisor : Advisor σ}

/-- A discovery is the record completed from the first object of the answer, and it says where
the list and its items are. -/
theorem readDiscovery_ok {now : Float} {url answer : String} {found : Discovery}
    (read : readDiscovery now url answer = .ok (.ok found)) :
    ∃ raw, Json.firstObject? answer = some raw ∧
      PageBindings.complete now raw url = .ok found.bindings ∧
      found.bindings.list ≠ "" ∧ found.bindings.listItem ≠ "" := by
  unfold readDiscovery at read
  cases given : Json.firstObject? answer with
  | none =>
      rw [given] at read
      cases read
  | some raw =>
      rw [given] at read
      dsimp only at read
      split at read
      next => cases read
      next => cases read
      next b made =>
        split at read
        next => cases read
        next named =>
          cases read
          simp only [Bool.or_eq_true, decide_eq_true_eq, not_or] at named
          obtain ⟨list, listItem⟩ := named
          exact ⟨raw, rfl, made, list, listItem⟩

/-- What the model is asked about a page. -/
def survey (advisor : Advisor σ) (page : Snapshot) : Prompt :=
  Prompt.discovery (limits advisor.settings) page.url page.title (Text.strip page.elements)
    page.visibleText

/-- A discovery on a page that is long enough is one question, and the answer is read; of a
shorter page nothing is asked. -/
theorem discover_apply (page : Snapshot) (world : σ) :
    advisor.discover (some page) world =
      if (Text.strip page.elements).length < advisor.settings.minSnapshotChars then
        (.ok (.error discover.tooSmall), world)
      else
        match advisor.inquire (advisor.survey page) world with
        | (.error fault, after) => (.error fault, after)
        | (.ok (.error reason), after) => (.ok (.error reason), after)
        | (.ok (.ok answer), after) =>
            (readDiscovery (advisor.clock.time after) page.url answer, after) := by
  show (if _ then _ else _ : Action σ _) world = _
  split
  · rfl
  · rw [Action.bind_apply, survey]
    rcases advisor.inquire _ world with ⟨fault | reason | answer, after⟩ <;> rfl

theorem discover_ok {snapshot : Option Snapshot} {world after : σ} {found : Discovery}
    (asked : advisor.discover snapshot world = (.ok (.ok found), after)) :
    ∃ page prompt answer, snapshot = some page ∧
      advisor.inquire prompt world = (.ok (.ok answer), after) ∧
      readDiscovery (advisor.clock.time after) page.url answer = .ok (.ok found) := by
  cases snapshot with
  | none =>
      unfold discover at asked
      dsimp only at asked
      split at asked <;> cases asked
  | some page =>
      rw [discover_apply] at asked
      split at asked
      · cases asked
      · rcases inquired : advisor.inquire (advisor.survey page) world with
          ⟨fault | reason | answer, here⟩
        all_goals rw [inquired] at asked
        · cases asked
        · cases asked
        · obtain ⟨read, rfl⟩ := Prod.mk.inj asked
          exact ⟨page, _, answer, rfl, inquired, read⟩

end Advisor

end Gleaner
