import Gleaner.Proofs.Store.Operations
import Mathlib.Logic.Function.Basic

/-!
# Runs that share a store

Runs that load a record, and later keep it unchanged or in a later version while the stored one
still has the version that they loaded, do not lose each other's updates, however their calls
interleave. Along any such history a version of a record never stands for two contents: the
stored record is the one that was loaded, or it is of a later version because another run that
had loaded the same version changed it first.
-/

set_option autoImplicit false

namespace Gleaner

/-- What a run may make of a record that it loaded: nothing else, or a later version of it. -/
inductive PageBindings.Precedes (loaded : PageBindings) : PageBindings → Prop where
  | same : Precedes loaded loaded
  | later {record : PageBindings} :
      record.id = loaded.id → loaded.version < record.version → Precedes loaded record

theorem PageBindings.Precedes.id {loaded record : PageBindings} (precedes : loaded.Precedes record) :
    record.id = loaded.id := by
  cases precedes with
  | same => rfl
  | later same _ => exact same

/-- A store and what each of the runs that share it has loaded last. -/
structure Shared (ι τ : Type) where
  kept : τ
  loaded : ι → Option PageBindings := fun _ => none

structure SharedCall (ι : Type) where
  run : ι
  now : Float
  call : StoreCall

/-- The call keeps a later version of a record of which it expects some version. -/
def SharedCall.Changes {ι : Type} (id : String) (version : Int) (event : SharedCall ι) : Prop :=
  ∃ record, event.call = .put record (some version) ∧ record.id = id ∧ version < record.version

namespace Shared

variable {ι τ : Type} [DecidableEq ι] (medium : Medium τ)

def answer (event : SharedCall ι) (state : Shared ι τ) : Except Fault StoreAnswer :=
  (medium.perform event.now event.call state.kept).1

/-- A query that is answered loads its answer. -/
def after (event : SharedCall ι) (state : Shared ι τ) : Shared ι τ where
  kept := (medium.perform event.now event.call state.kept).2
  loaded :=
    match event.call, state.answer medium event with
    | .query _, .ok (.found record) => Function.update state.loaded event.run record
    | _, _ => state.loaded

/-- The calls that runs make: they look, they keep what they made of the record they loaded,
expecting its version, and they add records under new ids. -/
inductive Allows (state : Shared ι τ) : SharedCall ι → Prop where
  | get (run : ι) (now : Float) (id : String) : Allows state ⟨run, now, .get id⟩
  | all (run : ι) (now : Float) : Allows state ⟨run, now, .all⟩
  | query (run : ι) (now : Float) (url : String) : Allows state ⟨run, now, .query url⟩
  | put {run : ι} {loaded record : PageBindings} (now : Float) :
      state.loaded run = some loaded → loaded.Precedes record → record.Distinct →
      Allows state ⟨run, now, .put record (some loaded.version)⟩
  | add {record : PageBindings} (run : ι) (now : Float) :
      medium.get now record.id state.kept = .ok none → record.Distinct →
      Allows state ⟨run, now, .put record none⟩

/-- The calls made so far, in any order that is allowed, and the state they led to. -/
inductive History (start : τ) : List (SharedCall ι) → Shared ι τ → Prop where
  | start : History start [] { kept := start }
  | call {past : List (SharedCall ι)} {state : Shared ι τ} {event : SharedCall ι} :
      History start past state → state.Allows medium event →
      History start (past ++ [event]) (state.after medium event)

end Shared

/-- Every record is still there, the same or in a later version. -/
def Records.Advance (earlier later : Records) : Prop :=
  ∀ id stored, Entries.find? id earlier = some stored →
    ∃ record, Entries.find? id later = some record ∧
      (record = stored ∨ stored.version < record.version)

theorem Records.Advance.refl (records : Records) : records.Advance records :=
  fun _ stored found => ⟨stored, found, .inl rfl⟩

/-!
## The invariant
-/

/-- The records in the store, what was changed so far, and what the runs have loaded. -/
structure Coherent {ι τ : Type} (medium : Medium τ) (past : List (SharedCall ι))
    (state : Shared ι τ) (records : Records) : Prop where
  mirrors : medium.Mirrors state.kept records
  moved : ∀ event ∈ past, ∀ id version, event.Changes id version →
    ∃ stored, Entries.find? id records = some stored ∧ version < stored.version
  loaded : ∀ run record, state.loaded run = some record →
    ∃ stored, Entries.find? record.id records = some stored ∧
      (stored = record ∨ record.version < stored.version ∧
        ∃ event ∈ past, event.Changes record.id record.version)

namespace Coherent

variable {ι τ : Type} {medium : Medium τ} {past : List (SharedCall ι)}
  {state : Shared ι τ} {records : Records}

/-- What a run that keeps its record finds in the store: the record that it loaded, and then
nobody has changed that yet, or a later version that somebody else made of it. -/
theorem stored (coherent : Coherent medium past state records) {run : ι} {loaded : PageBindings}
    (has : state.loaded run = some loaded) :
    ∃ stored, Entries.find? loaded.id records = some stored ∧
      (stored = loaded ∧ (∀ event ∈ past, ¬event.Changes loaded.id loaded.version) ∨
        loaded.version < stored.version ∧
          ∃ event ∈ past, event.Changes loaded.id loaded.version) := by
  obtain ⟨stored, found, same | later⟩ := coherent.loaded run loaded has
  · -- A change would have moved the stored record past the version that was loaded.
    refine ⟨stored, found, .inl ⟨same, fun event happened changes => ?_⟩⟩
    obtain ⟨current, again, moved⟩ := coherent.moved event happened _ _ changes
    cases found.symm.trans again
    rw [same] at moved
    exact lt_irrefl _ moved
  · exact ⟨stored, found, .inr later⟩

theorem looked (coherent : Coherent medium past state records) {event : SharedCall ι}
    {next : Shared ι τ} (kept : next.kept = state.kept)
    (quiet : ∀ id version, event.Changes id version →
      ∃ stored, Entries.find? id records = some stored ∧ version < stored.version)
    (loaded : ∀ run record, next.loaded run = some record →
      state.loaded run = some record ∨ Entries.find? record.id records = some record) :
    Coherent medium (past ++ [event]) next records where
  mirrors := kept ▸ coherent.mirrors
  moved := by
    intro happened among id version changes
    rcases List.mem_append.mp among with earlier | now
    · exact coherent.moved happened earlier id version changes
    · rw [List.mem_singleton.mp now] at changes
      exact quiet id version changes
  loaded := by
    intro run record has
    rcases loaded run record has with before | here
    · obtain ⟨stored, found, same | ⟨later, happened, earlier, changes⟩⟩ :=
        coherent.loaded run record before
      · exact ⟨stored, found, .inl same⟩
      · exact ⟨stored, found, .inr ⟨later, happened, List.mem_append_left _ earlier, changes⟩⟩
    · exact ⟨record, here, .inl rfl⟩

theorem wrote (coherent : Coherent medium past state records) {event : SharedCall ι}
    {next : Shared ι τ} {record : PageBindings} {expected : Option Int}
    (call : event.call = .put record expected)
    (kept : medium.Mirrors next.kept (Entries.put record.id record records))
    (loaded : next.loaded = state.loaded)
    (rises : ∀ stored, Entries.find? record.id records = some stored →
      stored = record ∨ stored.version < record.version ∧ event.Changes record.id stored.version) :
    Coherent medium (past ++ [event]) next (Entries.put record.id record records) ∧
      records.Advance (Entries.put record.id record records) := by
  refine ⟨⟨kept, ?_, ?_⟩, ?_⟩
  · intro happened among id version changes
    rw [Entries.find?_put]
    rcases List.mem_append.mp among with earlier | now
    · obtain ⟨stored, found, moved⟩ := coherent.moved happened earlier id version changes
      split
      next same =>
        subst same
        rcases rises stored found with rfl | ⟨later, _⟩
        · exact ⟨_, rfl, moved⟩
        · exact ⟨record, rfl, moved.trans later⟩
      next => exact ⟨stored, found, moved⟩
    · rw [List.mem_singleton.mp now] at changes
      obtain ⟨written, sameCall, rfl, later⟩ := changes
      cases call.symm.trans sameCall
      rw [if_pos rfl]
      exact ⟨record, rfl, later⟩
  · intro run mine has
    rw [loaded] at has
    rw [Entries.find?_put]
    obtain ⟨stored, found, known⟩ := coherent.loaded run mine has
    split
    next same =>
      -- What the run has loaded may be overtaken by now, or only by this call.
      refine ⟨record, rfl, ?_⟩
      rw [← same] at found
      rcases rises stored found with rfl | ⟨later, changes⟩
      · rcases known with rfl | ⟨moved, happened, earlier, changed⟩
        · exact .inl rfl
        · exact .inr ⟨moved, happened, List.mem_append_left _ earlier, changed⟩
      · rcases known with rfl | ⟨moved, happened, earlier, changed⟩
        · exact .inr ⟨later, event, by simp, same ▸ changes⟩
        · exact .inr ⟨moved.trans later, happened, List.mem_append_left _ earlier, changed⟩
    next =>
      rcases known with same | ⟨moved, happened, earlier, changed⟩
      · exact ⟨stored, found, .inl same⟩
      · exact ⟨stored, found, .inr ⟨moved, happened, List.mem_append_left _ earlier, changed⟩⟩
  · intro id stored found
    rw [Entries.find?_put]
    split
    next same =>
      subst same
      rcases rises stored found with rfl | ⟨later, _⟩
      · exact ⟨_, rfl, .inl rfl⟩
      · exact ⟨record, rfl, .inr later⟩
    next => exact ⟨stored, found, .inl rfl⟩

end Coherent

/-!
## One call
-/

namespace Medium

theorem mem_of_matching {url : String} {records found : List PageBindings}
    (matched : matching url records = .ok found) : ∀ record ∈ found, record ∈ records := by
  induction records generalizing found with
  | nil =>
      cases matched
      exact List.forall_mem_nil _
  | cons first rest ih =>
      simp only [matching, bind, Except.bind] at matched
      cases asked : (first.matchesUrl url).mapError Fault.badUrl with
      | error fault =>
          rw [asked] at matched
          cases matched
      | ok belongs =>
          cases others : matching url rest with
          | error fault =>
              simp only [asked, others] at matched
              cases matched
          | ok more =>
              simp only [asked, others] at matched
              intro record isFound
              cases belongs with
              | true =>
                  cases matched
                  rcases List.mem_cons.mp isFound with rfl | further
                  · exact List.mem_cons_self
                  · exact List.mem_cons_of_mem _ (ih others record further)
              | false =>
                  cases matched
                  exact List.mem_cons_of_mem _ (ih others record isFound)

theorem latest_mem {records : List PageBindings} {record : PageBindings}
    (last : latest records = some record) : record ∈ records := by
  cases records with
  | nil => cases last
  | cons first rest =>
      cases last
      induction rest generalizing first with
      | nil => exact List.mem_cons_self
      | cons second rest ih =>
          rw [List.foldl_cons]
          split
          · exact List.mem_cons_of_mem _ (ih second)
          · rcases List.mem_cons.mp (ih first) with isFirst | further
            · rw [isFirst]
              exact List.mem_cons_self
            · exact List.mem_cons_of_mem _ (List.mem_cons_of_mem _ further)

theorem query_stored {τ : Type} {medium : Medium τ} {kept : τ} {records : Records}
    (mirrors : medium.Mirrors kept records) {now : Float} {url : String} {record : PageBindings}
    (answered : medium.query now url kept = .ok (some record)) :
    Entries.find? record.id records = some record := by
  rw [query_of_load (mirrors.holds now)] at answered
  cases matched : matching url (Entries.values records) with
  | error fault =>
      rw [matched] at answered
      cases answered
  | ok found =>
      rw [matched] at answered
      have last : latest found = some record := Except.ok.inj answered
      obtain ⟨entry, kept, rfl⟩ := List.mem_map.mp (mem_of_matching matched record (latest_mem last))
      rw [mirrors.sound.own entry kept]
      exact Entries.find?_of_mem mirrors.sound.once kept

end Medium

namespace Shared

variable {ι τ : Type} {medium : Medium τ} {past : List (SharedCall ι)} {state : Shared ι τ}
  {records : Records}

theorem after_query [DecidableEq ι] (run : ι) (now : Float) (url : String) (state : Shared ι τ) :
    (state.after medium ⟨run, now, .query url⟩).kept = state.kept ∧
      ∀ other record, (state.after medium ⟨run, now, .query url⟩).loaded other = some record →
        state.loaded other = some record ∨ medium.query now url state.kept = .ok (some record) := by
  refine ⟨rfl, fun other record has => ?_⟩
  simp only [after, answer, Medium.perform] at has
  cases answered : medium.query now url state.kept with
  | error fault =>
      rw [answered] at has
      exact .inl has
  | ok found =>
      rw [answered] at has
      by_cases same : other = run
      · subst same
        simp only [Except.map, Function.update_self] at has
        rw [has]
        exact .inr rfl
      · simp only [Except.map, Function.update_of_ne same] at has
        exact .inl has

theorem put_settled (coherent : Coherent medium past state records) {run : ι}
    {loaded record : PageBindings} (now : Float) (has : state.loaded run = some loaded)
    (precedes : loaded.Precedes record) :
    ∃ stored, Entries.find? record.id records = some stored ∧
      (stored = loaded ∧ (∀ event ∈ past, ¬event.Changes record.id loaded.version) ∧
        medium.put now record (some loaded.version) state.kept =
          .ok (medium.save (Entries.put record.id record records)) ∨
      loaded.version < stored.version ∧ (∃ event ∈ past, event.Changes record.id loaded.version) ∧
        medium.put now record (some loaded.version) state.kept =
          .error (.staleBindings record.id loaded.version stored.version)) := by
  obtain ⟨stored, found, first | later⟩ := coherent.stored has
  all_goals rw [← precedes.id] at found
  · obtain ⟨rfl, unchanged⟩ := first
    refine ⟨stored, found, .inl ⟨rfl, precedes.id ▸ unchanged, ?_⟩⟩
    refine Medium.put_accepted (coherent.mirrors.holds now) fun version current named again => ?_
    cases named
    cases found.symm.trans again
    rfl
  · obtain ⟨moved, changed⟩ := later
    refine ⟨stored, found, .inr ⟨moved, precedes.id ▸ changed, ?_⟩⟩
    exact Medium.put_refused (coherent.mirrors.holds now) found moved.ne'

/-- Every call that is allowed keeps the invariant, and no record goes back. -/
theorem Allows.coherent [DecidableEq ι] {event : SharedCall ι} (faithful : medium.Faithful)
    (allows : state.Allows medium event) (coherent : Coherent medium past state records) :
    ∃ changed, Coherent medium (past ++ [event]) (state.after medium event) changed ∧
      records.Advance changed := by
  cases allows with
  | get run now id =>
      refine ⟨records, coherent.looked rfl ?_ fun _ _ has => .inl has, .refl records⟩
      rintro _ version ⟨record, same, _⟩
      cases same
  | all run now =>
      refine ⟨records, coherent.looked rfl ?_ fun _ _ has => .inl has, .refl records⟩
      rintro _ version ⟨record, same, _⟩
      cases same
  | query run now url =>
      obtain ⟨kept, loaded⟩ := @after_query ι τ medium _ run now url state
      refine ⟨records, coherent.looked kept ?_ fun other record has => ?_, .refl records⟩
      · rintro _ version ⟨record, same, _⟩
        cases same
      · exact (loaded other record has).imp_right (Medium.query_stored coherent.mirrors)
  | @put run loaded record now has precedes distinct =>
      obtain ⟨stored, found, ⟨same, _, accepted⟩ | ⟨moved, ⟨earlier, among, changed⟩, refused⟩⟩ :=
        put_settled coherent now has precedes
      · refine ⟨_, coherent.wrote rfl ?_ rfl ?_⟩
        · simp only [after, Medium.perform, accepted]
          exact .save faithful (coherent.mirrors.sound.put distinct)
        · intro current again
          cases found.symm.trans again
          subst same
          -- A record that was not changed is written over itself.
          cases precedes with
          | same => exact .inl rfl
          | later _ later => exact .inr ⟨later, record, rfl, rfl, later⟩
      · refine ⟨records, coherent.looked ?_ ?_ fun _ _ has => .inl has, .refl records⟩
        · simp only [after, Medium.perform, refused]
        · rintro id version ⟨written, same, rfl, later⟩
          cases same
          exact ⟨stored, found, moved⟩
  | @add record run now new distinct =>
      have absent : Entries.find? record.id records = none := by
        rw [Medium.get_of_load (coherent.mirrors.holds now)] at new
        exact Except.ok.inj new
      have accepted : medium.put now record none state.kept =
          .ok (medium.save (Entries.put record.id record records)) := by
        refine Medium.put_accepted (coherent.mirrors.holds now) fun version stored named => ?_
        cases named
      refine ⟨_, coherent.wrote rfl ?_ rfl ?_⟩
      · simp only [after, Medium.perform, accepted]
        exact .save faithful (coherent.mirrors.sound.put distinct)
      · intro stored found
        rw [absent] at found
        cases found

/-- How a put goes of a record that a run made of the one it loaded: the stored record is still
that one, which nobody has changed, and the put is accepted; or somebody else changed it first,
and the put is refused. -/
inductive Settled [DecidableEq ι] (medium : Medium τ) (past : List (SharedCall ι))
    (state : Shared ι τ) (event : SharedCall ι) (loaded record : PageBindings) : Prop where
  | accepted :
      (∀ now, medium.get now record.id state.kept = .ok (some loaded)) →
      (∀ earlier ∈ past, ¬earlier.Changes record.id loaded.version) →
      state.answer medium event = .ok .done →
      (∀ now, medium.get now record.id (state.after medium event).kept = .ok (some record)) →
      Settled medium past state event loaded record
  | refused {stored : PageBindings} :
      (∀ now, medium.get now record.id state.kept = .ok (some stored)) →
      loaded.version < stored.version →
      (∃ earlier ∈ past, earlier.Changes record.id loaded.version) →
      state.answer medium event =
        .error (.staleBindings record.id loaded.version stored.version) →
      (state.after medium event).kept = state.kept →
      Settled medium past state event loaded record

theorem Allows.settled [DecidableEq ι] (faithful : medium.Faithful)
    (coherent : Coherent medium past state records) {run : ι} {loaded record : PageBindings}
    (now : Float) (has : state.loaded run = some loaded) (precedes : loaded.Precedes record)
    (distinct : record.Distinct) :
    Settled medium past state ⟨run, now, .put record (some loaded.version)⟩ loaded record := by
  obtain ⟨stored, found, ⟨rfl, unchanged, accepted⟩ | ⟨moved, changed, refused⟩⟩ :=
    put_settled coherent now has precedes
  · apply Settled.accepted
    · intro later
      rw [Medium.get_of_load (coherent.mirrors.holds later), found]
    · exact unchanged
    · simp [answer, Medium.perform, accepted]
    · intro later
      have saved := Medium.Mirrors.save faithful (coherent.mirrors.sound.put distinct)
      simp only [after, Medium.perform, accepted]
      rw [Medium.get_of_load (saved.holds later), Entries.find?_put, if_pos rfl]
  · apply Settled.refused
    · intro later
      rw [Medium.get_of_load (coherent.mirrors.holds later), found]
    · exact moved
    · exact changed
    · simp [answer, Medium.perform, refused]
    · simp [after, Medium.perform, refused]

end Shared

/-!
## Any history
-/

namespace Medium

inductive Empty : {τ : Type} → Medium τ → τ → Prop where
  | memory : Empty memory []
  | file : Empty file none

variable {τ : Type} {medium : Medium τ} {nothing : τ}

theorem Empty.faithful (empty : medium.Empty nothing) : medium.Faithful := by
  cases empty with
  | memory => exact memory_faithful
  | file => exact file_faithful

theorem Empty.mirrors (empty : medium.Empty nothing) : medium.Mirrors nothing [] := by
  cases empty with
  | memory => exact ⟨memory_holds [], .nil⟩
  | file => exact ⟨fun _ => rfl, .nil⟩

theorem Empty.reaches (empty : medium.Empty nothing) (calls : List (Float × StoreCall))
    (distinct : ∀ timed ∈ calls, timed.2.Distinct) :
    ∃ records, medium.Mirrors (medium.performAll calls nothing).2 records := by
  have reached := (performAll_mirrors empty.faithful
    (calls.map fun timed => ⟨timed.2, timed.1, 0⟩) (List.forall_mem_map.mpr distinct)
    empty.mirrors).2
  simp only [List.map_map, Function.comp_def, List.map_id'] at reached
  exact ⟨_, reached⟩

end Medium

namespace Shared

variable {ι τ : Type} [DecidableEq ι] {medium : Medium τ} {start : τ}
  {past : List (SharedCall ι)} {state : Shared ι τ} {records : Records}

theorem History.coherent (faithful : medium.Faithful) (mirrors : medium.Mirrors start records)
    (history : History medium start past state) :
    ∃ reached, Coherent medium past state reached := by
  induction history with
  | start =>
      exact ⟨records, mirrors, fun _ happened => absurd happened List.not_mem_nil, fun _ _ => nofun⟩
  | call _ allows ih =>
      obtain ⟨reached, coherent⟩ := ih
      obtain ⟨changed, further, _⟩ := allows.coherent faithful coherent
      exact ⟨changed, further⟩

/-- After any history, no call takes a record back, and every put that expects a version is of a
record made of the one that the run loaded, and is settled by whether that was changed before. -/
theorem History.settles (faithful : medium.Faithful) (mirrors : medium.Mirrors start records)
    (history : History medium start past state) {event : SharedCall ι}
    (allows : state.Allows medium event) :
    (∀ now id stored, medium.get now id state.kept = .ok (some stored) →
      ∃ record, (∀ later, medium.get later id (state.after medium event).kept = .ok (some record)) ∧
        (record = stored ∨ stored.version < record.version)) ∧
    ∀ record version, event.call = .put record (some version) →
      ∃ loaded, state.loaded event.run = some loaded ∧ loaded.version = version ∧
        loaded.Precedes record ∧ Settled medium past state event loaded record := by
  obtain ⟨reached, coherent⟩ := history.coherent faithful mirrors
  constructor
  · intro now id stored found
    obtain ⟨changed, further, advance⟩ := allows.coherent faithful coherent
    rw [Medium.get_of_load (coherent.mirrors.holds now)] at found
    obtain ⟨record, there, moved⟩ := advance id stored (Except.ok.inj found)
    refine ⟨record, fun later => ?_, moved⟩
    rw [Medium.get_of_load (further.mirrors.holds later), there]
  · intro record version called
    cases allows with
    | put now has precedes distinct =>
        cases called
        exact ⟨_, has, rfl, precedes, Allows.settled faithful coherent now has precedes distinct⟩
    | get => cases called
    | all => cases called
    | query => cases called
    | add => cases called

end Shared

end Gleaner
