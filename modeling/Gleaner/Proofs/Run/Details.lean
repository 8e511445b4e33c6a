import Gleaner.Proofs.Run.Looking
import Gleaner.Proofs.Text.Trim

/-!
# Reading details

Texts say something as soon as one of them does, and then the first group of selectors is enough:
it is read once and what it says is what is extracted. Whatever is extracted is trimmed.
-/

set_option autoImplicit false

namespace Gleaner

theorem trimmed_of_not_blank (texts : List String) :
    ∀ text ∈ (texts.filter fun text => !Text.isBlankText text).map Text.strip,
      text ≠ "" ∧ Text.strip text = text := by
  intro text found
  obtain ⟨source, kept, rfl⟩ := List.mem_map.mp found
  have named : Text.isBlankText source = false := by
    simpa using (List.mem_filter.mp kept).2
  exact ⟨Text.strip_ne_empty named, Text.strip_strip source⟩

theorem joinTexts_ne_empty {texts : List String}
    (some : ∃ text ∈ texts, Text.isBlankText text = false) : joinTexts texts ≠ "" := by
  obtain ⟨text, found, named⟩ := some
  have kept : Text.strip text ∈ (texts.filter fun text => !Text.isBlankText text).map Text.strip :=
    List.mem_map_of_mem (List.mem_filter.mpr ⟨found, by rw [named]; rfl⟩)
  exact (Text.strip_joined (List.ne_nil_of_mem kept) (trimmed_of_not_blank texts)).1

/-- Joined texts are trimmed. -/
theorem strip_joinTexts (texts : List String) : Text.strip (joinTexts texts) = joinTexts texts := by
  unfold joinTexts
  by_cases nothing : (texts.filter fun text => !Text.isBlankText text).map Text.strip = []
  · rw [nothing]
    rfl
  · exact (Text.strip_joined nothing (trimmed_of_not_blank texts)).2

/-!
## Trimmed details
-/

namespace Interp

section Trimmed

variable {σ α β : Type}

/-- What holds of the value of a program and of the session after it, when it has a value. -/
def Ensures (prog : Interp σ α) (post : α → Session σ → Prop) : Prop :=
  ∀ session value after, prog session = (.ok value, after) → post value after

namespace Ensures

variable {post : β → Session σ → Prop}

theorem bind {first : Interp σ α} {next : α → Interp σ β} {middle : α → Prop}
    (ensures : Ensures first fun value _ => middle value)
    (nextEnsures : ∀ value, middle value → Ensures (next value) post) :
    Ensures (first >>= next) post := by
  intro session value final ran
  rw [bind_apply] at ran
  rcases began : first session with ⟨fault | found, after⟩
  · rw [began] at ran
    cases ran
  · rw [began] at ran
    exact nextEnsures found (ensures session found after began) after value final ran

theorem after {first : Interp σ α} {next : α → Interp σ β}
    (nextEnsures : ∀ value, Ensures (next value) post) : Ensures (first >>= next) post :=
  bind (fun _ _ _ _ => trivial) fun value _ => nextEnsures value

theorem pure {value : β} (holds : ∀ session, post value session) :
    Ensures (Pure.pure value : Interp σ β) post := by
  intro session found after ran
  cases ran
  exact holds session

theorem throw (fault : Fault) : Ensures (MonadExcept.throw fault : Interp σ β) post := by
  intro session found after ran
  cases ran

theorem ite {condition : Prop} [Decidable condition] {first second : Interp σ β}
    (ensures : Ensures first post) (otherEnsures : Ensures second post) :
    Ensures (if condition then first else second) post := by
  split
  · exact ensures
  · exact otherEnsures

end Ensures

variable (host : Host σ)

theorem readGroups_trimmed (groups : List (List String)) :
    Ensures (readGroups host groups) fun text _ => Text.strip text = text := by
  induction groups with
  | nil => exact .pure fun _ => rfl
  | cons group rest ih =>
      exact .after fun texts => .ite ih (.pure fun _ => strip_joinTexts texts)

theorem readPatiently_trimmed (groups : List (List String)) (tries : Nat) :
    Ensures (readPatiently host groups tries) fun text _ => Text.strip text = text := by
  induction tries with
  | zero => exact .pure fun _ => rfl
  | succ tries ih =>
      exact (readGroups_trimmed host groups).bind fun found trimmed =>
        .ite (.after fun _ => ih) (.pure fun _ => trimmed)

/-- Whatever is extracted says something and is trimmed. -/
theorem extractDetails_trimmed (given : Option (List String)) :
    Ensures (extractDetails host given) fun _ session => ∃ content,
      session.run.content = some content ∧ content ≠ "" ∧ Text.strip content = content := by
  refine .after fun b => ?_
  extract_lets groups finish
  have finishes (found : String) (trimmed : Text.strip found = found) :
      Ensures (finish found) fun _ session => ∃ content,
        session.run.content = some content ∧ content ≠ "" ∧ Text.strip content = content := by
    refine .after fun run => ?_
    extract_lets ownText content keep
    by_cases empty : content = ""
    · rw [if_pos empty]
      exact .throw _
    · rw [if_neg empty]
      have trimmed : Text.strip content = content := by
        unfold content
        split
        · exact Text.strip_strip _
        · exact trimmed
      intro session value after ran
      cases ran
      exact ⟨content, rfl, empty, trimmed⟩
  have nothing : Ensures (Pure.pure "" : Interp σ String) fun text _ => Text.strip text = text :=
    .pure fun _ => rfl
  exact .ite (nothing.bind finishes) ((readPatiently_trimmed host groups _).bind finishes)

end Trimmed

/-!
## The first group that has text
-/

variable {σ : Type} (host : Host σ) {session after : Session σ}

/-- The first group is enough when it has text. -/
theorem readPatiently_apply_of_text {group : List String} {rest : List (List String)}
    {texts : List String} (tries : Nat)
    (ran : readGroup host group session = (.ok texts, after)) (content : joinTexts texts ≠ "") :
    readPatiently host (group :: rest) (tries + 1) session = (.ok (joinTexts texts), after) := by
  have first : readGroups host (group :: rest) session = (.ok (joinTexts texts), after) := by
    simp only [readGroups, bind_apply, ran]
    rw [if_neg content]
    rfl
  simp only [readPatiently, bind_apply, first]
  simp [content]

/-- What is read is extracted, unless it is empty. -/
theorem extractDetails_apply_of_read {given : Option (List String)} {text : String}
    (groups : session.bindings.detailGroups given ≠ [])
    (read : readPatiently host (session.bindings.detailGroups given) host.settings.extractRetries
      session = (.ok text, after)) (readable : text ≠ "") :
    extractDetails host given session =
      (.ok (.extracted text.length), { after with run := { after.run with content := some text } }) := by
  unfold extractDetails
  rw [bind_apply, bindings_apply]
  dsimp only
  rw [if_neg (mt List.isEmpty_iff.mp groups), bind_apply, read]
  dsimp only
  rw [bind_apply, run_apply]
  dsimp only
  rw [if_neg readable, if_neg readable]
  rfl

end Interp

end Gleaner
