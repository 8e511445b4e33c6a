import Gleaner.Proofs.Schema.Reading

/-!
# Which values a reading admits

A reading gives a value for some JSON values and problems for the others. `Kind` decides which,
without what is read: a reading that is composed of others admits what is composed of the kinds of
those, so one lemma per composition tells the values that a whole record can be read from.
-/

set_option autoImplicit false

namespace Gleaner

theorem Entries.exists_alike {α β : Type} {together : α → β → Prop} {entries : Entries α} :
    (∃ others, Alike together entries others) ↔
      ∀ entry ∈ entries, ∃ other, together entry.2 other := by
  refine exists_forall₂.trans (forall₂_congr fun entry _ => ?_)
  exact ⟨fun ⟨other, _, values⟩ => ⟨other.2, values⟩, fun ⟨other, values⟩ =>
    ⟨(entry.1, other), rfl, values⟩⟩

/-- A kind of JSON value. -/
abbrev Kind := Json → Bool

namespace Kind

def text : Kind
  | .str _ => true
  | _ => false

/-- A text that names a choice. -/
def choice {α : Type} (choices : List (String × α)) : Kind
  | .str name => Entries.has name choices
  | _ => false

/-- A value that stands for a number. -/
def number {α : Type} (read : Reading α) : Kind :=
  fun value => (read value).toOption.isSome

def orNull (kind : Kind) : Kind
  | .null => true
  | value => kind value

def list (kind : Kind) : Kind
  | .arr items => items.all kind
  | _ => false

def entries (kind : Kind) : Kind
  | .obj fields => fields.all fun field => kind field.2
  | _ => false

end Kind

/-- A field is of a kind if it is there. -/
def Fields.allows (fields : Fields) (name : FieldName) (kind : Kind) : Bool :=
  (name.value? fields).all kind

/-- A field is there and of a kind. -/
def Fields.gives (fields : Fields) (name : FieldName) (kind : Kind) : Bool :=
  (name.value? fields).any kind

/-- A reading gives a value exactly for the values of a kind. -/
def Reading.Admits {α : Type} (read : Reading α) (kind : Kind) : Prop :=
  ∀ value, (∃ result, read value = .ok result) ↔ kind value = true

namespace Reading

variable {α : Type} {read : Reading α} {kind : Kind}

theorem admits_string : string.Admits Kind.text := by
  intro value
  cases value with
  | str text => exact iff_of_true ⟨text, rfl⟩ rfl
  | _ =>
      refine iff_of_false ?_ Bool.false_ne_true
      rintro ⟨text, made⟩
      cases made

theorem admits_choice (choices : List (String × α)) :
    (choice choices).Admits (Kind.choice choices) := by
  intro value
  simp only [choice_eq_ok]
  cases value with
  | str name => simp [Kind.choice, Entries.has, Option.isSome_iff_exists]
  | _ => exact iff_of_false (by simp) Bool.false_ne_true

theorem admits_number (read : Reading α) : read.Admits (Kind.number read) := by
  intro value
  rw [Kind.number]
  cases read value with
  | ok result => exact iff_of_true ⟨result, rfl⟩ rfl
  | error problems =>
      refine iff_of_false ?_ Bool.false_ne_true
      rintro ⟨result, made⟩
      cases made

theorem Admits.orNull (admits : read.Admits kind) : (orNull read).Admits kind.orNull := by
  intro value
  have given : (∃ result, Option.some <$> read value = .ok result) ↔ kind value = true := by
    simp [Checked.map_eq_ok, ← admits value]
  cases value with
  | null => exact iff_of_true ⟨none, rfl⟩ rfl
  | _ => exact given

theorem Admits.list (admits : read.Admits kind) : (list read).Admits kind.list := by
  intro value
  cases value with
  | arr items =>
      rw [Kind.list, List.all_eq_true]
      refine (exists_congr fun results => eachIn_eq_ok).trans (exists_forall₂.trans ?_)
      exact forall₂_congr fun item _ => admits item
  | _ =>
      refine iff_of_false ?_ Bool.false_ne_true
      rintro ⟨results, made⟩
      cases made

theorem Admits.entries (admits : read.Admits kind) : (entries read).Admits kind.entries := by
  intro value
  cases value with
  | obj fields =>
      have each : (∃ result, Reading.entries read (.obj fields) = .ok result) ↔
          ∃ result, Entries.Alike (fun given made => read given = .ok made) fields result := by
        simp [entries_eq_ok]
      rw [each, Entries.exists_alike, Kind.entries, List.all_eq_true]
      exact forall₂_congr fun field _ => admits field.2
  | _ => exact iff_of_false (by simp [entries_eq_ok]) Bool.false_ne_true

end Reading

namespace Fields

variable {α : Type} {fields : Fields} {name : FieldName} {read : Reading α} {kind : Kind}

theorem allows_iff (admits : read.Admits kind) (default : α) :
    (∃ result, fields.Reads name default read result) ↔ fields.allows name kind = true := by
  unfold Reads allows
  cases name.value? fields with
  | none => exact iff_of_true ⟨default, rfl⟩ rfl
  | some value => exact admits value

theorem gives_iff (admits : read.Admits kind) :
    (∃ result, fields.Holds name read result) ↔ fields.gives name kind = true := by
  unfold Holds gives
  cases name.value? fields with
  | none => exact iff_of_false (by simp) Bool.false_ne_true
  | some value => simpa using admits value

end Fields

end Gleaner
