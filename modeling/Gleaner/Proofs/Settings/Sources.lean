import Mathlib.Data.String.Basic
import Gleaner.Proofs.Json.Keyed
import Gleaner.Settings.Load

/-!
# What files and variables say

A configuration file gives fields with each key once. A text without a separator is one part,
so that a text without line ends is a single line and a plain name is a path in normal form.
-/

set_option autoImplicit false

namespace Gleaner

/-!
## Texts of one part
-/

/-- Splitting goes on to the end of a text that has no separator. -/
theorem splitOnAux_of_absent {mark : Char} (before after : List Char) (absent : mark ∉ after) :
    (String.ofList (before ++ after)).splitOnAux (String.singleton mark) 0
      ⟨String.utf8Len before⟩ 0 [] = [String.ofList (before ++ after)] := by
  induction after generalizing before with
  | nil =>
      have whole := String.extract_of_valid [] before []
      simp only [List.nil_append, String.utf8Len_nil, Nat.zero_add, List.append_nil] at whole ⊢
      rw [String.splitOnAux.eq_def, if_pos (by simp)]
      exact congrArg (fun text => [text]) whole
  | cons c rest ih =>
      obtain ⟨other, absent⟩ := not_or.mp (mt List.mem_cons.mpr absent)
      have unfinished := mt (String.atEnd_of_valid before (c :: rest)).mp (List.cons_ne_nil c rest)
      have first : String.Pos.Raw.get (String.singleton mark) 0 = mark :=
        String.get_of_valid [] [mark]
      have here : ¬(String.Pos.Raw.get (String.ofList (before ++ c :: rest))
          ⟨String.utf8Len before⟩ == String.Pos.Raw.get (String.singleton mark) 0) := by
        rw [String.get_of_valid, first]
        exact fun same => other (eq_of_beq same).symm
      have onward : (⟨String.utf8Len before⟩ : String.Pos.Raw).unoffsetBy 0 =
          ⟨String.utf8Len before⟩ := rfl
      rw [String.splitOnAux.eq_def, if_neg unfinished, if_neg here, onward, String.next_of_valid]
      simpa using ih (before ++ [c]) absent

theorem splitOn_of_absent {mark : Char} {text : String} (absent : mark ∉ text.toList) :
    text.splitOn (String.singleton mark) = [text] := by
  have whole := splitOnAux_of_absent [] text.toList absent
  rw [List.nil_append, String.ofList_toList] at whole
  rw [String.splitOn, if_neg (by simp), ← whole]
  rfl

theorem normalPath_of_absent {path : String} (absent : '/' ∉ path.toList) (named : path ≠ "")
    (moves : path ≠ ".") (relative : path.startsWith "/" = false) : normalPath path = path := by
  have steps : path.splitOn "/" = [path] := splitOn_of_absent absent
  simp [normalPath, steps, named, moves, relative]

/-!
## Configuration files
-/

namespace Yaml

theorem linesOf_of_absent {cs : List Char} (absent : '\n' ∉ cs) : linesOf cs = [cs] := by
  have whole : (String.ofList cs).splitOn "\n" = [String.ofList cs] :=
    splitOn_of_absent (by rwa [String.toList_ofList])
  rw [linesOf, whole, List.map_singleton, String.toList_ofList]

mutual

theorem keyed_toJson (value : Yaml) : Json.Keyed value.toJson := by
  cases value with
  | null => exact .null
  | bool b => exact .bool b
  | int n => exact .int n
  | float x => exact .float x
  | str text => exact .str text
  | date text => exact .arr (List.forall_mem_nil _)
  | seq items => exact .arr (keyed_itemsToJson items)
  | map entries => exact Json.keyed_ofPairs (keyed_entriesToJson entries)

theorem keyed_itemsToJson (items : List Yaml) : ∀ item ∈ itemsToJson items, Json.Keyed item := by
  cases items with
  | nil => exact List.forall_mem_nil _
  | cons item rest =>
      exact List.forall_mem_cons.mpr ⟨keyed_toJson item, keyed_itemsToJson rest⟩

theorem keyed_entriesToJson (entries : List (Yaml × Yaml)) :
    ∀ pair ∈ entriesToJson entries, Json.Keyed pair.2 := by
  cases entries with
  | nil => exact List.forall_mem_nil _
  | cons entry rest =>
      obtain ⟨key, value⟩ := entry
      cases key with
      | str name =>
          exact List.forall_mem_cons.mpr ⟨keyed_toJson value, keyed_entriesToJson rest⟩
      | _ => exact keyed_entriesToJson rest

end

end Yaml

namespace SettingsSource

theorem readConfiguration_keyed {path text : String} {given : Fields}
    (made : readConfiguration path text = .ok given) : Json.Keyed (.obj given) := by
  unfold readConfiguration at made
  split at made
  next => cases made
  next =>
    cases made
    exact .obj List.nodup_nil (List.forall_mem_nil _)
  next entries _ =>
    split at made
    next =>
      cases made
      exact Json.keyed_ofPairs (Yaml.keyed_entriesToJson entries)
    next => cases made
  next => cases made

theorem configuration_keyed {files : Files} {source : SettingsSource} {given : Fields}
    (configured : source.configuration files = .ok given) : Json.Keyed (.obj given) := by
  unfold configuration at configured
  split at configured
  next =>
    dsimp only at configured
    split at configured
    next => exact readConfiguration_keyed configured
    next => cases configured
  next =>
    split at configured
    next => exact readConfiguration_keyed configured
    next =>
      cases configured
      exact .obj List.nodup_nil (List.forall_mem_nil _)

end SettingsSource

/-!
## Variables
-/

theorem mapM_eq_ok {ε α β : Type} {read : α → Except ε β} {items : List α} (value : β)
    (all : ∀ item ∈ items, read item = .ok value) :
    items.mapM read = .ok (items.map fun _ => value) := by
  induction items with
  | nil => rfl
  | cons item rest ih =>
      obtain ⟨here, later⟩ := List.forall_mem_cons.mp all
      rw [List.mapM_cons, here, ih later]
      rfl

/-- Where no variable is about a section, the environment says at most whether to debug. -/
theorem Settings.environmentFields_of_silent {env : Environment}
    (silent : ∀ part ∈ sections, Environment.section? part.1 part.2 env.lowered = .ok none) :
    environmentFields env =
      .ok ((Entries.find? (Environment.opening ++ "debug") env.lowered).map fun value =>
        ("debug", Json.str value)).toList := by
  rw [environmentFields, mapM_eq_ok none]
  · simp [List.filterMap_map, bind, Except.bind, pure, Except.pure]
  · rintro ⟨name, known⟩ among
    have nothing := silent _ among
    dsimp only at nothing ⊢
    rw [nothing]
    rfl

end Gleaner
