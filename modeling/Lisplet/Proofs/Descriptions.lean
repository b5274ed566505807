import Lisplet.Value.Description
import Lisplet.Proofs.Provenance
import Lisplet.Proofs.ReaderForms
import Lisplet.Proofs.Room

/-! Values that can be described. What can be described can be printed too, and so can its parts. -/

set_option autoImplicit false

namespace Lisplet

namespace Value

variable {value tail : Value} {items : List Value} {room more : Nat}

/-- The value can be described with no more than this much room for nesting. -/
def Fits (room : Nat) (value : Value) : Prop :=
  ∃ depth words, depth ≤ room ∧ value.descriptionWithin depth = .ok words

theorem Fits.mono (fits : value.Fits room) (larger : room ≤ more) : value.Fits more := by
  obtain ⟨depth, words, least, described⟩ := fits
  exact ⟨depth, words, Nat.le_trans least larger, described⟩

theorem fits_string (room : Nat) (contents : String) : (string contents).Fits room :=
  ⟨0, _, Nat.zero_le room, descriptionWithin_string 0 contents⟩

theorem fits_bool (room : Nat) (b : Bool) : (bool b).Fits room :=
  ⟨0, _, Nat.zero_le room, descriptionWithin_bool 0 b⟩

theorem Fits.of_list (fits : (list items).Fits room) :
    ∃ inner, room = inner + 4 ∧ ∀ item ∈ items, item.Fits inner := by
  obtain ⟨depth, words, least, described⟩ := fits
  rcases Nat.lt_or_ge depth 4 with short | enough
  · rw [descriptionWithin_list_of_lt short] at described
    cases described
  obtain ⟨depth, rfl⟩ := Nat.exists_eq_add_of_le' enough
  obtain ⟨inner, rfl⟩ := Nat.exists_eq_add_of_le' (Nat.le_trans enough least)
  rw [descriptionWithin_list] at described
  obtain ⟨parts, each, -⟩ := eq_ok_of_bind described
  refine ⟨inner, rfl, fun item member => ?_⟩
  obtain ⟨part, found⟩ := exists_mapM_ok_iff.mp ⟨parts, each⟩ item member
  exact ⟨depth, part, by omega, found⟩

theorem Fits.of_dotted (fits : (dotted items tail).Fits room) :
    ∃ inner, room = inner + 4 ∧ (∀ item ∈ items, item.Fits inner) ∧ tail.Fits (inner + 1) := by
  obtain ⟨depth, words, least, described⟩ := fits
  rcases Nat.lt_or_ge depth 4 with short | enough
  · rw [descriptionWithin_dotted_of_lt short] at described
    cases described
  obtain ⟨depth, rfl⟩ := Nat.exists_eq_add_of_le' enough
  obtain ⟨inner, rfl⟩ := Nat.exists_eq_add_of_le' (Nat.le_trans enough least)
  rw [descriptionWithin_dotted] at described
  obtain ⟨parts, each, described⟩ := eq_ok_of_bind described
  obtain ⟨last, ended, -⟩ := eq_ok_of_bind described
  refine ⟨inner, rfl, fun item member => ?_, depth + 1, last, by omega, ended⟩
  obtain ⟨part, found⟩ := exists_mapM_ok_iff.mp ⟨parts, each⟩ item member
  exact ⟨depth, part, by omega, found⟩

/-- A description takes more room than a text. -/
theorem Fits.exists_text (fits : value.Fits room) : ∃ text, value.textWithin room = .ok text := by
  induction room using Nat.strongRecOn generalizing value with
  | ind room ih =>
    -- an element is written with one level more than it is described with
    have elements {items : List Value} {inner : Nat} (less : inner < room)
        (each : ∀ item ∈ items, item.Fits inner) :
        ∃ words, items.mapM (textWithin (inner + 1)) = .ok words := by
      refine exists_mapM_ok_iff.mpr fun item member => ?_
      obtain ⟨word, written⟩ := ih inner less (each item member)
      exact ⟨word, textWithin_mono (Nat.le_succ inner) written⟩
    cases value with
    | atom name => exact ⟨_, textWithin_atom room name⟩
    | number n =>
      obtain ⟨depth, words, -, described⟩ := fits
      rw [descriptionWithin_number] at described
      rw [textWithin_number]
      cases digits : Numeral.text n with
      | ok text => exact ⟨text, rfl⟩
      | error reached =>
        rw [digits] at described
        cases described
    | string contents => exact ⟨_, textWithin_string room contents⟩
    | bool b => exact ⟨_, textWithin_bool room b⟩
    | list items =>
      obtain ⟨inner, rfl, each⟩ := fits.of_list
      obtain ⟨words, written⟩ := elements (by omega) each
      rw [textWithin_list, written]
      exact ⟨_, rfl⟩
    | dotted items tail =>
      obtain ⟨inner, rfl, each, last⟩ := fits.of_dotted
      obtain ⟨words, written⟩ := elements (by omega) each
      obtain ⟨word, ended⟩ := ih (inner + 1) (by omega) last
      rw [textWithin_dotted, written, textWithin_mono (by omega) ended]
      exact ⟨_, rfl⟩

theorem layered_descriptionWithin : Layered descriptionWithin 4 1 where
  atom room name := ⟨_, descriptionWithin_atom room name⟩
  number room _ digits shown := ⟨"Number(value=" ++ digits ++ ")", by
    rw [descriptionWithin_number, shown]
    rfl⟩
  string room contents := ⟨_, descriptionWithin_string room contents⟩
  bool room b := ⟨_, descriptionWithin_bool room b⟩
  list := ⟨fun parts => "List(items=" ++ row parts ++ ")", descriptionWithin_list⟩
  dotted := ⟨fun parts last => "DottedList(items=" ++ row parts ++ ", tail=" ++ last ++ ")",
    descriptionWithin_dotted⟩
  list_of_lt := descriptionWithin_list_of_lt
  dotted_of_lt := descriptionWithin_dotted_of_lt

theorem Fits.of_part {part : Value} (fits : value.Fits room) (inside : part.Part value) :
    part.Fits room := by
  induction inside generalizing room with
  | whole => exact fits
  | element member _ ih =>
    obtain ⟨inner, rfl, each⟩ := fits.of_list
    exact (ih (each _ member)).mono (by omega)
  | front member _ ih =>
    obtain ⟨inner, rfl, each, -⟩ := fits.of_dotted
    exact (ih (each _ member)).mono (by omega)
  | tail _ ih =>
    obtain ⟨inner, rfl, -, last⟩ := fits.of_dotted
    exact (ih last).mono (by omega)

theorem ReaderForm.description_ok_or (form : value.ReaderForm) :
    (∃ words, value.description = .ok words) ∨ value.description = .error .depth :=
  layered_descriptionWithin.ok_or form nestingRoom

def Recorded (room : Nat) (value : Value) : Prop :=
  (∃ n, value = .number n) ∨ value.Fits room

theorem Recorded.mono (larger : room ≤ more) (recorded : value.Recorded room) :
    value.Recorded more :=
  recorded.imp_right fun fits => fits.mono larger

end Value

end Lisplet
