import Lisplet.Proofs.Grammar
import Lisplet.Proofs.Numerals
import Lisplet.Proofs.Results
import Lisplet.Value.Text

/-! Values that could have been read. Every value that a text reads as has this form, and the text
of a value of this form reads as the value, unless a tail in it has no element before it. -/

set_option autoImplicit false

namespace Lisplet

namespace Value

inductive ReaderForm : Value → Prop where
  | atom {name : String} : Token.all name.toList = [⟨.atom, name.toList, 0⟩] → name ≠ "#f" →
      ReaderForm (.atom name)
  | number {n : Int} : 0 ≤ n → n.natAbs < Nat.pow 10 digitLimit → ReaderForm (.number n)
  | string {contents : String} : '"' ∉ contents.toList → ReaderForm (.string contents)
  | falsity : ReaderForm (.bool false)
  | list {items : List Value} : (∀ item ∈ items, ReaderForm item) → ReaderForm (.list items)
  | dotted {items : List Value} {tail : Value} : (∀ item ∈ items, ReaderForm item) →
      ReaderForm tail → ReaderForm (.dotted items tail)

/-- Somewhere in the value a tail has no element before it. -/
inductive HasBareTail : Value → Prop where
  | bare {tail : Value} : HasBareTail (.dotted [] tail)
  | element {items : List Value} {item : Value} : item ∈ items → HasBareTail item →
      HasBareTail (.list items)
  | front {items : List Value} {tail item : Value} : item ∈ items → HasBareTail item →
      HasBareTail (.dotted items tail)
  | tail {items : List Value} {tail : Value} : HasBareTail tail → HasBareTail (.dotted items tail)

end Value

/-! ## What can be read -/

theorem readerForm_atom {text : List Char} (admitted : Token.Kind.atom.Admits text)
    (other : text ≠ ['#', 'f']) : (Value.atom (String.ofList text)).ReaderForm := by
  refine .atom ?_ ?_
  · rw [String.toList_ofList]
    exact Token.allFrom_single 0 admitted
  · intro same
    exact other (by simpa using congrArg String.toList same)

mutual

theorem Reads.readerForm {room : Nat} {text : List Char} {value : Value} :
    Reads digitLimit room text value → value.ReaderForm
  | .falsity => .falsity
  | .atom admitted other => readerForm_atom admitted other
  | .number admitted short =>
    .number (Int.natCast_nonneg _) (Numeral.value_lt_of_length_le admitted.2 short)
  | .string free => .string (by simpa using free)
  | .quoted inner => by
    have mark : (Value.atom "quote").ReaderForm :=
      readerForm_atom ⟨by simp; rfl, List.all_eq_true.mp rfl⟩ (by decide)
    refine .list fun item member => ?_
    rcases List.mem_pair.mp member with rfl | rfl
    · exact mark
    · exact inner.readerForm
  | .empty => .list (by simp)
  | .list each one => .list (List.forall_mem_append.mpr
      ⟨each.readerForm, List.forall_mem_singleton.mpr one.readerForm⟩)
  | .dotted each _ one => .dotted each.readerForm one.readerForm

theorem ReadsEach.readerForm {room : Nat} {text : List Char} {values : List Value} :
    ReadsEach digitLimit room text values → ∀ value ∈ values, value.ReaderForm
  | .nil => by simp
  | .cons first _ rest => List.forall_mem_cons.mpr ⟨first.readerForm, rest.readerForm⟩

end

/-! ## Texts -/

namespace Value

def shownWithin (room : Nat) (value : Value) : List Char :=
  ((value.textWithin room).toOption.getD "").toList

theorem shownWithin_eq {room : Nat} {value : Value} {text : String}
    (written : value.textWithin room = .ok text) : value.shownWithin room = text.toList := by
  simp [shownWithin, written, Except.toOption]

theorem forall_shownWithin {room : Nat} {items : List Value} {P : Value → List Char → Prop}
    (each : ∀ item ∈ items, ∃ word, item.textWithin room = .ok word)
    (holds : ∀ item ∈ items, ∀ word, item.textWithin room = .ok word → P item word.toList) :
    ∀ item ∈ items, P item (item.shownWithin room) := by
  intro item member
  obtain ⟨word, found⟩ := each item member
  rw [shownWithin_eq found]
  exact holds item member word found

theorem toList_unwords {room : Nat} {items : List Value} {words : List String}
    (written : items.mapM (textWithin room) = .ok words) :
    (∀ item ∈ items, ∃ word, item.textWithin room = .ok word) ∧
      (unwords words).toList = [' '].intercalate (items.map (shownWithin room)) := by
  have same := map_eq_of_mapM_ok written
  constructor
  · intro item member
    have listed := List.mem_map_of_mem (f := textWithin room) member
    rw [same] at listed
    obtain ⟨word, -, shown⟩ := List.mem_map.mp listed
    exact ⟨word, shown.symm⟩
  · have shown : items.map (shownWithin room) = words.map String.toList := by
      have shown := congrArg (List.map fun text => (text.toOption.getD "").toList) same
      rwa [List.map_map, List.map_map] at shown
    rw [unwords, String.toList_intercalate, shown]
    rfl

theorem toList_of_textWithin_list {room : Nat} {items : List Value} {text : String}
    (written : (list items).textWithin room = .ok text) :
    ∃ inner, room = inner + 3 ∧ (∀ item ∈ items, ∃ word, item.textWithin inner = .ok word) ∧
      text.toList = '(' :: ([' '].intercalate (items.map (shownWithin inner)) ++ [')']) := by
  match room with
  | 0 | 1 | 2 => nomatch (show Except.error Limit.depth = .ok text from written)
  | inner + 3 =>
    rw [textWithin_list] at written
    cases words : items.mapM (textWithin inner) with
    | error fault => simp [words, bind, Except.bind] at written
    | ok found =>
      obtain ⟨each, shown⟩ := toList_unwords words
      simp only [words, bind, Except.bind, Except.ok.injEq] at written
      exact ⟨inner, rfl, each, by simp [← written, shown]⟩

theorem toList_of_textWithin_dotted {room : Nat} {items : List Value} {tail : Value}
    {text : String} (written : (dotted items tail).textWithin room = .ok text) :
    ∃ inner last, room = inner + 3 ∧ (∀ item ∈ items, ∃ word, item.textWithin inner = .ok word) ∧
      tail.textWithin (inner + 2) = .ok last ∧
        text.toList = '(' :: ([' '].intercalate (items.map (shownWithin inner)) ++
          ' ' :: '.' :: ([' '] ++ (last.toList ++ [')']))) := by
  match room with
  | 0 | 1 | 2 => nomatch (show Except.error Limit.depth = .ok text from written)
  | inner + 3 =>
    rw [textWithin_dotted] at written
    cases words : items.mapM (textWithin inner) with
    | error fault => simp [words, bind, Except.bind] at written
    | ok found =>
      obtain ⟨each, shown⟩ := toList_unwords words
      cases last : tail.textWithin (inner + 2) with
      | error fault => simp [words, last, bind, Except.bind] at written
      | ok final =>
        simp only [words, last, bind, Except.bind, Except.ok.injEq] at written
        exact ⟨inner, final, rfl, each, last, by simp [← written, shown]⟩

theorem intercalate_append_cons (front back : List (List Char)) (word : List Char) :
    [' '].intercalate (front ++ word :: back) =
      front.flatMap (· ++ [' ']) ++ (word ++ back.flatMap (' ' :: ·)) := by
  induction front with
  | nil =>
    induction back generalizing word with
    | nil => simp
    | cons next back ih =>
      have later := ih next
      simp only [List.nil_append, List.flatMap_nil] at later ⊢
      rw [List.intercalate_cons_cons, later]
      simp
  | cons first front ih =>
    have nonempty : front ++ word :: back ≠ [] := by simp
    rw [List.cons_append, List.intercalate_cons_of_ne_nil nonempty, ih]
    simp

theorem intercalate_append_space {words : List (List Char)} (nonempty : words ≠ [])
    (rest : List Char) :
    [' '].intercalate words ++ ' ' :: rest = words.flatMap (· ++ [' ']) ++ rest := by
  obtain ⟨front, word, rfl⟩ := (List.eq_nil_or_concat' words).resolve_left nonempty
  simp [intercalate_append_cons]

theorem readsEach_shown {inner room : Nat} {items : List Value}
    (each : ∀ item ∈ items, Reads digitLimit room (item.shownWithin inner) item) :
    ReadsEach digitLimit room ((items.map (shownWithin inner)).flatMap (· ++ [' '])) items := by
  induction items with
  | nil => exact .nil
  | cons item items ih =>
    exact .cons (each item (by simp)) Token.Kind.admits_blank
      (ih fun other member => each other (by simp [member]))

/-- The text of a value that could have been read reads as the value, unless there is a tail with no
element before it. -/
theorem ReaderForm.reads {value : Value} (form : value.ReaderForm) {room : Nat} {text : String}
    (solid : ¬ value.HasBareTail) (written : value.textWithin room = .ok text) :
    Reads digitLimit (3 * room) text.toList value := by
  -- writing counts a level for every list, and reading three at most
  induction form generalizing room text with
  | @atom name lexed other =>
    rw [textWithin_atom] at written
    cases written
    have admitted : Token.Kind.atom.Admits name.toList :=
      Token.admits_of_mem (show ⟨.atom, name.toList, 0⟩ ∈ Token.all name.toList by simp [lexed])
    have different : name.toList ≠ ['#', 'f'] := by
      intro same
      exact other (by rw [← String.ofList_toList (s := name), same])
    have reads : Reads digitLimit (3 * room) _ _ := .atom admitted different
    simpa using reads
  | @number n nonneg bounded =>
    rw [textWithin_number, Numeral.text_of_lt bounded] at written
    cases written
    obtain ⟨n, rfl⟩ := Int.eq_ofNat_of_zero_le nonneg
    have shown : (Int.repr n).toList = Nat.toDigits 10 n := Nat.toList_repr
    have short : (Nat.toDigits 10 n).length ≤ digitLimit :=
      Numeral.length_toDigits_le (by decide) bounded
    have digits : Token.Kind.number.Admits (Nat.toDigits 10 n) :=
      ⟨Nat.toDigits_ne_nil, fun c => Nat.isDigit_of_mem_toDigits (by decide) (by decide)⟩
    have reads : Reads digitLimit (3 * room) _ _ := .number digits short
    rw [Numeral.value_toDigits] at reads
    rwa [shown]
  | @string contents free =>
    rw [textWithin_string] at written
    cases written
    have reads : Reads digitLimit (3 * room) _ _ := .string free
    simpa using reads
  | falsity =>
    rw [textWithin_bool] at written
    cases written
    exact .falsity
  | @list items _ ih =>
    obtain ⟨inner, rfl, each, shown⟩ := toList_of_textWithin_list written
    have inside : ∀ item ∈ items, Reads digitLimit (3 * inner) (item.shownWithin inner) item :=
      forall_shownWithin (P := fun item text => Reads digitLimit (3 * inner) text item) each
        fun item member _ found => ih item member (fun bare => solid (.element member bare)) found
    rw [shown]
    rcases items.eq_nil_or_concat' with rfl | ⟨front, last, rfl⟩
    · exact (show Reads digitLimit (0 + 2) ['(', ')'] (.list []) from .empty).mono (by omega)
    · have each : ∀ item ∈ front, Reads digitLimit (3 * inner) (item.shownWithin inner) item :=
        fun item member => inside item (by simp [member])
      have front := readsEach_shown each
      have whole := (Reads.list front (inside last (by simp))).mono
        (show 3 * inner + 2 ≤ 3 * (inner + 3) by omega)
      simpa [intercalate_append_cons] using whole
  | @dotted items tail _ _ ih tail_ih =>
    obtain ⟨inner, last, rfl, each, ended, shown⟩ := toList_of_textWithin_dotted written
    have inside : ∀ item ∈ items, Reads digitLimit (3 * inner) (item.shownWithin inner) item :=
      forall_shownWithin (P := fun item text => Reads digitLimit (3 * inner) text item) each
        fun item member _ found => ih item member (fun bare => solid (.front member bare)) found
    -- with an element in front, the blank before the dot is the one behind an element
    have nonempty : items ≠ [] := by
      rintro rfl
      exact solid .bare
    have final := tail_ih (fun bare => solid (.tail bare)) ended
    have front := (readsEach_shown inside).mono (show 3 * inner ≤ 3 * (inner + 2) + 1 by omega)
    have whole := Reads.dotted front Token.Kind.admits_blank final
    rw [shown, intercalate_append_space (by simpa using nonempty)]
    simpa [Nat.mul_add, Nat.add_assoc] using whole

/-- A way to write values out, by the levels that a list takes of the room for nesting and those of
them that are left for its tail. -/
structure Layered (shown : Nat → Value → Except Limit String) (cost spare : Nat) : Prop where
  atom (room : Nat) (name : String) : ∃ words, shown room (.atom name) = .ok words
  number (room : Nat) {n : Int} {digits : String} : Numeral.text n = .ok digits →
    ∃ words, shown room (.number n) = .ok words
  string (room : Nat) (contents : String) : ∃ words, shown room (.string contents) = .ok words
  bool (room : Nat) (b : Bool) : ∃ words, shown room (.bool b) = .ok words
  list : ∃ join : List String → String, ∀ room items, shown (room + cost) (.list items) = (do
    let parts ← items.mapM (shown room)
    .ok (join parts))
  dotted : ∃ join : List String → String → String, ∀ room items tail,
    shown (room + cost) (.dotted items tail) = (do
      let parts ← items.mapM (shown room)
      let last ← shown (room + spare) tail
      .ok (join parts last))
  list_of_lt {room : Nat} : room < cost → ∀ items, shown room (.list items) = .error .depth
  dotted_of_lt {room : Nat} : room < cost → ∀ items tail,
    shown room (.dotted items tail) = .error .depth

section

variable {shown : Nat → Value → Except Limit String} {cost spare : Nat}

theorem Layered.ends (layered : Layered shown cost spare) {value : Value}
    (form : value.ReaderForm) (room : Nat) :
    Ends (fun _ => True) (· = .depth) (shown room value) := by
  have single {result : Except Limit String} (found : ∃ words, result = .ok words) :
      Ends (fun _ => True) (· = .depth) result := by
    obtain ⟨words, rfl⟩ := found
    exact .ok trivial
  induction form generalizing room with
  | atom => exact single (layered.atom room _)
  | number nonneg bounded => exact single (layered.number room (Numeral.text_of_lt bounded))
  | string => exact single (layered.string room _)
  | falsity => exact single (layered.bool room false)
  | list _ ih =>
    -- there is room for the levels of the list, or the list is too deep by itself
    rcases Nat.lt_or_ge room cost with short | enough
    · rw [layered.list_of_lt short]
      exact .error rfl
    · obtain ⟨inner, rfl⟩ := Nat.exists_eq_add_of_le' enough
      obtain ⟨join, whole⟩ := layered.list
      rw [whole]
      apply (Ends.mapM fun item member => ih item member inner).bind
      exact fun parts _ => .ok trivial
  | dotted _ _ ih tail_ih =>
    rcases Nat.lt_or_ge room cost with short | enough
    · rw [layered.dotted_of_lt short]
      exact .error rfl
    · obtain ⟨inner, rfl⟩ := Nat.exists_eq_add_of_le' enough
      obtain ⟨join, whole⟩ := layered.dotted
      rw [whole]
      apply (Ends.mapM fun item member => ih item member inner).bind
      intro parts _
      apply (tail_ih (inner + spare)).bind
      exact fun last _ => .ok trivial

theorem Layered.ok_or (layered : Layered shown cost spare) {value : Value}
    (form : value.ReaderForm) (room : Nat) :
    (∃ words, shown room value = .ok words) ∨ shown room value = .error .depth := by
  cases written : shown room value with
  | ok words => exact .inl ⟨words, rfl⟩
  | error reached => exact .inr (by rw [(layered.ends form room).of_error written])

end

theorem layered_textWithin : Layered textWithin 3 2 where
  atom room name := ⟨_, textWithin_atom room name⟩
  number room _ digits shown := ⟨digits, (textWithin_number room _).trans shown⟩
  string room contents := ⟨_, textWithin_string room contents⟩
  bool room b := ⟨_, textWithin_bool room b⟩
  list := ⟨fun words => "(" ++ unwords words ++ ")", textWithin_list⟩
  dotted := ⟨fun words last => "(" ++ unwords words ++ " . " ++ last ++ ")", textWithin_dotted⟩
  list_of_lt := textWithin_list_of_lt
  dotted_of_lt := textWithin_dotted_of_lt

theorem ReaderForm.textWithin_ok_or {value : Value} (form : value.ReaderForm) (room : Nat) :
    (∃ text, value.textWithin room = .ok text) ∨ value.textWithin room = .error .depth :=
  layered_textWithin.ok_or form room

end Value

end Lisplet
