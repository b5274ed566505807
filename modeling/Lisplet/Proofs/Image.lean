import Lisplet.Proofs.Language
import Lisplet.Proofs.ReaderForms
import Lisplet.Proofs.Strictness
import Lisplet.Proofs.Verdicts

/-! The values that sources are read as. They are those of a form that can be checked, nested no
deeper than the reader has room for. The string that a lenient reader makes of a text that cannot be
read is none of them, so that it is never taken for a value that was read. -/

set_option autoImplicit false

namespace Lisplet

open Reading

namespace Value

def isName : List Char → Bool
  | [] => false
  | first :: rest => isAtomStart first && rest.all isAtomChar

def isMarked : List Value → Bool
  | [.atom name, _] => name == "quote"
  | _ => false

mutual

/-- Whether some text reads as the value, were there room enough. -/
def legible : Value → Bool
  | .atom name => isName name.toList && name != "#f"
  | .number n => decide (0 ≤ n) && decide (n.natAbs < Nat.pow 10 digitLimit)
  | .string contents => !contents.toList.contains '"'
  | .bool b => !b
  | .list items => legibleAll items
  | .dotted items tail => legibleAll items && legible tail

def legibleAll : List Value → Bool
  | [] => true
  | item :: items => legible item && legibleAll items

end

mutual

/-- The least room that a text of the value is read with. -/
def nesting : Value → Nat
  | .atom _ | .number _ | .string _ | .bool _ => 0
  | .list items => nestingOfAll items + if isMarked items then 1 else 2
  | .dotted items tail => max (nestingOfAll items + 2) (nesting tail + 3)

def nestingOfAll : List Value → Nat
  | [] => 0
  | item :: items => max (nesting item) (nestingOfAll items)

end

theorem isName_iff {name : List Char} :
    isName name = true ↔ Token.Kind.atom.Admits name := by
  cases name with
  | nil => simp [isName, Token.Kind.Admits]
  | cons first rest =>
    simp only [isName, Token.Kind.Admits, startsIn_cons, List.forall_mem_cons, Bool.and_eq_true,
      List.all_eq_true]
    constructor
    · rintro ⟨start, others⟩
      exact ⟨start, by simp [isAtomChar, start], others⟩
    · rintro ⟨start, -, others⟩
      exact ⟨start, others⟩

mutual

theorem legible_iff : ∀ {value : Value}, value.legible = true ↔ value.ReaderForm
  | .atom name => by
    simp only [legible, Bool.and_eq_true, isName_iff, bne_iff_ne]
    constructor
    · rintro ⟨admitted, other⟩
      exact .atom (Token.allFrom_single 0 admitted) other
    · intro form
      cases form with
      | atom lexed other =>
        have member : ⟨.atom, name.toList, 0⟩ ∈ Token.all name.toList := by simp [lexed]
        exact ⟨Token.admits_of_mem member, other⟩
  | .number n => by
    simp only [legible, Bool.and_eq_true, decide_eq_true_eq]
    constructor
    · rintro ⟨nonneg, bounded⟩
      exact .number nonneg bounded
    · intro form
      cases form with
      | number nonneg bounded => exact ⟨nonneg, bounded⟩
  | .string contents => by
    simp only [legible, Bool.not_eq_true', List.contains_eq_mem, decide_eq_false_iff_not]
    constructor
    · exact .string
    · intro form
      cases form with
      | string free => exact free
  | .bool b => by
    cases b with
    | false => exact ⟨fun _ => .falsity, fun _ => rfl⟩
    -- the text that names truth is no atom, so that nothing reads as it
    | true =>
      constructor
      · intro legible
        cases legible
      · intro form
        cases form
  | .list items => by
    rw [legible, legibleAll_iff]
    constructor
    · exact .list
    · intro form
      cases form with
      | list each => exact each
  | .dotted items tail => by
    rw [legible, Bool.and_eq_true, legibleAll_iff, legible_iff]
    constructor
    · rintro ⟨each, last⟩
      exact .dotted each last
    · intro form
      cases form with
      | dotted each last => exact ⟨each, last⟩

theorem legibleAll_iff : ∀ {items : List Value},
    legibleAll items = true ↔ ∀ item ∈ items, item.ReaderForm
  | [] => by simp [legibleAll]
  | item :: items => by
    rw [legibleAll, Bool.and_eq_true, legible_iff, legibleAll_iff, List.forall_mem_cons]

end

theorem nestingOfAll_le_iff {items : List Value} {room : Nat} :
    nestingOfAll items ≤ room ↔ ∀ item ∈ items, item.nesting ≤ room := by
  induction items with
  | nil => simp [nestingOfAll]
  | cons item items ih => rw [nestingOfAll, Nat.max_le, ih, List.forall_mem_cons]

theorem nesting_list_le (items : List Value) :
    (list items).nesting ≤ nestingOfAll items + 2 := by
  rw [nesting]
  split <;> omega

theorem eq_quoted_of_isMarked {items : List Value} (marked : isMarked items = true) :
    ∃ value, items = [.atom "quote", value] := by
  unfold isMarked at marked
  split at marked
  · rw [beq_iff_eq] at marked
    exact ⟨_, by rw [marked]⟩
  · contradiction

end Value

mutual

theorem Reads.nesting_le {digits room : Nat} {text : List Char} {value : Value} :
    Reads digits room text value → value.nesting ≤ room
  | .falsity | .atom _ _ | .number _ _ | .string _ => Nat.zero_le _
  | .quoted inner => by
    have least := inner.nesting_le
    simp only [Value.nesting, Value.nestingOfAll, Value.isMarked, BEq.rfl, ↓reduceIte]
    omega
  | .empty => by simp [Value.nesting, Value.nestingOfAll, Value.isMarked]
  | .list each one => by
    refine (Value.nesting_list_le _).trans (Nat.add_le_add_right ?_ 2)
    rw [Value.nestingOfAll_le_iff]
    exact List.forall_mem_append.mpr
      ⟨each.nesting_le, List.forall_mem_singleton.mpr one.nesting_le⟩
  | .dotted each _ one => by
    have elements := Value.nestingOfAll_le_iff.mpr each.nesting_le
    have last := one.nesting_le
    rw [Value.nesting]
    omega

theorem ReadsEach.nesting_le {digits room : Nat} {text : List Char} {values : List Value} :
    ReadsEach digits room text values → ∀ value ∈ values, value.nesting ≤ room
  | .nil => by simp
  | .cons first _ rest => List.forall_mem_cons.mpr ⟨first.nesting_le, rest.nesting_le⟩

end

theorem exists_readsEach {room : Nat} {items : List Value}
    (each : ∀ item ∈ items, ∃ text, Reads digitLimit room text item) :
    ∃ text, ReadsEach digitLimit room text items := by
  induction items with
  | nil => exact ⟨[], .nil⟩
  | cons item items ih =>
    obtain ⟨⟨text, first⟩, others⟩ := List.forall_mem_cons.mp each
    obtain ⟨rest, others⟩ := ih others
    exact ⟨text ++ [' '] ++ rest, .cons first Token.Kind.admits_blank others⟩

namespace Value

/-- Every value of the right form has a text, also one with a tail and no element before it. -/
theorem ReaderForm.exists_reads {value : Value} (form : value.ReaderForm) :
    ∃ text, Reads digitLimit value.nesting text value := by
  -- what has no parts is read from the text that it is written as
  induction form with
  | @atom name lexed other =>
    refine ⟨_, (ReaderForm.atom lexed other).reads ?_ (textWithin_atom 0 name)⟩
    intro bare
    cases bare
  | @number n nonneg bounded =>
    have written : (Value.number n).textWithin 0 = .ok n.repr := by
      rw [textWithin_number, Numeral.text_of_lt bounded]
    refine ⟨_, (ReaderForm.number nonneg bounded).reads ?_ written⟩
    intro bare
    cases bare
  | @string contents free =>
    refine ⟨_, (ReaderForm.string free).reads ?_ (textWithin_string 0 contents)⟩
    intro bare
    cases bare
  | falsity => exact ⟨_, .falsity⟩
  | @list items _ ih =>
    have each : ∀ item ∈ items, ∃ text, Reads digitLimit (nestingOfAll items) text item := by
      intro item member
      obtain ⟨text, reads⟩ := ih item member
      exact ⟨text, reads.mono (nestingOfAll_le_iff.mp (Nat.le_refl _) item member)⟩
    rw [nesting]
    by_cases marked : isMarked items = true
    · obtain ⟨value, rfl⟩ := eq_quoted_of_isMarked marked
      obtain ⟨text, reads⟩ := each value (by simp)
      rw [if_pos marked]
      exact ⟨_, .quoted reads⟩
    · rw [if_neg marked]
      rcases items.eq_nil_or_concat' with rfl | ⟨front, last, rfl⟩
      · exact ⟨_, .empty⟩
      · obtain ⟨before, elements⟩ := exists_readsEach fun item member =>
          each item (List.mem_append_left _ member)
        obtain ⟨text, reads⟩ := each last (by simp)
        exact ⟨_, .list elements reads⟩
  | @dotted items tail _ _ ih tail_ih =>
    -- the tail may take more room than the elements leave, or less
    obtain ⟨room, enough⟩ : ∃ room, (Value.dotted items tail).nesting = room + 3 :=
      Nat.exists_eq_add_of_le' (by rw [nesting]; omega)
    rw [enough]
    rw [nesting] at enough
    obtain ⟨before, elements⟩ : ∃ text, ReadsEach digitLimit (room + 1) text items := by
      apply exists_readsEach
      intro item member
      obtain ⟨text, reads⟩ := ih item member
      have most := nestingOfAll_le_iff.mp (Nat.le_refl _) item member
      exact ⟨text, reads.mono (by omega)⟩
    obtain ⟨last, reads⟩ := tail_ih
    exact ⟨_, .dotted elements Token.Kind.admits_blank (reads.mono (by omega))⟩

end Value

theorem exists_parse_ok_iff {sourceName : String} {value : Value} :
    (∃ source, parse sourceName source = .ok value) ↔
      value.ReaderForm ∧ value.nesting ≤ nestingRoom := by
  constructor
  · rintro ⟨source, parsed⟩
    obtain ⟨text, rest, -, reads, -⟩ :=
      exists_expression_ok_iff.mp (Source.parseWithin_eq_ok_iff.mp parsed)
    exact ⟨reads.readerForm, reads.nesting_le⟩
  · rintro ⟨form, shallow⟩
    obtain ⟨text, reads⟩ := form.exists_reads
    refine ⟨String.ofList text, parse_of_whole ?_⟩
    rw [String.toList_ofList]
    exact reads.mono shallow

/-! ## Texts that cannot be read -/

section

variable {sourceName source : String} {cause : SyntaxError}

theorem SyntaxError.quote_mem_describe (cause : SyntaxError) : '"' ∈ cause.describe.toList := by
  rw [describe]
  split <;> simp

theorem not_readerForm_of_quote {text : String} (member : '"' ∈ text.toList) :
    ¬ (Value.string text).ReaderForm := by
  intro form
  cases form with
  | string free => exact free member

theorem exists_unreadable (failed : parse sourceName source = .error (.error (.unreadable cause)))
    (name : String) : ∃ other, parse name source = .error (.error (.unreadable other)) := by
  cases ran : expression nestingRoom (.start name source.toList) with
  | ok value after =>
    have reads := exists_expression_ok_iff.mp ⟨after, ran⟩
    have parsed : parse sourceName source = .ok value :=
      Source.parseWithin_eq_ok_iff.mpr (exists_expression_ok_iff.mpr reads)
    rw [parsed] at failed
    contradiction
  | error fault after =>
    have outcome := expression_correct nestingRoom _ (TokenStream.valid_start name source.toList)
    rw [ran] at outcome
    cases outcome with
    | stuck => exact ⟨_, parse_of_mismatch ran⟩
    | tooDeep => exact ⟨_, parse_of_tooDeep ran⟩
    | tooLong row reached follows kind long =>
      -- the same numeral would be met under the other name
      obtain ⟨final, again⟩ := expression_of_tooLong reached follows kind long
        (TokenStream.valid_start sourceName source.toList) row
      rw [parse, Source.parseWithin_of_tooLong again] at failed
      cases failed

theorem evaluate_string (mode : Mode) (contents : String) :
    evaluate mode (.string contents) = .ok (.string contents) := by
  simp [evaluate, Evaluation.settle, Evaluation.valueWithin_eq, Evaluation.Form.of]

theorem Interpreter.run_of_unreadable {interpreter : Interpreter}
    (lenient : interpreter.evaluationMode = .lenient)
    (failed : parse Interpreter.sourceName source = .error (.error (.unreadable cause))) :
    interpreter.run source = .ok ("\"" ++ ("No match: " ++ cause.describe) ++ "\"") := by
  have found : interpreter.read source = .ok (.string ("No match: " ++ cause.describe)) := by
    rw [read_lenient lenient]
    exact read_of_unreadable failed
  rw [run_eq, found]
  simp only [bind, Except.bind, evaluate_string]
  exact shown_of_text (Value.textWithin_string nestingRoom _)

end

/-- The values that are read are those of the right form that are not nested too deeply. What the
lenient reader gives for a text that cannot be read is not of the form, so no text reads as it, and
the lenient interpreter prints it. -/
theorem parse_image :
    (∀ (sourceName : String) (value : Value),
      (∃ source, parse sourceName source = .ok value) ↔
        value.legible = true ∧ value.nesting ≤ nestingRoom) ∧
    (∀ (sourceName source : String) (cause : SyntaxError),
      parse sourceName source = .error (.error (.unreadable cause)) →
      ∃ text, read sourceName source = .ok (.string text) ∧ (Value.string text).legible = false ∧
        ∀ name other, parse name other ≠ .ok (.string text)) ∧
    ∀ (interpreter : Interpreter) (sourceName source : String) (cause : SyntaxError),
      interpreter.evaluationMode = .lenient →
      parse sourceName source = .error (.error (.unreadable cause)) →
      ∃ text, read Interpreter.sourceName source = .ok (.string text) ∧
        interpreter.run source = .ok ("\"" ++ text ++ "\"") := by
  refine ⟨?_, ?_, ?_⟩
  · intro sourceName value
    rw [exists_parse_ok_iff, Value.legible_iff]
  · intro sourceName source cause failed
    -- the message shows something in double quotes, and no string that is read holds one
    have other : ¬ (Value.string ("No match: " ++ cause.describe)).ReaderForm :=
      not_readerForm_of_quote (by simp [cause.quote_mem_describe])
    refine ⟨_, read_of_unreadable failed, ?_, ?_⟩
    · rwa [← Bool.not_eq_true, Value.legible_iff]
    · intro name source parsed
      exact other (exists_parse_ok_iff.mp ⟨source, parsed⟩).1
  · intro interpreter sourceName source cause lenient failed
    obtain ⟨cause, failed⟩ := exists_unreadable failed Interpreter.sourceName
    exact ⟨_, read_of_unreadable failed, Interpreter.run_of_unreadable lenient failed⟩

theorem parse_image_sample :
    (∃ source, parse "lisp" source = .ok (.dotted [] (.list [.atom "quote", .bool false]))) ∧
    (∃ text, read "file" "(a" = .ok (.string text) ∧ (Value.string text).legible = false ∧
      ∀ name other, parse name other ≠ .ok (.string text)) ∧
    Interpreter.evaluationMode ⟨"lenient"⟩ = .lenient ∧
    ∃ text, read Interpreter.sourceName "(a" = .ok (.string text) ∧
      Interpreter.run ⟨"lenient"⟩ "(a" = .ok ("\"" ++ text ++ "\"") := by
  have failed : parse "file" "(a" = .error (.error (.unreadable
      ⟨2, 1, 3, "end of input", ["space", "\")\""], "file", none⟩)) := by
    decide +kernel
  refine ⟨(parse_image.1 _ _).mpr ⟨by decide +kernel, by decide +kernel⟩,
    parse_image.2.1 _ _ _ failed, rfl, parse_image.2.2 ⟨"lenient"⟩ _ _ _ rfl failed⟩

end Lisplet
