import Lisplet.Proofs.Language
import Lisplet.Proofs.ReaderForms
import Lisplet.Proofs.Verdicts

/-! Texts of values, read back. The text of a value is read as the value exactly if the value could
have been read at all and has no tail without an element before it: such a tail is written with a
blank behind the opening parenthesis, where none may stand. -/

set_option autoImplicit false

namespace Lisplet

open Reading

/-! ## Tails without an element -/

/-- A text that starts as an expression does and then has a blank behind an opening parenthesis. -/
inductive Breaks : List Char → Prop where
  | blank {rest : List Char} : Breaks ('(' :: ' ' :: rest)
  | element {room : Nat} {front text : List Char} {values : List Value} :
      ReadsEach digitLimit room front values → Breaks text → Breaks ('(' :: (front ++ text))
  | tail {room : Nat} {front gap text : List Char} {values : List Value} :
      ReadsEach digitLimit room front values → Token.Kind.space.Admits gap → Breaks text →
      Breaks ('(' :: (front ++ '.' :: (gap ++ text)))

namespace Breaks

theorem append {text : List Char} (breaks : Breaks text) (rest : List Char) :
    Breaks (text ++ rest) := by
  induction breaks with
  | blank => exact .blank
  | element each _ ih => simpa using Breaks.element each ih
  | tail each gap _ ih => simpa using Breaks.tail each gap ih

theorem not_startsIn_isBlank {text : List Char} (breaks : Breaks text) :
    ¬ StartsIn Text.isBlank text := by
  cases breaks <;> simp <;> rfl

theorem exists_stuck {text : List Char} (breaks : Breaks text) (pos : Nat) :
    ∃ front gap more under, Token.allFrom pos text = front ++ gap :: more ∧
      Reaches [.expression] front (.first :: under) ∧ gap.kind = .space := by
  have opened (pos : Nat) : Reaches [.expression] [⟨.opening, ['('], pos⟩] [.first] :=
    .single rfl (by simp) rfl
  induction breaks generalizing pos with
  | @blank rest =>
    have first : Token.lexeme? (' ' :: rest) =
        some (.space, ' ' :: rest.takeWhile Text.isBlank, rest.dropWhile Text.isBlank) := rfl
    rw [Token.allFrom_mark (by decide), Token.allFrom_of_lexeme? _ first]
    exact ⟨[_], _, _, [], rfl, opened pos, rfl⟩
  | @element room front text values each inner ih =>
    obtain ⟨tokens, gap, more, under, row, reached, kind⟩ := ih (pos + 1 + front.length)
    have spelled := each.spells (pos + 1)
    obtain ⟨point, start, between⟩ := spelled.reaches (.inl rfl)
    -- the inner text has consumed something, so it is an element of the outer list
    have nonempty : tokens ≠ [] := by
      rintro rfl
      simpa using reached.ran
    have whole := (opened pos).trans (between.trans (reached.element start nonempty))
    rw [Token.allFrom_mark (by decide),
      Token.allFrom_append_of_spellsEach spelled inner.not_startsIn_isBlank, row]
    exact ⟨_, gap, more, _, by simp [Token.Kind.ofPunctuation], whole, kind⟩
  | @tail room front gap text values each blank inner ih =>
    obtain ⟨tokens, next, more, under, row, reached, kind⟩ :=
      ih (pos + 1 + front.length + 1 + gap.length)
    have spelled := each.spells (pos + 1)
    obtain ⟨point, start, between⟩ := spelled.reaches (.inl rfl)
    have dotted : Reaches [point] [⟨.dot, ['.'], pos + 1 + front.length⟩] [.gap] := .dot start rfl
    have parted : Reaches [.gap] [⟨.space, gap, pos + 1 + front.length + 1⟩] [.expression, .last] :=
      .single rfl (by simp) rfl
    have later := dotted.trans (parted.trans (reached.under [.last]))
    have whole := (opened pos).trans (between.trans later)
    rw [Token.allFrom_mark (by decide),
      Token.allFrom_append_of_spellsEach spelled (by simp; rfl), Token.allFrom_mark (by decide),
      Token.allFrom_of_admits _ text blank inner.not_startsIn_isBlank, row]
    exact ⟨_, next, more, _, by simp [Token.Kind.ofPunctuation], whole, kind⟩

end Breaks

namespace Value

theorem exists_first_bare {items : List Value} (bare : ∃ item ∈ items, HasBareTail item) :
    ∃ front item back, items = front ++ item :: back ∧ HasBareTail item ∧
      ∀ other ∈ front, ¬ HasBareTail other := by
  induction items with
  | nil => simp at bare
  | cons item items ih =>
    by_cases here : item.HasBareTail
    · exact ⟨[], item, items, rfl, here, by simp⟩
    · obtain ⟨front, found, back, rfl, broken, solid⟩ := ih (by simpa [here] using bare)
      exact ⟨item :: front, found, back, rfl, broken, List.forall_mem_cons.mpr ⟨here, solid⟩⟩

theorem readsEach_solid {inner : Nat} {items : List Value}
    (forms : ∀ item ∈ items, item.ReaderForm)
    (each : ∀ item ∈ items, ∃ word, item.textWithin inner = .ok word)
    (solid : ∀ item ∈ items, ¬ item.HasBareTail) : ReadsEach digitLimit (3 * inner)
      ((items.map (shownWithin inner)).flatMap (· ++ [' '])) items := by
  apply readsEach_shown
  apply forall_shownWithin (P := fun item text => Reads digitLimit (3 * inner) text item) each
  intro item member word found
  exact (forms item member).reads (solid item member) found

theorem breaks_of_element {inner : Nat} {items : List Value} (rest : List Char)
    (forms : ∀ item ∈ items, item.ReaderForm)
    (each : ∀ item ∈ items, ∃ word, item.textWithin inner = .ok word)
    (breaks : ∀ item ∈ items, item.HasBareTail → Breaks (item.shownWithin inner))
    (bare : ∃ item ∈ items, item.HasBareTail) :
    Breaks ('(' :: ([' '].intercalate (items.map (shownWithin inner)) ++ rest)) := by
  obtain ⟨front, item, back, rfl, broken, solid⟩ := exists_first_bare bare
  have read := readsEach_solid (fun other member => forms other (by simp [member]))
    (fun other member => each other (by simp [member])) solid
  have stops := (breaks item (by simp) broken).append
    ((back.map (shownWithin inner)).flatMap (' ' :: ·) ++ rest)
  rw [List.map_append, List.map_cons, intercalate_append_cons, List.append_assoc, List.append_assoc]
  exact .element read stops

/-- If a tail has no element before it, then the text breaks there. -/
theorem ReaderForm.breaks {value : Value} (form : value.ReaderForm) {room : Nat} {text : String}
    (bare : value.HasBareTail) (written : value.textWithin room = .ok text) :
    Breaks text.toList := by
  induction form generalizing room text with
  | atom | number | string | falsity => cases bare
  | @list items forms ih =>
    obtain ⟨inner, rfl, each, shown⟩ := toList_of_textWithin_list written
    rw [shown]
    refine breaks_of_element _ forms each ?_ ?_
    · apply forall_shownWithin (P := fun item text => item.HasBareTail → Breaks text) each
      intro item member word found bare
      exact ih item member bare found
    · cases bare with
      | element member bare => exact ⟨_, member, bare⟩
  | @dotted items tail forms _ ih tail_ih =>
    obtain ⟨inner, last, rfl, each, ended, shown⟩ := toList_of_textWithin_dotted written
    rw [shown]
    -- the text breaks in an element, right behind the parenthesis, or in the tail
    by_cases inside : ∃ item ∈ items, item.HasBareTail
    · refine breaks_of_element _ forms each ?_ inside
      apply forall_shownWithin (P := fun item text => item.HasBareTail → Breaks text) each
      intro item member word found bare
      exact ih item member bare found
    · by_cases empty : items = []
      · subst empty
        exact .blank
      · have solid : ∀ item ∈ items, ¬ item.HasBareTail := fun item member bare =>
          inside ⟨item, member, bare⟩
        have broken : tail.HasBareTail := by
          cases bare with
          | bare => contradiction
          | front member bare => exact absurd bare (solid _ member)
          | tail bare => exact bare
        rw [intercalate_append_space (by simpa using empty)]
        exact .tail (readsEach_solid forms each solid) Token.Kind.admits_blank
          ((tail_ih broken ended).append _)

end Value

/-! ## Back from the text -/

section

variable {sourceName text : String} {value : Value}

def ShallowText (sourceName text : String) : Prop :=
  ∀ cause, parse sourceName text = .error (.error (.unreadable cause)) → cause.reason = none

theorem ShallowText.expression_ne (shallow : ShallowText sourceName text) (after : TokenStream) :
    expression nestingRoom (.start sourceName text.toList) ≠ .error (.limit .depth) after := by
  intro ran
  simpa [Source.tooDeepError] using shallow _ (parse_of_tooDeep ran)

theorem parse_of_reads {room : Nat} (reads : Reads digitLimit room text.toList value)
    (shallow : ShallowText sourceName text) : parse sourceName text = .ok value := by
  have row : (TokenStream.start sourceName text.toList).remaining =
      Token.allFrom 0 text.toList ++ [] := by
    simp [Token.all]
  obtain ⟨after, ran | ran⟩ :=
    expression_of_spells nestingRoom (reads.spells 0) (TokenStream.valid_start _ _) row
  · exact Source.parseWithin_eq_ok_iff.mpr ⟨after, ran⟩
  · exact absurd ran (shallow.expression_ne after)

theorem parse_of_breaks (breaks : Breaks text.toList) (shallow : ShallowText sourceName text) :
    ∃ cause, parse sourceName text = .error (.error (.unreadable cause)) := by
  obtain ⟨front, gap, more, under, row, reached, kind⟩ := breaks.exists_stuck 0
  rcases expression_of_stuck nestingRoom reached (by rw [kind]; rfl)
    (TokenStream.valid_start sourceName _) row with ⟨found, after, ran⟩ | ⟨after, ran⟩
  · exact ⟨_, parse_of_mismatch ran⟩
  · exact absurd ran (shallow.expression_ne after)

end

/-- Where no nesting limit is met: the text of a value is read as the value exactly if the value
could have been read and has no tail without an element; if it could have been read and has such a
tail, then its text cannot be read. -/
theorem parse_text_eq_ok_iff (sourceName : String) (value : Value)
    (written : value.text ≠ .error .depth)
    (shallow : ∀ text, value.text = .ok text → ShallowText sourceName text) :
    ((∃ text, value.text = .ok text ∧ parse sourceName text = .ok value) ↔
      value.ReaderForm ∧ ¬ value.HasBareTail) ∧
    (value.ReaderForm → value.HasBareTail → ∃ text cause, value.text = .ok text ∧
      parse sourceName text = .error (.error (.unreadable cause))) := by
  have shown (form : value.ReaderForm) : ∃ text, value.text = .ok text :=
    (form.textWithin_ok_or nestingRoom).resolve_right written
  refine ⟨⟨?_, ?_⟩, ?_⟩
  · rintro ⟨text, found, parsed⟩
    obtain ⟨read, rest, -, reads, -⟩ :=
      exists_expression_ok_iff.mp (Source.parseWithin_eq_ok_iff.mp parsed)
    refine ⟨reads.readerForm, fun bare => ?_⟩
    -- with a bare tail the text would break off, but it was read
    obtain ⟨cause, failed⟩ :=
      parse_of_breaks (reads.readerForm.breaks bare found) (shallow text found)
    rw [parsed] at failed
    contradiction
  · rintro ⟨form, solid⟩
    obtain ⟨text, found⟩ := shown form
    exact ⟨text, found, parse_of_reads (form.reads solid found) (shallow text found)⟩
  · intro form bare
    obtain ⟨text, found⟩ := shown form
    obtain ⟨cause, failed⟩ := parse_of_breaks (form.breaks bare found) (shallow text found)
    exact ⟨text, cause, found, failed⟩

def nestedSample : Value :=
  .list [.atom "if", .dotted [.number 12, .string "a (b"] (.bool false)]

def bareSample : Value :=
  .list [.atom "if", .dotted [] (.bool false)]

theorem parse_text_nestedSample :
    (nestedSample.ReaderForm ∧ ¬ nestedSample.HasBareTail) ∧
    ∃ text cause, bareSample.text = .ok text ∧
      parse "lisp" text = .error (.error (.unreadable cause)) := by
  constructor
  · have shown : nestedSample.text = .ok "(if (12 \"a (b\" . #f))" := by decide +kernel
    have parsed : parse "lisp" "(if (12 \"a (b\" . #f))" = .ok nestedSample := by decide +kernel
    have shallow : ∀ text, nestedSample.text = .ok text → ShallowText "lisp" text := by
      intro text found cause failed
      obtain rfl := Except.ok.inj (shown.symm.trans found)
      exact absurd (parsed.symm.trans failed) nofun
    have both := parse_text_eq_ok_iff "lisp" nestedSample (by simp [shown]) shallow
    exact both.1.mp ⟨_, shown, parsed⟩
  · have shown : bareSample.text = .ok "(if ( . #f))" := by decide +kernel
    have refused : parse "lisp" "(if ( . #f))" = .error (.error (.unreadable
        ⟨5, 1, 6, Text.shownChar ' ', Token.expressionLabels ++ Token.Kind.dot.labels ++
          Token.Kind.closing.labels, "lisp", none⟩)) := by
      decide +kernel
    have shallow : ∀ text, bareSample.text = .ok text → ShallowText "lisp" text := by
      intro text found cause failed
      obtain rfl := Except.ok.inj (shown.symm.trans found)
      cases refused.symm.trans failed
      rfl
    have both := parse_text_eq_ok_iff "lisp" bareSample (by simp [shown]) shallow
    have form : bareSample.ReaderForm := by
      have name : (Value.atom "if").ReaderForm := .atom (by decide +kernel) (by decide)
      have tail : (Value.dotted [] (.bool false)).ReaderForm :=
        .dotted (List.forall_mem_nil _) .falsity
      exact .list (by simp [name, tail])
    exact both.2 form (.element (.tail _ (.head _)) .bare)

end Lisplet
