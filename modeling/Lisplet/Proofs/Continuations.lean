import Lisplet.Proofs.FirstMismatch
import Lisplet.Proofs.Verdicts

/-! What could have come next. Where a source does not fit, the text up to there begins an
expression and one character more does not, and the message names exactly the tokens that could have
come. -/

set_option autoImplicit false

namespace Lisplet

open Reading

def Readable (sourceName : String) (text : List Char) : Prop :=
  ∃ room value, (Source.parseWithin room sourceName (String.ofList text)).result = .ok value

/-- With room enough for nesting, some text behind this one makes it parse, and a token of the kind
that starts there is one of those that the expression consumes. -/
def Continues (sourceName : String) (before : List Char) (kind : Token.Kind) : Prop :=
  ∃ room text value after,
    expression room (.start sourceName (before ++ text)) = .ok value after ∧
      ∃ token ∈ after.buffer.toList.take after.index,
        token.kind = kind ∧ token.pos = before.length

/-! ## Rows that leave nothing to come -/

theorem exists_expression_taking_iff {sourceName : String} {text : List Char}
    {tokens : List Token} :
    (∃ room value after, expression room (.start sourceName text) = .ok value after ∧
      after.buffer.toList.take after.index = tokens) ↔
    Reaches [.expression] tokens [] ∧ tokens <+: Token.all text := by
  have valid := TokenStream.valid_start sourceName text
  have taking {room : Nat} {value : Value} {others : List Token} {after : TokenStream}
      (ran : expression room (.start sourceName text) = .ok value after)
      (taken : (TokenStream.start sourceName text).Takes others after) :
      after.buffer.toList.take after.index = others := by
    have onward := Keeps.expression room _ (TokenStream.sound_start sourceName text)
    rw [ran] at onward
    have whole := after.taken_append_remaining
    rw [onward.whole, TokenStream.row_start] at whole
    rw [taken.fresh.toValid.taken_eq, taken.source]
    exact List.append_cancel_right (whole.trans taken.remaining)
  constructor
  · rintro ⟨room, value, after, ran, rfl⟩
    have outcome := expression_correct room _ valid
    rw [ran] at outcome
    cases outcome with
    | done taken spelled =>
      rw [taking ran taken]
      exact ⟨spelled.reaches, _, taken.remaining.symm⟩
  · rintro ⟨complete, more, row⟩
    -- room for every token is enough
    rcases expression_of_reaches (2 * (Token.all text).length) complete valid row.symm with
      ⟨value, after, ran, -, taken⟩ | ⟨tooDeep, -⟩
    · exact ⟨_, value, after, ran, taking ran taken⟩
    · exact absurd tooDeep (Nat.lt_irrefl _)

theorem readable_iff {sourceName : String} {text : List Char} :
    Readable sourceName text ↔
      ∃ tokens, Reaches [.expression] tokens [] ∧ tokens <+: Token.all text := by
  simp only [Readable, Source.parseWithin_eq_ok_iff, String.toList_ofList]
  constructor
  · rintro ⟨room, value, after, ran⟩
    exact ⟨_, exists_expression_taking_iff.mp ⟨room, value, after, ran, rfl⟩⟩
  · rintro ⟨tokens, complete⟩
    obtain ⟨room, value, after, ran, -⟩ := exists_expression_taking_iff.mpr complete
    exact ⟨room, value, after, ran⟩

theorem Reaches.readable {text : List Char} (complete : Reaches [.expression] (Token.all text) [])
    (sourceName : String) : Readable sourceName text :=
  readable_iff.mpr ⟨_, complete, List.prefix_rfl⟩

theorem continues_iff {sourceName : String} {before : List Char} {kind : Token.Kind} :
    Continues sourceName before kind ↔
      ∃ text token more, Token.all before ++ token :: more <+: Token.all (before ++ text) ∧
        Reaches [.expression] (Token.all before ++ token :: more) [] ∧ token.kind = kind := by
  constructor
  · rintro ⟨room, text, value, after, ran, token, member, found, place⟩
    obtain ⟨complete, others, row⟩ :=
      exists_expression_taking_iff.mp ⟨room, value, after, ran, rfl⟩
    obtain ⟨front, more, split⟩ := List.append_of_mem member
    -- the tokens up to the offset are those of the text up to there
    rw [split] at complete row
    have whole : Token.allFrom 0 (before ++ text) = front ++ (token :: more ++ others) := by
      rw [← List.append_assoc, row, Token.all]
    have length := (Token.lexeme?_of_split whole).2
    have cut : Token.textOf front = before := by
      have joined := Token.textOf_allFrom 0 (before ++ text)
      rw [whole, Token.textOf_append] at joined
      exact (List.append_inj joined (by omega)).1
    have same : Token.all before = front := by
      rw [← cut]
      exact Token.allFrom_textOf whole
    rw [← same] at complete row
    exact ⟨text, token, more, ⟨others, row⟩, complete, found⟩
  · rintro ⟨text, token, more, within, complete, found⟩
    obtain ⟨room, value, after, ran, taken⟩ :=
      exists_expression_taking_iff.mpr ⟨complete, within⟩
    refine ⟨room, text, value, after, ran, token, by simp [taken], found, ?_⟩
    obtain ⟨others, row⟩ := within
    rw [List.append_assoc] at row
    simpa [Token.all] using (Token.lexeme?_of_split row.symm).2

/-! ## Tokens that may come next -/

theorem Token.Kind.exists_admits {kind : Token.Kind}
    (known : kind ∉ [.unknown, .unterminated, .eof]) :
    ∃ text, kind.Admits text ∧ text.length ≤ digitLimit := by
  cases kind with
  | space => exact ⟨[' '], ⟨by simp, by simp; rfl⟩, by decide⟩
  | atom => exact ⟨['a'], ⟨by simp; rfl, by simp; rfl⟩, by decide⟩
  | string => exact ⟨['"', '"'], ⟨[], by simp, rfl⟩, by decide⟩
  | number => exact ⟨['0'], ⟨by simp, by simp⟩, by decide⟩
  | quote | opening | closing | dot => exact ⟨_, rfl, by decide⟩
  | unknown | unterminated | eof => simp at known

section

variable {sourceName : String} {before : List Char} {point : Point} {under : List Point}

theorem Reaches.exists_readable
    (reached : Reaches [.expression] (Token.all before) (point :: under)) :
    ∃ text, Readable sourceName (before ++ text) := by
  by_cases string : point = .string
  · subst string
    obtain ⟨text, complete⟩ := reached.exists_closing
    exact ⟨_, complete.readable sourceName⟩
  · obtain ⟨text, -, complete⟩ :=
      reached.exists_completion (by simp [Ne.symm string, reached.string_notMem])
    exact ⟨text, complete.readable sourceName⟩

theorem Reaches.continues_iff_follow {kind : Token.Kind}
    (reached : Reaches [.expression] (Token.all before) (point :: under))
    (known : kind ∉ [.unknown, .unterminated, .eof]) :
    Continues sourceName before kind ↔ (point.follow kind).isSome = true := by
  rw [continues_iff]
  constructor
  · rintro ⟨text, token, more, -, complete, rfl⟩
    obtain ⟨next, left, same, follows⟩ := complete.exists_follow reached (List.append_nil _)
    obtain ⟨rfl, -⟩ := List.cons.inj (List.append_cancel_left same)
    exact follows
  · intro follows
    obtain ⟨followed, found⟩ := Option.isSome_iff_exists.mp follows
    obtain ⟨text, admitted, short⟩ := Token.Kind.exists_admits known
    obtain ⟨row, longer⟩ := reached.append_text found admitted fun _ => short
    have closed : .string ∉ followed ++ under := by
      have terminated : kind ≠ .unterminated := by
        rintro rfl
        simp at known
      simp [Point.string_notMem_follow found terminated, reached.string_notMem]
    obtain ⟨rest, ⟨more, kept⟩, complete⟩ := longer.exists_completion closed
    rw [row, List.append_assoc, List.singleton_append, List.append_assoc] at kept
    rw [List.append_assoc, ← kept] at complete
    exact ⟨text ++ rest, _, more, ⟨[], by simp [kept]⟩, complete, rfl⟩

end

/-! ## Where a source does not fit -/

/-- The text up to a token that cannot follow it, with the tokens from there on. -/
structure StuckAt (source before : List Char) (more : List Token) (point : Point)
    (under : List Point) : Prop where
  reached : Reaches [.expression] (Token.all before) (point :: under)
  row : Token.all source = Token.all before ++ more
  stops : ∀ next ∈ more.head?, point.follow next.kind = none

theorem exists_stuckAt {sourceName source : String} {cause : SyntaxError}
    (failed : parse sourceName source = .error (.error (.unreadable cause)))
    (mismatch : cause.reason = none) :
    ∃ before more point under, StuckAt source.toList before more point under ∧
      cause.pos = before.length ∧ cause.expected = point.labels := by
  obtain ⟨before, more, level, under, stopped, rfl⟩ := exists_stopsAt failed mismatch
  exact ⟨before, more, level.point, under.map Level.point,
    ⟨stopped.reached.reaches, stopped.row, stopped.stops⟩, rfl, rfl⟩

/-- A string that nothing closes starts before the offset. -/
def OpenAt (source : List Char) (pos : Nat) : Prop :=
  ∃ token ∈ Token.all source, token.kind = .unterminated ∧ token.pos < pos

instance (source : List Char) (pos : Nat) : Decidable (OpenAt source pos) :=
  inferInstanceAs (Decidable (∃ token ∈ Token.all source, _))

namespace StuckAt

variable {source before : List Char} {more : List Token} {point : Point} {under : List Point}

theorem source_eq (stuck : StuckAt source before more point under) :
    source = before ++ Token.textOf more :=
  Token.eq_append_of_all stuck.row

theorem eq_string_iff (stuck : StuckAt source before more point under) :
    point = .string ↔ OpenAt source before.length := by
  rw [stuck.reached.eq_string_iff]
  constructor
  · rintro ⟨token, member, kind⟩
    refine ⟨token, by simp [stuck.row, member], kind, ?_⟩
    obtain ⟨front, behind, split⟩ := List.append_of_mem member
    obtain ⟨found, place⟩ := Token.lexeme?_of_split split
    have nonempty := List.length_pos_iff.mpr (Token.lexeme?_ne_nil found)
    have texts := congrArg Token.textOf split
    have lengths := congrArg List.length texts
    simp only [Token.all, Token.textOf_allFrom, Token.textOf_append, Token.textOf_cons,
      List.length_append] at lengths
    omega
  · rintro ⟨token, member, kind, earlier⟩
    rw [stuck.row] at member
    rcases List.mem_append.mp member with member | later
    · exact ⟨token, member, kind⟩
    · -- a token from the mismatch on does not start before it
      obtain ⟨front, behind, rfl⟩ := List.append_of_mem later
      have split := stuck.row
      rw [← List.append_assoc] at split
      have place := (Token.lexeme?_of_split split).2
      simp only [Token.all, Token.textOf_append, Token.textOf_allFrom, List.length_append] at place
      omega

theorem source_eq_of_string (stuck : StuckAt source before more .string under) :
    source = before := by
  obtain ⟨token, member, kind⟩ := stuck.reached.eq_string_iff.mp rfl
  obtain ⟨front, behind, split⟩ := List.append_of_mem member
  have row := stuck.row
  rw [split, List.append_assoc, List.cons_append] at row
  have ended := Token.not_goesOn_of_split row
  rw [kind, Token.Kind.GoesOn, not_not, Token.textOf_append, List.append_eq_nil_iff] at ended
  simpa [ended.2] using stuck.source_eq

theorem not_readable (stuck : StuckAt source before more point under) {c : Char}
    {rest : List Char} (longer : source = before ++ c :: rest) (sourceName : String)
    (text : List Char) : ¬ Readable sourceName (before ++ c :: text) := by
  rw [readable_iff]
  rintro ⟨tokens, complete, within⟩
  cases more with
  | nil => simpa [longer] using stuck.source_eq
  | cons next more =>
    exact stuck.reached.not_prefix_of_stuck (longer ▸ stuck.row) (stuck.stops next rfl) complete
      text within

end StuckAt

/-- Where a source does not fit, the text up to there begins an expression and one character more
does not. The message names the tokens that could have come, or the end of the string that is not
closed. -/
theorem parse_error_expected_iff (sourceName source : String) (cause : SyntaxError)
    (failed : parse sourceName source = .error (.error (.unreadable cause)))
    (mismatch : cause.reason = none) :
    ∃ pos : Nat, cause.pos = pos ∧ pos ≤ source.length ∧
      (∃ text, Readable sourceName (source.toList.take pos ++ text)) ∧
      (pos < source.length →
        ∀ text, ¬ Readable sourceName (source.toList.take (pos + 1) ++ text)) ∧
      (¬ OpenAt source.toList pos →
        (∀ kind ∉ [.unknown, .unterminated, .eof],
          Continues sourceName (source.toList.take pos) kind ↔ kind.labels ⊆ cause.expected) ∧
        ∀ label ∈ cause.expected, ∃ kind ∉ [.unknown, .unterminated, .eof],
          label ∈ kind.labels ∧ Continues sourceName (source.toList.take pos) kind) ∧
      (OpenAt source.toList pos →
        pos = source.length ∧ cause.expected = Token.Kind.string.labels ∧
          ∃ text, Readable sourceName (source.toList ++ '"' :: text)) := by
  obtain ⟨before, more, point, under, stuck, place, expected⟩ := exists_stuckAt failed mismatch
  have length : source.length = before.length + (Token.textOf more).length := by
    rw [← String.length_toList, stuck.source_eq, List.length_append]
  have cut : source.toList.take before.length = before := by simp [stuck.source_eq]
  refine ⟨before.length, place, by omega, ?_, ?_, ?_, ?_⟩
  · rw [cut]
    exact stuck.reached.exists_readable
  · intro inside text
    obtain ⟨c, rest, tail⟩ := List.exists_cons_of_length_pos (l := Token.textOf more) (by omega)
    have longer : source.toList = before ++ c :: rest := tail ▸ stuck.source_eq
    have one : source.toList.take (before.length + 1) = before ++ [c] := by
      rw [longer, List.append_cons, List.take_left' (by simp)]
    rw [one, List.append_assoc, List.singleton_append]
    exact stuck.not_readable longer sourceName text
  · intro closed
    -- outside of strings the labels are those of the tokens that the point lets through
    have outside : point ≠ .string := mt stuck.eq_string_iff.mp closed
    rw [cut, expected]
    refine ⟨fun kind known => ?_, fun label member => ?_⟩
    · rw [stuck.reached.continues_iff_follow known, Point.labels_subset_iff known outside]
    · obtain ⟨kind, known, named, follows⟩ := Point.exists_follow_of_mem_labels outside member
      exact ⟨kind, known, named, (stuck.reached.continues_iff_follow known).mpr follows⟩
  · intro opened
    -- the string has taken in all that is left, so the mismatch is at the end
    obtain rfl := stuck.eq_string_iff.mpr opened
    have whole := stuck.source_eq_of_string
    refine ⟨by rw [← String.length_toList, whole], expected, ?_⟩
    obtain ⟨text, complete⟩ := stuck.reached.exists_closing
    exact ⟨text, whole ▸ complete.readable sourceName⟩

theorem parse_error_expected_sample :
    (parse "lisp" "(a .b)" =
        .error (.error (.unreadable ⟨4, 1, 5, "\"b\"", ["space"], "lisp", none⟩)) ∧
      Continues "lisp" "(a .".toList .space ∧ ¬ Continues "lisp" "(a .".toList .atom ∧
      ∀ text, ¬ Readable "lisp" ("(a .b".toList ++ text)) ∧
    parse "lisp" "('(a . \"b" =
        .error (.error (.unreadable
          ⟨9, 1, 10, "end of input", ["\"\\\"\""], "lisp", none⟩)) ∧
      ∃ text, Readable "lisp" ("('(a . \"b".toList ++ '"' :: text) := by
  constructor
  · have failed : parse "lisp" "(a .b)" =
        .error (.error (.unreadable ⟨4, 1, 5, "\"b\"", ["space"], "lisp", none⟩)) := by
      decide +kernel
    obtain ⟨pos, place, -, -, longer, named, -⟩ := parse_error_expected_iff _ _ _ failed rfl
    obtain rfl : 4 = pos := Int.ofNat.inj place
    obtain ⟨named, -⟩ := named (by decide +kernel)
    refine ⟨failed, (named .space (by decide)).mpr (by decide), ?_, longer (by decide)⟩
    intro atom
    exact absurd ((named .atom (by decide)).mp atom) (by decide)
  · have failed : parse "lisp" "('(a . \"b" =
        .error (.error (.unreadable
          ⟨9, 1, 10, "end of input", ["\"\\\"\""], "lisp", none⟩)) := by
      decide +kernel
    obtain ⟨pos, place, -, -, -, -, opened⟩ := parse_error_expected_iff _ _ _ failed rfl
    obtain rfl : 9 = pos := Int.ofNat.inj place
    exact ⟨failed, (opened (by decide +kernel)).2.2⟩

end Lisplet
