import Lisplet.Proofs.Acceptance
import Lisplet.Proofs.Numerals
import Lisplet.Proofs.Outcomes
import Lisplet.Source

/-! The language of the reader. A source is read as a value exactly if it starts with a text of the
grammar that reads as the value and does not go on into what follows. Both limits are needed: a text
that is nested too deeply, or a numeral that is too long, has a value but is not read. -/

set_option autoImplicit false

namespace Lisplet

open Reading

theorem Spells.extends_iff {room : Nat} {text rest : List Char} {value : Value}
    (spelled : Spells room (Token.all text) value) :
    Extends text rest ↔ ∃ last ∈ (Token.all text).getLast?, last.kind.GoesOn rest := by
  obtain ⟨last, found, ends⟩ := spelled.exists_last
  simp only [Extends, found, Option.mem_def, Option.some.injEq, exists_eq_left']
  cases kind : last.kind <;> simp_all [Token.Kind.endsExpression, Token.Kind.GoesOn]

/-- A text of the grammar that does not go on into what follows is a row of tokens of the whole. -/
theorem Reads.all_append {room : Nat} {text rest : List Char} {value : Value}
    (reads : Reads digitLimit room text value) (stops : ¬ Extends text rest) :
    Token.all (text ++ rest) = Token.all text ++ Token.allFrom text.length rest := by
  have spelled := reads.spells 0
  rw [Token.all, Token.allFrom_append, Nat.zero_add]
  · rfl
  · intro last member goes
    exact stops (spelled.extends_iff.mpr ⟨last, member, goes⟩)

theorem Spells.reads_textOf {room : Nat} {source : List Char} {tokens others : List Token}
    {value : Value} (spelled : Spells room tokens value)
    (split : Token.all source = tokens ++ others) :
    source = Token.textOf tokens ++ Token.textOf others ∧
      Reads digitLimit room (Token.textOf tokens) value ∧
      ¬ Extends (Token.textOf tokens) (Token.textOf others) := by
  have same : Token.all (Token.textOf tokens) = tokens := Token.allFrom_textOf split
  refine ⟨?_, spelled.reads ?_, ?_⟩
  · rw [← Token.textOf_append, ← split, Token.all, Token.textOf_allFrom]
  · intro token member
    have member : token ∈ Token.all source := by
      rw [split]
      exact List.mem_append_left _ member
    exact Token.admits_of_mem member
  · rw [← same] at spelled
    rw [spelled.extends_iff, same]
    rintro ⟨last, found, goes⟩
    obtain ⟨front, rfl⟩ := List.getLast?_eq_some_iff.mp found
    rw [List.append_assoc, List.singleton_append] at split
    exact Token.not_goesOn_of_split split goes

theorem exists_expression_ok_iff {room : Nat} {sourceName : String} {source : List Char}
    {value : Value} :
    (∃ after, expression room (.start sourceName source) = .ok value after) ↔
      ∃ text rest, source = text ++ rest ∧ Reads digitLimit room text value ∧
        ¬ Extends text rest := by
  have valid := TokenStream.valid_start sourceName source
  constructor
  · rintro ⟨after, ran⟩
    have outcome := expression_correct room _ valid
    rw [ran] at outcome
    cases outcome with
    | done taken spelled => exact ⟨_, _, spelled.reads_textOf taken.remaining⟩
  · rintro ⟨text, rest, rfl, reads, stops⟩
    obtain ⟨after, ran, -⟩ := (reads.spells 0).accepts _ _ valid (reads.all_append stops)
    exact ⟨after, ran⟩

theorem Source.parseWithin_eq_ok_iff {room : Nat} {sourceName source : String} {value : Value} :
    (parseWithin room sourceName source).result = .ok value ↔
      ∃ after, expression room (.start sourceName source.toList) = .ok value after := by
  unfold parseWithin
  split <;> simp_all [Traced.error, Traced.fail]

theorem Source.parseWithin_of_mismatch {room : Nat} {sourceName source : String}
    {found : Mismatch} {after : TokenStream}
    (ran : expression room (.start sourceName source.toList) = .error (.mismatch found) after) :
    (parseWithin room sourceName source).result =
      .error (.error (.unreadable (after.report found))) := by
  rw [parseWithin, ran]
  rfl

theorem Source.parseWithin_of_tooDeep {room : Nat} {sourceName source : String}
    {after : TokenStream}
    (ran : expression room (.start sourceName source.toList) = .error (.limit .depth) after) :
    (parseWithin room sourceName source).result =
      .error (.error (.unreadable (tooDeepError after))) := by
  rw [parseWithin, ran]
  rfl

theorem Source.parseWithin_of_tooLong {room : Nat} {sourceName source : String} {digits : Nat}
    {after : TokenStream} (ran : expression room (.start sourceName source.toList) =
      .error (.limit (.numeral digits)) after) :
    (parseWithin room sourceName source).result = .error (.limit (.numeral digits)) := by
  rw [parseWithin, ran]
  rfl

theorem parse_of_mismatch {sourceName source : String} {found : Mismatch} {after : TokenStream}
    (ran : expression nestingRoom (.start sourceName source.toList) =
      .error (.mismatch found) after) :
    parse sourceName source = .error (.error (.unreadable (after.report found))) :=
  Source.parseWithin_of_mismatch ran

theorem parse_of_tooDeep {sourceName source : String} {after : TokenStream}
    (ran : expression nestingRoom (.start sourceName source.toList) =
      .error (.limit .depth) after) :
    parse sourceName source = .error (.error (.unreadable (Source.tooDeepError after))) :=
  Source.parseWithin_of_tooDeep ran

theorem not_extends_nil (text : List Char) : ¬ Extends text [] := by
  simp [Extends]

theorem parse_of_whole {sourceName source : String} {value : Value}
    (reads : Reads digitLimit nestingRoom source.toList value) :
    parse sourceName source = .ok value := by
  rw [parse, Source.parseWithin_eq_ok_iff, exists_expression_ok_iff]
  exact ⟨source.toList, [], by simp, reads, not_extends_nil _⟩

/-! ## The limits -/

def roundNumeral (zeros : Nat) : List Char :=
  '1' :: List.replicate zeros '0'

theorem value_roundNumeral (zeros : Nat) :
    Numeral.value 10 (roundNumeral zeros) = Nat.pow 10 zeros := by
  induction zeros with
  | zero => rfl
  | succ zeros ih =>
    have split : roundNumeral (zeros + 1) = roundNumeral zeros ++ ['0'] := by
      simp [roundNumeral, List.replicate_succ']
    rw [split, Numeral.value_concat, ih]
    exact Nat.mul_comm 10 (Nat.pow 10 zeros)

theorem admits_roundNumeral (zeros : Nat) : Token.Kind.number.Admits (roundNumeral zeros) := by
  refine ⟨by simp [roundNumeral], ?_⟩
  intro c member
  simp only [roundNumeral, List.mem_cons, List.mem_replicate] at member
  rcases member with rfl | ⟨-, rfl⟩ <;> rfl

end Lisplet
