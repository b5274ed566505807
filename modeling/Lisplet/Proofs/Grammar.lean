import Lisplet.Proofs.Tokenization
import Lisplet.Numeral
import Lisplet.Value

/-! The grammar of expressions, once over characters and once over tokens. The two describe the same
texts: the tokens of a text of the grammar spell what the text reads as, and the other way round. -/

set_option autoImplicit false

namespace Lisplet

open Text (isBlank)

/-! ## Over characters -/

mutual

/-- What a text reads as, with numerals of at most so many digits and with this much room for
nesting. Blanks stand between the elements of a list and on the inner sides of the dot only. -/
inductive Reads (digits : Nat) : Nat → List Char → Value → Prop where
  | falsity {room : Nat} : Reads digits room ['#', 'f'] (.bool false)
  | atom {room : Nat} {text : List Char} : Token.Kind.atom.Admits text → text ≠ ['#', 'f'] →
      Reads digits room text (.atom (String.ofList text))
  | number {room : Nat} {text : List Char} : Token.Kind.number.Admits text →
      text.length ≤ digits → Reads digits room text (.number (Numeral.value 10 text))
  | string {room : Nat} {body : List Char} : '"' ∉ body →
      Reads digits room ('"' :: body ++ ['"']) (.string (String.ofList body))
  | quoted {room : Nat} {text : List Char} {value : Value} : Reads digits room text value →
      Reads digits (room + 1) ('\'' :: text) (.list [.atom "quote", value])
  | empty {room : Nat} : Reads digits (room + 2) ['(', ')'] (.list [])
  | list {room : Nat} {front last : List Char} {values : List Value} {value : Value} :
      ReadsEach digits room front values → Reads digits room last value →
      Reads digits (room + 2) ('(' :: (front ++ last ++ [')'])) (.list (values ++ [value]))
  | dotted {room : Nat} {front gap last : List Char} {values : List Value} {value : Value} :
      ReadsEach digits (room + 1) front values → Token.Kind.space.Admits gap →
      Reads digits room last value →
      Reads digits (room + 3) ('(' :: (front ++ '.' :: (gap ++ last) ++ [')']))
        (.dotted values value)

inductive ReadsEach (digits : Nat) : Nat → List Char → List Value → Prop where
  | nil {room : Nat} : ReadsEach digits room [] []
  | cons {room : Nat} {text gap rest : List Char} {value : Value} {values : List Value} :
      Reads digits room text value → Token.Kind.space.Admits gap →
      ReadsEach digits room rest values →
      ReadsEach digits room (text ++ gap ++ rest) (value :: values)

end

/-- Whether a text goes on into another one: its last token is an atom or a number and the other
text starts with a character that would belong to it. -/
def Extends (text rest : List Char) : Prop :=
  ∃ last ∈ (Token.all text).getLast?,
    (last.kind = .atom ∧ StartsIn isAtomChar rest) ∨
    (last.kind = .number ∧ StartsIn Char.isDigit rest)

/-! ## Over tokens -/

mutual

/-- What a row of tokens spells, with this much room for nesting. -/
inductive Spells : Nat → List Token → Value → Prop where
  | atom {room : Nat} {token : Token} : token.kind = .atom →
      Spells room [token] (.ofAtomText (String.ofList token.text))
  | number {room : Nat} {token : Token} : token.kind = .number →
      token.text.length ≤ digitLimit → Spells room [token] (.number (Numeral.value 10 token.text))
  | string {room : Nat} {token : Token} : token.kind = .string →
      Spells room [token] (.string (String.ofList token.text.tail.dropLast))
  | quoted {room : Nat} {mark : Token} {tokens : List Token} {value : Value} :
      mark.kind = .quote → Spells room tokens value →
      Spells (room + 1) (mark :: tokens) value.quoted
  | empty {room : Nat} {opening closing : Token} : opening.kind = .opening →
      closing.kind = .closing → Spells (room + 2) [opening, closing] (.list [])
  | list {room : Nat} {opening closing : Token} {front last : List Token} {values : List Value}
      {value : Value} : opening.kind = .opening → SpellsEach room front values →
      Spells room last value → closing.kind = .closing →
      Spells (room + 2) (opening :: (front ++ last ++ [closing])) (.list (values ++ [value]))
  | dotted {room : Nat} {opening dot gap closing : Token} {front last : List Token}
      {values : List Value} {value : Value} : opening.kind = .opening →
      SpellsEach (room + 1) front values → dot.kind = .dot → gap.kind = .space →
      Spells room last value → closing.kind = .closing →
      Spells (room + 3) (opening :: (front ++ dot :: gap :: last ++ [closing]))
        (.dotted values value)

inductive SpellsEach : Nat → List Token → List Value → Prop where
  | nil {room : Nat} : SpellsEach room [] []
  | cons {room : Nat} {gap : Token} {tokens rest : List Token} {value : Value}
      {values : List Value} : Spells room tokens value → gap.kind = .space →
      SpellsEach room rest values → SpellsEach room (tokens ++ gap :: rest) (value :: values)

end

def Token.Kind.endsExpression : Token.Kind → Bool
  | .atom | .number | .string | .closing => true
  | _ => false

theorem Spells.exists_first {room : Nat} {tokens : List Token} {value : Value}
    (spelled : Spells room tokens value) :
    ∃ first rest, tokens = first :: rest ∧ first.kind.startsExpression = true := by
  cases spelled with
  | atom kind | number kind | string kind | quoted kind | empty kind | list kind | dotted kind =>
    exact ⟨_, _, rfl, by rw [kind]; rfl⟩

theorem Spells.exists_last {room : Nat} {tokens : List Token} {value : Value} :
    Spells room tokens value → ∃ last, tokens.getLast? = some last ∧ last.kind.endsExpression = true
  | .atom kind | .number kind _ | .string kind => ⟨_, List.getLast?_singleton, by rw [kind]; rfl⟩
  | .quoted _ inner => by
    obtain ⟨last, found, ends⟩ := inner.exists_last
    exact ⟨last, by simp [List.getLast?_cons, found], ends⟩
  | .empty _ closed => ⟨_, List.getLast?_concat (l := [_]), by rw [closed]; rfl⟩
  | .list _ _ _ closed | .dotted _ _ _ _ _ closed =>
    ⟨_, List.getLast?_concat (l := _ :: _), by rw [closed]; rfl⟩

mutual

theorem Spells.mono {room more : Nat} {tokens : List Token} {value : Value} :
    Spells room tokens value → room ≤ more → Spells more tokens value
  | .atom kind, _ => .atom kind
  | .number kind short, _ => .number kind short
  | .string kind, _ => .string kind
  | .quoted kind inner, most => by
    obtain ⟨more, rfl⟩ := Nat.exists_eq_add_of_le' (show 1 ≤ more by omega)
    exact .quoted kind (inner.mono (by omega))
  | .empty kind closed, most => by
    obtain ⟨more, rfl⟩ := Nat.exists_eq_add_of_le' (show 2 ≤ more by omega)
    exact .empty kind closed
  | .list kind front last closed, most => by
    obtain ⟨more, rfl⟩ := Nat.exists_eq_add_of_le' (show 2 ≤ more by omega)
    exact .list kind (front.mono (by omega)) (last.mono (by omega)) closed
  | .dotted kind front dot gap last closed, most => by
    obtain ⟨more, rfl⟩ := Nat.exists_eq_add_of_le' (show 3 ≤ more by omega)
    exact .dotted kind (front.mono (by omega)) dot gap (last.mono (by omega)) closed

theorem SpellsEach.mono {room more : Nat} {tokens : List Token} {values : List Value} :
    SpellsEach room tokens values → room ≤ more → SpellsEach more tokens values
  | .nil, _ => .nil
  | .cons first gap rest, most => .cons (first.mono most) gap (rest.mono most)

end

theorem SpellsEach.concat {room : Nat} {tokens last : List Token} {gap : Token}
    {values : List Value} {value : Value} (front : SpellsEach room tokens values)
    (spelled : Spells room last value) (blank : gap.kind = .space) :
    SpellsEach room (tokens ++ last ++ [gap]) (values ++ [value]) := by
  match front with
  | .nil => exact .cons spelled blank .nil
  | .cons first between rest =>
    have later := rest.concat spelled blank
    simpa using SpellsEach.cons first between later

/-! ## From tokens to characters -/

theorem Value.ofAtomText_of_admits {text : List Char} (admitted : Token.Kind.atom.Admits text) :
    (text = ['#', 'f'] ∧ ofAtomText (String.ofList text) = .bool false) ∨
      (text ≠ ['#', 'f'] ∧ ofAtomText (String.ofList text) = .atom (String.ofList text)) := by
  -- a tab would be read as true, but no atom is one
  have tab : String.ofList text ≠ "\t" := by
    intro same
    obtain rfl : text = ['\t'] := by simpa using congrArg String.toList same
    have : isAtomStart '\t' = true := by simpa using admitted.1
    contradiction
  by_cases isFalse : text = ['#', 'f']
  · subst isFalse
    exact .inl ⟨rfl, rfl⟩
  · have other : String.ofList text ≠ "#f" := by
      intro same
      exact isFalse (by simpa using congrArg String.toList same)
    exact .inr ⟨isFalse, by simp [ofAtomText, tab, other]⟩

def WellFormed (tokens : List Token) : Prop :=
  ∀ token ∈ tokens, token.kind.Admits token.text

@[simp] theorem wellFormed_nil : WellFormed [] := by
  simp [WellFormed]

@[simp] theorem wellFormed_cons {token : Token} {tokens : List Token} :
    WellFormed (token :: tokens) ↔ token.kind.Admits token.text ∧ WellFormed tokens :=
  List.forall_mem_cons

@[simp] theorem wellFormed_append {tokens others : List Token} :
    WellFormed (tokens ++ others) ↔ WellFormed tokens ∧ WellFormed others :=
  List.forall_mem_append

mutual

theorem Spells.reads {room : Nat} {tokens : List Token} {value : Value} :
    Spells room tokens value → WellFormed tokens →
      Reads digitLimit room (Token.textOf tokens) value
  | .atom kind, formed => by
    simp only [wellFormed_cons, kind] at formed
    obtain ⟨same, value⟩ | ⟨other, value⟩ := Value.ofAtomText_of_admits formed.1
    · rw [value]
      simpa [same] using Reads.falsity
    · rw [value]
      simpa using Reads.atom formed.1 other
  | .number kind short, formed => by
    simp only [wellFormed_cons, kind] at formed
    simpa using Reads.number formed.1 short
  | .string kind, formed => by
    simp only [wellFormed_cons, kind, Token.Kind.Admits] at formed
    obtain ⟨⟨body, free, text⟩, -⟩ := formed
    simpa [text] using Reads.string free
  | .quoted kind inner, formed => by
    simp only [wellFormed_cons, kind, Token.Kind.Admits] at formed
    rw [Token.textOf_cons, formed.1]
    exact .quoted (inner.reads formed.2)
  | .empty kind closed, formed => by
    simp only [wellFormed_cons, kind, closed, Token.Kind.Admits] at formed
    simpa [formed.1, formed.2.1] using Reads.empty
  | .list kind front last closed, formed => by
    simp only [wellFormed_cons, wellFormed_append, kind, closed, Token.Kind.Admits] at formed
    obtain ⟨opening, ⟨frontFormed, lastFormed⟩, closing, -⟩ := formed
    simpa [opening, closing] using Reads.list (front.reads frontFormed) (last.reads lastFormed)
  | .dotted kind front dot gap last closed, formed => by
    simp only [wellFormed_cons, wellFormed_append, kind, dot, gap, closed] at formed
    obtain ⟨opening, ⟨frontFormed, point, blank, lastFormed⟩, closing, -⟩ := formed
    simp only [Token.Kind.Admits] at opening point closing
    simpa [opening, point, closing] using
      Reads.dotted (front.reads frontFormed) blank (last.reads lastFormed)

theorem SpellsEach.reads {room : Nat} {tokens : List Token} {values : List Value} :
    SpellsEach room tokens values → WellFormed tokens →
      ReadsEach digitLimit room (Token.textOf tokens) values
  | .nil, _ => .nil
  | .cons first gap rest, formed => by
    simp only [wellFormed_cons, wellFormed_append, gap] at formed
    simpa using ReadsEach.cons (first.reads formed.1) formed.2.1 (rest.reads formed.2.2)

end

/-! ## From characters to tokens -/

theorem Token.Kind.not_goesOn_of_endsExpression {kind : Token.Kind} {c : Char} {rest : List Char}
    (ends : kind.endsExpression = true) (outside : isAtomChar c = false) :
    ¬ kind.GoesOn (c :: rest) := by
  have digit : c.isDigit = false := by
    simp only [isAtomChar, Bool.or_eq_false_iff] at outside
    exact outside.2
  cases kind <;> simp_all [endsExpression, GoesOn]

theorem Reads.exists_first {digits room : Nat} {text : List Char} {value : Value}
    (reads : Reads digits room text value) : ∃ c rest, text = c :: rest ∧ isBlank c = false := by
  cases reads with
  | atom admitted =>
    obtain ⟨⟨c, first, start⟩, -⟩ := admitted
    obtain ⟨rest, rfl⟩ := List.head?_eq_some_iff.mp first
    exact ⟨c, rest, rfl, not_isBlank_of_isAtomStart start⟩
  | number admitted =>
    obtain ⟨nonempty, inside⟩ := admitted
    obtain ⟨c, rest, rfl⟩ := List.exists_cons_of_ne_nil nonempty
    exact ⟨c, rest, rfl, (only_number_of_isDigit (inside c (.head _))).1⟩
  | falsity | string | quoted | empty | list | dotted => exact ⟨_, _, rfl, rfl⟩

theorem ReadsEach.not_startsIn_isBlank {digits room : Nat} {text : List Char} {values : List Value}
    (reads : ReadsEach digits room text values) : ¬ StartsIn isBlank text := by
  cases reads with
  | nil => simp
  | cons first =>
    obtain ⟨c, rest, rfl, blank⟩ := first.exists_first
    simp [blank]

theorem SpellsEach.kind_of_last {room : Nat} {tokens : List Token} {values : List Value} :
    SpellsEach room tokens values → ∀ last ∈ tokens.getLast?, last.kind = .space
  | .nil, last, member => by simp at member
  | @SpellsEach.cons _ _ _ rest _ _ _ blank others, last, member => by
    have later := others.kind_of_last
    rw [List.getLast?_append, List.getLast?_cons] at member
    cases found : rest.getLast? with
    | none => simp_all
    | some token => simp_all

theorem Token.allFrom_append_of_spells {room pos : Nat} {text : List Char} {value : Value}
    {c : Char} {rest : List Char} (spelled : Spells room (allFrom pos text) value)
    (outside : isAtomChar c = false) :
    allFrom pos (text ++ c :: rest) =
      allFrom pos text ++ allFrom (pos + text.length) (c :: rest) := by
  apply allFrom_append
  intro last member
  obtain ⟨other, found, ends⟩ := spelled.exists_last
  obtain rfl : other = last := Option.some.inj (found.symm.trans member)
  exact Kind.not_goesOn_of_endsExpression ends outside

theorem Token.allFrom_append_of_spellsEach {room pos : Nat} {text rest : List Char}
    {values : List Value} (spelled : SpellsEach room (allFrom pos text) values)
    (start : ¬ StartsIn isBlank rest) :
    allFrom pos (text ++ rest) = allFrom pos text ++ allFrom (pos + text.length) rest := by
  apply allFrom_append
  intro last member
  rw [spelled.kind_of_last last member]
  exact start

mutual

theorem Reads.spells {room : Nat} {text : List Char} {value : Value} (pos : Nat) :
    Reads digitLimit room text value → Spells room (Token.allFrom pos text) value
  | .falsity => by
    have admitted : Token.Kind.atom.Admits ['#', 'f'] := ⟨by simp; rfl, List.all_eq_true.mp rfl⟩
    rw [Token.allFrom_single pos admitted]
    exact .atom rfl
  | .atom admitted other => by
    rw [Token.allFrom_single pos admitted]
    obtain ⟨same, -⟩ | ⟨-, value⟩ := Value.ofAtomText_of_admits admitted
    · exact absurd same other
    · rw [← value]
      exact .atom rfl
  | .number admitted short => by
    rw [Token.allFrom_single pos admitted]
    exact .number rfl short
  | @Reads.string _ room body free => by
    have admitted : Token.Kind.string.Admits ('"' :: body ++ ['"']) := ⟨_, free, rfl⟩
    rw [Token.allFrom_single pos admitted]
    simpa using @Spells.string room ⟨.string, '"' :: body ++ ['"'], pos⟩ rfl
  | .quoted inner => by
    rw [Token.allFrom_mark (by decide)]
    exact .quoted rfl (inner.spells _)
  | .empty => by
    rw [Token.allFrom_mark (by decide), Token.allFrom_mark (by decide), Token.allFrom_nil]
    exact .empty rfl rfl
  | @Reads.list _ room front last _ _ each one => by
    obtain ⟨c, rest, text, blank⟩ := one.exists_first
    have first := each.spells (pos + 1)
    have second := one.spells (pos + 1 + front.length)
    -- the elements in front end with blanks, and the last one does not start with any
    rw [Token.allFrom_mark (by decide), List.append_assoc,
      Token.allFrom_append_of_spellsEach first (by simp [text, blank]),
      Token.allFrom_append_of_spells second (by decide), Token.allFrom_mark (by decide),
      Token.allFrom_nil, ← List.append_assoc]
    exact .list rfl first second rfl
  | @Reads.dotted _ room front gap last _ _ each blanks one => by
    obtain ⟨c, rest, text, blank⟩ := one.exists_first
    have first := each.spells (pos + 1)
    have second := one.spells (pos + 1 + front.length + 1 + gap.length)
    have inner : front ++ '.' :: (gap ++ last) ++ [')'] =
        front ++ '.' :: (gap ++ (last ++ [')'])) := by simp
    have regroup (front last : List Token) (dot gap closing : Token) :
        front ++ dot :: gap :: (last ++ [closing]) = front ++ dot :: gap :: last ++ [closing] := by
      simp
    rw [Token.allFrom_mark (by decide), inner,
      Token.allFrom_append_of_spellsEach first (by simp; rfl), Token.allFrom_mark (by decide),
      Token.allFrom_of_admits _ _ blanks (by simp [Token.Kind.GoesOn, text, blank]),
      Token.allFrom_append_of_spells second (by decide), Token.allFrom_mark (by decide),
      Token.allFrom_nil, regroup]
    exact .dotted rfl first rfl rfl second rfl

theorem ReadsEach.spells {room : Nat} {text : List Char} {values : List Value} (pos : Nat) :
    ReadsEach digitLimit room text values → SpellsEach room (Token.allFrom pos text) values
  | .nil => by simpa using SpellsEach.nil
  | @ReadsEach.cons _ room text gap rest _ _ one blanks each => by
    have first := one.spells pos
    have others := each.spells (pos + text.length + gap.length)
    obtain ⟨c, more, rfl⟩ := List.exists_cons_of_ne_nil blanks.1
    -- blanks belong to no atom and no number, and so end the element before them
    have outside := isAtomChar_of_isBlank (blanks.2 c (.head _))
    rw [List.append_assoc, List.cons_append, Token.allFrom_append_of_spells first outside,
      ← List.cons_append, Token.allFrom_of_admits _ rest blanks each.not_startsIn_isBlank]
    exact .cons first rfl others

end

theorem Reads.mono {room more : Nat} {text : List Char} {value : Value}
    (reads : Reads digitLimit room text value) (most : room ≤ more) :
    Reads digitLimit more text value := by
  have larger := ((reads.spells 0).mono most).reads fun _ => Token.admits_of_mem
  rwa [Token.textOf_allFrom] at larger

theorem ReadsEach.mono {room more : Nat} {text : List Char} {values : List Value}
    (each : ReadsEach digitLimit room text values) (most : room ≤ more) :
    ReadsEach digitLimit more text values := by
  have larger := ((each.spells 0).mono most).reads fun _ => Token.admits_of_mem
  rwa [Token.textOf_allFrom] at larger

end Lisplet
