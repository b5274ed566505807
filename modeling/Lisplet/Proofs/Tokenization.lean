import Mathlib.Data.List.TakeWhile
import Lisplet.Token

/-! Tokens by their texts. Each kind has a class of texts and may go on into some of the texts that
can follow; the first token of a text is the one text of a class that does not go on. Rows of tokens
can therefore be cut and joined wherever no token goes on across the seam. -/

set_option autoImplicit false

namespace Lisplet

open Text (isBlank blankRanges covers covers_iff)

/-! ## Classes of characters -/

def StartsIn (belongs : Char → Bool) (text : List Char) : Prop :=
  ∃ c ∈ text.head?, belongs c = true

@[simp] theorem not_startsIn_nil (belongs : Char → Bool) : ¬ StartsIn belongs [] := by
  simp [StartsIn]

@[simp] theorem startsIn_cons (belongs : Char → Bool) (c : Char) (text : List Char) :
    StartsIn belongs (c :: text) ↔ belongs c = true := by
  simp [StartsIn]

/-- A property of the finitely many characters in some ranges can be checked one by one. -/
theorem forall_covered {ranges : List (Nat × Nat)} {P : Char → Prop}
    (checked : ∀ code ∈ ranges.flatMap fun range => List.range' range.1 (range.2 + 1 - range.1),
      P (Char.ofNat code))
    {c : Char} (covered : covers ranges c.toNat = true) : P c := by
  obtain ⟨range, member, low, high⟩ := covers_iff.mp covered
  have found := checked c.toNat (List.mem_flatMap.mpr
    ⟨range, member, List.mem_range'_1.mpr ⟨low, by omega⟩⟩)
  rwa [Char.ofNat_toNat] at found

theorem isAtomChar_of_isBlank {c : Char} (blank : isBlank c = true) : isAtomChar c = false :=
  forall_covered (P := fun c => isAtomChar c = false) (by decide +kernel) blank

theorem not_isDigit_of_isBlank {c : Char} (blank : isBlank c = true) : c.isDigit = false :=
  forall_covered (P := fun c => c.isDigit = false) (by decide +kernel) blank

theorem isAtomStart_of_isBlank {c : Char} (blank : isBlank c = true) : isAtomStart c = false := by
  have atomChar := isAtomChar_of_isBlank blank
  simp only [isAtomChar, Bool.or_eq_false_iff] at atomChar
  exact atomChar.1

theorem not_isBlank_of_isAtomStart {c : Char} (start : isAtomStart c = true) :
    isBlank c = false := by
  by_contra blank
  simp [isAtomStart_of_isBlank (by simpa using blank)] at start

theorem only_number_of_isDigit {c : Char} (digit : c.isDigit = true) :
    isBlank c = false ∧ isAtomStart c = false ∧ c ≠ '"' := by
  have covered : covers [('0'.toNat, '9'.toNat)] c.toNat = true := by
    rw [Char.isDigit_iff_toNat] at digit
    exact covers_iff.mpr ⟨_, .head _, digit⟩
  exact forall_covered (P := fun c => isBlank c = false ∧ isAtomStart c = false ∧ c ≠ '"')
    (by decide +kernel) covered

theorem run_iff {belongs : Char → Bool} {text run rest : List Char} :
    run = text.takeWhile belongs ∧ rest = text.dropWhile belongs ↔
      text = run ++ rest ∧ (∀ c ∈ run, belongs c = true) ∧ ¬ StartsIn belongs rest := by
  constructor
  · rintro ⟨rfl, rfl⟩
    refine ⟨List.takeWhile_append_dropWhile.symm, fun c => List.mem_takeWhile_imp, ?_⟩
    rintro ⟨c, first, belonging⟩
    have kept := List.head?_dropWhile_not belongs text
    simp_all
  · rintro ⟨rfl, inside, outside⟩
    cases rest with
    | nil => simp [List.takeWhile_eq_self_iff.mpr inside, List.dropWhile_eq_nil_iff.mpr inside]
    | cons c rest =>
      rw [startsIn_cons] at outside
      simp [List.takeWhile_append_of_pos inside, List.dropWhile_append_of_pos inside, outside]

namespace Token

namespace Kind

def Admits : Kind → List Char → Prop
  | .space, text => text ≠ [] ∧ ∀ c ∈ text, isBlank c = true
  | .atom, text => StartsIn isAtomStart text ∧ ∀ c ∈ text, isAtomChar c = true
  | .string, text => ∃ body, '"' ∉ body ∧ text = '"' :: body ++ ['"']
  | .unterminated, text => ∃ body, '"' ∉ body ∧ text = '"' :: body
  | .number, text => text ≠ [] ∧ ∀ c ∈ text, c.isDigit = true
  | .quote, text => text = ['\'']
  | .opening, text => text = ['(']
  | .closing, text => text = [')']
  | .dot, text => text = ['.']
  | .unknown, text => ∃ c, text = [c] ∧ isBlank c = false ∧ isAtomStart c = false ∧ c ≠ '"' ∧
      c.isDigit = false ∧ c ∉ ['\'', '(', ')', '.']
  | .eof, _ => False

/-- Whether a token of the kind would take in some of what follows it. -/
def GoesOn : Kind → List Char → Prop
  | .space, rest => StartsIn isBlank rest
  | .atom, rest => StartsIn isAtomChar rest
  | .number, rest => StartsIn Char.isDigit rest
  | .unterminated, rest => rest ≠ []
  | _, _ => False

theorem admits_blank : space.Admits [' '] :=
  ⟨by simp, by simp; rfl⟩

@[simp] theorem not_goesOn_nil (kind : Kind) : ¬ kind.GoesOn [] := by
  cases kind <;> simp [GoesOn]

theorem goesOn_cons_iff (kind : Kind) (c : Char) (rest other : List Char) :
    kind.GoesOn (c :: rest) ↔ kind.GoesOn (c :: other) := by
  cases kind <;> simp [GoesOn]

theorem not_goesOn_front {kind : Kind} {front back : List Char}
    (ended : ¬ kind.GoesOn (front ++ back)) : ¬ kind.GoesOn front := by
  cases front with
  | nil => simp
  | cons c front => exact fun goesOn => ended ((kind.goesOn_cons_iff c _ _).mp goesOn)

theorem not_goesOn_append {kind : Kind} {front back : List Char} (ended : ¬ kind.GoesOn front)
    (empty : front = [] → ¬ kind.GoesOn back) : ¬ kind.GoesOn (front ++ back) := by
  cases front with
  | nil => exact empty rfl
  | cons c front => exact fun goesOn => ended ((kind.goesOn_cons_iff c _ _).mp goesOn)

end Kind

theorem runOf_eq_iff {kind found : Kind} {belongs : Char → Bool} {c : Char}
    {text lexeme rest : List Char} :
    runOf kind belongs c text = (found, lexeme, rest) ↔
      found = kind ∧ ∃ run, lexeme = c :: run ∧ text = run ++ rest ∧
        (∀ d ∈ run, belongs d = true) ∧ ¬ StartsIn belongs rest := by
  simp only [runOf, Prod.mk.injEq]
  constructor
  · rintro ⟨rfl, rfl, rfl⟩
    exact ⟨rfl, _, rfl, run_iff.mp ⟨rfl, rfl⟩⟩
  · rintro ⟨rfl, run, rfl, split⟩
    obtain ⟨rfl, rfl⟩ := run_iff.mpr split
    exact ⟨rfl, rfl, rfl⟩

theorem stringOf_eq_iff {kind : Kind} {text lexeme rest : List Char} :
    stringOf text = (kind, lexeme, rest) ↔
      (kind = .string ∧ ∃ body, '"' ∉ body ∧ lexeme = '"' :: body ++ ['"'] ∧
        text = body ++ '"' :: rest) ∨
      (kind = .unterminated ∧ '"' ∉ text ∧ lexeme = '"' :: text ∧ rest = []) := by
  have other (c : Char) : (c != '"') = true ↔ c ≠ '"' := by simp
  constructor
  · intro found
    unfold stringOf at found
    split at found
    case h_1 unclosed =>
      cases found
      have free := List.dropWhile_eq_nil_iff.mp unclosed
      exact .inr ⟨rfl, fun member => (other _).mp (free _ member) rfl, rfl, rfl⟩
    case h_2 last after closed =>
      cases found
      obtain ⟨whole, inside, outside⟩ := run_iff.mp ⟨rfl, closed.symm⟩
      have quote : last = '"' := by simpa using outside
      subst quote
      exact .inl ⟨rfl, _, fun member => (other _).mp (inside _ member) rfl, rfl, whole⟩
  · rintro (⟨rfl, body, free, rfl, rfl⟩ | ⟨rfl, free, rfl, rfl⟩)
    · have inside : ∀ c ∈ body, (c != '"') = true := fun c member =>
        (other c).mpr fun same => free (same ▸ member)
      simp [stringOf, List.dropWhile_append_of_pos inside, List.takeWhile_append_of_pos inside]
    · have inside : ∀ c ∈ text, (c != '"') = true := fun c member =>
        (other c).mpr fun same => free (same ▸ member)
      simp [stringOf, List.dropWhile_eq_nil_iff.mpr inside]

theorem admits_of_lexeme? {text lexeme rest : List Char} {kind : Kind}
    (found : lexeme? text = some (kind, lexeme, rest)) :
    kind.Admits lexeme ∧ ¬ kind.GoesOn rest := by
  cases text with
  | nil => simp [lexeme?] at found
  | cons c text =>
    simp only [lexeme?, Option.some.injEq] at found
    split at found
    case isTrue blank =>
      obtain ⟨rfl, run, rfl, -, inside, outside⟩ := runOf_eq_iff.mp found
      exact ⟨⟨List.cons_ne_nil _ _, List.forall_mem_cons.mpr ⟨blank, inside⟩⟩, outside⟩
    split at found
    case isTrue start =>
      obtain ⟨rfl, run, rfl, -, inside, outside⟩ := runOf_eq_iff.mp found
      have first : isAtomChar c = true := by simp [isAtomChar, start]
      exact ⟨⟨by simpa using start, List.forall_mem_cons.mpr ⟨first, inside⟩⟩, outside⟩
    split at found
    case isTrue quote =>
      obtain ⟨rfl, body, free, rfl, -⟩ | ⟨rfl, free, rfl, rfl⟩ := stringOf_eq_iff.mp found
      · exact ⟨⟨body, free, rfl⟩, id⟩
      · exact ⟨⟨text, free, rfl⟩, by simp⟩
    split at found
    case isTrue digit =>
      obtain ⟨rfl, run, rfl, -, inside, outside⟩ := runOf_eq_iff.mp found
      exact ⟨⟨List.cons_ne_nil _ _, List.forall_mem_cons.mpr ⟨digit, inside⟩⟩, outside⟩
    case isFalse blank start quote digit =>
      -- a character that starts nothing longer
      cases found
      unfold Kind.ofPunctuation
      split_ifs with h1 h2 h3 h4
      · simp [Kind.Admits, Kind.GoesOn, h1]
      · simp [Kind.Admits, Kind.GoesOn, h2]
      · simp [Kind.Admits, Kind.GoesOn, h3]
      · simp [Kind.Admits, Kind.GoesOn, h4]
      · simp_all [Kind.Admits, Kind.GoesOn]

theorem lexeme?_of_admits {lexeme rest : List Char} {kind : Kind} (admitted : kind.Admits lexeme)
    (ended : ¬ kind.GoesOn rest) : lexeme? (lexeme ++ rest) = some (kind, lexeme, rest) := by
  -- the first character rules out the classes that are tried before
  cases kind with
  | space =>
    obtain ⟨nonempty, inside⟩ := admitted
    obtain ⟨c, run, rfl⟩ := List.exists_cons_of_ne_nil nonempty
    obtain ⟨blank, inside⟩ := List.forall_mem_cons.mp inside
    simp only [List.cons_append, lexeme?, blank, ↓reduceIte, Option.some.injEq]
    exact runOf_eq_iff.mpr ⟨rfl, run, rfl, rfl, inside, ended⟩
  | atom =>
    obtain ⟨⟨c, first, start⟩, inside⟩ := admitted
    obtain ⟨run, rfl⟩ := List.head?_eq_some_iff.mp first
    obtain ⟨-, inside⟩ := List.forall_mem_cons.mp inside
    have blank := not_isBlank_of_isAtomStart start
    simp only [List.cons_append, lexeme?, blank, start, Bool.false_eq_true, ↓reduceIte,
      Option.some.injEq]
    exact runOf_eq_iff.mpr ⟨rfl, run, rfl, rfl, inside, ended⟩
  | string =>
    obtain ⟨body, free, rfl⟩ := admitted
    have text : '"' :: body ++ ['"'] ++ rest = '"' :: (body ++ '"' :: rest) := by simp
    rw [text, lexeme?, if_neg (by decide), if_neg (by decide), if_pos rfl, Option.some.injEq]
    exact stringOf_eq_iff.mpr (.inl ⟨rfl, body, free, rfl, rfl⟩)
  | unterminated =>
    obtain ⟨body, free, rfl⟩ := admitted
    obtain rfl : rest = [] := by simpa [Kind.GoesOn] using ended
    rw [List.append_nil, lexeme?, if_neg (by decide), if_neg (by decide), if_pos rfl,
      Option.some.injEq]
    exact stringOf_eq_iff.mpr (.inr ⟨rfl, free, rfl, rfl⟩)
  | number =>
    obtain ⟨nonempty, inside⟩ := admitted
    obtain ⟨c, run, rfl⟩ := List.exists_cons_of_ne_nil nonempty
    obtain ⟨digit, inside⟩ := List.forall_mem_cons.mp inside
    obtain ⟨blank, start, quote⟩ := only_number_of_isDigit digit
    simp only [List.cons_append, lexeme?, blank, start, quote, digit, Bool.false_eq_true,
      ↓reduceIte, Option.some.injEq]
    exact runOf_eq_iff.mpr ⟨rfl, run, rfl, rfl, inside, ended⟩
  | quote | opening | closing | dot =>
    obtain rfl := admitted
    rfl
  | unknown =>
    obtain ⟨c, rfl, blank, start, quote, digit, other⟩ := admitted
    simp only [List.mem_cons, List.not_mem_nil, or_false, not_or] at other
    simp [lexeme?, blank, start, quote, digit, Kind.ofPunctuation, other]
  | eof => exact admitted.elim

/-- The first token of a text is the one that its class admits and that does not go on. -/
theorem lexeme?_eq_some_iff {text lexeme rest : List Char} {kind : Kind} :
    lexeme? text = some (kind, lexeme, rest) ↔
      text = lexeme ++ rest ∧ kind.Admits lexeme ∧ ¬ kind.GoesOn rest := by
  constructor
  · exact fun found => ⟨(lexeme?_append found).symm, admits_of_lexeme? found⟩
  · rintro ⟨rfl, admitted, ended⟩
    exact lexeme?_of_admits admitted ended

/-- One character decides the kind of a token, except whether a string is closed. -/
theorem kind_of_lexeme?_cons {c : Char} {text other lexeme second rest left : List Char}
    {kind found : Kind} (one : lexeme? (c :: text) = some (kind, lexeme, rest))
    (two : lexeme? (c :: other) = some (found, second, left)) :
    kind = found ∨ kind ∈ [.string, .unterminated] ∧ found ∈ [.string, .unterminated] := by
  simp only [lexeme?, Option.some.injEq] at one two
  -- behind a double quote only does the rest of the text matter
  by_cases string : isBlank c = false ∧ isAtomStart c = false ∧ c = '"'
  · obtain ⟨blank, start, quote⟩ := string
    rw [if_neg (by simp [blank]), if_neg (by simp [start]), if_pos quote, stringOf_eq_iff]
      at one two
    right
    constructor
    · rcases one with ⟨rfl, -⟩ | ⟨rfl, -⟩ <;> simp
    · rcases two with ⟨rfl, -⟩ | ⟨rfl, -⟩ <;> simp
  · left
    simp only [runOf] at one two
    split_ifs at one two <;> simp_all

/-! ## Rows of tokens -/

def textOf (tokens : List Token) : List Char :=
  tokens.flatMap Token.text

@[simp] theorem textOf_nil : textOf [] = [] := rfl

@[simp] theorem textOf_cons (token : Token) (tokens : List Token) :
    textOf (token :: tokens) = token.text ++ textOf tokens := rfl

@[simp] theorem textOf_append (tokens others : List Token) :
    textOf (tokens ++ others) = textOf tokens ++ textOf others :=
  List.flatMap_append

@[simp] theorem allFrom_nil (pos : Nat) : allFrom pos [] = [] := by
  rw [allFrom]
  simp [next?, lexeme?]

theorem allFrom_of_next? {pos : Nat} {text rest : List Char} {token : Token}
    (found : next? pos text = some (token, rest)) :
    allFrom pos text = token :: allFrom (pos + token.text.length) rest := by
  rw [allFrom]
  split
  case h_1 ended => simp [found] at ended
  case h_2 first after other =>
    rw [found] at other
    cases other
    rfl

theorem allFrom_of_lexeme? {text lexeme rest : List Char} {kind : Kind} (pos : Nat)
    (found : lexeme? text = some (kind, lexeme, rest)) :
    allFrom pos text = ⟨kind, lexeme, pos⟩ :: allFrom (pos + lexeme.length) rest :=
  allFrom_of_next? (by simp [next?, found])

theorem allFrom_of_admits {lexeme : List Char} {kind : Kind} (pos : Nat) (rest : List Char)
    (admitted : kind.Admits lexeme) (ended : ¬ kind.GoesOn rest) :
    allFrom pos (lexeme ++ rest) = ⟨kind, lexeme, pos⟩ :: allFrom (pos + lexeme.length) rest :=
  allFrom_of_lexeme? pos (lexeme?_of_admits admitted ended)

theorem allFrom_single {lexeme : List Char} {kind : Kind} (pos : Nat)
    (admitted : kind.Admits lexeme) : allFrom pos lexeme = [⟨kind, lexeme, pos⟩] := by
  have row := allFrom_of_admits pos [] admitted kind.not_goesOn_nil
  rwa [List.append_nil, allFrom_nil] at row

theorem allFrom_mark {c : Char} (mark : c ∈ ['\'', '(', ')', '.']) (pos : Nat)
    (rest : List Char) :
    allFrom pos (c :: rest) = ⟨.ofPunctuation c, [c], pos⟩ :: allFrom (pos + 1) rest := by
  simp only [List.mem_cons, List.not_mem_nil, or_false] at mark
  rcases mark with rfl | rfl | rfl | rfl <;> exact allFrom_of_lexeme? pos rfl

theorem allFrom_induction {P : Nat → List Char → Prop} (nil : ∀ pos, P pos [])
    (cons : ∀ pos text kind lexeme rest, lexeme? text = some (kind, lexeme, rest) →
      P (pos + lexeme.length) rest → P pos text) (pos : Nat) (text : List Char) : P pos text := by
  induction pos, text using allFrom.induct with
  | case1 pos text ended =>
    cases text with
    | nil => exact nil pos
    | cons c text => simp [next?, lexeme?] at ended
  | case2 pos text token rest found ih =>
    simp only [next?, Option.map_eq_some_iff] at found
    obtain ⟨⟨kind, lexeme, after⟩, seen, same⟩ := found
    cases same
    exact cons pos text kind lexeme after seen ih

@[simp] theorem textOf_allFrom (pos : Nat) (text : List Char) :
    textOf (allFrom pos text) = text := by
  induction pos, text using allFrom_induction with
  | nil => simp
  | cons pos text kind lexeme rest found ih =>
    rw [allFrom_of_lexeme? pos found, textOf_cons, ih]
    exact lexeme?_append found

theorem eq_append_of_all {source before : List Char} {more : List Token}
    (row : all source = all before ++ more) : source = before ++ textOf more := by
  have texts := congrArg textOf row
  simpa [all] using texts

theorem length_allFrom_le (pos : Nat) (text : List Char) :
    (allFrom pos text).length ≤ text.length := by
  induction pos, text using allFrom_induction with
  | nil => simp
  | cons pos text kind lexeme rest found ih =>
    have nonempty := List.length_pos_iff.mpr (lexeme?_ne_nil found)
    rw [allFrom_of_lexeme? pos found, ← lexeme?_append found, List.length_cons, List.length_append]
    omega

theorem allFrom_eq_cons {pos : Nat} {text : List Char} {token : Token} {others : List Token}
    (split : allFrom pos text = token :: others) :
    lexeme? text = some (token.kind, token.text, textOf others) ∧ token.pos = pos ∧
      others = allFrom (pos + token.text.length) (textOf others) := by
  induction pos, text using allFrom_induction with
  | nil => simp at split
  | cons pos text kind lexeme rest found _ =>
    rw [allFrom_of_lexeme? pos found, List.cons.injEq] at split
    obtain ⟨rfl, rfl⟩ := split
    simp [found]

/-- What is left of a row of tokens behind its first ones is the row of the text that is left. -/
theorem allFrom_suffix {pos : Nat} {text : List Char} {tokens others : List Token}
    (split : allFrom pos text = tokens ++ others) :
    others = allFrom (pos + (textOf tokens).length) (textOf others) := by
  induction tokens generalizing pos text with
  | nil =>
    rw [List.nil_append] at split
    simp [← split]
  | cons token tokens ih =>
    rw [List.cons_append] at split
    obtain ⟨-, -, rest⟩ := allFrom_eq_cons split
    simpa [Nat.add_assoc] using ih rest.symm

theorem lexeme?_of_split {pos : Nat} {text : List Char} {tokens others : List Token} {token : Token}
    (split : allFrom pos text = tokens ++ token :: others) :
    lexeme? (token.text ++ textOf others) = some (token.kind, token.text, textOf others) ∧
      token.pos = pos + (textOf tokens).length := by
  obtain ⟨found, place, -⟩ := allFrom_eq_cons (allFrom_suffix split).symm
  exact ⟨found, place⟩

theorem admits_of_mem {pos : Nat} {text : List Char} {token : Token}
    (member : token ∈ allFrom pos text) : token.kind.Admits token.text := by
  obtain ⟨tokens, others, split⟩ := List.append_of_mem member
  exact (admits_of_lexeme? (lexeme?_of_split split).1).1

theorem not_goesOn_of_split {pos : Nat} {text : List Char} {tokens others : List Token}
    {token : Token} (split : allFrom pos text = tokens ++ token :: others) :
    ¬ token.kind.GoesOn (textOf others) :=
  (lexeme?_eq_some_iff.mp (lexeme?_of_split split).1).2.2

/-- Rows are joined where the last token of the first does not go on into the second. -/
theorem allFrom_append {pos : Nat} {text rest : List Char}
    (ended : ∀ last ∈ (allFrom pos text).getLast?, ¬ last.kind.GoesOn rest) :
    allFrom pos (text ++ rest) = allFrom pos text ++ allFrom (pos + text.length) rest := by
  -- tokens before the last one are followed by text of the row, and so end where they did
  induction pos, text using allFrom_induction with
  | nil => simp
  | cons pos text kind lexeme after found ih =>
    obtain ⟨rfl, admitted, stopped⟩ := lexeme?_eq_some_iff.mp found
    rw [allFrom_of_lexeme? pos found] at ended ⊢
    have longer : ¬ kind.GoesOn (after ++ rest) := by
      refine Kind.not_goesOn_append stopped ?_
      rintro rfl
      exact ended ⟨kind, lexeme, pos⟩ (by simp)
    have later : ∀ last ∈ (allFrom (pos + lexeme.length) after).getLast?,
        ¬ last.kind.GoesOn rest := by
      intro last member
      exact ended last (by rw [List.getLast?_cons, Option.mem_def.mp member]; rfl)
    rw [List.append_assoc, allFrom_of_lexeme? pos (lexeme?_of_admits admitted longer), ih later]
    simp [Nat.add_assoc]

/-- Where a row can be cut, it can be cut for any text behind the same character. -/
theorem allFrom_append_cons {pos : Nat} {before rest : List Char} {c : Char} {more : List Token}
    (split : allFrom pos (before ++ c :: rest) = allFrom pos before ++ more) (text : List Char) :
    allFrom pos (before ++ c :: text) =
      allFrom pos before ++ allFrom (pos + before.length) (c :: text) := by
  have tail : textOf more = c :: rest := by
    have whole := congrArg textOf split
    simpa using whole.symm
  refine allFrom_append fun last member goes => ?_
  obtain ⟨front, row⟩ := List.getLast?_eq_some_iff.mp member
  rw [row, List.append_assoc, List.singleton_append] at split
  have ended := not_goesOn_of_split split
  rw [tail] at ended
  exact ended ((last.kind.goesOn_cons_iff c text rest).mp goes)

theorem allFrom_textOf {pos : Nat} {text : List Char} {tokens others : List Token}
    (split : allFrom pos text = tokens ++ others) : allFrom pos (textOf tokens) = tokens := by
  induction tokens generalizing pos text with
  | nil => simp
  | cons token tokens ih =>
    rw [List.cons_append] at split
    obtain ⟨found, rfl, rest⟩ := allFrom_eq_cons split
    obtain ⟨-, admitted, stopped⟩ := lexeme?_eq_some_iff.mp found
    rw [textOf_append] at stopped
    have first := lexeme?_of_admits admitted (Kind.not_goesOn_front stopped)
    rw [textOf_cons, allFrom_of_lexeme? _ first, ih rest.symm]

end Token

end Lisplet
