import Mathlib.Data.List.Induction
import Lisplet.Proofs.Expectations

/-! Beginnings of expressions. A text whose tokens reach a row of points can be continued with any
token that may come next at the first of them, and can be completed. -/

set_option autoImplicit false

namespace Lisplet

open Text (isBlank)

namespace Point

def Nested (points : List Point) : Prop :=
  ∀ point ∈ points.tail, point = .after ∨ point = .last

/-- Where a reader can stand behind a token of a kind that could take in more text. -/
def Settles : Token.Kind → Point → Prop
  | .space, point => point = .next ∨ point = .expression
  | .atom, point | .number, point => point = .after ∨ point = .last
  | .unterminated, point => point = .string
  | _, point => point ≠ .string

theorem follow_cases {point : Point} {kind : Token.Kind} {followed : List Point}
    (found : point.follow kind = some followed) :
    followed = [] ∧ (∀ other, other = Point.after ∨ other = .last → Settles kind other) ∨
      ∃ top rest, followed = top :: rest ∧ Settles kind top ∧ Nested followed := by
  cases point <;> cases kind <;> simp [follow, begun] at found <;> subst found <;>
    simp [Settles, Nested]

theorem follow_string (point : Point) :
    (point.follow .string).isSome = (point.follow .unterminated).isSome := by
  cases point <;> rfl

theorem string_notMem_follow {point : Point} {kind : Token.Kind} {followed : List Point}
    (found : point.follow kind = some followed) (closed : kind ≠ .unterminated) :
    .string ∉ followed := by
  cases point <;> cases kind <;> simp [follow, begun] at found closed <;> subst found <;> simp

theorem step_nested {points result : List Point} {kind : Token.Kind} (nested : Nested points)
    (stepped : step points kind = some result) :
    Nested result ∧ ∀ point ∈ result.head?, Settles kind point := by
  cases points with
  | nil => cases stepped
  | cons point under =>
    have below : ∀ other ∈ under, other = .after ∨ other = .last := nested
    obtain ⟨followed, found, rfl⟩ := Option.map_eq_some_iff.mp stepped
    obtain ⟨rfl, settles⟩ | ⟨top, rest, rfl, settles, inner⟩ := follow_cases found
    · exact ⟨fun other member => below other (List.mem_of_mem_tail member),
        fun other member => settles other (below other (List.mem_of_mem_head? member))⟩
    · refine ⟨List.forall_mem_append.mpr ⟨inner, below⟩, ?_⟩
      intro other member
      obtain rfl : top = other := by simpa using member
      exact settles

theorem run_nested {points result : List Point} {tokens : List Token} (nested : Nested points)
    (ran : run points tokens = some result) : Nested result := by
  induction tokens generalizing points with
  | nil =>
    cases ran
    exact nested
  | cons token tokens ih =>
    rw [run_cons, Option.bind_eq_some_iff] at ran
    obtain ⟨middle, stepped, ran⟩ := ran
    exact ih (step_nested nested stepped).1 ran

end Point

namespace Token.Kind.Admits

variable {kind : Token.Kind} {text : List Char}

theorem not_startsIn_isBlank (admitted : kind.Admits text) (other : kind ≠ .space) :
    ¬ StartsIn isBlank text := by
  cases kind with
  | space => contradiction
  | atom =>
    obtain ⟨⟨c, first, start⟩, -⟩ := admitted
    rintro ⟨d, second, blank⟩
    obtain rfl : c = d := Option.some.inj (first.symm.trans second)
    simp [not_isBlank_of_isAtomStart start] at blank
  | number =>
    rintro ⟨c, first, blank⟩
    have digit := admitted.2 c (List.mem_of_mem_head? first)
    simp [not_isDigit_of_isBlank blank] at digit
  | string | unterminated =>
    obtain ⟨body, -, rfl⟩ := admitted
    simp
    rfl
  | quote | opening | closing | dot =>
    obtain rfl := admitted
    simp
    rfl
  | unknown =>
    obtain ⟨c, rfl, blank, -⟩ := admitted
    simp [blank]
  | eof => exact admitted.elim

theorem not_goesOn_closed {last : Token.Kind} (admitted : kind.Admits text)
    (ends : kind = .space ∨ kind = .closing) (closed : last = .atom ∨ last = .number) :
    ¬ last.GoesOn text := by
  have outside : ∀ c ∈ text.head?, isAtomChar c = false ∧ c.isDigit = false := by
    intro c first
    rcases ends with rfl | rfl
    · have blank := admitted.2 c (List.mem_of_mem_head? first)
      exact ⟨isAtomChar_of_isBlank blank, not_isDigit_of_isBlank blank⟩
    · obtain rfl := admitted
      cases first
      exact ⟨rfl, rfl⟩
  rcases closed with rfl | rfl
  · rintro ⟨c, first, inside⟩
    simp [outside c first] at inside
  · rintro ⟨c, first, inside⟩
    simp [outside c first] at inside

end Token.Kind.Admits

theorem Point.Settles.not_goesOn {last kind : Token.Kind} {point : Point} {followed : List Point}
    {text : List Char} (settles : Settles last point) (found : point.follow kind = some followed)
    (admitted : kind.Admits text) : ¬ last.GoesOn text := by
  cases last with
  | space =>
    refine admitted.not_startsIn_isBlank ?_
    rintro rfl
    rcases settles with rfl | rfl <;> simp [follow, begun] at found
  | atom | number =>
    refine admitted.not_goesOn_closed ?_ (by simp)
    rcases settles with rfl | rfl <;> cases kind <;> simp_all [follow]
  | unterminated =>
    obtain rfl := settles
    simp [follow] at found
  | _ => exact id

/-- Where a token cannot follow the text before it, neither can one that starts with the same
character. -/
theorem Point.exists_stuck_again {before rest : List Char} {c : Char} {next : Token}
    {more : List Token} {point : Point}
    (split : Token.all (before ++ c :: rest) = Token.all before ++ next :: more)
    (stops : point.follow next.kind = none) (text : List Char) :
    ∃ again later, Token.all (before ++ c :: text) = Token.all before ++ again :: later ∧
      point.follow again.kind = none := by
  have tail : next.text ++ Token.textOf more = c :: rest := by
    have whole := congrArg Token.textOf split
    simpa [Token.all] using whole.symm
  have found := (Token.lexeme?_of_split split).1
  rw [tail] at found
  -- the tokens before it stay as they are, and the one in its place is of its kind
  have joined : Token.all (before ++ c :: text) = _ := Token.allFrom_append_cons split text
  obtain ⟨⟨kind, lexeme, left⟩, again⟩ : ∃ first, Token.lexeme? (c :: text) = some first := ⟨_, rfl⟩
  rw [Token.allFrom_of_lexeme? _ again, ← Token.all, Nat.zero_add] at joined
  refine ⟨_, _, joined, ?_⟩
  rcases Token.kind_of_lexeme?_cons found again with same | ⟨one, two⟩
  · rwa [same] at stops
  · have both := Point.follow_string point
    simp only [List.mem_cons, List.not_mem_nil, or_false] at one two
    rcases one with one | one <;> rcases two with two | two <;> simp_all

namespace Reaches

variable {before : List Char} {row : List Point}

theorem nested {tokens : List Token} (reached : Reaches [.expression] tokens row) :
    Point.Nested row :=
  Point.run_nested (by simp [Point.Nested]) reached.ran

theorem string_notMem {tokens : List Token} {point : Point} {under : List Point}
    (reached : Reaches [.expression] tokens (point :: under)) : .string ∉ under := by
  intro member
  have settled := reached.nested .string member
  simp at settled

theorem exists_before {front : List Token} {last : Token}
    (reached : Reaches [.expression] (front ++ [last]) row) :
    ∃ point under followed, Reaches [.expression] front (point :: under) ∧
      point.follow last.kind = some followed ∧ row = followed ++ under := by
  have ran := reached.ran
  rw [Point.run_append, Option.bind_eq_some_iff] at ran
  obtain ⟨middle, there, ran⟩ := ran
  rw [Point.run_cons, Option.bind_eq_some_iff] at ran
  obtain ⟨result, stepped, ended⟩ := ran
  cases ended
  cases middle with
  | nil => cases stepped
  | cons point under =>
    obtain ⟨followed, found, same⟩ := Option.map_eq_some_iff.mp stepped
    exact ⟨point, under, followed, ⟨(short_append.mp reached.short).1, there⟩, found, same.symm⟩

/-- The last token that was consumed settles where the reader stands. -/
theorem settles {front : List Token} {last : Token} {point : Point} {under : List Point}
    (reached : Reaches [.expression] (front ++ [last]) (point :: under)) :
    Point.Settles last.kind point := by
  obtain ⟨other, below, followed, there, found, same⟩ := reached.exists_before
  have stepped : Point.step (other :: below) last.kind = some (point :: under) := by
    rw [Point.step, found, same]
    rfl
  exact (Point.step_nested there.nested stepped).2 point rfl

theorem eq_string_iff {tokens : List Token} {point : Point} {under : List Point}
    (reached : Reaches [.expression] tokens (point :: under)) :
    point = .string ↔ ∃ token ∈ tokens, token.kind = .unterminated := by
  induction tokens using List.reverseRecOn generalizing point under with
  | nil =>
    cases reached.ran
    simp
  | append_singleton front last ih =>
    have settled := reached.settles
    constructor
    · rintro rfl
      refine ⟨last, by simp, ?_⟩
      cases kind : last.kind <;> simp_all [Point.Settles]
    · rintro ⟨token, member, kind⟩
      rcases List.mem_append.mp member with before | here
      · -- nothing follows inside a string
        obtain ⟨other, below, followed, there, found, -⟩ := reached.exists_before
        obtain rfl := (ih there).mpr ⟨token, before, kind⟩
        simp [Point.follow] at found
      · obtain rfl := List.mem_singleton.mp here
        rwa [kind] at settled

theorem append_text {point : Point} {under followed : List Point} {kind : Token.Kind}
    {text : List Char} (reached : Reaches [.expression] (Token.all before) (point :: under))
    (found : point.follow kind = some followed) (admitted : kind.Admits text)
    (short : kind = .number → text.length ≤ digitLimit) :
    Token.all (before ++ text) = Token.all before ++ [⟨kind, text, before.length⟩] ∧
      Reaches [.expression] (Token.all (before ++ text)) (followed ++ under) := by
  have row : Token.all (before ++ text) = Token.all before ++ [⟨kind, text, before.length⟩] := by
    rw [Token.all, Token.allFrom_append, Nat.zero_add, Token.allFrom_single _ admitted]
    · rfl
    · intro last member
      obtain ⟨front, split⟩ := List.getLast?_eq_some_iff.mp member
      rw [Token.all, split] at reached
      exact reached.settles.not_goesOn found admitted
  refine ⟨row, row ▸ reached.trans ⟨?_, ?_⟩⟩
  · simpa [Short] using short
  · simp [Point.step, found]

/-- A token that cannot follow cannot be mended behind its first character. -/
theorem not_prefix_of_stuck {point : Point} {under : List Point} {c : Char}
    {rest : List Char} {next : Token} {more tokens : List Token}
    (reached : Reaches [.expression] (Token.all before) (point :: under))
    (split : Token.all (before ++ c :: rest) = Token.all before ++ next :: more)
    (stops : point.follow next.kind = none) (complete : Reaches [.expression] tokens [])
    (text : List Char) : ¬ tokens <+: Token.all (before ++ c :: text) := by
  obtain ⟨again, later, joined, still⟩ := Point.exists_stuck_again split stops text
  rintro ⟨others, whole⟩
  obtain ⟨token, left, rfl, follows⟩ :=
    complete.exists_follow reached (whole.trans joined)
  obtain rfl : token = again := by
    rw [joined, List.append_assoc, List.append_right_inj] at whole
    exact (List.cons.inj whole).1
  simp [still] at follows

end Reaches

/-! ## Completions -/

namespace Point

def distance : Point → Nat
  | .next => 2
  | .gap => 3
  | _ => 1

def rowDistance : List Point → Nat
  | [] => 0
  | point :: under => point.distance + rowDistance under

theorem rowDistance_append (points others : List Point) :
    rowDistance (points ++ others) = rowDistance points + rowDistance others := by
  induction points with
  | nil => simp [rowDistance]
  | cons point points ih => simp [rowDistance, ih, Nat.add_assoc]

theorem exists_nearer {point : Point} (closed : point ≠ .string) :
    ∃ kind text followed, point.follow kind = some followed ∧ kind.Admits text ∧
      text.length = 1 ∧ .string ∉ followed ∧ rowDistance followed < point.distance := by
  cases point with
  | expression => exact ⟨.atom, ['a'], [], rfl, ⟨by simp; rfl, by simp; rfl⟩, rfl, by decide⟩
  | first | after | last => exact ⟨.closing, [')'], [], rfl, rfl, rfl, by decide⟩
  | next => exact ⟨.atom, ['a'], [.after], rfl, ⟨by simp; rfl, by simp; rfl⟩, rfl, by decide⟩
  | gap =>
    exact ⟨.space, [' '], [.expression, .last], rfl, ⟨by simp, by simp; rfl⟩, rfl, by decide⟩
  | string => contradiction

end Point

/-- Outside of strings, every beginning of an expression can be completed. -/
theorem Reaches.exists_completion {before : List Char} {row : List Point}
    (reached : Reaches [.expression] (Token.all before) row) (closed : .string ∉ row) :
    ∃ text, Token.all before <+: Token.all (before ++ text) ∧
      Reaches [.expression] (Token.all (before ++ text)) [] := by
  -- each token that is added brings the row nearer to its end
  induction measure : Point.rowDistance row using Nat.strong_induction_on
    generalizing before row with
  | _ distance ih =>
    cases row with
    | nil => exact ⟨[], by simp, by simpa using reached⟩
    | cons point under =>
      obtain ⟨outside, below⟩ := not_or.mp (mt List.mem_cons.mpr closed)
      obtain ⟨kind, text, followed, found, admitted, length, inside, less⟩ :=
        Point.exists_nearer (Ne.symm outside)
      obtain ⟨joined, longer⟩ :=
        reached.append_text found admitted fun _ => length ▸ (by decide : 1 ≤ digitLimit)
      have smaller : Point.rowDistance (followed ++ under) < distance := by
        rw [← measure, Point.rowDistance_append, Point.rowDistance]
        omega
      obtain ⟨more, kept, complete⟩ :=
        ih _ smaller longer (by simp [inside, below]) rfl
      rw [List.append_assoc] at kept complete
      exact ⟨text ++ more, .trans ⟨_, joined.symm⟩ kept, complete⟩

theorem Reaches.exists_opened {before : List Char} {under : List Point}
    (reached : Reaches [.expression] (Token.all before) (.string :: under)) :
    ∃ front body point below, before = front ++ '"' :: body ∧ '"' ∉ body ∧
      Reaches [.expression] (Token.all front) (point :: below) ∧
      (point.follow .string).isSome = true := by
  -- the string that nothing closes is the last token
  rcases List.eq_nil_or_concat (Token.all before) with empty | ⟨front, last, row⟩
  · rw [empty] at reached
    cases reached.ran
  rw [List.concat_eq_append] at row
  have member : last ∈ Token.all before := by simp [row]
  have admitted := Token.admits_of_mem member
  rw [row] at reached
  have kind : last.kind = .unterminated := by
    have settled := reached.settles
    cases kind : last.kind <;> simp_all [Point.Settles]
  obtain ⟨point, below, followed, there, found, -⟩ := reached.exists_before
  rw [kind] at admitted found
  obtain ⟨body, free, string⟩ := admitted
  have cut : Token.all (Token.textOf front) = front := Token.allFrom_textOf row
  refine ⟨Token.textOf front, body, point, below, ?_, free, cut.symm ▸ there, ?_⟩
  · rw [← Token.textOf_allFrom 0 before, ← Token.all, row]
    simp [string]
  · rw [Point.follow_string, found]
    rfl

theorem Reaches.exists_closing {before : List Char} {under : List Point}
    (reached : Reaches [.expression] (Token.all before) (.string :: under)) :
    ∃ text, Reaches [.expression] (Token.all (before ++ '"' :: text)) [] := by
  obtain ⟨front, body, point, below, rfl, free, there, follows⟩ := reached.exists_opened
  obtain ⟨followed, found⟩ := Option.isSome_iff_exists.mp follows
  have admitted : Token.Kind.string.Admits ('"' :: body ++ ['"']) := ⟨body, free, rfl⟩
  obtain ⟨-, closed⟩ := there.append_text found admitted nofun
  have outside : .string ∉ followed ++ below := by
    simp [Point.string_notMem_follow found nofun, there.string_notMem]
  obtain ⟨text, -, complete⟩ := closed.exists_completion outside
  exact ⟨text, by simpa using complete⟩

end Lisplet
