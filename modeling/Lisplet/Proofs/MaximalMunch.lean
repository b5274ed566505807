import Lisplet.Proofs.Tokenization

/-! Rows of tokens, said without running over the text: there is one row only whose tokens cover the
text, each in the class of its kind and as long as it can be. It is found as well by taking atoms
with a wider class of letters and cutting them off where they end, exactly if the characters that
the class has besides letters start no other token. -/

set_option autoImplicit false

namespace Lisplet

open Text (isBlank isLetter)

/-- The tokens are texts of the classes of their kinds that cover the source, each at its place, and
none of them goes on into what follows it. -/
structure Tokenizes (source : List Char) (tokens : List Token) : Prop where
  whole : Token.textOf tokens = source
  nonempty : ∀ token ∈ tokens, token.text ≠ []
  place : ∀ before token after, tokens = before ++ token :: after →
    token.pos = (Token.textOf before).length
  inClass : ∀ token ∈ tokens, token.kind.Admits token.text
  maximal : ∀ before token after, tokens = before ++ token :: after →
    ¬ token.kind.GoesOn (Token.textOf after)

namespace Token

theorem tokenizes_all (source : List Char) : Tokenizes source (all source) where
  whole := textOf_allFrom 0 source
  nonempty := by
    intro token member
    obtain ⟨before, after, split⟩ := List.append_of_mem member
    exact lexeme?_ne_nil (lexeme?_of_split split).1
  place := by
    intro before token after split
    simpa using (lexeme?_of_split split).2
  inClass := fun _ member => admits_of_mem member
  maximal := fun _ _ _ split => not_goesOn_of_split split

theorem allFrom_textOf_of_maximal {pos : Nat} {tokens : List Token}
    (place : ∀ before token after, tokens = before ++ token :: after →
      token.pos = pos + (textOf before).length)
    (inClass : ∀ token ∈ tokens, token.kind.Admits token.text)
    (maximal : ∀ before token after, tokens = before ++ token :: after →
      ¬ token.kind.GoesOn (textOf after)) :
    allFrom pos (textOf tokens) = tokens := by
  induction tokens generalizing pos with
  | nil => simp
  | cons token tokens ih =>
    have here : token.pos = pos := place [] token tokens rfl
    have later : allFrom (pos + token.text.length) (textOf tokens) = tokens := by
      apply ih
      · intro before other after split
        have found := place (token :: before) other after (by rw [split]; rfl)
        rw [textOf_cons, List.length_append] at found
        omega
      · exact fun other member => inClass other (List.mem_cons_of_mem token member)
      · exact fun before other after split =>
          maximal (token :: before) other after (by rw [split]; rfl)
    rw [textOf_cons, allFrom_of_admits pos (textOf tokens) (inClass token (by simp))
      (maximal [] token tokens rfl), later, ← here]

theorem eq_all_of_tokenizes {source : List Char} {tokens : List Token}
    (tokenizes : Tokenizes source tokens) : tokens = all source := by
  rw [← tokenizes.whole, all]
  refine (allFrom_textOf_of_maximal ?_ tokenizes.inClass tokenizes.maximal).symm
  simpa using tokenizes.place

/-! ## Wider classes of letters -/

/-- An atom that is taken with a class that may have more than the letters, and cut off where it
ends. If nothing is left then its first character is unknown. -/
def cutAtom (wide : Char → Bool) (first : Char) (rest : List Char) :
    Kind × List Char × List Char :=
  let taken := first :: rest.takeWhile fun c => wide c || c.isDigit || isSymbol c
  let kept := taken.takeWhile isAtomChar
  if kept = [] then (.unknown, [first], rest)
  else (.atom, kept, (first :: rest).drop kept.length)

def coarseLexeme? (wide : Char → Bool) : List Char → Option (Kind × List Char × List Char)
  | [] => none
  | c :: rest => some <|
    if isBlank c then runOf .space isBlank c rest
    else if wide c || isSymbol c then cutAtom wide c rest
    else if c = '"' then stringOf rest
    else if c.isDigit then runOf .number Char.isDigit c rest
    else (.ofPunctuation c, [c], rest)

theorem length_runOf_lt {kind found : Kind} {belongs : Char → Bool} {c : Char}
    {text lexeme rest : List Char} (run : runOf kind belongs c text = (found, lexeme, rest)) :
    rest.length < (c :: text).length := by
  obtain ⟨-, run, -, rfl, -⟩ := runOf_eq_iff.mp run
  rw [List.length_cons, List.length_append]
  omega

theorem length_stringOf_lt {kind : Kind} {c : Char} {text lexeme rest : List Char}
    (string : stringOf text = (kind, lexeme, rest)) : rest.length < (c :: text).length := by
  rcases stringOf_eq_iff.mp string with ⟨-, body, -, -, rfl⟩ | ⟨-, -, -, rfl⟩
  · rw [List.length_cons, List.length_append, List.length_cons]
    omega
  · simp

theorem length_cutAtom_lt {wide : Char → Bool} {kind : Kind} {c : Char}
    {text lexeme rest : List Char} (cut : cutAtom wide c text = (kind, lexeme, rest)) :
    rest.length < (c :: text).length := by
  unfold cutAtom at cut
  dsimp only at cut
  split at cut
  case isTrue =>
    cases cut
    simp
  case isFalse nonempty =>
    cases cut
    have some := List.length_pos_iff.mpr nonempty
    rw [List.length_drop, List.length_cons]
    omega

theorem length_coarse_lt {wide : Char → Bool} {text lexeme rest : List Char} {kind : Kind}
    (found : coarseLexeme? wide text = some (kind, lexeme, rest)) : rest.length < text.length := by
  cases text with
  | nil => simp [coarseLexeme?] at found
  | cons c text =>
    simp only [coarseLexeme?, Option.some.injEq] at found
    split_ifs at found
    · exact length_runOf_lt found
    · exact length_cutAtom_lt found
    · exact length_stringOf_lt found
    · exact length_runOf_lt found
    · cases found
      simp

def coarseFrom (wide : Char → Bool) (pos : Nat) (text : List Char) : List Token :=
  match _found : coarseLexeme? wide text with
  | none => []
  | some (kind, lexeme, rest) => ⟨kind, lexeme, pos⟩ :: coarseFrom wide (pos + lexeme.length) rest
termination_by text.length
decreasing_by exact length_coarse_lt _found

def coarse (wide : Char → Bool) (text : List Char) : List Token :=
  coarseFrom wide 0 text

/-- The class has all letters, and besides them only characters that start no other token. -/
structure Widens (wide : Char → Bool) : Prop where
  letters : ∀ c, isLetter c = true → wide c = true
  others : ∀ c, wide c = true →
    isBlank c = true ∨ isAtomStart c = true ∨ Kind.unknown.Admits [c]

theorem isLetter_of_isSymbol {c : Char} (symbol : isSymbol c = true) : isLetter c = false := by
  have checked : symbolChars.all (fun c => !isLetter c) = true := by decide +kernel
  simpa using List.all_eq_true.mp checked c (by simpa [isSymbol] using symbol)

theorem cutAtom_of_isAtomStart {wide : Char → Bool}
    (letters : ∀ c, isLetter c = true → wide c = true) {c : Char} (start : isAtomStart c = true)
    (rest : List Char) : cutAtom wide c rest = runOf .atom isAtomChar c rest := by
  have first : isAtomChar c = true := by simp [isAtomChar, start]
  have within : ∀ d, isAtomChar d = true → (wide d || d.isDigit || isSymbol d) = true := by
    intro d inside
    simp only [isAtomChar, isAtomStart, Bool.or_eq_true] at inside ⊢
    rcases inside with (letter | symbol) | digit
    · exact .inl (.inl (letters d letter))
    · exact .inr symbol
    · exact .inl (.inr digit)
  have both : (fun d => decide (isAtomChar d = true ∧ (wide d || d.isDigit || isSymbol d) = true)) =
      isAtomChar := by
    funext d
    cases inside : isAtomChar d with
    | false => simp
    | true => simpa using within d inside
  have kept : (c :: rest.takeWhile fun d => wide d || d.isDigit || isSymbol d).takeWhile isAtomChar
      = c :: rest.takeWhile isAtomChar := by
    rw [List.takeWhile_cons_of_pos first, List.takeWhile_takeWhile, both]
  have left : rest.drop (rest.takeWhile isAtomChar).length = rest.dropWhile isAtomChar := by
    have dropped := @List.drop_left _ (rest.takeWhile isAtomChar) (rest.dropWhile isAtomChar)
    rwa [List.takeWhile_append_dropWhile] at dropped
  simp [cutAtom, runOf, kept, left]

theorem cutAtom_of_not_isAtomChar {wide : Char → Bool} {c : Char} (odd : isAtomChar c = false)
    (rest : List Char) : cutAtom wide c rest = (.unknown, [c], rest) := by
  simp [cutAtom, odd]

theorem Widens.coarseLexeme?_eq {wide : Char → Bool} (widens : Widens wide) (text : List Char) :
    coarseLexeme? wide text = lexeme? text := by
  cases text with
  | nil => rfl
  | cons c rest =>
    by_cases blank : isBlank c = true
    · simp [coarseLexeme?, lexeme?, blank]
    by_cases start : isAtomStart c = true
    · have begins : (wide c || isSymbol c) = true := by
        simp only [isAtomStart, Bool.or_eq_true] at start ⊢
        exact start.imp_left (widens.letters c)
      simp [coarseLexeme?, lexeme?, blank, start, begins,
        cutAtom_of_isAtomStart widens.letters start]
    have symbol : isSymbol c = false := by
      simp only [isAtomStart, Bool.or_eq_true, not_or] at start
      simpa using start.2
    by_cases odd : wide c = true
    · -- a character that the class has besides letters is a token of its own
      have admitted := (widens.others c odd).resolve_left blank |>.resolve_left start
      have digit : c.isDigit = false := by
        obtain ⟨d, same, -, -, -, digit, -⟩ := admitted
        rwa [List.singleton_inj.mp same]
      have found : lexeme? (c :: rest) = some (.unknown, [c], rest) := lexeme?_of_admits admitted id
      have outside : isAtomChar c = false := by simp [isAtomChar, start, digit]
      rw [found]
      simp [coarseLexeme?, blank, odd, cutAtom_of_not_isAtomChar outside]
    · simp [coarseLexeme?, lexeme?, blank, start, symbol, odd]

theorem coarseFrom_of_lexeme? {wide : Char → Bool} {text lexeme rest : List Char} {kind : Kind}
    (pos : Nat) (found : coarseLexeme? wide text = some (kind, lexeme, rest)) :
    coarseFrom wide pos text =
      ⟨kind, lexeme, pos⟩ :: coarseFrom wide (pos + lexeme.length) rest := by
  rw [coarseFrom]
  split
  case h_1 ended => simp [found] at ended
  case h_2 other =>
    rw [found] at other
    cases other
    rfl

theorem coarseFrom_nil (wide : Char → Bool) (pos : Nat) : coarseFrom wide pos [] = [] := by
  rw [coarseFrom]
  simp [coarseLexeme?]

theorem Widens.coarseFrom_eq {wide : Char → Bool} (widens : Widens wide) (pos : Nat)
    (text : List Char) : coarseFrom wide pos text = allFrom pos text := by
  induction pos, text using allFrom_induction with
  | nil pos => rw [coarseFrom_nil, allFrom_nil]
  | cons pos text kind lexeme rest found ih =>
    rw [coarseFrom_of_lexeme? pos ((widens.coarseLexeme?_eq text).trans found),
      allFrom_of_lexeme? pos found, ih]

theorem lexeme?_of_coarse_eq {wide : Char → Bool} (same : ∀ source, coarse wide source = all source)
    {c : Char} {kind : Kind} {lexeme rest : List Char}
    (coarsely : coarseLexeme? wide [c] = some (kind, lexeme, rest)) :
    ∃ left, lexeme? [c] = some (kind, lexeme, left) := by
  obtain ⟨⟨other, taken, left⟩, found⟩ : ∃ first, lexeme? [c] = some first := ⟨_, rfl⟩
  have rows := same [c]
  rw [coarse, coarseFrom_of_lexeme? 0 coarsely, all, allFrom_of_lexeme? 0 found] at rows
  obtain ⟨first, -⟩ := List.cons.inj rows
  cases first
  exact ⟨left, found⟩

/-- Texts of one character show what the class has. -/
theorem widens_of_coarse_eq {wide : Char → Bool}
    (same : ∀ source, coarse wide source = all source) : Widens wide where
  letters := by
    intro c letter
    -- a letter outside the class would be a mark, and marks are no atoms
    by_contra narrow
    have start : isAtomStart c = true := by simp [isAtomStart, letter]
    have blank := not_isBlank_of_isAtomStart start
    have symbol : isSymbol c = false := by
      by_contra symbol
      simp [isLetter_of_isSymbol (by simpa using symbol)] at letter
    have digit : c.isDigit = false := by
      by_contra digit
      simp [only_number_of_isDigit (by simpa using digit)] at start
    have quote : c ≠ '"' := by
      rintro rfl
      exact absurd start (by decide)
    have coarsely : coarseLexeme? wide [c] = some (.ofPunctuation c, [c], []) := by
      simp [coarseLexeme?, blank, narrow, symbol, quote, digit]
    obtain ⟨left, found⟩ := lexeme?_of_coarse_eq same coarsely
    have atom : Kind.ofPunctuation c = .atom := by
      have first := congrArg (Option.map Prod.fst) found
      simpa [lexeme?, blank, start, runOf] using first.symm
    unfold Kind.ofPunctuation at atom
    split_ifs at atom
  others := by
    intro c odd
    by_cases blank : isBlank c = true
    · exact .inl blank
    by_cases digit : c.isDigit = true
    · -- the digit would be an atom
      have coarsely : coarseLexeme? wide [c] = some (.atom, [c], []) := by
        simp [coarseLexeme?, blank, odd, cutAtom, isAtomChar, digit]
      obtain ⟨left, found⟩ := lexeme?_of_coarse_eq same coarsely
      obtain ⟨start, -⟩ := (admits_of_lexeme? found).1
      exact .inr (.inl (by simpa using start))
    by_cases start : isAtomStart c = true
    · exact .inr (.inl start)
    · have outside : isAtomChar c = false := by simp [isAtomChar, start, digit]
      have coarsely : coarseLexeme? wide [c] = some (.unknown, [c], []) := by
        simp [coarseLexeme?, blank, odd, cutAtom_of_not_isAtomChar outside]
      obtain ⟨left, found⟩ := lexeme?_of_coarse_eq same coarsely
      exact .inr (.inr (admits_of_lexeme? found).1)

end Token

/-- Tokens cover the text, each as long as it can be, exactly if they are the row of all tokens. The
same row is found with a wider class of letters exactly if what it has besides letters starts no
other token. -/
theorem tokenizes_iff_eq_all :
    (∀ source tokens, Tokenizes source tokens ↔ tokens = Token.all source) ∧
    ∀ wide, (∀ source, Token.coarse wide source = Token.all source) ↔ Token.Widens wide := by
  constructor
  · intro source tokens
    constructor
    · exact Token.eq_all_of_tokenizes
    · rintro rfl
      exact Token.tokenizes_all source
  · intro wide
    constructor
    · exact Token.widens_of_coarse_eq
    · exact fun widens source => widens.coarseFrom_eq 0 source

theorem tokenizes_iff_eq_all_sample :
    Token.coarse (fun c => isLetter c || ['½', '²', 'Ⅷ'].contains c) "a½1²b2Ⅷ\"½".toList =
      Token.all "a½1²b2Ⅷ\"½".toList ∧
    Tokenizes "a½1²b2Ⅷ\"½".toList [⟨.atom, ['a'], 0⟩, ⟨.unknown, ['½'], 1⟩, ⟨.number, ['1'], 2⟩,
      ⟨.unknown, ['²'], 3⟩, ⟨.atom, ['b', '2'], 4⟩, ⟨.unknown, ['Ⅷ'], 6⟩,
      ⟨.unterminated, ['"', '½'], 7⟩] := by
  constructor
  · refine (tokenizes_iff_eq_all.2 _).mpr ⟨by simp +contextual, ?_⟩ _
    intro c odd
    simp only [Bool.or_eq_true, List.contains_iff_mem] at odd
    rcases odd with letter | other
    · exact .inr (.inl (by simp [isAtomStart, letter]))
    · simp only [List.mem_cons, List.not_mem_nil, or_false] at other
      rcases other with rfl | rfl | rfl <;> exact .inr (.inr ⟨_, rfl, by decide +kernel⟩)
  · exact (tokenizes_iff_eq_all.1 _ _).mpr (by decide +kernel)

end Lisplet
