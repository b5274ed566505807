import Lisplet.Proofs.Grammar

/-! Where a reader can stand. What may come next depends on the innermost construct that is not
complete, and a row of such points, innermost first, follows the tokens that are consumed. -/

set_option autoImplicit false

namespace Lisplet

theorem foldlM_image {α β : Type} {step : α → Token.Kind → Option α}
    {other : β → Token.Kind → Option β} {f : α → β}
    (goes : ∀ row result kind, step row kind = some result → other (f row) kind = some (f result))
    {row result : α} {tokens : List Token}
    (ran : tokens.foldlM (fun row token => step row token.kind) row = some result) :
    tokens.foldlM (fun row token => other row token.kind) (f row) = some (f result) := by
  induction tokens generalizing row with
  | nil =>
    cases ran
    rfl
  | cons token tokens ih =>
    rw [List.foldlM_cons, Option.bind_eq_bind, Option.bind_eq_some_iff] at ran ⊢
    obtain ⟨middle, stepped, ran⟩ := ran
    exact ⟨f middle, goes row middle token.kind stepped, ih ran⟩

/-- A place between the tokens of an expression: before it, and in a list behind the opening
parenthesis, behind an element, behind the blanks that follow one, behind the dot and behind the
tail. A string that nothing closes has a place inside it. -/
inductive Point where
  | expression
  | first
  | after
  | next
  | gap
  | last
  | string
  deriving DecidableEq, Repr

namespace Point

def begun : Token.Kind → Option (List Point)
  | .atom | .string | .number => some []
  | .quote => some [.expression]
  | .opening => some [.first]
  | .unterminated => some [.string]
  | _ => none

/-- What is left to come from the point on, once a token of the kind is consumed there. -/
def follow : Point → Token.Kind → Option (List Point)
  | .expression, kind => begun kind
  | .first, .dot => some [.gap]
  | .first, .closing => some []
  | .first, kind => (begun kind).map (· ++ [.after])
  | .after, .space => some [.next]
  | .after, .closing => some []
  | .next, .dot => some [.gap]
  | .next, kind => (begun kind).map (· ++ [.after])
  | .gap, .space => some [.expression, .last]
  | .last, .closing => some []
  | _, _ => none

def labels : Point → List String
  | .expression => Token.expressionLabels
  | .first => Token.expressionLabels ++ Token.Kind.dot.labels ++ Token.Kind.closing.labels
  | .after => Token.Kind.space.labels ++ Token.Kind.closing.labels
  | .next => Token.expressionLabels ++ Token.Kind.dot.labels
  | .gap => Token.Kind.space.labels
  | .last => Token.Kind.closing.labels
  | .string => Token.Kind.string.labels

theorem begun_isSome (kind : Token.Kind) : (begun kind).isSome = kind.startsExpression := by
  cases kind <;> rfl

theorem mem_of_ne_string {point : Point} (closed : point ≠ .string) :
    point ∈ [.expression, .first, .after, .next, .gap, .last] := by
  cases point with
  | string => contradiction
  | _ => simp

theorem mem_of_known {kind : Token.Kind} (known : kind ∉ [.unknown, .unterminated, .eof]) :
    kind ∈ [.space, .atom, .string, .number, .quote, .opening, .closing, .dot] := by
  cases kind with
  | unknown | unterminated | eof => simp at known
  | _ => simp

theorem labels_subset_iff {point : Point} {kind : Token.Kind}
    (known : kind ∉ [.unknown, .unterminated, .eof]) (closed : point ≠ .string) :
    kind.labels ⊆ point.labels ↔ (point.follow kind).isSome = true := by
  have checked : ∀ kind ∈ [Token.Kind.space, .atom, .string, .number, .quote, .opening, .closing,
      .dot], ∀ point ∈ [Point.expression, .first, .after, .next, .gap, .last],
      kind.labels ⊆ point.labels ↔ (point.follow kind).isSome = true := by
    decide +kernel
  exact checked kind (mem_of_known known) point (mem_of_ne_string closed)

theorem exists_follow_of_mem_labels {point : Point} {label : String} (closed : point ≠ .string)
    (member : label ∈ point.labels) :
    ∃ kind ∉ [Token.Kind.unknown, .unterminated, .eof],
      label ∈ kind.labels ∧ (point.follow kind).isSome = true := by
  have checked : ∀ point ∈ [Point.expression, .first, .after, .next, .gap, .last],
      ∀ label ∈ point.labels, ∃ kind ∈ [Token.Kind.space, .atom, .string, .number, .quote,
        .opening, .closing, .dot], kind ∉ [Token.Kind.unknown, .unterminated, .eof] ∧
          label ∈ kind.labels ∧ (point.follow kind).isSome = true := by
    decide +kernel
  obtain ⟨kind, -, found⟩ := checked point (mem_of_ne_string closed) label member
  exact ⟨kind, found⟩

theorem labels_eraseDups (point : Point) : point.labels.eraseDups = point.labels := by
  cases point <;> decide +kernel

def step : List Point → Token.Kind → Option (List Point)
  | [], _ => none
  | point :: under, kind => (point.follow kind).map (· ++ under)

def run (points : List Point) (tokens : List Token) : Option (List Point) :=
  tokens.foldlM (fun points token => step points token.kind) points

@[simp] theorem run_nil (points : List Point) : run points [] = some points := rfl

@[simp] theorem run_cons (points : List Point) (token : Token) (tokens : List Token) :
    run points (token :: tokens) = (step points token.kind).bind (run · tokens) := rfl

theorem run_append (points : List Point) (tokens others : List Token) :
    run points (tokens ++ others) = (run points tokens).bind (run · others) := by
  simp only [run, List.foldlM_append, Option.bind_eq_bind]

theorem run_empty {tokens : List Token} (nonempty : tokens ≠ []) : run [] tokens = none := by
  cases tokens with
  | nil => contradiction
  | cons token tokens => rfl

theorem run_through {points under : List Point} {point : Point} {tokens : List Token}
    {token : Token} (ran : run points tokens = some (point :: under))
    (stops : point.follow token.kind = none) (others : List Token) :
    run points (tokens ++ token :: others) = none := by
  rw [run_append, ran, Option.bind_some, run_cons, step, stops]
  rfl

theorem step_under {points result : List Point} {kind : Token.Kind} (under : List Point)
    (stepped : step points kind = some result) :
    step (points ++ under) kind = some (result ++ under) := by
  cases points with
  | nil => cases stepped
  | cons point points =>
    obtain ⟨followed, found, rfl⟩ := Option.map_eq_some_iff.mp stepped
    simp [step, found]

theorem run_under {points result : List Point} {tokens : List Token} (under : List Point)
    (ran : run points tokens = some result) :
    run (points ++ under) tokens = some (result ++ under) :=
  foldlM_image (f := (· ++ under)) (fun _ _ _ => step_under under) ran

theorem follow_element {point : Point} {kind : Token.Kind} {front : List Point}
    (start : point = .first ∨ point = .next) (found : begun kind = some front) :
    point.follow kind = some (front ++ [.after]) := by
  rcases start with rfl | rfl <;> cases kind <;> cases found <;> rfl

/-- An element is read from behind a parenthesis or behind blanks as an expression is, and leaves
the reader behind the element. -/
theorem run_element {point : Point} {tokens : List Token} {result : List Point}
    (start : point = .first ∨ point = .next) (nonempty : tokens ≠ [])
    (ran : run [.expression] tokens = some result) :
    run [point] tokens = some (result ++ [.after]) := by
  cases tokens with
  | nil => contradiction
  | cons token tokens =>
    rw [run_cons, Option.bind_eq_some_iff] at ran ⊢
    obtain ⟨middle, stepped, ran⟩ := ran
    refine ⟨middle ++ [.after], ?_, run_under [.after] ran⟩
    obtain ⟨front, found, rfl⟩ := Option.map_eq_some_iff.mp stepped
    rw [step, follow_element start found, Option.map_some, List.append_nil, List.append_nil]

end Point

/-- Every numeral among the tokens is short enough to be read. -/
def Short (tokens : List Token) : Prop :=
  ∀ token ∈ tokens, token.kind = .number → token.text.length ≤ digitLimit

@[simp] theorem short_append {tokens others : List Token} :
    Short (tokens ++ others) ↔ Short tokens ∧ Short others :=
  List.forall_mem_append

structure Reaches (points : List Point) (tokens : List Token) (result : List Point) : Prop where
  short : Short tokens
  ran : Point.run points tokens = some result

namespace Reaches

variable {points middle result : List Point} {tokens others : List Token}

theorem trans (first : Reaches points tokens middle) (second : Reaches middle others result) :
    Reaches points (tokens ++ others) result :=
  ⟨short_append.mpr ⟨first.short, second.short⟩, by
    rw [Point.run_append, first.ran, Option.bind_some, second.ran]⟩

theorem under (below : List Point) (reached : Reaches points tokens result) :
    Reaches (points ++ below) tokens (result ++ below) :=
  ⟨reached.short, Point.run_under below reached.ran⟩

theorem element {point : Point} (start : point = .first ∨ point = .next) (nonempty : tokens ≠ [])
    (reached : Reaches [.expression] tokens result) :
    Reaches [point] tokens (result ++ [.after]) :=
  ⟨reached.short, Point.run_element start nonempty reached.ran⟩

theorem single {point : Point} {token : Token} {kind : Token.Kind} {followed : List Point}
    (found : token.kind = kind) (other : kind ≠ .number)
    (follow : point.follow kind = some followed) : Reaches [point] [token] followed := by
  refine ⟨?_, ?_⟩
  · intro token member number
    obtain rfl := List.mem_singleton.mp member
    exact absurd (found.symm.trans number) other
  · simp [Point.step, found, follow]

theorem dot {point : Point} {token : Token} (start : point = .first ∨ point = .next)
    (found : token.kind = .dot) : Reaches [point] [token] [.gap] := by
  rcases start with rfl | rfl
  · exact single found (by decide) rfl
  · exact single found (by decide) rfl

/-- Two parts of one row of tokens that are consumed from the same points: if one of them leaves
nothing to come, then the other is no longer. -/
theorem length_le {tokens others more rest : List Token} (reached : Reaches points tokens [])
    (other : Reaches points others result) (row : tokens ++ more = others ++ rest) :
    others.length ≤ tokens.length := by
  by_contra longer
  obtain ⟨between, rfl⟩ : tokens <+: others :=
    List.prefix_of_prefix_length_le ⟨more, rfl⟩ ⟨rest, row.symm⟩ (by omega)
  have nonempty : between ≠ [] := by
    rintro rfl
    simp at longer
  have stopped := other.ran
  rw [Point.run_append, reached.ran, Option.bind_some, Point.run_empty nonempty] at stopped
  contradiction

theorem exists_follow {tokens others more rest : List Token} {point : Point} {under : List Point}
    (complete : Reaches points tokens []) (reached : Reaches points others (point :: under))
    (row : tokens ++ more = others ++ rest) :
    ∃ token left, tokens = others ++ token :: left ∧ (point.follow token.kind).isSome = true := by
  obtain ⟨between, rfl⟩ : others <+: tokens :=
    List.prefix_of_prefix_length_le ⟨rest, row.symm⟩ ⟨more, rfl⟩ (complete.length_le reached row)
  have ran := complete.ran
  rw [Point.run_append, reached.ran, Option.bind_some] at ran
  cases between with
  | nil => simp at ran
  | cons token left =>
    refine ⟨token, left, rfl, ?_⟩
    rw [Point.run_cons, Option.bind_eq_some_iff] at ran
    obtain ⟨middle, stepped, -⟩ := ran
    obtain ⟨followed, found, -⟩ := Option.map_eq_some_iff.mp stepped
    simp [found]

end Reaches

end Lisplet
