import Lisplet.Proofs.Expectations

/-! Points with the room that is left at them. A token that opens something leaves less room for
what comes right behind it, and reading goes on through it only if there is enough. -/

set_option autoImplicit false

namespace Lisplet

/-- A place between the tokens of an expression, with the room for what is nested there. -/
structure Level where
  point : Point
  room : Nat
  deriving DecidableEq, Repr

namespace Level

/-- How much room a token of the kind takes at the point. -/
def cost : Point → Token.Kind → Nat
  | .gap, .space => 1
  | _, .quote => 1
  | _, .opening => 2
  | _, _ => 0

/-- The levels of what is left to come behind a token: only the first of them has less room. -/
def behind (room taken : Nat) : List Point → List Level
  | [] => []
  | top :: rest => ⟨top, room - taken⟩ :: rest.map (⟨·, room⟩)

def follow (level : Level) (kind : Token.Kind) : Option (List Level) :=
  if cost level.point kind ≤ level.room then
    (level.point.follow kind).map (behind level.room (cost level.point kind))
  else none

def step : List Level → Token.Kind → Option (List Level)
  | [], _ => none
  | level :: under, kind => (level.follow kind).map (· ++ under)

def run (levels : List Level) (tokens : List Token) : Option (List Level) :=
  tokens.foldlM (fun levels token => step levels token.kind) levels

@[simp] theorem run_nil (levels : List Level) : run levels [] = some levels := rfl

@[simp] theorem run_cons (levels : List Level) (token : Token) (tokens : List Token) :
    run levels (token :: tokens) = (step levels token.kind).bind (run · tokens) := rfl

theorem run_append (levels : List Level) (tokens others : List Token) :
    run levels (tokens ++ others) = (run levels tokens).bind (run · others) := by
  simp only [run, List.foldlM_append, Option.bind_eq_bind]

@[simp] theorem map_point_behind (room taken : Nat) (points : List Point) :
    (behind room taken points).map point = points := by
  cases points with
  | nil => rfl
  | cons top rest => simp [behind, Function.comp_def]

theorem cost_le (point : Point) (kind : Token.Kind) : cost point kind ≤ 2 := by
  unfold cost
  split <;> omega

theorem cost_number (point : Point) : cost point .number = 0 := by
  cases point <;> rfl

theorem le_room_of_mem_behind {room taken : Nat} {points : List Point} {level : Level}
    (member : level ∈ behind room taken points) : room ≤ level.room + taken := by
  cases points with
  | nil => cases member
  | cons top rest =>
    rcases List.mem_cons.mp member with rfl | member
    · dsimp only
      omega
    · obtain ⟨point, -, rfl⟩ := List.mem_map.mp member
      exact Nat.le_add_right room taken

theorem point_follow {level : Level} {kind : Token.Kind} {followed : List Level}
    (found : level.follow kind = some followed) :
    level.point.follow kind = some (followed.map point) ∧
      ∀ other ∈ followed, level.room ≤ other.room + 2 := by
  unfold follow at found
  split at found
  · obtain ⟨points, follows, rfl⟩ := Option.map_eq_some_iff.mp found
    rw [map_point_behind]
    refine ⟨follows, fun other member => ?_⟩
    have least := le_room_of_mem_behind member
    have most := cost_le level.point kind
    omega
  · cases found

theorem follow_eq_none {level : Level} {kind : Token.Kind}
    (stops : level.point.follow kind = none) : level.follow kind = none := by
  simp [follow, stops]

theorem follow_eq_none_of_lt {level : Level} {kind : Token.Kind}
    (deep : level.room < cost level.point kind) : level.follow kind = none :=
  if_neg (Nat.not_le_of_lt deep)

theorem step_point {levels result : List Level} {kind : Token.Kind}
    (stepped : step levels kind = some result) :
    Point.step (levels.map point) kind = some (result.map point) := by
  cases levels with
  | nil => cases stepped
  | cons level under =>
    obtain ⟨followed, found, rfl⟩ := Option.map_eq_some_iff.mp stepped
    simp [Point.step, (point_follow found).1]

theorem run_point {levels result : List Level} {tokens : List Token}
    (ran : run levels tokens = some result) :
    Point.run (levels.map point) tokens = some (result.map point) :=
  foldlM_image (f := List.map point) (fun _ _ _ => step_point) ran

theorem le_room_of_run {levels result : List Level} {tokens : List Token} {room : Nat}
    (least : ∀ level ∈ levels, room ≤ level.room) (ran : run levels tokens = some result) :
    ∀ level ∈ result, room ≤ level.room + 2 * tokens.length := by
  induction tokens generalizing levels room with
  | nil =>
    cases ran
    exact least
  | cons token tokens ih =>
    rw [run_cons, Option.bind_eq_some_iff] at ran
    obtain ⟨middle, stepped, ran⟩ := ran
    -- one token lowers the levels by two at most
    have lower : ∀ level ∈ middle, room - 2 ≤ level.room := by
      cases levels with
      | nil => cases stepped
      | cons level under =>
        obtain ⟨followed, found, rfl⟩ := Option.map_eq_some_iff.mp stepped
        intro other member
        rcases List.mem_append.mp member with member | member
        · have := (point_follow found).2 other member
          have := least level (by simp)
          omega
        · have := least other (by simp [member])
          omega
    intro level member
    have := ih lower ran level member
    rw [List.length_cons]
    omega

theorem step_under {levels result : List Level} {kind : Token.Kind} (under : List Level)
    (stepped : step levels kind = some result) :
    step (levels ++ under) kind = some (result ++ under) := by
  cases levels with
  | nil => cases stepped
  | cons level levels =>
    obtain ⟨followed, found, rfl⟩ := Option.map_eq_some_iff.mp stepped
    simp [step, found]

theorem run_under {levels result : List Level} {tokens : List Token} (under : List Level)
    (ran : run levels tokens = some result) :
    run (levels ++ under) tokens = some (result ++ under) :=
  foldlM_image (f := (· ++ under)) (fun _ _ _ => step_under under) ran

def raise (more : Nat) (level : Level) : Level :=
  ⟨level.point, level.room + more⟩

theorem behind_raise (more : Nat) {room taken : Nat} (enough : taken ≤ room)
    (points : List Point) :
    behind (room + more) taken points = (behind room taken points).map (raise more) := by
  cases points with
  | nil => rfl
  | cons top rest => simp [behind, raise, Nat.sub_add_comm enough]

theorem follow_raise (more : Nat) {level : Level} {kind : Token.Kind} {followed : List Level}
    (found : level.follow kind = some followed) :
    (level.raise more).follow kind = some (followed.map (raise more)) := by
  unfold follow at found
  split at found
  · next enough =>
    obtain ⟨points, follows, rfl⟩ := Option.map_eq_some_iff.mp found
    have larger : cost level.point kind ≤ level.room + more := Nat.le_add_right_of_le enough
    rw [follow, raise, if_pos larger, follows, Option.map_some, behind_raise more enough]
  · cases found

theorem step_raise (more : Nat) {levels result : List Level} {kind : Token.Kind}
    (stepped : step levels kind = some result) :
    step (levels.map (raise more)) kind = some (result.map (raise more)) := by
  cases levels with
  | nil => cases stepped
  | cons level under =>
    obtain ⟨followed, found, rfl⟩ := Option.map_eq_some_iff.mp stepped
    simp [step, follow_raise more found]

theorem run_raise (more : Nat) {levels result : List Level} {tokens : List Token}
    (ran : run levels tokens = some result) :
    run (levels.map (raise more)) tokens = some (result.map (raise more)) :=
  foldlM_image (f := List.map (raise more)) (fun _ _ _ => step_raise more) ran

theorem follow_of_le {point : Point} {room : Nat} {kind : Token.Kind} {points : List Point}
    (enough : cost point kind ≤ room) (found : point.follow kind = some points) :
    (⟨point, room⟩ : Level).follow kind = some (behind room (cost point kind) points) := by
  rw [follow, if_pos enough, found, Option.map_some]

theorem follow_element {point : Point} {room : Nat} {kind : Token.Kind} {front : List Level}
    (start : point = .first ∨ point = .next)
    (found : (⟨.expression, room⟩ : Level).follow kind = some front) :
    (⟨point, room⟩ : Level).follow kind = some (front ++ [⟨.after, room⟩]) := by
  have same : cost point kind = cost .expression kind := by
    rcases start with rfl | rfl <;> cases kind <;> rfl
  unfold follow at found
  split at found
  case isTrue enough =>
    obtain ⟨points, begun, rfl⟩ := Option.map_eq_some_iff.mp found
    rw [follow_of_le (same ▸ enough) (Point.follow_element start begun), same]
    cases points with
    | cons top rest => simp [behind]
    | nil =>
      -- the token is an element of its own, and takes no room
      have free : cost .expression kind = 0 := by
        cases kind <;> simp_all [Point.follow, Point.begun, cost]
      rw [free]
      rfl
  case isFalse => cases found

end Level

structure Descends (levels : List Level) (tokens : List Token) (result : List Level) : Prop where
  short : Short tokens
  ran : Level.run levels tokens = some result

/-- The first of the tokens, if there is one, is not consumed at the levels. -/
def Halts (levels : List Level) (tokens : List Token) : Prop :=
  ∀ next ∈ tokens.head?, ∀ further, ¬ Descends levels [next] further

theorem halts_nil (tokens : List Token) : Halts [] tokens := by
  rintro next - further ⟨-, ran⟩
  simp [Level.step] at ran

theorem halts_of_follow {level : Level} {under : List Level} {tokens : List Token}
    (stops : ∀ next ∈ tokens.head?, level.follow next.kind = none) :
    Halts (level :: under) tokens := by
  rintro next first further ⟨-, ran⟩
  simp [Level.step, stops next first] at ran

theorem halts_of_deep {level : Level} {under : List Level} {token : Token} {tokens : List Token}
    (deep : level.room < Level.cost level.point token.kind) :
    Halts (level :: under) (token :: tokens) := by
  apply halts_of_follow
  rintro next ⟨⟩
  exact Level.follow_eq_none_of_lt deep

theorem halts_of_long {levels : List Level} {token : Token} {tokens : List Token}
    (number : token.kind = .number) (long : digitLimit < token.text.length) :
    Halts levels (token :: tokens) := by
  rintro next ⟨⟩ further ⟨short, -⟩
  exact absurd (short token (by simp) number) (Nat.not_le_of_lt long)

namespace Descends

variable {levels middle result : List Level} {tokens others : List Token} {room : Nat}

theorem reaches (descends : Descends levels tokens result) :
    Reaches (levels.map Level.point) tokens (result.map Level.point) :=
  ⟨descends.short, Level.run_point descends.ran⟩

theorem nil (levels : List Level) : Descends levels [] levels :=
  ⟨by simp [Short], rfl⟩

theorem trans (first : Descends levels tokens middle) (second : Descends middle others result) :
    Descends levels (tokens ++ others) result :=
  ⟨short_append.mpr ⟨first.short, second.short⟩, by
    rw [Level.run_append, first.ran, Option.bind_some, second.ran]⟩

theorem under (below : List Level) (descends : Descends levels tokens result) :
    Descends (levels ++ below) tokens (result ++ below) :=
  ⟨descends.short, Level.run_under below descends.ran⟩

theorem element {point : Point} (start : point = .first ∨ point = .next) (nonempty : tokens ≠ [])
    (descends : Descends [⟨.expression, room⟩] tokens result) :
    Descends [⟨point, room⟩] tokens (result ++ [⟨.after, room⟩]) := by
  refine ⟨descends.short, ?_⟩
  have ran := descends.ran
  cases tokens with
  | nil => contradiction
  | cons token tokens =>
    rw [Level.run_cons, Option.bind_eq_some_iff] at ran ⊢
    obtain ⟨middle, stepped, ran⟩ := ran
    obtain ⟨front, found, rfl⟩ := Option.map_eq_some_iff.mp stepped
    rw [List.append_nil] at ran
    refine ⟨front ++ [⟨.after, room⟩], ?_, Level.run_under _ ran⟩
    rw [Level.step, Level.follow_element start found, Option.map_some, List.append_nil]

theorem single {point : Point} {token : Token} {kind : Token.Kind} {followed : List Level}
    (points : List Point) (found : token.kind = kind) (other : kind ≠ .number)
    (enough : Level.cost point kind ≤ room) (follow : point.follow kind = some points)
    (same : Level.behind room (Level.cost point kind) points = followed) :
    Descends [⟨point, room⟩] [token] followed := by
  subst same
  refine ⟨?_, ?_⟩
  · intro token member number
    obtain rfl := List.mem_singleton.mp member
    exact absurd (found.symm.trans number) other
  · simp [Level.step, found, Level.follow_of_le enough follow]

theorem quote {token : Token} (found : token.kind = .quote) :
    Descends [⟨.expression, room + 1⟩] [token] [⟨.expression, room⟩] :=
  single [.expression] found (by decide) (Nat.le_add_left 1 room) rfl rfl

/-- A list takes two levels: one for its parentheses and one for its elements. -/
theorem opening {token : Token} (found : token.kind = .opening) :
    Descends [⟨.expression, room + 2⟩] [token] [⟨.first, room⟩] :=
  single [.first] found (by decide) (Nat.le_add_left 2 room) rfl rfl

theorem space {token : Token} (found : token.kind = .space) :
    Descends [⟨.after, room⟩] [token] [⟨.next, room⟩] :=
  single [.next] found (by decide) (Nat.zero_le room) rfl rfl

theorem dot {point : Point} {token : Token} (start : point = .first ∨ point = .next)
    (found : token.kind = .dot) : Descends [⟨point, room⟩] [token] [⟨.gap, room⟩] := by
  rcases start with rfl | rfl
  · exact single [.gap] found (by decide) (Nat.zero_le room) rfl rfl
  · exact single [.gap] found (by decide) (Nat.zero_le room) rfl rfl

/-- A tail takes one level more than the elements before it. -/
theorem gap {token : Token} (found : token.kind = .space) :
    Descends [⟨.gap, room + 1⟩] [token] [⟨.expression, room⟩, ⟨.last, room + 1⟩] :=
  single [.expression, .last] found (by decide) (Nat.le_add_left 1 room) rfl rfl

theorem closing {point : Point} {token : Token}
    (ends : point = .first ∨ point = .after ∨ point = .last) (found : token.kind = .closing) :
    Descends [⟨point, room⟩] [token] [] := by
  rcases ends with rfl | rfl | rfl
  · exact single [] found (by decide) (Nat.zero_le room) rfl rfl
  · exact single [] found (by decide) (Nat.zero_le room) rfl rfl
  · exact single [] found (by decide) (Nat.zero_le room) rfl rfl

/-- Nothing is consumed beyond the first part of a row whose rest cannot be gone on with. -/
theorem length_le {more rest : List Token} (one : Descends levels tokens middle)
    (two : Descends levels others result) (row : tokens ++ more = others ++ rest)
    (halts : Halts middle more) : others.length ≤ tokens.length := by
  by_contra longer
  obtain ⟨between, rfl⟩ : tokens <+: others :=
    List.prefix_of_prefix_length_le ⟨more, rfl⟩ ⟨rest, row.symm⟩ (by omega)
  obtain ⟨next, between, rfl⟩ : ∃ next left, between = next :: left :=
    List.exists_cons_of_ne_nil (by rintro rfl; simp at longer)
  have following : next ∈ more.head? := by
    rw [List.append_assoc, List.append_right_inj] at row
    simp [row]
  have ran := two.ran
  rw [Level.run_append, one.ran, Option.bind_some, Level.run_cons, Option.bind_eq_some_iff] at ran
  obtain ⟨further, stepped, -⟩ := ran
  exact halts next following further ⟨fun token member => two.short token (by simp_all), by
    simp [stepped]⟩

theorem unique {more rest : List Token} (one : Descends levels tokens middle)
    (two : Descends levels others result) (row : tokens ++ more = others ++ rest)
    (first : Halts middle more) (second : Halts result rest) :
    tokens = others ∧ middle = result := by
  have length : tokens.length = others.length :=
    Nat.le_antisymm (two.length_le one row.symm second) (one.length_le two row first)
  obtain ⟨rfl, -⟩ := List.append_inj row length
  exact ⟨rfl, Option.some.inj (one.ran.symm.trans two.ran)⟩

theorem raise (more : Nat) (descends : Descends levels tokens result) :
    Descends (levels.map (Level.raise more)) tokens (result.map (Level.raise more)) :=
  ⟨descends.short, Level.run_raise more descends.ran⟩

/-- There is room at every level for what the tokens so far have not taken. -/
theorem le_room (descends : Descends [⟨.expression, room⟩] tokens result) :
    ∀ level ∈ result, room ≤ level.room + 2 * tokens.length :=
  Level.le_room_of_run (by simp) descends.ran

end Descends

mutual

theorem Spells.descends {room : Nat} {tokens : List Token} {value : Value} :
    Spells room tokens value → Descends [⟨.expression, room⟩] tokens []
  | .atom kind => .single [] kind (by decide) (Nat.zero_le room) rfl rfl
  | .number kind short => by
    refine ⟨by simpa [Short] using fun _ => short, ?_⟩
    rw [Level.run_cons, Level.step, kind, Level.follow_of_le (Nat.zero_le room) rfl]
    rfl
  | .string kind => .single [] kind (by decide) (Nat.zero_le room) rfl rfl
  | .quoted kind inner => .trans (.quote kind) inner.descends
  | .empty kind closed => .trans (.opening kind) (.closing (.inl rfl) closed)
  | .list kind front last closed => by
    obtain ⟨point, start, between⟩ := front.descends (.inl rfl)
    obtain ⟨token, rest, rfl, -⟩ := last.exists_first
    have element := last.descends.element start (by simp)
    exact .trans (.opening kind)
      ((between.trans element).trans (.closing (.inr (.inl rfl)) closed))
  | .dotted kind front dot gap last closed => by
    obtain ⟨point, start, between⟩ := front.descends (.inl rfl)
    have tail := Descends.trans (.gap gap) (last.descends.under [_])
    exact .trans (.opening kind) ((between.trans ((Descends.dot start dot).trans tail)).trans
      (.closing (.inr (.inr rfl)) closed))

theorem SpellsEach.descends {room : Nat} {tokens : List Token} {values : List Value}
    {point : Point} :
    SpellsEach room tokens values → point = .first ∨ point = .next →
      ∃ there, (there = Point.first ∨ there = .next) ∧
        Descends [⟨point, room⟩] tokens [⟨there, room⟩]
  | .nil, start => ⟨point, start, .nil _⟩
  | .cons first gap rest, start => by
    obtain ⟨token, others, rfl, -⟩ := first.exists_first
    obtain ⟨there, found, between⟩ := rest.descends (.inr rfl)
    have element := first.descends.element start (by simp)
    exact ⟨there, found, element.trans (Descends.trans (.space gap) between)⟩

end

theorem Spells.reaches {room : Nat} {tokens : List Token} {value : Value}
    (spelled : Spells room tokens value) : Reaches [.expression] tokens [] :=
  spelled.descends.reaches

theorem SpellsEach.reaches {room : Nat} {tokens : List Token} {values : List Value} {point : Point}
    (each : SpellsEach room tokens values) (start : point = .first ∨ point = .next) :
    ∃ there, (there = Point.first ∨ there = .next) ∧ Reaches [point] tokens [there] := by
  obtain ⟨there, found, between⟩ := each.descends start
  exact ⟨there, found, between.reaches⟩

end Lisplet
