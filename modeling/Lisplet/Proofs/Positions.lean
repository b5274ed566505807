import Mathlib.Algebra.Order.SuccPred
import Mathlib.Data.List.DropRight
import Mathlib.Data.List.Induction
import Mathlib.Data.Nat.ModEq
import Mathlib.Data.Nat.SuccPred
import Mathlib.Data.Prod.Lex
import Mathlib.Order.Interval.Set.OrdConnected
import Lisplet.Text.Position

/-! Positions stand for offsets. Every character moves the position on in the order of lines and
then columns, also a newline, which takes the column back. The line counts newlines, and the column
measures what stands behind the last of them. -/

set_option autoImplicit false

namespace Lisplet.Text

namespace Position

/-! ## The order of positions -/

def key (here : Position) : ℕ ×ₗ ℕ :=
  toLex (here.line, here.column)

theorem key_injective : Function.Injective key := by
  rintro ⟨line, column⟩ ⟨otherLine, otherColumn⟩ same
  simpa [key] using same

instance : LinearOrder Position :=
  LinearOrder.lift' key key_injective

theorem lt_iff {here there : Position} :
    here < there ↔
      here.line < there.line ∨ here.line = there.line ∧ here.column < there.column :=
  Prod.Lex.toLex_lt_toLex

/-! ## One character -/

variable (here : Position) {c : Char}

@[simp] theorem next_newline : here.next '\n' = ⟨here.line + 1, 1⟩ := rfl

theorem line_next (other : c ≠ '\n') : (here.next c).line = here.line := by
  rw [next, if_neg other]
  split <;> rfl

theorem column_next_tab :
    (here.next '\t').column = here.column + (8 - (here.column - 1) % 8) := rfl

theorem column_next (notNewline : c ≠ '\n') (notTab : c ≠ '\t') :
    (here.next c).column = here.column + 1 := by
  rw [next, if_neg notNewline, if_neg notTab]

theorem column_lt_next (other : c ≠ '\n') : here.column < (here.next c).column := by
  by_cases tab : c = '\t'
  · subst tab
    rw [column_next_tab]
    omega
  · rw [column_next here other tab]
    omega

theorem isLeast_column_next_tab (counted : 0 < here.column) :
    IsLeast {stop | here.column < stop ∧ stop ≡ 1 [MOD 8]} (here.next '\t').column := by
  rw [column_next_tab]
  constructor
  · change here.column < _ ∧ _ % 8 = 1 % 8
    omega
  · rintro stop ⟨behind, aligned⟩
    simp only [Nat.ModEq] at aligned
    omega

theorem lt_next (c : Char) : here < here.next c := by
  rw [lt_iff]
  by_cases newline : c = '\n'
  · subst newline
    exact .inl (Nat.lt_succ_self here.line)
  · exact .inr ⟨(here.line_next newline).symm, here.column_lt_next newline⟩

/-! ## Whole texts -/

theorem line_after (text : List Char) : (after text).line = 1 + text.count '\n' := by
  induction text using List.reverseRecOn with
  | nil => rfl
  | append_singleton text c ih =>
    rw [after_concat, List.count_append]
    by_cases newline : c = '\n'
    · subst newline
      simp [ih, Nat.add_assoc]
    · simp [line_next _ newline, ih, newline]

end Position

def currentLine (text : List Char) : List Char :=
  text.rtakeWhile (· != '\n')

/-- How wide cells are side by side, if each of them but the last is filled up to the next multiple
of eight. -/
def width : List (List Char) → Nat
  | [] => 0
  | [last] => last.length
  | cell :: next :: cells => 8 * (cell.length / 8 + 1) + width (next :: cells)

theorem width_cons {cell : List Char} {cells : List (List Char)} (more : cells ≠ []) :
    width (cell :: cells) = 8 * (cell.length / 8 + 1) + width cells := by
  obtain ⟨next, cells, rfl⟩ := List.exists_cons_of_ne_nil more
  rfl

theorem newline_notMem_currentLine (text : List Char) : '\n' ∉ currentLine text := by
  intro member
  simpa using List.mem_rtakeWhile_imp member

namespace Position

theorem column_after_rdropWhile (text : List Char) :
    (after (text.rdropWhile (· != '\n'))).column = 1 := by
  rcases eq_or_ne (text.rdropWhile (· != '\n')) [] with empty | nonempty
  · rw [empty]
    rfl
  · have last : (text.rdropWhile (· != '\n')).getLast nonempty = '\n' := by
      simpa using List.rdropWhile_last_not (· != '\n') text nonempty
    rw [← List.dropLast_append_getLast nonempty, last, after_concat, next_newline]

theorem column_foldl_of_plain {cell : List Char} (single : '\n' ∉ cell) (plain : '\t' ∉ cell)
    (here : Position) : (cell.foldl next here).column = here.column + cell.length := by
  induction cell generalizing here with
  | nil => rfl
  | cons c cell ih =>
    rw [List.mem_cons, not_or] at single plain
    rw [List.foldl_cons, ih single.2 plain.2, column_next here (Ne.symm single.1) (Ne.symm plain.1),
      List.length_cons]
    omega

/-- From a stop on, a line reaches as far as its cells are wide. -/
theorem column_foldl_of_aligned {line : List Char} (single : '\n' ∉ line) (here : Position)
    (aligned : here.column % 8 = 1) :
    (line.foldl next here).column = here.column + width (line.splitOn '\t') := by
  by_cases tabbed : '\t' ∈ line
  · -- the tab behind the first cell fills it, so that what follows starts at a stop again
    obtain ⟨cell, rest, parts, plain⟩ := List.eq_append_cons_of_mem tabbed
    simp only [parts, List.mem_append, List.mem_cons, not_or] at single
    have filled : ((cell.foldl next here).next '\t').column =
        here.column + 8 * (cell.length / 8 + 1) := by
      rw [column_next_tab, column_foldl_of_plain single.1 plain]
      omega
    have again : ((cell.foldl next here).next '\t').column % 8 = 1 := by omega
    rw [parts, List.foldl_append, List.foldl_cons, column_foldl_of_aligned single.2.2 _ again,
      filled, List.splitOn_append_cons_self_of_not_mem plain,
      width_cons (List.splitOn_ne_nil '\t' rest), Nat.add_assoc]
  · rw [List.splitOn_eq_singleton tabbed, column_foldl_of_plain single tabbed]
    rfl
termination_by line.length
decreasing_by
  simp only [parts, List.length_append, List.length_cons]
  omega

/-- The column is decided by the current line. -/
theorem column_after (text : List Char) :
    (after text).column = 1 + width ((currentLine text).splitOn '\t') := by
  have front := column_after_rdropWhile text
  calc (after text).column
    _ = (after (text.rdropWhile (· != '\n') ++ currentLine text)).column := by
      rw [currentLine, List.rdropWhile_append_rtakeWhile]
    _ = ((currentLine text).foldl next (after (text.rdropWhile (· != '\n')))).column := by
      rw [after, List.foldl_append]
      rfl
    _ = 1 + width ((currentLine text).splitOn '\t') := by
      rw [column_foldl_of_aligned (newline_notMem_currentLine text) _ (by omega), front]

end Position

/-! ## Offsets -/

theorem positionAt_add_one {text : List Char} {offset : Nat} {c : Char}
    (stands : text[offset]? = some c) :
    positionAt text (offset + 1 : Nat) = (positionAt text offset).next c := by
  rw [positionAt, before_natCast, List.take_add_one, stands, Option.toList_some,
    Position.after_concat, positionAt, before_natCast]

theorem strictMonoOn_positionAt (text : List Char) :
    StrictMonoOn (fun offset : Nat => positionAt text offset) (Set.Iic text.length) := by
  refine strictMonoOn_of_lt_add_one Set.ordConnected_Iic fun offset _ _ inside => ?_
  have stands : text[offset]? = some text[offset] := List.getElem?_eq_getElem inside
  change positionAt text offset < positionAt text (offset + 1 : Nat)
  rw [positionAt_add_one stands]
  exact Position.lt_next _ _

/-- Offsets of a text and their positions are in the same order, so that no two offsets have the
same position. The line counts the newlines before the offset. The column measures what stands
between the last of them and the offset, and a tab moves it to the next stop. -/
theorem positions_identify_offsets (text : List Char) :
    (∀ p q : Nat, p < q → q ≤ text.length → positionAt text p < positionAt text q) ∧
    (∀ p q : Nat, p ≤ text.length → q ≤ text.length → positionAt text p = positionAt text q →
      p = q) ∧
    ∀ p : Nat,
      (positionAt text p).line = 1 + (text.take p).count '\n' ∧
      (positionAt text p).column = 1 + width ((currentLine (text.take p)).splitOn '\t') ∧
      (text[p]? = some '\t' →
        IsLeast {stop | (positionAt text p).column < stop ∧ stop ≡ 1 [MOD 8]}
          (positionAt text (p + 1 : Nat)).column) := by
  have ordered := strictMonoOn_positionAt text
  have column (p : Nat) :
      (positionAt text p).column = 1 + width ((currentLine (text.take p)).splitOn '\t') := by
    rw [positionAt, before_natCast, Position.column_after]
  refine ⟨?_, ?_, fun p => ⟨?_, column p, ?_⟩⟩
  · intro p q less inside
    exact ordered (less.le.trans inside) inside less
  · intro p q first second same
    exact ordered.injOn first second same
  · rw [positionAt, before_natCast, Position.line_after]
  · intro tab
    rw [positionAt_add_one tab]
    exact (positionAt text p).isLeast_column_next_tab (by rw [column]; omega)

theorem positions_identify_offsets_sample :
    positionAt "(a\n\tb\t".toList 2 = ⟨1, 3⟩ ∧ positionAt "(a\n\tb\t".toList 3 = ⟨2, 1⟩ ∧
      positionAt "(a\n\tb\t".toList 2 < positionAt "(a\n\tb\t".toList 3 ∧
      "(a\n\tb\t".toList[5]? = some '\t' ∧ (positionAt "(a\n\tb\t".toList 6).column = 17 ∧
      IsLeast {stop | 10 < stop ∧ stop ≡ 1 [MOD 8]} 17 := by
  obtain ⟨ordered, -, fields⟩ := positions_identify_offsets "(a\n\tb\t".toList
  have tab : "(a\n\tb\t".toList[5]? = some '\t' := by decide
  exact ⟨by decide, by decide, ordered 2 3 (by decide) (by decide), tab, by decide,
    (fields 5).2.2 tab⟩

end Lisplet.Text
