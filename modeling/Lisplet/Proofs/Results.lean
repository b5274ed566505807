import Mathlib.Data.List.Basic

/-! Results of computations that can fail: conditions on what they give and on how they fail, step
by step and over lists. -/

set_option autoImplicit false

namespace Lisplet

variable {α β ε : Type} {good : α → Prop} {fine : β → Prop} {bad : ε → Prop}

/-- A result that meets the one condition, or a fault that meets the other. -/
inductive Ends (good : α → Prop) (bad : ε → Prop) : Except ε α → Prop where
  | ok {value : α} : good value → Ends good bad (.ok value)
  | error {fault : ε} : bad fault → Ends good bad (.error fault)

namespace Ends

theorem of_ok {result : Except ε α} {value : α} (ended : Ends good bad result)
    (ran : result = .ok value) : good value := by
  subst ran
  cases ended with
  | ok holds => exact holds

theorem of_error {result : Except ε α} {fault : ε} (ended : Ends good bad result)
    (failed : result = .error fault) : bad fault := by
  subst failed
  cases ended with
  | error holds => exact holds

theorem mono {result : Except ε α} {better : α → Prop} {worse : ε → Prop}
    (ended : Ends good bad result) (values : ∀ value, good value → better value)
    (faults : ∀ fault, bad fault → worse fault) : Ends better worse result := by
  cases ended with
  | ok holds => exact .ok (values _ holds)
  | error holds => exact .error (faults _ holds)

theorem map {result : Except ε α} (f : α → β) (ended : Ends good bad result) :
    Ends (fun _ => True) bad (result.map f) := by
  cases ended with
  | ok => exact .ok trivial
  | error holds => exact .error holds

theorem bind {first : Except ε α} {next : α → Except ε β} (ended : Ends good bad first)
    (rest : ∀ value, good value → Ends fine bad (next value)) :
    Ends fine bad (first >>= next) := by
  cases ended with
  | ok holds => exact rest _ holds
  | error holds => exact .error holds

theorem mapM {step : α → Except ε β} {values : List α}
    (each : ∀ value ∈ values, Ends fine bad (step value)) :
    Ends (fun results => ∀ result ∈ results, fine result) bad (values.mapM step) := by
  induction values with
  | nil => exact .ok (List.forall_mem_nil fine)
  | cons value values ih =>
    obtain ⟨first, others⟩ := List.forall_mem_cons.mp each
    rw [List.mapM_cons]
    apply first.bind
    intro result holds
    apply (ih others).bind
    intro results rest
    exact .ok (List.forall_mem_cons.mpr ⟨holds, rest⟩)

end Ends

theorem eq_error_of_bind {first : Except ε α} {next : α → Except ε β} {fault : ε}
    (failed : first >>= next = .error fault) :
    first = .error fault ∨ ∃ value, first = .ok value ∧ next value = .error fault := by
  cases first with
  | ok value => exact .inr ⟨value, rfl, failed⟩
  | error other =>
    cases failed
    exact .inl rfl

theorem eq_ok_of_bind {first : Except ε α} {next : α → Except ε β} {result : β}
    (ran : first >>= next = .ok result) :
    ∃ value, first = .ok value ∧ next value = .ok result := by
  cases first with
  | ok value => exact ⟨value, rfl, ran⟩
  | error fault => cases ran

theorem exists_mapM_ok_iff {step : α → Except ε β} {values : List α} :
    (∃ results, values.mapM step = .ok results) ↔
      ∀ value ∈ values, ∃ result, step value = .ok result := by
  induction values with
  | nil => exact ⟨fun _ => List.forall_mem_nil _, fun _ => ⟨[], rfl⟩⟩
  | cons value values ih =>
    rw [List.forall_mem_cons, ← ih, List.mapM_cons]
    cases step value with
    | error fault => simp [bind, Except.bind]
    | ok result =>
      cases values.mapM step with
      | error fault => simp [bind, Except.bind]
      | ok results => simp [bind, Except.bind, pure, Except.pure]

/-- What fails over a list fails at the first of its values to fail. -/
theorem mapM_eq_error_iff {step : α → Except ε β} {values : List α} {fault : ε} :
    values.mapM step = .error fault ↔ ∃ front value back, values = front ++ value :: back ∧
      (∀ other ∈ front, ∃ result, step other = .ok result) ∧ step value = .error fault := by
  constructor
  · intro failed
    induction values with
    | nil => cases failed
    | cons first values ih =>
      rw [List.mapM_cons] at failed
      rcases eq_error_of_bind failed with here | ⟨result, ran, failed⟩
      · exact ⟨[], first, values, rfl, List.forall_mem_nil _, here⟩
      · rcases eq_error_of_bind failed with later | ⟨results, -, ⟨⟩⟩
        obtain ⟨front, value, back, rfl, fine, failed⟩ := ih later
        exact ⟨first :: front, value, back, rfl, List.forall_mem_cons.mpr ⟨⟨result, ran⟩, fine⟩,
          failed⟩
  · rintro ⟨front, value, back, rfl, fine, failed⟩
    obtain ⟨results, ran⟩ := exists_mapM_ok_iff.mpr fine
    rw [List.mapM_append, ran, List.mapM_cons, failed]
    rfl

theorem map_eq_of_mapM_ok {f : α → Except ε β} {items : List α} {results : List β}
    (ran : items.mapM f = .ok results) : items.map f = results.map .ok := by
  induction items generalizing results with
  | nil =>
    cases ran
    rfl
  | cons item items ih =>
    rw [List.mapM_cons] at ran
    cases first : f item with
    | error fault => simp [first, bind, Except.bind] at ran
    | ok result =>
      cases rest : items.mapM f with
      | error fault => simp [first, rest, bind, Except.bind] at ran
      | ok others =>
        simp only [first, rest, bind, Except.bind, pure, Except.pure, Except.ok.injEq] at ran
        rw [← ran, List.map_cons, List.map_cons, first, ih rest]

end Lisplet
