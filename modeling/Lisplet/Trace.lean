import Lisplet.Error

/-! Computations that leave a trace: a row of events and, unless there is a fault, a result. The
events before a fault stay in the trace. -/

set_option autoImplicit false

namespace Lisplet

structure Traced (ε α : Type) where
  events : List ε
  result : Except Fault α

namespace Traced

variable {ε α β : Type}

def ofResult (result : Except Fault α) : Traced ε α :=
  ⟨[], result⟩

def emit (event : ε) : Traced ε Unit :=
  ⟨[event], .ok ()⟩

def fail (fault : Fault) : Traced ε α :=
  ⟨[], .error fault⟩

def error (cause : Error) : Traced ε α :=
  fail (.error cause)

/-- What follows a result adds to the trace; nothing follows a fault. -/
def andThen (first : Traced ε α) (next : α → Traced ε β) : Traced ε β :=
  match first.result with
  | .ok value =>
    let second := next value
    ⟨first.events ++ second.events, second.result⟩
  | .error fault => ⟨first.events, .error fault⟩

instance : Monad (Traced ε) where
  pure value := ⟨[], .ok value⟩
  bind := andThen

@[simp] theorem result_pure (value : α) : (pure value : Traced ε α).result = .ok value := rfl

@[simp] theorem events_pure (value : α) : (pure value : Traced ε α).events = [] := rfl

@[simp] theorem result_ofResult (result : Except Fault α) :
    (ofResult result : Traced ε α).result = result := rfl

@[simp] theorem events_ofResult (result : Except Fault α) :
    (ofResult result : Traced ε α).events = [] := rfl

@[simp] theorem result_fail (fault : Fault) :
    (fail fault : Traced ε α).result = .error fault := rfl

@[simp] theorem events_fail (fault : Fault) : (fail fault : Traced ε α).events = [] := rfl

@[simp] theorem result_emit (event : ε) : (emit event).result = .ok () := rfl

@[simp] theorem events_emit (event : ε) : (emit event).events = [event] := rfl

@[simp] theorem result_bind (first : Traced ε α) (next : α → Traced ε β) :
    (first >>= next).result = first.result >>= fun value => (next value).result := by
  cases first with
  | mk events result => cases result <;> rfl

def each (step : α → Traced ε β) : List α → Traced ε (List β)
  | [] => pure []
  | value :: rest => do
    let first ← step value
    let others ← each step rest
    pure (first :: others)

end Traced

end Lisplet
