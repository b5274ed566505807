import Lisplet.Event
import Lisplet.Reading

/-! Reading of one expression from a source text. What follows the expression is ignored. -/

set_option autoImplicit false

namespace Lisplet

namespace Source

/-- The error of an expression that is nested too deeply, at the last token that was consumed. -/
def tooDeepError (stream : TokenStream) : SyntaxError :=
  let pos :=
    match stream.buffer[stream.index - 1]? with
    | some token => token.pos
    | none => 0
  { stream.report ⟨pos, "", []⟩ with reason := some "expression nested too deeply" }

def reports (source : String) (value : Value) (stream : TokenStream) : List Event :=
  match TokenStream.peek stream with
  | .ok token _ =>
    if token.kind = .eof then [.parsed source value]
    else
      [.trailing token.pos (String.ofList (source.toList.drop token.pos)), .parsed source value]
  | .error _ _ => []

def parseWithin (room : Nat) (sourceName source : String) : Traced Event Value :=
  match Reading.expression room (.start sourceName source.toList) with
  | .ok value stream => ⟨reports source value stream, .ok value⟩
  | .error (.mismatch found) stream => .error (.unreadable (stream.report found))
  | .error (.limit .depth) stream => .error (.unreadable (tooDeepError stream))
  | .error (.limit reached) _ => .fail (.limit reached)

def readWithin (room : Nat) (sourceName source : String) : Traced Event Value :=
  let parsed := parseWithin room sourceName source
  match parsed.result with
  | .error (.error (.unreadable cause)) =>
    ⟨parsed.events ++ [.unreadable cause], .ok (.string ("No match: " ++ cause.describe))⟩
  | _ => parsed

end Source

def parse (sourceName source : String) : Except Fault Value :=
  (Source.parseWithin nestingRoom sourceName source).result

/-- Reads one expression from the source, or says in a string why it cannot be read. -/
def read (sourceName source : String) : Except Fault Value :=
  (Source.readWithin nestingRoom sourceName source).result

section

variable {sourceName source : String}

theorem read_of_parse {value : Value} (parsed : parse sourceName source = .ok value) :
    read sourceName source = .ok value := by
  rw [parse] at parsed
  simp only [read, Source.readWithin, parsed]

theorem read_of_limit {reached : Limit}
    (failed : parse sourceName source = .error (.limit reached)) :
    read sourceName source = .error (.limit reached) := by
  rw [parse] at failed
  simp only [read, Source.readWithin, failed]

theorem read_of_unreadable {cause : SyntaxError}
    (failed : parse sourceName source = .error (.error (.unreadable cause))) :
    read sourceName source = .ok (.string ("No match: " ++ cause.describe)) := by
  rw [parse] at failed
  simp only [read, Source.readWithin, failed]

theorem parse_error_cases {fault : Fault} (failed : parse sourceName source = .error fault) :
    (∃ cause, fault = .error (.unreadable cause)) ∨ ∃ reached, fault = .limit reached := by
  rw [parse, Source.parseWithin] at failed
  split at failed
  · cases failed
  · cases failed
    exact .inl ⟨_, rfl⟩
  · cases failed
    exact .inl ⟨_, rfl⟩
  · cases failed
    exact .inr ⟨_, rfl⟩

end

end Lisplet
