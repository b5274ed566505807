import Lisplet.CommandLine

/-! The program. -/

set_option autoImplicit false

open Lisplet

def main (arguments : List String) : IO UInt32 := do
  let environment : Environment :=
    ⟨← IO.getEnv "HASCHEMA_EVAL_MODE", ← IO.getEnv "HASCHEMA_LOG_LEVEL"⟩
  let report := CommandLine.run environment arguments
  IO.print report.stdout
  IO.eprint report.stderr
  match report.outcome with
  | .exit code => pure code.toUInt32
  | .setting cause =>
    IO.eprintln cause.message
    pure 1
  | .fault reached =>
    IO.eprintln reached.message
    pure 1
