import EntityFilter.Command.Run

/-!
# The command

Reads the arguments and the input, and prints what `Command.run` says.
-/

open EntityFilter

/-- All that is left of a stream. -/
partial def readAll (stream : IO.FS.Stream) : IO String := do
  let line ← stream.getLine
  if line.isEmpty then return "" else return line ++ (← readAll stream)

/-- The command `tagql`. -/
def main (arguments : List String) : IO UInt32 := do
  let input ← if Command.readsInput arguments then readAll (← IO.getStdin) else pure ""
  match Command.run arguments input with
  | some outcome =>
    IO.print outcome.output
    IO.eprint outcome.errors
    return outcome.code.toUInt32
  | none =>
    IO.eprint ("error: invalid arguments\n\n" ++ HelpTopic.command.text false)
    return 2
