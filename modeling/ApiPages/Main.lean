import ApiPages.Command.Run
import ApiPages.Files.Disk
import ApiPages.Page.FieldTemplate

open ApiPages

section

attribute [local instance] noCharacterNames Markdown.noExtensions Layout.fieldTemplates

def main (arguments : List String) : IO UInt32 := do
  let current := Path.ofText (toString (← IO.currentDir))
  let home := Path.ofText ((← IO.getEnv "HOME").getD "/")
  let (outcome, session) ← (Command.run { current, home } arguments).run {}
  IO.eprint session.console
  match outcome.ending with
  | .fault fault => IO.eprintln fault.message
  | _ => IO.print outcome.answer
  return UInt32.ofNat (outcome.ending.status?.getD 1)

end
