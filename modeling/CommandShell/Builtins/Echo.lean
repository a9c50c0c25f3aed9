import CommandShell.Job

/-!
# Printing Arguments

`echo` writes its arguments with single spaces between them.
-/

namespace CommandShell.Echo

/-- The command. -/
def run (args : List String) : Job Int := do
  Job.print (utf8 (" ".intercalate args ++ "\n"))
  Job.flush
  return 0

end CommandShell.Echo
