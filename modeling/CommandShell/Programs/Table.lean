import CommandShell.Programs.Editing.Editor
import CommandShell.Programs.Records.Selection
import CommandShell.Programs.Utility.Calculating
import CommandShell.Programs.Utility.Characters
import CommandShell.Programs.Utility.Columns
import CommandShell.Programs.Utility.Condition
import CommandShell.Programs.Utility.Copying
import CommandShell.Programs.Utility.Counting
import CommandShell.Programs.Utility.Dumping
import CommandShell.Programs.Utility.Ends
import CommandShell.Programs.Utility.Entries
import CommandShell.Programs.Utility.Finding
import CommandShell.Programs.Utility.Launching
import CommandShell.Programs.Utility.Listing
import CommandShell.Programs.Utility.Numbers
import CommandShell.Programs.Utility.Searching
import CommandShell.Programs.Utility.Sorting

/-!
# The Table of Standard Programs

The names by which standard programs are called.
-/

namespace CommandShell.Programs

/-- The standard programs that call no others. -/
def utilities : List (String × Utility) :=
  [ ("true", ending 0), ("false", ending 1), ("sleep", sleep), ("sync", ending 0),
    ("echo", echo), ("printf", printFormatted), ("yes", yes), ("pwd", printWorkingDirectory),
    ("test", test), ("[", test), ("printenv", printVariables),
    ("whoami", saying 0 "root"), ("id", identity), ("uname", systemName), ("tty", terminalName),
    ("cat", cat), ("tee", tee), ("tac", tac), ("rev", rev), ("nl", nl),
    ("head", head), ("tail", tail), ("sort", sort), ("uniq", uniq), ("comm", comm),
    ("cut", cut), ("paste", paste), ("fold", fold), ("expand", expandLines),
    ("unexpand", unexpandLines), ("tr", tr), ("seq", seq), ("factor", factor),
    ("grep", grep), ("egrep", grepUsing 'E'), ("fgrep", grepUsing 'F'),
    ("basename", basename), ("dirname", dirname), ("realpath", realpath), ("readlink", readlink),
    ("ls", ls), ("touch", touch), ("mkdir", mkdir), ("rmdir", rmdir), ("rm", rm), ("cp", cp),
    ("mv", mv), ("ln", ln), ("chmod", chmod), ("wc", wc), ("expr", expr), ("sed", Editing.sed),
    ("od", od), ("base64", base64), ("cmp", cmp) ]

/-- The standard programs that call other ones. -/
def launchers : List (String × (Launch → Utility)) :=
  [ ("env", env), ("xargs", xargs), ("timeout", timeout), ("nohup", nohup), ("nice", nice),
    ("stdbuf", plainly "ioe"), ("setsid", plainly ""), ("awk", Records.awk),
    ("mawk", Records.awk), ("find", find) ]

end CommandShell.Programs
