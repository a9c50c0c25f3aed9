/-!
# Colour

The shell's own messages, its prompt and its complaints, may be coloured; what commands print
never is. The choice between `always`, `never` and anything else is made by name; anything else
means to decide by the process variables and by what the terminal can show. Whether the error
stream is a terminal that shows colours is asked of the system and given here.
-/

namespace CommandShell

/-- How the shell's own messages are shown. -/
structure Palette where
  /-- The messages are coloured. -/
  useColor : Bool
  deriving DecidableEq, Repr

namespace Palette

/-- Messages without colour. -/
def plain : Palette := ⟨false⟩

/-- The choice made by the process variables: none if `NO_COLOR` is set at all or `CLICOLOR` is
`0`; colour if `CLICOLOR_FORCE` is set to anything but `0` or nothing; none if `TERM` is `dumb`; and
otherwise what the terminal shows. -/
def detect (process : String → Option String) (showsColor : Bool := false) : Palette :=
  if (process "NO_COLOR").isSome then plain
  else if process "CLICOLOR" = some "0" then plain
  else if (process "CLICOLOR_FORCE").any fun force => force != "0" && !force.isEmpty then ⟨true⟩
  else if process "TERM" = some "dumb" then plain
  else ⟨showsColor⟩

/-- The choice of a given name, in capitals or not. -/
def choose (name : String) (process : String → Option String) (showsColor : Bool := false) :
    Palette :=
  let name := name.toLower
  if name = "always" then ⟨true⟩
  else if name = "never" then plain
  else detect process showsColor

/-- The terminal's sequence for a display attribute. -/
def sequence (code : String) : String :=
  "\x1b[" ++ code ++ "m"

/-- A text with display attributes around it. -/
def styled (codes : List String) (text : String) : String :=
  "".intercalate (codes.map sequence) ++ text ++ sequence "0"

/-- The prompt as it is shown: cyan and bold. -/
def paintPrompt (palette : Palette) (text : String) : String :=
  if palette.useColor then styled ["36", "1"] text else text

/-- A complaint of the shell as it is shown: red. -/
def paintError (palette : Palette) (text : String) : String :=
  if palette.useColor then styled ["31"] text else text

end Palette

end CommandShell
