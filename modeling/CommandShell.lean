import CommandShell.Main
import CommandShell.Proofs.Builtins.Blame
import CommandShell.Proofs.CommandLine.Sources
import CommandShell.Proofs.Execution.Complaints
import CommandShell.Proofs.Line.Faults
import CommandShell.Proofs.Line.Quoted
import CommandShell.Proofs.Pattern.WholeWords
import CommandShell.Proofs.Pipeline.Neutral
import CommandShell.Proofs.Search.Context
import CommandShell.Proofs.Session.Assignment
import CommandShell.Proofs.Session.Colour
import CommandShell.Proofs.Session.Decoding
import CommandShell.Proofs.Session.Script
import CommandShell.Proofs.Session.Status
import CommandShell.Proofs.Line.Grammar
import CommandShell.Proofs.Line.CutPoints
import CommandShell.Proofs.Builtins.Concatenation
import CommandShell.Proofs.Builtins.Counting
