import CommandShell.CommandLine
import CommandShell.Proofs.Execution.Setting
import CommandShell.Proofs.Pipeline.Stages
import CommandShell.Proofs.Session.Progress
import CommandShell.Proofs.Text.Encoding

/-!
# One line from any source

A line can be given on the command line, or be the only line of a file or of the input, with or
without a newline behind it. It is run by the same session in the same context, and a session that
reads it ends with the exit code of the line (`Session.runIn_run_of_holdsLine`). A program that the
line calls inherits the input only if the line is given on the command line; with nothing to read,
that makes no difference (`Session.runIn_runLine_inherited`).

What differs is only noted below the level of warnings, so that where no such notes are asked for,
the program does the same with the line wherever it comes from, as long as the output can be
flushed. If it cannot, the message about that tells the sources apart, but nothing else does
(`CommandLine.perform_eq_of_holdsLine`).
-/

namespace CommandShell

/-- At most errors and warnings are to be noted. -/
def Journal.IsQuiet (threshold : Option Journal.Level) : Prop :=
  ∀ lowest, threshold = some lowest → lowest.rank ≤ Journal.Level.warn.rank

/-- Other notes are not written then. -/
theorem Action.runIn_note_of_isQuiet {c : Context} (hc : Journal.IsQuiet c.threshold)
    {level : Journal.Level} (hlevel : Journal.Level.warn.rank < level.rank)
    (topic : Journal.Topic) (text : String) :
    (note level topic text).runIn c = ((), c) := by
  rw [runIn_note, if_neg]
  intro hwithin
  cases hthreshold : c.threshold with
  | none =>
    rw [hthreshold] at hwithin
    cases hwithin
  | some lowest =>
    rw [hthreshold] at hwithin
    have hasked : level.rank ≤ lowest.rank := of_decide_eq_true hwithin
    have hlowest := hc lowest hthreshold
    omega

/-- The input holds a line and nothing else, with or without a newline. -/
def Input.HoldsLine (input : Input) (line : String) : Prop :=
  input = .ofBytes (utf8 line) ∨ input = .ofBytes (utf8 (line ++ "\n"))

/-- An input that holds a line has this line, unless there is nothing in it at all. -/
theorem Input.HoldsLine.lines_eq {input : Input} {line : String} (h : input.HoldsLine line)
    (hline : '\n' ∉ line.toList) :
    input.failure = none ∧
      (input.lines = [utf8 line] ∨ input.lines = [] ∧ line = "" ∧ input = .empty) := by
  have hnewline : newline ∉ utf8 line := Utf8.newline_notMem_encode hline
  obtain rfl | rfl := h
  · refine ⟨rfl, ?_⟩
    rw [lines_ofBytes_of_not_mem hnewline]
    split
    · next hempty =>
      have hbytes : utf8 line = [] := List.isEmpty_iff.mp hempty
      have htext : line = "" := by rw [← lossyText_utf8 line, hbytes]; rfl
      exact .inr ⟨rfl, htext, congrArg Input.ofBytes hbytes⟩
    · exact .inl rfl
  · rw [utf8_append]
    exact ⟨rfl, .inl (lines_ofBytes_append_newline hnewline)⟩

namespace Session

/-- After a line, the status is the exit code of the line, unless it ends the session. -/
theorem status_of_runLine {session session' : Session} {line : String} {c : Context} {code : Int}
    (h : ((session.runLine line).runIn c).1 = (session', .proceed code)) :
    session'.env.status = code := by
  by_cases hblank : Text.IsBlankText line.toList
  · rw [(runIn_runLine_of_isBlankText c hblank).1] at h
    cases h
    rfl
  · have hstatus := (leaves_runLine session line c false hblank).2.status
    rw [h] at hstatus
    exact hstatus

/-- With an input that ends without a failure, a line does the same whether it inherits the input or
not. -/
theorem runIn_runLine_inherited (session : Session) (line : String) (inherited : Bool)
    {c : Context} (h : c.input.failure = none) :
    (session.runLine line inherited).runIn c = (session.runLine line).runIn c := by
  have hparsed : ((session.parse line).runIn c).2.input.failure = none := by
    rw [(runIn_parse session line c).2.eq_setErr]
    exact h
  rw [runLine, runLine, Action.runIn_bind, Action.runIn_bind]
  generalize (session.parse line).runIn c = parsed at hparsed ⊢
  split
  · rfl
  · rfl
  · rfl
  · rw [Action.runIn_bind, Pipeline.runIn_run_inherited _ inherited hparsed]
    rfl

/-- Without a prompt, a session without lines is at its end. -/
theorem runLines_none_nil (failure : Option Failure) (session : Session) :
    runLines none failure session [] = session.finish none failure := by
  rw [runLines]
  rfl

/-- What a session gives whose only line has ended with a flow: the exit code, or the failure of the
flush behind the line. -/
def resultBehind (flow : Flow) (c : Context) : Except Error Int :=
  match c.out.flush with
  | none => .ok flow.code
  | some failure => .error (.io failure)

section Quiet

variable {c : Context} (hc : Journal.IsQuiet c.threshold)

include hc

/-- Nothing but the status is left to do when a session ends that shows no prompt. -/
theorem runIn_finish_of_isQuiet (session : Session) :
    (session.finish none none).runIn c = ((session, .ok session.env.status), c) := by
  rw [finish, Action.runIn_bind, Action.runIn_note_of_isQuiet hc (by decide), Action.runIn_bind,
    readStatus, Action.runIn_bind, noteLookup, Action.runIn_note_of_isQuiet hc (by decide)]
  rfl

/-- A line without characters does nothing. -/
theorem runIn_runLine_empty (session : Session) :
    (session.runLine "").runIn c = ((session, .proceed session.env.status), c) := by
  have hparse : (session.parse "").runIn c = (.error .emptyInput, c) := rfl
  rw [runLine, Action.runIn_bind, hparse]
  dsimp only
  rw [Action.runIn_bind, readStatus, Action.runIn_bind, noteLookup,
    Action.runIn_note_of_isQuiet hc (by decide)]
  rfl

/-- A session that reads a single line runs it and ends with its exit code, unless the output cannot
be flushed. -/
theorem runIn_runLines_singleton (session : Session) (line : Bytes) :
    (runLines none none session [line]).runIn c =
      let ran := (session.runLine (lossyText line)).runIn { c with input := .empty }
      ((ran.1.1, resultBehind ran.1.2 ran.2), ran.2) := by
  have hkept := keepsSetting_runLine session (lossyText line) false { c with input := .empty }
  have hstatus (session' : Session) (code : Int) :=
    @status_of_runLine session session' (lossyText line) { c with input := .empty } code
  have hprompt : (session.showPrompt none).runIn c = (none, c) := rfl
  rw [runLines, Action.runIn_bind, hprompt]
  dsimp only
  rw [Action.runIn_bind, Action.runIn_modify, Action.runIn_bind]
  dsimp only
  rw [Action.runIn_bind, Action.runIn_flush]
  generalize (session.runLine (lossyText line)).runIn { c with input := .empty } = ran
    at hkept hstatus ⊢
  obtain ⟨⟨session', flow⟩, now⟩ := ran
  -- The line does not ask for more notes than there were before it.
  have hnow : Journal.IsQuiet now.threshold := by
    rw [show now.threshold = c.threshold from congrArg (·.2.1) hkept.setting]
    exact hc
  dsimp only [resultBehind]
  cases now.out.flush with
  | some unflushed => rfl
  | none =>
    cases flow with
    | proceed code =>
      dsimp only
      rw [runLines_none_nil, runIn_finish_of_isQuiet hnow, hstatus session' code rfl]
      rfl
    | exit status =>
      dsimp only
      rw [Action.runIn_bind, Action.runIn_note_of_isQuiet hnow (by decide)]
      rfl

/-- A session whose input holds a line does what it does with the line alone. If there is no
character in the line, it need not be read at all. -/
theorem runIn_run_of_holdsLine (session : Session) {input : Input} {line : String}
    (hinput : input.HoldsLine line) (hline : '\n' ∉ line.toList)
    (hother : c.input = input ∨ c.input = .empty) (hread : line ≠ "" ∨ c.out.flush = none) :
    (session.run none input).runIn c =
      let ran := (session.runLine line).runIn { c with input := .empty }
      ((ran.1.1, resultBehind ran.1.2 ran.2), ran.2) := by
  obtain ⟨hfailure, hlines⟩ := hinput.lines_eq hline
  rw [run, hfailure]
  obtain hlines | ⟨hlines, rfl, hempty⟩ := hlines
  · rw [hlines, runIn_runLines_singleton hc, lossyText_utf8]
  · -- No line is read, so the session ends with the status that it has.
    have hsame : { c with input := .empty } = c := by
      rcases hother with h | h
      · rw [← hempty, ← h]
      · rw [← h]
    have hflush : c.out.flush = none := hread.resolve_left fun hne => hne rfl
    rw [hlines, hsame, runIn_runLine_empty hc, runLines_none_nil, runIn_finish_of_isQuiet hc]
    dsimp only [resultBehind]
    rw [hflush]
    rfl

end Quiet

end Session

namespace CommandLine

/-- How the program ends behind a line: with its exit code, or if the output cannot be flushed, with
exit code 1 and a message about that. -/
def concluded (message : Failure → String) (flow : Flow) (c : Context) : Int × Context :=
  match c.out.flush with
  | none => (flow.code, c)
  | some failure => (1, { c with err := (c.err.write (utf8 (message failure))).1 })

/-- A session of a single line is concluded. -/
theorem runIn_conclude (message : Error → String) (flow : Flow) (c : Context) :
    (conclude message (Session.resultBehind flow c)).runIn c =
      concluded (fun failure => message (.io failure)) flow c := by
  rw [Session.resultBehind, concluded]
  cases c.out.flush <;> rfl

/-- What can be seen of a run of the program, apart from the error stream: its exit code, its output
and the files that it leaves. -/
def visible (ran : Int × Context) : Int × Output × Files :=
  (ran.1, ran.2.out, ran.2.files)

/-- The message is all that differs. -/
theorem visible_concluded (message message' : Failure → String) (flow : Flow) (c : Context) :
    visible (concluded message flow c) = visible (concluded message' flow c) := by
  rw [concluded, concluded]
  cases c.out.flush <;> rfl

/-- Where the output can be flushed, nothing differs. -/
theorem concluded_of_flush {c : Context} (h : c.out.flush = none) (message : Failure → String)
    (flow : Flow) : concluded message flow c = (flow.code, c) := by
  rw [concluded, h]

section Sources

variable {request : Request} {process : Process} {c : Context} {line : String}

/-- The session that lines are run in to begin with. -/
def openSession (request : Request) (process : Process) : Session :=
  ⟨.ofProcess process.bindings, .choose request.color process.lookup process.showsColor⟩

/-- The context that lines are run in to begin with. -/
def openContext (request : Request) (c : Context) : Context :=
  { c with threshold := request.threshold }

/-- The line and what it leaves, run to begin with. -/
def ranFirst (request : Request) (process : Process) (line : String) (c : Context) :
    (Session × Flow) × Context :=
  ((openSession request process).runLine line).runIn (openContext request c)

variable (hquiet : Journal.IsQuiet request.threshold) (htext : process.isText = true)

include hquiet htext

/-- A line that is given on the command line is run at once. -/
theorem runIn_perform_line (hc : c.input.failure = none) :
    (perform { request with source := .line line } process false).runIn c =
      let ran := ranFirst request process line c
      concluded flushMessage ran.1.2 ran.2 := by
  have hopen : Journal.IsQuiet (openContext request c).threshold := hquiet
  have hinherited := Session.runIn_runLine_inherited (openSession request process) line true
    (c := openContext request c) hc
  rw [perform, Action.runIn_bind, Action.runIn_modify, htext, Bool.not_true,
    if_neg Bool.false_ne_true]
  change (runCommandLine (openSession request process) line).runIn (openContext request c) = _
  rw [runCommandLine, Action.runIn_bind, Action.runIn_note_of_isQuiet hopen (by decide),
    Action.runIn_bind, hinherited]
  unfold ranFirst
  generalize ((openSession request process).runLine line).runIn (openContext request c) = ran
  obtain ⟨⟨session, flow⟩, now⟩ := ran
  dsimp only
  rw [Action.runIn_bind, Action.runIn_flush, concluded]
  cases now.out.flush <;> rfl

/-- So is a line that a file holds. -/
theorem runIn_perform_script {path : String} {input : Input} (hc : c.input = .empty)
    (hopened : c.files.openInput path = .ok input) (hinput : input.HoldsLine line)
    (hline : '\n' ∉ line.toList) (hread : line ≠ "" ∨ c.out.flush = none) :
    (perform { request with source := .script path } process false).runIn c =
      let ran := ranFirst request process line c
      concluded (fun failure => runMessage path (.io failure)) ran.1.2 ran.2 := by
  have hopen : Journal.IsQuiet (openContext request c).threshold := hquiet
  have hfile : (openContext request c).files.openInput path = .ok input := hopened
  have hrun := Session.runIn_run_of_holdsLine hopen (openSession request process) hinput hline
    (.inr hc) hread
  -- Each line is given an empty input, which the context has already.
  have hempty : { openContext request c with input := .empty } = openContext request c := by
    rw [← hc]
    rfl
  rw [hempty] at hrun
  rw [perform, Action.runIn_bind, Action.runIn_modify, htext, Bool.not_true,
    if_neg Bool.false_ne_true]
  change (runScript (openSession request process) path).runIn (openContext request c) = _
  rw [runScript, Action.runIn_bind, Action.runIn_note_of_isQuiet hopen (by decide),
    Action.runIn_bind, Action.runIn_get]
  dsimp only
  rw [hfile]
  dsimp only
  rw [Action.runIn_bind, hrun]
  exact runIn_conclude _ _ _

/-- And so is a line that the input holds. -/
theorem runIn_perform_input {input : Input} (hc : c.input = .empty)
    (hinput : input.HoldsLine line) (hline : '\n' ∉ line.toList)
    (hread : line ≠ "" ∨ c.out.flush = none) :
    (perform { request with source := .input } process false).runIn { c with input } =
      let ran := ranFirst request process line c
      concluded (fun failure => inputMessage (.io failure)) ran.1.2 ran.2 := by
  have hopen : Journal.IsQuiet (openContext request { c with input }).threshold := hquiet
  have hrun := Session.runIn_run_of_holdsLine hopen (openSession request process) hinput hline
    (.inl rfl) hread
  have hempty : { openContext request { c with input } with input := .empty } =
      openContext request c := by
    rw [← hc]
    rfl
  rw [hempty] at hrun
  rw [perform, Action.runIn_bind, Action.runIn_modify, htext, Bool.not_true,
    if_neg Bool.false_ne_true]
  change (runInput (openSession request process) none).runIn
    (openContext request { c with input }) = _
  have hend := congrArg (fun ran => (conclude inputMessage ran.1.2).runIn ran.2) hrun
  exact hend.trans (runIn_conclude _ _ _)

end Sources

/-- A process with a variable that is not text breaks down before any line is read. -/
theorem runIn_perform_of_not_isText (request : Request) {process : Process}
    (h : process.isText = false) (c : Context) :
    (perform request process false).runIn c = (brokenDownCode, openContext request c) := by
  rw [perform, Action.runIn_bind, Action.runIn_modify, h]
  rfl

/-- Of two runs of the program with a line, begun with the output of `c`, the one ends like the
other. -/
structure EndsLike (c : Context) (line : String) (other given : Int × Context) : Prop where
  /-- Unless there is no character in the line, the message about an output that cannot be flushed
  is all that can differ. -/
  visible_eq : line ≠ "" → visible other = visible given
  /-- If the output can always be flushed, there is no such message. -/
  err_eq : (∀ pieces, c.out.flushing pieces = none) →
    visible other = visible given ∧ other.2.err = given.2.err

/-- Runs that conclude the same line end alike. -/
theorem EndsLike.of_concluded {c now : Context} {line : String} {other given : Int × Context}
    {message message' : Failure → String} {flow : Flow}
    (hkept : now.out.flushing = c.out.flushing)
    (hother : line ≠ "" ∨ c.out.flush = none → other = concluded message flow now)
    (hgiven : given = concluded message' flow now) : EndsLike c line other given where
  visible_eq hne := by
    rw [hother (.inl hne), hgiven]
    exact visible_concluded _ _ _ _
  err_eq hflushing := by
    have hflush : now.out.flush = none := by
      rw [Output.flush, hkept]
      exact hflushing _
    rw [hother (.inr (hflushing _)), hgiven, concluded_of_flush hflush, concluded_of_flush hflush]
    exact ⟨rfl, rfl⟩

/-- The program does the same with a line wherever it comes from, if at most warnings are noted and
there is nothing else to read. Given on the command line, in a file or in the input, with or without
a newline behind it, the line has the same exit code, writes the same to both streams, and leaves
the same files, as long as the output can be flushed. If it cannot, the exit code, the output and
the files are still the same, but not the message about that. -/
theorem perform_eq_of_holdsLine (request : Request) (process : Process) (c : Context)
    (line : String) (hquiet : Journal.IsQuiet request.threshold) (hc : c.input = .empty)
    (hline : '\n' ∉ line.toList) :
    let given := (perform { request with source := .line line } process false).runIn c
    (∀ path input, c.files.openInput path = .ok input → input.HoldsLine line →
        EndsLike c line
          ((perform { request with source := .script path } process false).runIn c) given) ∧
      (∀ input : Input, input.HoldsLine line →
        EndsLike c line
          ((perform { request with source := .input } process false).runIn { c with input })
          given) := by
  intro given
  have hkept := (Session.keepsSetting_runLine (openSession request process) line false
    (openContext request c)).flushing
  cases htext : process.isText with
  | false =>
    have hgiven : given = _ := runIn_perform_of_not_isText _ htext c
    constructor
    · intro path input _ _
      rw [hgiven, runIn_perform_of_not_isText _ htext]
      exact ⟨fun _ => rfl, fun _ => ⟨rfl, rfl⟩⟩
    · intro input _
      rw [hgiven, runIn_perform_of_not_isText _ htext]
      exact ⟨fun _ => rfl, fun _ => ⟨rfl, rfl⟩⟩
  | true =>
    have hgiven : given = _ :=
      @runIn_perform_line request process c line hquiet htext (congrArg Input.failure hc)
    constructor
    · intro path input hopened hinput
      exact .of_concluded hkept
        (runIn_perform_script hquiet htext hc hopened hinput hline) hgiven
    · intro input hinput
      exact .of_concluded hkept (runIn_perform_input hquiet htext hc hinput hline) hgiven

/-- A line that ends the session, as the whole of a file that ends in a newline and of an input that
does not. -/
theorem perform_exit_line :
    let line := "exit 300"
    let request : Request := ⟨.input, "> ", "always", some .warn⟩
    let process : Process := { bindings := [("x", "a")] }
    let files : Files := ⟨[], [(["s"], .file (utf8 (line ++ "\n")) false)]⟩
    let c : Context :=
      ⟨files, .absent, .empty, .unlimited, .unlimited, none, Pattern.compile⟩
    let given := (perform { request with source := .line line } process false).runIn c
    let script := (perform { request with source := .script "s" } process false).runIn c
    let input := (perform { request with source := .input } process false).runIn
      { c with input := .ofBytes (utf8 line) }
    given.1 = 44 ∧ (visible script = visible given ∧ script.2.err = given.2.err) ∧
      visible input = visible given ∧ input.2.err = given.2.err := by
  intro line request process files c given script input
  have hopened : c.files.openInput "s" = .ok (.ofBytes (utf8 (line ++ "\n"))) := by
    dsimp only [c, files, line]
    decide +kernel
  have hstatus : given.1 = 44 := by
    dsimp only [given, c, files, request, process, line]
    decide +kernel
  have hquiet : Journal.IsQuiet request.threshold := by
    intro lowest hlowest
    cases hlowest
    exact Nat.le_refl _
  have hflushing : ∀ pieces, c.out.flushing pieces = none := fun _ => rfl
  have hempty : c.input = .empty := rfl
  have hline : '\n' ∉ line.toList := by
    dsimp only [line]
    decide
  -- Nothing is evaluated from here on.
  clear_value c request process line
  obtain ⟨hscript, hinput⟩ :=
    perform_eq_of_holdsLine request process c line hquiet hempty hline
  exact ⟨hstatus, (hscript "s" _ hopened (.inr rfl)).err_eq hflushing,
    (hinput _ (.inl rfl)).err_eq hflushing⟩

end CommandLine

end CommandShell
