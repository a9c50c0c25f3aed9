import CommandShell.Proofs.Execution.Codes
import CommandShell.Proofs.Execution.Notes
import CommandShell.Proofs.Line.Parts
import CommandShell.Proofs.Line.Refusal
import CommandShell.Proofs.Stream.Acceptance
import CommandShell.Proofs.Text.Integer
import CommandShell.Session

/-!
# What a line leaves behind

The effect of one line on a session, whatever the streams accept and whatever the programs do. A
blank line changes nothing. Any other line leaves its exit code in the status variable, where it is
read back as a number, and changes no other variable but the one that it assigns. A line that is
refused reads nothing and writes nothing but the report of that.

So `$?` always stands for the exit code of the last line that was not blank. This exit code is
defined here from the lines that have been run and from what became of them, without looking at
any variable (`Session.lastCode`); the main theorem is `Session.effect_of_line`.
-/

namespace CommandShell

/-! ## The status variable -/

namespace Environment

theorem get?_set_of_ne (env : Environment) {name other : String} (h : other ≠ name)
    (value : String) : (env.set name value).get? other = env.get? other :=
  lookup_assign_of_ne h value env.bindings

theorem get_setStatus (env : Environment) (code : Int) :
    (env.setStatus code).get statusName = Text.decimal code :=
  get_set_self env statusName (Text.decimal code)

/-- An exit code that has been recorded is read back. -/
theorem status_setStatus (env : Environment) {code : Int} (h : IsExitCode code) :
    (env.setStatus code).status = code := by
  obtain ⟨hlow, hhigh⟩ := h
  have hbound : (statusBound : Int) = 2147483648 := by decide
  rw [Exit.statusCount] at hhigh
  rw [status, get_setStatus, Text.readSigned_decimal (by omega) (by omega)]

end Environment

/-- A number is inserted into a line as it is: it has no characters to guard. -/
theorem Line.guardedValue_decimal (quoted : Bool) (code : Int) :
    guardedValue quoted (Text.decimal code).toList = (Text.decimal code).toList := by
  have hguarded : ∀ c ∈ (Text.decimal code).toList, guarded quoted c = [c] := by
    intro c hc
    have hplain : ∀ special : Char, special ≠ '-' → special.isDigit = false → c ≠ special := by
      rintro special hminus hdigit rfl
      rcases Text.isDigit_of_mem_decimal hc with h | h
      · exact hminus h
      · rw [hdigit] at h
        cases h
    rw [guarded]
    simp [hplain '"' (by decide) (by decide), hplain '\\' (by decide) (by decide),
      hplain '$' (by decide) (by decide), hplain '\'' (by decide) (by decide)]
  rw [guardedValue, List.flatMap_congr hguarded, List.flatMap_singleton']

namespace Context

/-! ## Reports -/

/-- The second context is the first one after a report, and some notes before and after it. The
error stream has taken as much of the report as it accepts. -/
def Reported (c : Context) (text : String) (c' : Context) : Prop :=
  ∃ before, c.Noted before ∧
    Noted { before with err := (before.err.write (utf8 text)).1 } c'

namespace Reported

variable {c c' c'' : Context} {text : String}

/-- Notes may come before the report. -/
theorem of_noted (first : c.Noted c') (second : c'.Reported text c'') : c.Reported text c'' := by
  obtain ⟨before, hbefore, hafter⟩ := second
  exact ⟨before, first.trans hbefore, hafter⟩

/-- Notes may come after the report. -/
theorem noted (first : c.Reported text c') (second : c'.Noted c'') : c.Reported text c'' := by
  obtain ⟨before, hbefore, hafter⟩ := first
  exact ⟨before, hbefore, hafter.trans second⟩

/-- A report changes nothing but the error stream. -/
theorem eq_setErr (h : c.Reported text c') : c' = { c with err := c'.err } := by
  obtain ⟨before, hbefore, hafter⟩ := h
  have hfirst := hbefore.eq_setErr
  have hlast := hafter.eq_setErr
  rw [hfirst] at hlast
  exact hlast

/-- Where no notes are asked for, the error stream has what it accepts of the report, and nothing
else. -/
theorem contents_of_threshold (h : c.Reported text c') (hthreshold : c.threshold = none) :
    c'.err.contents = c.err.contents ++ c.err.accepted (utf8 text) := by
  obtain ⟨before, hbefore, hafter⟩ := h
  obtain rfl := hbefore.eq_of_threshold hthreshold
  rw [hafter.eq_of_threshold hthreshold]
  exact Output.contents_write _ _

end Reported

end Context

namespace Session

variable (session : Session) (line : String) (c : Context)

theorem noted_noteLookup (env : Environment) (name : String) :
    c.Noted ((noteLookup env name).runIn c).2 :=
  .note .refl _ _ _

theorem noted_noteSet (name value : String) : c.Noted ((noteSet name value).runIn c).2 :=
  .note .refl _ _ _

theorem noted_forM_noteLookup (env : Environment) (names : List String) (c : Context) :
    c.Noted ((names.forM (noteLookup env)).runIn c).2 := by
  induction names generalizing c with
  | nil => exact .refl
  | cons name rest ih => exact (noted_noteLookup c env name).trans (ih _)

/-- Reading a line writes nothing but notes. -/
theorem runIn_parse :
    ((session.parse line).runIn c).1 = Line.parse session.env line ∧
      c.Noted ((session.parse line).runIn c).2 := by
  have hlookups := noted_forM_noteLookup session.env (Line.lookups line) c
  rw [parse, Action.runIn_bind]
  generalize ((Line.lookups line).forM (noteLookup session.env)).runIn c = looked at hlookups
  dsimp only
  split
  · exact ⟨rfl, hlookups.trans (.note .refl _ _ _)⟩
  · exact ⟨rfl, hlookups⟩

/-- The report of a line that is refused. -/
def reportText (error : Error) : String :=
  session.palette.paintError s!"{name}: {error.message}" ++ "\n"

/-- Whatever becomes of the report, its exit code is that of the error. -/
theorem runIn_report (error : Error) :
    ((session.report error).runIn c).1 = error.exitCode ∧
      c.Reported (session.reportText error) ((session.report error).runIn c).2 := by
  rw [report, Action.runIn_bind, Action.runIn_complain]
  dsimp only
  rw [← reportText]
  cases (c.err.write (utf8 (session.reportText error))).2 with
  | none => exact ⟨rfl, c, .refl, .refl⟩
  | some failure => exact ⟨rfl, c, .refl, .note .refl _ _ _⟩

/-! ## Lines of each kind -/

section Kinds

variable {session line} {inherited : Bool}

theorem runIn_runLine_of_isBlankText (h : Text.IsBlankText line.toList) :
    let ran := (session.runLine line inherited).runIn c
    ran.1 = (session, .proceed session.env.status) ∧ c.Noted ran.2 := by
  obtain ⟨hstatement, hnoted⟩ := runIn_parse session line c
  rw [runLine, Action.runIn_bind, hstatement, Line.parse_of_isBlankText _ h]
  generalize ((session.parse line).runIn c).2 = parsed at hnoted ⊢
  exact ⟨rfl, hnoted.trans (noted_noteLookup _ _ _)⟩

/-- Once an error has been reported, its exit code is recorded. -/
theorem runIn_report_record (session : Session) (error : Error) (c : Context) :
    let ran := Action.runIn (do
      let code ← session.report error
      return (← session.record code, Flow.proceed code)) c
    ran.1 = ({ session with env := session.env.setStatus error.exitCode },
        .proceed error.exitCode) ∧
      c.Reported (session.reportText error) ran.2 := by
  obtain ⟨hcode, hreported⟩ := runIn_report session c error
  rw [Action.runIn_bind, hcode]
  exact ⟨rfl, hreported.noted (noted_noteSet _ _ _)⟩

/-- A line that is refused leaves the exit code of its error. -/
theorem runIn_runLine_of_error {error : Error} (hblank : ¬Text.IsBlankText line.toList)
    (h : Line.parse session.env line = .error error) :
    let ran := (session.runLine line inherited).runIn c
    ran.1 = ({ session with env := session.env.setStatus error.exitCode },
        .proceed error.exitCode) ∧
      c.Reported (session.reportText error) ran.2 := by
  obtain ⟨hstatement, hnoted⟩ := runIn_parse session line c
  rw [runLine, Action.runIn_bind, hstatement, h]
  generalize ((session.parse line).runIn c).2 = parsed at hnoted ⊢
  obtain ⟨hleft, hreported⟩ := runIn_report_record session error parsed
  -- No refusal is that the line is empty, which is treated apart.
  cases Line.isRefusal_of_parse hblank h <;> exact ⟨hleft, hreported.of_noted hnoted⟩

/-- An assignment leaves the exit code 0. -/
theorem runIn_runLine_of_assignment {key value : String}
    (h : Line.parse session.env line = .ok (.assignment key value)) :
    ((session.runLine line inherited).runIn c).1 =
      ({ session with env := (session.env.set key value).setStatus 0 }, .proceed 0) := by
  rw [runLine, Action.runIn_bind, (runIn_parse session line c).1, h]
  rfl

/-- A pipeline leaves its exit code. -/
theorem runIn_runLine_of_pipeline {commands : List Command}
    (h : Line.parse session.env line = .ok (.pipeline commands)) :
    let flow := ((Pipeline.run commands inherited).runIn ((session.parse line).runIn c).2).1
    ((session.runLine line inherited).runIn c).1 =
      ({ session with env := session.env.setStatus flow.code }, flow) := by
  rw [runLine, Action.runIn_bind, (runIn_parse session line c).1, h]
  rfl

end Kinds

/-- How a line that is not blank leaves the variables: `after` are those when the line has ended
with `code`. -/
structure Leaves (env : Environment) (line : String) (after : Environment) (code : Int) :
    Prop where
  /-- The status variable holds the exit code in decimal. -/
  text : after.get Environment.statusName = Text.decimal code
  /-- The status is the exit code. -/
  status : after.status = code
  /-- The other variables are as they were, except for the one that the line assigns. -/
  others : ∀ name, name ≠ Environment.statusName →
    (∀ value, Line.parse env line ≠ .ok (.assignment name value)) →
      after.get? name = env.get? name

/-- Recording an exit code changes the status variable only. -/
theorem leaves_setStatus (env : Environment) (line : String) {code : Int} (h : IsExitCode code) :
    Leaves env line (env.setStatus code) code where
  text := env.get_setStatus code
  status := env.status_setStatus h
  others _ hname _ := env.get?_set_of_ne hname _

/-- A line that is not blank leaves its exit code. -/
theorem leaves_runLine (inherited : Bool) (hblank : ¬Text.IsBlankText line.toList) :
    let ran := ((session.runLine line inherited).runIn c).1
    ran.1.palette = session.palette ∧ Leaves session.env line ran.1.env ran.2.code := by
  dsimp only
  cases hparse : Line.parse session.env line with
  | error error =>
    rw [(runIn_runLine_of_error c hblank hparse).1]
    exact ⟨rfl, leaves_setStatus _ _ error.isExitCode_exitCode⟩
  | ok statement =>
    cases statement with
    | assignment key value =>
      rw [runIn_runLine_of_assignment c hparse]
      -- Two variables are set, the status after the one that is assigned.
      refine ⟨rfl, ?_, ?_, ?_⟩
      · exact Environment.get_setStatus _ _
      · exact Environment.status_setStatus _ (by decide)
      · intro name hname hassigned
        have hkey : name ≠ key := by
          rintro rfl
          exact hassigned value hparse
        exact (Environment.get?_set_of_ne _ hname _).trans (Environment.get?_set_of_ne _ hkey _)
    | pipeline commands =>
      rw [runIn_runLine_of_pipeline c hparse]
      exact ⟨rfl, leaves_setStatus _ _ (Pipeline.gives_run commands inherited _)⟩

/-! ## Lines that have been run before -/

/-- The session after some lines, each of which is run in a context of its own. -/
def afterLines : Session → List (String × Context) → Session
  | session, [] => session
  | session, (line, c) :: rest => afterLines ((session.runLine line).runIn c).1.1 rest

/-- The exit code of the last line that is not blank, if there is one among some lines. -/
def lastCode : Session → List (String × Context) → Option Int
  | _, [] => none
  | session, (line, c) :: rest =>
    let ran := ((session.runLine line).runIn c).1
    (lastCode ran.1 rest).or (if Text.IsBlankText line.toList then none else some ran.2.code)

/-- The status variable holds the exit code of the last line that is not blank, or what it held
before the first one. -/
theorem get_statusName_afterLines (session : Session) (history : List (String × Context)) :
    (session.afterLines history).env.get Environment.statusName =
      match session.lastCode history with
      | some code => Text.decimal code
      | none => session.env.get Environment.statusName := by
  induction history generalizing session with
  | nil => rfl
  | cons first rest ih =>
    obtain ⟨line, c⟩ := first
    rw [afterLines, lastCode, ih]
    -- A later line that is not blank counts; if there is none, the first one does.
    cases lastCode ((session.runLine line).runIn c).1.1 rest with
    | some code => rfl
    | none =>
      by_cases hblank : Text.IsBlankText line.toList
      · rw [(runIn_runLine_of_isBlankText c hblank).1, if_pos hblank]
        rfl
      · rw [if_neg hblank]
        exact (leaves_runLine session line c false hblank).2.text

/-- What `$?` is replaced by in a session that has run some lines: the exit code of the last of them
that is not blank, or what the variable held at the beginning. -/
def statusText (session : Session) (history : List (String × Context)) (quoted : Bool) :
    List Char :=
  match session.lastCode history with
  | some code => (Text.decimal code).toList
  | none => Line.guardedValue quoted (session.env.get Environment.statusName).toList

/-- The status variable is inserted into a line as this text. -/
theorem guardedValue_status_afterLines (session : Session) (history : List (String × Context))
    (quoted : Bool) :
    Line.guardedValue quoted
        ((session.afterLines history).env.get Environment.statusName).toList =
      session.statusText history quoted := by
  rw [get_statusName_afterLines, statusText]
  cases session.lastCode history with
  | some code => exact Line.guardedValue_decimal quoted code
  | none => rfl

/-- A line with a reference to the status variable is not blank. -/
theorem not_isBlankText_status (front back : List Char) :
    ¬Text.IsBlankText (front ++ '$' :: '?' :: back) := by
  intro hblank
  exact absurd (hblank '$' (List.mem_append_right _ List.mem_cons_self)) (by decide)

/-- A line in a session that has run some lines before.

Wherever a reference may begin in the line, outside quotes or in double quotes, `$?` is replaced by
the exit code of the last of these lines that is not blank, or by what the variable held at the
beginning; and if the line is no assignment, it is a pipeline of the words that this makes. So it is
wherever a reference may begin in the value of an assignment, which assigns what this makes.

A blank line changes nothing. Any other line leaves its exit code; if it is refused, nothing is
read, and of all streams only the error stream is written to, which gets the report as far as it
accepts it. -/
theorem effect_of_line (session : Session) (history : List (String × Context)) (line : String)
    (inherited : Bool) (c : Context) :
    let now := session.afterLines history
    let ran := (now.runLine line inherited).runIn c
    (∀ front back : List Char, (Line.Quoting.bare.run front).admits = true →
        let expanded := Line.expand now.env front ++
          session.statusText history (Line.Quoting.bare.run front != .bare) ++
          Line.expandFrom now.env (Line.Quoting.bare.run front) 0 back
        Line.expand now.env (front ++ '$' :: '?' :: back) = expanded ∧
          (∀ tokens, line.toList = front ++ '$' :: '?' :: back →
            Line.tokenize line.toList = .ok tokens →
            (∀ token, tokens = [token] → Line.assignment? token = none) →
              Line.parse now.env line = Line.tokenize expanded >>= Line.pipelineOf) ∧
          ∀ name token, Line.tokenize line.toList = .ok [token] →
            Line.assignment? token = some (name, front ++ '$' :: '?' :: back) →
              Line.parse now.env line =
                .ok (.assignment (.ofList name) (.ofList (Line.unquote expanded)))) ∧
      (Text.IsBlankText line.toList →
        ran.1 = (now, .proceed now.env.status) ∧ c.Noted ran.2 ∧
          (c.threshold = none → ran.2 = c)) ∧
      (¬Text.IsBlankText line.toList →
        ran.1.1.palette = now.palette ∧ Leaves now.env line ran.1.1.env ran.1.2.code) ∧
      (∀ error, ¬Text.IsBlankText line.toList → Line.parse now.env line = .error error →
        (∃ code, Line.IsRefusal error code ∧ ran.1.2 = .proceed code) ∧
          ran.2 = { c with err := ran.2.err } ∧
            c.Reported (now.reportText error) ran.2 ∧
              (c.threshold = none → ran.2.err.contents =
                c.err.contents ++ c.err.accepted (utf8 (now.reportText error)))) := by
  intro now
  have hblankLine := @runIn_runLine_of_isBlankText now line c inherited
  have hleaves := leaves_runLine now line c inherited
  have hrefused := @runIn_runLine_of_error now line c inherited
  dsimp only at hblankLine hleaves hrefused ⊢
  generalize (now.runLine line inherited).runIn c = ran at hblankLine hleaves hrefused ⊢
  refine ⟨fun front back hadmits => ?_, fun hblank => ?_, hleaves, fun error hblank hparse => ?_⟩
  · have hexpand := Line.expand_status now.env hadmits back
    rw [guardedValue_status_afterLines] at hexpand
    refine ⟨hexpand, fun tokens hline htokens hassignment => ?_,
      fun name token htoken hassignment => ?_⟩
    · have hblank : ¬Text.IsBlankText line.toList := hline ▸ not_isBlankText_status front back
      rw [Line.parse_eq_pipelineOf_expand now.env hblank htokens hassignment, hline, hexpand]
    · have hblank := Line.not_isBlankText_of_tokenize htoken (List.cons_ne_nil _ _)
      have hvalue : front ++ '$' :: '?' :: back ≠ [] := by simp
      rw [Line.parse_of_assignment now.env hblank htoken hassignment hvalue, hexpand]
  · obtain ⟨hleft, hnoted⟩ := hblankLine hblank
    exact ⟨hleft, hnoted, hnoted.eq_of_threshold⟩
  · obtain ⟨hleft, hreported⟩ := hrefused hblank hparse
    exact ⟨⟨_, Line.isRefusal_of_parse hblank hparse, congrArg Prod.snd hleft⟩,
      hreported.eq_setErr, hreported, hreported.contents_of_threshold⟩

/-- Behind a command that is missing and a blank line, `$?` is the exit code of that command,
outside quotes and in double quotes, and in a value. A line that leaves a quote open is refused and
leaves the exit code 2. -/
theorem status_behind_missing_command :
    let session : Session := ⟨.initial, .plain⟩
    let c : Context :=
      ⟨⟨[], []⟩, .absent, .ofBytes [0x78], .unlimited, .unlimited, none, Pattern.compile⟩
    let history := [("nosuch | nosuch", c), (" \t", c)]
    let now := session.afterLines history
    let blank := (now.runLine " \t").runIn c
    let refused := (now.runLine "echo \"$?").runIn c
    Line.parse now.env "echo $?" = .ok (.pipeline [⟨"echo", ["127"]⟩]) ∧
      Line.parse now.env "echo \"<$?>\"" = .ok (.pipeline [⟨"echo", ["<127>"]⟩]) ∧
      Line.parse now.env "x=\"<$?>\"" = .ok (.assignment "x" "<127>") ∧
      blank.1 = (now, .proceed 127) ∧ blank.2 = c ∧
      refused.1.2 = .proceed 2 ∧ refused.1.1.env.get "?" = "2" ∧
      refused.2.input = c.input ∧ refused.2.out = c.out ∧
      refused.2.err.contents = utf8 ("cli-shell: unclosed quote \"\n" ++
        "  hint: add the closing \" or write \\\" for a literal quote\n") := by
  intro session c history now blank refused
  have hlast : session.lastCode history = some 127 := by decide +kernel
  have hstatus (line : String) := (effect_of_line session history line false c).1
  have hbare := (hstatus "echo $?" "echo ".toList [] (by decide)).2.1
    ["echo".toList, "$?".toList] (by decide) (by decide +kernel) nofun
  have hquoted := (hstatus "echo \"<$?>\"" "echo \"<".toList ">\"".toList (by decide)).2.1
    ["echo".toList, "\"<$?>\"".toList] (by decide) (by decide +kernel) nofun
  have hvalue := (hstatus "x=\"<$?>\"" "\"<".toList ">\"".toList (by decide)).2.2
    ['x'] "x=\"<$?>\"".toList (by decide +kernel) (by decide)
  rw [statusText, hlast] at hbare hquoted hvalue
  obtain ⟨-, hblank, -, -⟩ := effect_of_line session history " \t" false c
  obtain ⟨-, -, hleaves, hrefused⟩ := effect_of_line session history "echo \"$?" false c
  obtain ⟨hsame, -, hkept⟩ := hblank (by decide)
  have hopen : ¬Text.IsBlankText "echo \"$?".toList := by decide
  have hparse : Line.parse now.env "echo \"$?" = .error (Line.unclosed '"') := by decide +kernel
  have hleft := (hleaves hopen).2
  obtain ⟨⟨code, hrefusal, hflow⟩, hstreams, -, herrors⟩ := hrefused _ hopen hparse
  obtain rfl : code = 2 := by cases hrefusal; rfl
  rw [hflow] at hleft
  refine ⟨hbare.trans (by decide +kernel), hquoted.trans (by decide +kernel),
    hvalue.trans (by decide +kernel),
    hsame.trans (congrArg (fun code => (now, Flow.proceed code)) (by decide +kernel)), hkept rfl,
    hflow, hleft.text, ?_, ?_, ?_⟩
  · rw [show refused.2 = _ from hstreams]
  · rw [show refused.2 = _ from hstreams]
  · rw [herrors rfl]
    decide +kernel

end Session

end CommandShell
