import CommandShell.Proofs.Line.Assignment
import CommandShell.Proofs.Session.Effect

/-!
# What an assignment stores

A line `NAME=VALUE` gives the variable the value of its segments: it is expanded and its quotes are
removed, but it is not split, and what comes from variables is not read again. So a variable can be
copied by a reference to it, and in double quotes it is written as it is, whatever characters its
value has (`Session.runLine_stores_value`).
-/

namespace CommandShell

/-- `echo` with a single argument writes it with a newline, if the output does not fail. -/
theorem Execution.runIn_execute_echo (text : String) {c : Context} (h : c.out.NeverFails) :
    (execute ⟨"echo", [text]⟩).runIn c =
      (.proceed 0, { c with out := (c.out.write (utf8 (text ++ "\n"))).1 }) := by
  have hrun : (Builtin.echo.run [text]).runIn c =
      (.ok 0, { c with out := (c.out.write (utf8 (text ++ "\n"))).1 }) := by
    change (Echo.run [text]).runIn c = _
    rw [Echo.run, Job.runIn_bind, Job.runIn_print, String.intercalate_singleton, h.write_failure]
    dsimp only [Job.stopped]
    rw [Job.runIn_bind, Job.runIn_flush, (h.write _).flush]
    rfl
  have hname : Builtin.ofName? (Command.mk "echo" [text]).name = some .echo := by
    change Builtin.ofName? "echo" = _
    decide
  rw [runIn_execute hname]
  dsimp only
  rw [hrun]
  rfl

namespace Session

/-- What a pipeline writes to the output is all that its line writes there. -/
theorem out_runLine_of_pipeline {session : Session} {line : String} {commands : List Command}
    (h : Line.parse session.env line = .ok (.pipeline commands)) (c : Context) :
    ((session.runLine line).runIn c).2.out =
      ((Pipeline.run commands).runIn ((session.parse line).runIn c).2).2.out := by
  rw [runLine, Action.runIn_bind, (runIn_parse session line c).1, h]
  dsimp only
  rw [Action.runIn_bind, Action.runIn_bind, record, Action.runIn_bind, noteSet]
  exact Action.out_note _ _ _ _

/-- A line that is a single token `NAME=VALUE`, with any value but the empty one, gives the variable
the value of its segments. -/
theorem runIn_runLine_assignment (session : Session) {name raw : String} (c : Context)
    (hname : Text.isIdentifier name.toList = true) (hraw : raw ≠ "")
    (htoken : Line.tokenize (name ++ "=" ++ raw).toList = .ok [(name ++ "=" ++ raw).toList]) :
    let ran := ((session.runLine (name ++ "=" ++ raw)).runIn c).1
    ran.2 = .proceed 0 ∧ (∃ segments, Line.Segmented raw.toList segments) ∧
      ∀ segments, Line.Segmented raw.toList segments →
        ran.1.env.get name = .ofList (Line.valueOf session.env segments) := by
  obtain ⟨hclosed, hparse⟩ := Line.parse_assignment session.env hname hraw htoken
  have hstatus : name ≠ Environment.statusName := by
    rintro rfl
    exact absurd hname (by decide)
  dsimp only
  rw [runIn_runLine_of_assignment c hparse]
  refine ⟨rfl, Line.exists_segmented hclosed, fun segments hsegments => ?_⟩
  dsimp only
  rw [Environment.setStatus, Environment.get_set_of_ne _ hstatus, Environment.get_set_self,
    Line.unquote_expand_eq_valueOf session.env hclosed hsegments]

/-- After `echo "$NAME"`, the output holds the value of the variable and a newline. -/
theorem runIn_runLine_echo (session : Session) {name : String} {c : Context}
    (hname : Text.isIdentifier name.toList = true) (hc : c.out.NeverFails) :
    let ran := (session.runLine ("echo \"$" ++ name ++ "\"")).runIn c
    ran.1.2 = .proceed 0 ∧
      ran.2.out.contents = c.out.contents ++ utf8 (session.env.get name ++ "\n") := by
  have hparse := Line.parse_echo session.env hname
  -- Reading the line writes notes only.
  have hparsed := (runIn_parse session ("echo \"$" ++ name ++ "\"") c).2.eq_setErr
  have hout : (((session.parse ("echo \"$" ++ name ++ "\"")).runIn c).2).out = c.out := by
    rw [hparsed]
  have hecho := Execution.runIn_execute_echo (session.env.get name) (by rw [hout]; exact hc)
  have hsingle : Pipeline.run [⟨"echo", [session.env.get name]⟩] =
      Execution.execute ⟨"echo", [session.env.get name]⟩ := rfl
  dsimp only
  rw [runIn_runLine_of_pipeline c hparse, out_runLine_of_pipeline hparse c, hsingle, hecho]
  refine ⟨rfl, ?_⟩
  dsimp only
  rw [hout, hc.contents_write]

/-- An assignment stores what its value expands to, without splitting it.

A line that is a single token `NAME=VALUE` ends with 0 and gives the variable the value of its
segments: text in single quotes as it is, text in double quotes with its escapes and references
replaced, text outside quotes with its references replaced. In particular a reference to a variable,
in double quotes or outside quotes, copies the value of the variable whatever it is, and `echo` with
a reference to the copy in double quotes writes it as it is. -/
theorem runLine_stores_value (session : Session) (c : Context) :
    (∀ name raw : String, Text.isIdentifier name.toList = true → raw ≠ "" →
      Line.tokenize (name ++ "=" ++ raw).toList = .ok [(name ++ "=" ++ raw).toList] →
      let ran := ((session.runLine (name ++ "=" ++ raw)).runIn c).1
      ran.2 = .proceed 0 ∧ (∃ segments, Line.Segmented raw.toList segments) ∧
        ∀ segments, Line.Segmented raw.toList segments →
          ran.1.env.get name = .ofList (Line.valueOf session.env segments)) ∧
    ∀ x y : String, Text.isIdentifier x.toList = true → Text.isIdentifier y.toList = true →
      ∀ raw, raw = "$" ++ x ∨ raw = "\"$" ++ x ++ "\"" →
        let copied := ((session.runLine (y ++ "=" ++ raw)).runIn c).1
        copied.2 = .proceed 0 ∧ copied.1.env.get y = session.env.get x ∧
          ∀ later : Context, later.out.NeverFails →
            let echoed := (copied.1.runLine ("echo \"$" ++ y ++ "\"")).runIn later
            echoed.1.2 = .proceed 0 ∧
              echoed.2.out.contents =
                later.out.contents ++ utf8 (session.env.get x ++ "\n") := by
  refine ⟨fun name raw => session.runIn_runLine_assignment c, ?_⟩
  intro x y hx hy raw hraw copied
  obtain ⟨segment, hreference⟩ : ∃ segment, Line.IsReference x raw segment := by
    rcases hraw with rfl | rfl
    · exact ⟨_, .bare⟩
    · exact ⟨_, .double⟩
  have htoken := Line.tokenize_assignment_reference hy hx hreference
  obtain ⟨hflow, -, hvalue⟩ :=
    session.runIn_runLine_assignment c hy hreference.ne_empty htoken
  have hcopy : copied.1.env.get y = session.env.get x := by
    refine (hvalue _ (hreference.segmented hx)).trans ?_
    rw [Line.valueOf, List.flatMap_singleton, hreference.value_eq hx, String.ofList_toList]
  refine ⟨hflow, hcopy, fun later hlater => ?_⟩
  have hecho := copied.1.runIn_runLine_echo hy hlater
  rwa [hcopy] at hecho

/-- A value with quotes, a backslash, a `$`, a blank and a `|` in it, between text in single quotes
and text with an escape in double quotes. -/
theorem assignment_stores_all_signs :
    let value := "it's | \"$x\\"
    let session : Session := ⟨Environment.initial.set "x" value, .plain⟩
    let c : Context := ⟨⟨[], []⟩, .absent, .empty, .unlimited, .unlimited, none, Pattern.compile⟩
    let raw := "'a b'\"<$x\\\"\"$x"
    let stored := ((session.runLine ("y" ++ "=" ++ raw)).runIn c).1
    let copied := ((session.runLine ("y" ++ "=" ++ ("$" ++ "x"))).runIn c).1
    (Text.isIdentifier "y".toList = true ∧ raw ≠ "" ∧
      Line.tokenize ("y" ++ "=" ++ raw).toList = .ok [("y" ++ "=" ++ raw).toList]) ∧
      (stored.2 = .proceed 0 ∧
        stored.1.env.get "y" = "a b<" ++ value ++ "\"" ++ value) ∧
      (Text.isIdentifier "x".toList = true ∧ copied.1.env.get "y" = value) ∧
      c.out.NeverFails ∧
        ((copied.1.runLine ("echo \"$" ++ "y" ++ "\"")).runIn c).2.out.contents =
          utf8 (value ++ "\n") := by
  intro value session c raw
  have hy : Text.isIdentifier "y".toList = true := by decide
  have hx : Text.isIdentifier "x".toList = true := by decide
  have hraw : raw ≠ "" := by dsimp only [raw]; decide
  have htoken : Line.tokenize ("y" ++ "=" ++ raw).toList =
      .ok [("y" ++ "=" ++ raw).toList] := by
    dsimp only [raw]
    decide +kernel
  have hsegmented : Line.Segmented raw.toList
      [.single "a b".toList, .double "<$x\\\"".toList, .bare "$x".toList] := by
    have htext : Line.IsDoubleText "<$x\\\"".toList :=
      .char (by decide) (by decide) (.char (by decide) (by decide)
        (.char (by decide) (by decide) (.escaped .nil)))
    have hlast : Line.Segmented "$x".toList [.bare "$x".toList] :=
      Line.IsReference.bare.segmented hx
    have hfirst : '\'' ∉ "a b".toList := by decide
    have hsplit : raw.toList =
        '\'' :: "a b".toList ++ '\'' :: ('"' :: "<$x\\\"".toList ++ '"' :: "$x".toList) := by
      dsimp only [raw]
      decide
    rw [hsplit]
    exact .single hfirst (.double htext hlast)
  have hvalue : String.ofList (Line.valueOf session.env
      [.single "a b".toList, .double "<$x\\\"".toList, .bare "$x".toList]) =
        "a b<" ++ value ++ "\"" ++ value := by
    dsimp only [session, value]
    decide
  have hcopied : session.env.get "x" = value := by
    dsimp only [session, value]
    decide
  have hquiet : c.out.NeverFails ∧ c.out.contents = [] := ⟨Output.neverFails_unlimited, rfl⟩
  -- Nothing is evaluated from here on.
  clear_value c session raw value
  obtain ⟨hstores, hcopies⟩ := runLine_stores_value session c
  obtain ⟨hflow, -, hstored⟩ := hstores "y" raw hy hraw htoken
  obtain ⟨-, hcopy, hecho⟩ := hcopies "x" "y" hx hy ("$" ++ "x") (.inl rfl)
  rw [hcopied] at hcopy hecho
  obtain ⟨-, hechoed⟩ := hecho c hquiet.1
  rw [hquiet.2, List.nil_append] at hechoed
  exact ⟨⟨hy, hraw, htoken⟩, ⟨hflow, (hstored _ hsegmented).trans hvalue⟩, ⟨hx, hcopy⟩, hquiet.1,
    hechoed⟩

end Session

end CommandShell
