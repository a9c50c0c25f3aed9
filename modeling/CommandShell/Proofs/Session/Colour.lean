import CommandShell.Proofs.Session.Script

/-!
# Colour

Colour reaches nothing but what a session says in its own name: its prompt, and its reports of lines
that are refused (`Session.Saying`). What else a run does is told without a palette, line by line:
the variables, the files and the result that it leaves, what it prints, and what is said in order
(`Session.account`). Where no stream fails, a run does just that with every palette, which only
decides how the session's own sayings are shown (`Session.runIn_runLines_eq_account`). So two runs
that differ in their palettes differ in nothing else (`Session.run_of_palettes`).
-/

namespace CommandShell.Session

/-- Something that is written to the error stream. -/
inductive Saying where
  /-- The prompt. -/
  | prompt (text : String)
  /-- The report of a line that is refused. -/
  | report (error : Error)
  /-- What is not said by the session: complaints and reports of commands, and notes. -/
  | other (bytes : Bytes)
  deriving DecidableEq, Repr

/-- How something is written: only what the session says is coloured. -/
def Saying.shown (palette : Palette) : Saying → Bytes
  | .prompt text => utf8 (palette.paintPrompt text)
  | .report error => utf8 (palette.paintError s!"{name}: {error.message}" ++ "\n")
  | .other bytes => bytes

/-- What an action writes to the error stream when it is none of the session's own. -/
def saidBy {α : Type} (action : Action α) (c : Context) : Saying :=
  .other (action.runIn c.fresh).2.err.contents

/-- What is said because of a line. Where it is refused, a report stands among the notes about
it. -/
def lineSaid (env : Environment) (line : String) (c : Context) : List Saying :=
  let session : Session := ⟨env, .plain⟩
  match Line.parse env line with
  | .error .emptyInput | .ok _ => [saidBy (session.runLine line) c]
  | .error error =>
    [saidBy (session.parse line) c, .report error, saidBy (session.record error.exitCode) c]

/-- The prompt is said if there is one. -/
def promptSaid (prompt : Option String) : List Saying :=
  prompt.toList.map .prompt

/-- What a run does, apart from how it shows its messages. -/
structure Account where
  /-- The variables in the end. -/
  env : Environment
  /-- The files in the end. -/
  files : Files
  /-- What the run gives. -/
  result : Except Error Int
  /-- What is written to the output. -/
  printed : Bytes
  /-- What is written to the error stream. -/
  said : List Saying

/-- What a run of some lines does, to begin with some variables in some context. -/
def account (prompt : Option String) (failure : Option Failure) :
    Environment → Context → List Bytes → Account
  | env, c, [] =>
    let session : Session := ⟨env, .plain⟩
    { env
      files := c.files
      result := session.resultAtEnd failure
      printed := []
      said := promptSaid prompt ++ [saidBy (session.finish prompt failure) c] }
  | env, c, line :: rest =>
    let own := c.ofLine c.files
    let ran := ((Session.mk env .plain).runLine (lossyText line)).runIn own
    let said := promptSaid prompt ++ lineSaid env (lossyText line) own
    match ran.1.2 with
    | .proceed _ =>
      let later := account prompt failure ran.1.1.env ran.2 rest
      { later with printed := ran.2.out.contents ++ later.printed, said := said ++ later.said }
    | .exit status =>
      { env := ran.1.1.env
        files := ran.2.files
        result := .ok status
        printed := ran.2.out.contents
        said := said ++ [saidBy (noteExit status) ran.2] }

/-- What the session says in its own name is the prompt that it is given, or the report of one of
its lines. -/
def Saying.IsOwn (prompt : Option String) (lines : List Bytes) : Saying → Prop
  | .prompt text => prompt = some text
  | .report error => ∃ line ∈ lines, ∃ env, Line.parse env (lossyText line) = .error error
  | .other _ => True

/-! ## What is said -/

section Sayings

variable {α : Type} {c now : Context} (palette : Palette)

theorem Saying.IsOwn.cons {saying : Saying} {prompt : Option String} {lines : List Bytes}
    (h : saying.IsOwn prompt lines) (line : Bytes) : saying.IsOwn prompt (line :: lines) := by
  cases saying with
  | prompt text => exact h
  | report error =>
    obtain ⟨other, hother, hrefused⟩ := h
    exact ⟨other, List.mem_cons_of_mem _ hother, hrefused⟩
  | other bytes => trivial

/-- The only report that is made because of a line is that it is refused. -/
theorem Saying.isOwn_of_mem_lineSaid {saying : Saying} {prompt : Option String} {line : Bytes}
    {rest : List Bytes} {env : Environment} (h : saying ∈ lineSaid env (lossyText line) c) :
    saying.IsOwn prompt (line :: rest) := by
  rw [lineSaid] at h
  split at h
  · rw [List.mem_singleton.mp h]
    trivial
  · rw [List.mem_singleton.mp h]
    trivial
  · next error _ hrefused =>
    simp only [List.mem_cons, List.not_mem_nil, or_false] at h
    rcases h with rfl | rfl | rfl
    · trivial
    · exact ⟨line, List.mem_cons_self, env, hrefused⟩
    · trivial

/-- An action says what it would say if nothing had been said before. -/
theorem err_runIn_of_appends {action : Action α} (h : action.Appends) (hc : c.NeverFails) :
    (action.runIn c).2.err.contents =
      c.err.contents ++ (saidBy action c).shown palette := by
  rw [h.runIn_eq hc]
  exact Output.contents_followedBy _ _

theorem flatMap_promptSaid (env : Environment) (prompt : Option String) :
    (promptSaid prompt).flatMap (Saying.shown palette) = (Session.mk env palette).shown prompt := by
  cases prompt with
  | none => rfl
  | some text => exact List.flatMap_singleton _ _

end Sayings

/-! ## One line -/

section Line

variable {env : Environment} {line : String} {c : Context}

/-- Where a line is not refused, its session says nothing, and the palette does not matter. -/
theorem runIn_runLine_eq_plain (palette : Palette)
    (h : ∀ error, Line.parse env line = .error error → error = .emptyInput) :
    let plain := ((Session.mk env .plain).runLine line).runIn c
    ((Session.mk env palette).runLine line).runIn c =
      ((⟨plain.1.1.env, palette⟩, plain.1.2), plain.2) := by
  have hparse : (Session.mk env palette).parse line = (Session.mk env .plain).parse line := rfl
  have hread := (runIn_parse ⟨env, .plain⟩ line c).1
  dsimp only at hread ⊢
  rw [runLine, runLine, hparse, Action.runIn_bind, Action.runIn_bind, hread]
  cases hstatement : Line.parse env line with
  | error error =>
    obtain rfl := h error hstatement
    rfl
  | ok statement => cases statement <;> rfl

/-- A report is written as the palette shows it. -/
theorem runIn_report_of_neverFails (session : Session) (error : Error) (hc : c.NeverFails) :
    (session.report error).runIn c =
      (error.exitCode,
        { c with err := (c.err.write ((Saying.report error).shown session.palette)).1 }) := by
  rw [report, Action.runIn_bind, Action.runIn_complain, hc.err.write_failure]
  rfl

/-- Once an error has been reported, its exit code is recorded. -/
theorem err_runIn_report_record (palette : Palette) (env : Environment) (error : Error)
    (hc : c.NeverFails) :
    (Action.runIn (do
      let code ← (Session.mk env palette).report error
      return (← (Session.mk env palette).record code, Flow.proceed code)) c).2.err.contents =
        c.err.contents ++ [.report error,
          saidBy ((Session.mk env .plain).record error.exitCode) c].flatMap
            (Saying.shown palette) := by
  let reported := { c with err := (c.err.write ((Saying.report error).shown palette)).1 }
  have hreported : reported.NeverFails := ⟨hc.out, hc.err.write _⟩
  have hrecord := err_runIn_of_appends palette
    (appends_record (Session.mk env .plain) error.exitCode) hreported
  rw [Action.runIn_bind, runIn_report_of_neverFails _ _ hc]
  change (((Session.mk env .plain).record error.exitCode).runIn reported).2.err.contents = _
  rw [hrecord, hc.err.contents_write]
  simp [saidBy, reported, Context.fresh]

/-- Where a line is refused, the palette decides how the report is shown. -/
theorem runIn_runLine_of_refused (palette : Palette) (hc : c.NeverFails) {error : Error}
    (h : Line.parse env line = .error error) (hempty : error ≠ .emptyInput) :
    let ran := ((Session.mk env palette).runLine line).runIn c
    let session : Session := ⟨env, .plain⟩
    ran.1 = (⟨env.setStatus error.exitCode, palette⟩, .proceed error.exitCode) ∧
      ran.2 = { c with err := ran.2.err } ∧
      ran.2.err.contents = c.err.contents ++
        [saidBy (session.parse line) c, .report error,
          saidBy (session.record error.exitCode) c].flatMap (Saying.shown palette) := by
  have hblank : ¬Text.IsBlankText line.toList := by
    intro hblank
    rw [Line.parse_of_isBlankText env hblank] at h
    exact hempty (Except.error.inj h).symm
  obtain ⟨hleft, hreported⟩ :=
    @runIn_runLine_of_error ⟨env, palette⟩ line c false error hblank h
  refine ⟨hleft, hreported.eq_setErr, ?_⟩
  have hparse : (Session.mk env palette).parse line = (Session.mk env .plain).parse line := rfl
  have hread := runIn_parse ⟨env, .plain⟩ line c
  have happends := appends_parse ⟨env, .plain⟩ line
  have hsaid := err_runIn_of_appends palette happends hc
  have hnever := happends.neverFails hc
  rw [runLine, hparse, Action.runIn_bind, hread.1, h]
  have hfresh := congrArg Context.fresh hread.2.eq_setErr
  generalize (((Session.mk env .plain).parse line).runIn c).2 = parsed at hsaid hnever hfresh ⊢
  -- What the record says is the same behind the notes about reading.
  have hrecorded : saidBy ((Session.mk env .plain).record error.exitCode) parsed =
      saidBy ((Session.mk env .plain).record error.exitCode) c := by
    rw [saidBy, saidBy, hfresh]
    rfl
  have hrest := err_runIn_report_record palette env error hnever
  rw [hsaid, hrecorded, List.append_assoc] at hrest
  cases Line.isRefusal_of_parse hblank h <;> exact hrest

theorem lineSaid_of_refused {error : Error} (h : Line.parse env line = .error error)
    (hempty : error ≠ .emptyInput) :
    lineSaid env line c = [saidBy ((Session.mk env .plain).parse line) c, .report error,
      saidBy ((Session.mk env .plain).record error.exitCode) c] := by
  rw [lineSaid, h]
  split
  · next heq => exact absurd (Except.error.inj heq) hempty
  · next heq => cases heq
  · next heq => rw [Except.error.inj heq]

theorem lineSaid_of_taken (h : ∀ error, Line.parse env line = .error error → error = .emptyInput) :
    lineSaid env line c = [saidBy ((Session.mk env .plain).runLine line) c] := by
  rw [lineSaid]
  cases hparse : Line.parse env line with
  | ok statement => rfl
  | error error => rw [h error hparse]

/-- Whatever a line is, the palette decides only how what is said is shown. -/
theorem runIn_runLine_of_palette (env : Environment) (line : String) (palette : Palette)
    (hc : c.NeverFails) {plain ran : (Session × Flow) × Context}
    (hplain : ((Session.mk env .plain).runLine line).runIn c = plain)
    (hran : ((Session.mk env palette).runLine line).runIn c = ran) :
    ran.1 = (⟨plain.1.1.env, palette⟩, plain.1.2) ∧
      ran.2 = { plain.2 with err := ran.2.err } ∧
      ran.2.err.contents =
        c.err.contents ++ (lineSaid env line c).flatMap (Saying.shown palette) := by
  by_cases hrefused : ∃ error, Line.parse env line = .error error ∧ error ≠ .emptyInput
  · obtain ⟨error, hparse, hempty⟩ := hrefused
    obtain ⟨hgivenPlain, hleftPlain, -⟩ := runIn_runLine_of_refused .plain hc hparse hempty
    obtain ⟨hgiven, hleft, hsaid⟩ := runIn_runLine_of_refused palette hc hparse hempty
    rw [hplain] at hgivenPlain hleftPlain
    rw [hran] at hgiven hleft hsaid
    rw [lineSaid_of_refused hparse hempty, hgivenPlain, hleftPlain]
    exact ⟨hgiven, hleft, hsaid⟩
  · have htaken : ∀ error, Line.parse env line = .error error → error = .emptyInput := by
      intro error hparse
      by_contra hempty
      exact hrefused ⟨error, hparse, hempty⟩
    have hsame := runIn_runLine_eq_plain (c := c) palette htaken
    have hsaid := err_runIn_of_appends palette (appends_runLine ⟨env, .plain⟩ line false) hc
    rw [hplain] at hsame hsaid
    rw [hran] at hsame
    subst hsame
    rw [lineSaid_of_taken htaken, List.flatMap_singleton]
    exact ⟨rfl, rfl, hsaid⟩

end Line

/-! ## A whole run -/

section Run

variable {c now : Context}

theorem files_eq_of_fresh (h : c.fresh = now.fresh) : c.files = now.files := by
  have hfiles := congrArg Context.files h
  exact hfiles

/-- What a run does is decided by what can be found in its context, not by what has been written. -/
theorem account_eq_of_fresh (prompt : Option String) (failure : Option Failure)
    (env : Environment) (lines : List Bytes) (h : c.fresh = now.fresh) :
    account prompt failure env c lines = account prompt failure env now lines := by
  have hfiles := files_eq_of_fresh h
  cases lines with
  | nil =>
    rw [account, account, hfiles, saidBy, h]
    rfl
  | cons line rest =>
    have hown : c.ofLine c.files = now.ofLine now.files := by
      rw [Context.ofLine, Context.ofLine, h, hfiles]
    rw [account, account, hown]

theorem fresh_showPrompt (session : Session) (prompt : Option String) (c : Context) :
    ((session.showPrompt prompt).runIn c).2.fresh = c.fresh := by
  cases prompt with
  | none => rfl
  | some text =>
    rw [showPrompt, Action.runIn_bind, Action.runIn_complain]
    dsimp only
    split <;> rfl

/-- A session ends with every palette as it does without colour. -/
theorem runIn_finish_eq_plain (env : Environment) (palette : Palette) (prompt : Option String)
    (failure : Option Failure) (c : Context) :
    (((Session.mk env palette).finish prompt failure).runIn c).2 =
      (((Session.mk env .plain).finish prompt failure).runIn c).2 := by
  cases failure with
  | some failure => rfl
  | none =>
    cases prompt with
    | none => rfl
    | some text =>
      rw [finish, finish, Action.runIn_bind, Action.runIn_bind, Action.runIn_bind,
        Action.runIn_bind]
      split <;> rfl

/-- A line in a run does what it does without colour in a context of its own, and what is said is
shown by the palette. -/
theorem runIn_prompted_line (palette : Palette) (prompt : Option String) (env : Environment)
    (line : String) (hnow : now.NeverFails) {plain ran : (Session × Flow) × Context}
    (hplain : ((Session.mk env .plain).runLine line).runIn (now.ofLine now.files) = plain)
    (hran : ((Session.mk env palette).runLine line).runIn
      { (((Session.mk env palette).showPrompt prompt).runIn now).2 with input := .empty } = ran) :
    ran.1 = (⟨plain.1.1.env, palette⟩, plain.1.2) ∧ ran.2.NeverFails ∧
      ran.2.fresh = plain.2.fresh ∧
      ran.2.out.contents = now.out.contents ++ plain.2.out.contents ∧
      ran.2.err.contents = now.err.contents ++
        (promptSaid prompt ++ lineSaid env line (now.ofLine now.files)).flatMap
          (Saying.shown palette) := by
  obtain ⟨-, hprompt⟩ := runIn_showPrompt ⟨env, palette⟩ prompt hnow
  generalize (((Session.mk env palette).showPrompt prompt).runIn now).2 = asked at hprompt hran
  have hasked : Context.NeverFails { asked with input := .empty } :=
    ⟨hprompt.neverFails.out, hprompt.neverFails.err⟩
  have hcontext : Context.fresh { asked with input := .empty } = now.ofLine now.files :=
    (Context.fresh_eq_ofLine hprompt.setting_eq).trans (congrArg now.ofLine hprompt.files)
  have hrun := (appends_runLine ⟨env, palette⟩ line false).runIn_eq hasked
  rw [hran, hcontext] at hrun
  obtain ⟨hgiven, hleft, hsaid⟩ :=
    runIn_runLine_of_palette env line palette
      ⟨Output.neverFails_unlimited, Output.neverFails_unlimited⟩ hplain rfl
  generalize ((Session.mk env palette).runLine line).runIn (now.ofLine now.files) = own
    at hrun hgiven hleft hsaid
  subst hrun
  refine ⟨hgiven, hasked.continued _, ?_, ?_, ?_⟩
  · rw [Context.fresh_continued, hleft]
    rfl
  · refine (Output.contents_followedBy _ _).trans ?_
    rw [hprompt.out, List.append_nil, hleft]
  · refine (Output.contents_followedBy _ _).trans ?_
    rw [hprompt.err, hsaid, List.flatMap_append, flatMap_promptSaid, List.append_assoc]
    rfl

/-- A run does with every palette what its account says, and shows what it says by the palette. -/
theorem runIn_runLines_eq_account (palette : Palette) (prompt : Option String)
    (failure : Option Failure) (env : Environment) (hnow : now.NeverFails) (lines : List Bytes) :
    let told := account prompt failure env now lines
    let ran := (runLines prompt failure ⟨env, palette⟩ lines).runIn now
    ran.1 = (⟨told.env, palette⟩, told.result) ∧ ran.2.files = told.files ∧
      ran.2.out.contents = now.out.contents ++ told.printed ∧
      ran.2.err.contents = now.err.contents ++ told.said.flatMap (Saying.shown palette) := by
  dsimp only
  -- By induction on the lines, each of which leads from one context to the next.
  induction lines generalizing env now with
  | nil =>
    obtain ⟨-, hprompt⟩ := runIn_showPrompt ⟨env, palette⟩ prompt hnow
    have hfresh := fresh_showPrompt ⟨env, palette⟩ prompt now
    rw [runIn_runLines_nil hnow, account]
    generalize (((Session.mk env palette).showPrompt prompt).runIn now).2 = asked
      at hprompt hfresh ⊢
    obtain ⟨hresult, hleft, -⟩ := runIn_finish hprompt.neverFails ⟨env, palette⟩ prompt failure
    have hsaid := err_runIn_of_appends palette
      (appends_finish ⟨env, .plain⟩ prompt failure) hprompt.neverFails
    refine ⟨?_, ?_, ?_, ?_⟩
    · rw [hresult]
      cases failure <;> rfl
    · rw [hleft]
      exact hprompt.files
    · rw [hleft]
      exact hprompt.out
    · rw [runIn_finish_eq_plain, hsaid, hprompt.err, saidBy, hfresh, List.flatMap_append,
        flatMap_promptSaid, List.flatMap_singleton, List.append_assoc]
      rfl
  | cons line rest ih =>
    have hcons := runIn_runLines_cons hnow ⟨env, palette⟩ prompt failure line rest
    have hline := @runIn_prompted_line now palette prompt env (lossyText line) hnow _ _ rfl rfl
    dsimp only at hcons
    rw [hcons, account]
    dsimp only
    generalize ((Session.mk env palette).runLine (lossyText line)).runIn
      { (((Session.mk env palette).showPrompt prompt).runIn now).2 with input := .empty } = ran
      at hline ⊢
    generalize ((Session.mk env .plain).runLine (lossyText line)).runIn
      (now.ofLine now.files) = plain at hline ⊢
    obtain ⟨given, next⟩ := ran
    obtain ⟨⟨session, flow⟩, left⟩ := plain
    obtain ⟨rfl, hnext, hfresh, hprinted, hshown⟩ := hline
    dsimp only at hnext hfresh hprinted hshown ⊢
    have hfiles := files_eq_of_fresh hfresh
    cases flow with
    | proceed code =>
      obtain ⟨hresult, hlast, hout, herr⟩ := ih session.env hnext
      rw [account_eq_of_fresh prompt failure session.env rest hfresh] at hresult hlast hout herr
      refine ⟨hresult, hlast, ?_, ?_⟩
      · rw [hout, hprinted, List.append_assoc]
      · rw [herr, hshown]
        simp only [List.flatMap_append, List.append_assoc]
    | exit status =>
      have happends : (noteExit status).Appends := .note _ _ _
      have hnoted : next.Noted ((noteExit status).runIn next).2 := .note .refl _ _ _
      have hsaid := err_runIn_of_appends palette happends hnext
      refine ⟨rfl, ?_, ?_, ?_⟩
      · rw [hnoted.eq_setErr]
        exact hfiles
      · rw [hnoted.eq_setErr]
        exact hprinted
      · rw [saidBy, hfresh] at hsaid
        rw [hsaid, hshown]
        simp [saidBy]

/-- What a run says in its own name is the prompt that it is given, or the report of a line that is
refused. -/
theorem isOwn_of_mem_account {prompt : Option String} {failure : Option Failure}
    {env : Environment} {lines : List Bytes} {saying : Saying}
    (h : saying ∈ (account prompt failure env c lines).said) : saying.IsOwn prompt lines := by
  have hprompt {lines : List Bytes} (h : saying ∈ promptSaid prompt) :
      saying.IsOwn prompt lines := by
    obtain ⟨text, htext, rfl⟩ := List.mem_map.mp h
    exact Option.mem_toList.mp htext
  induction lines generalizing env c with
  | nil =>
    rw [account, List.mem_append, List.mem_singleton] at h
    rcases h with h | rfl
    · exact hprompt h
    · trivial
  | cons line rest ih =>
    rw [account] at h
    dsimp only at h
    -- Whether the line ends the run or not, the same is said before.
    split at h
    · simp only [List.mem_append] at h
      rcases h with (h | h) | h
      · exact hprompt h
      · exact Saying.isOwn_of_mem_lineSaid h
      · exact (ih h).cons line
    · simp only [List.mem_append, List.mem_singleton] at h
      rcases h with (h | h) | rfl
      · exact hprompt h
      · exact Saying.isOwn_of_mem_lineSaid h
      · trivial

/-- Colour reaches nothing but what a session says in its own name.

A run with colour leaves the same variables and files as a run without, gives the same result and
prints the same bytes. To the error stream, both write the same sayings in the same order: one shows
the prompts and the reports of refused lines in colour and the other does not, and everything else,
what commands complain about among it, is the same bytes in both. -/
theorem run_of_palettes (hc : c.NeverFails) (env : Environment) (prompt : Option String)
    (reads : List Read) :
    let input := Input.ofReads reads
    let coloured := ((Session.mk env ⟨true⟩).run prompt input).runIn c
    let plain := ((Session.mk env ⟨false⟩).run prompt input).runIn c
    let said := (account prompt input.failure env c input.lines).said
    coloured.1.1.env = plain.1.1.env ∧ coloured.1.2 = plain.1.2 ∧
      coloured.2.files = plain.2.files ∧ coloured.2.out.contents = plain.2.out.contents ∧
      coloured.2.err.contents = c.err.contents ++ said.flatMap (Saying.shown ⟨true⟩) ∧
      plain.2.err.contents = c.err.contents ++ said.flatMap (Saying.shown ⟨false⟩) ∧
      ∀ saying ∈ said, saying.IsOwn prompt input.lines := by
  intro input coloured plain said
  obtain ⟨hcoloured, hfiles, hout, herr⟩ :=
    runIn_runLines_eq_account ⟨true⟩ prompt input.failure env hc input.lines
  obtain ⟨hplain, hplainFiles, hplainOut, hplainErr⟩ :=
    runIn_runLines_eq_account ⟨false⟩ prompt input.failure env hc input.lines
  change coloured.1 = _ at hcoloured
  change plain.1 = _ at hplain
  refine ⟨?_, ?_, hfiles.trans hplainFiles.symm, hout.trans hplainOut.symm, herr, hplainErr,
    fun saying => isOwn_of_mem_account⟩
  · rw [hcoloured, hplain]
  · rw [hcoloured, hplain]

/-- The prompts are coloured and so is the report of a line that is refused, but not the report of a
program that is missing. -/
theorem colour_of_prompts_and_refused_line :
    let c : Context := ⟨⟨[], []⟩, .absent, .empty, .unlimited, .unlimited, none, Pattern.compile⟩
    let reads := [Read.bytes (utf8 "tool\nx"), .bytes (utf8 "=\nexit 2")]
    let run (useColor : Bool) :=
      ((Session.mk .initial ⟨useColor⟩).run (some "> ") (.ofReads reads)).runIn c
    let complaint := "tool: command not found\n"
    let report := "cli-shell: variable value cannot be empty: x"
    c.NeverFails ∧ (run true).2.out.contents = (run false).2.out.contents ∧
      (run true).1.2 = (run false).1.2 ∧
      (run true).2.err.contents = utf8 ("\x1b[36m\x1b[1m> \x1b[0m" ++ complaint ++
        "\x1b[36m\x1b[1m> \x1b[0m" ++ "\x1b[31m" ++ report ++ "\x1b[0m\n" ++
          "\x1b[36m\x1b[1m> \x1b[0m") ∧
      (run false).2.err.contents = utf8 ("> " ++ complaint ++ "> " ++ report ++ "\n" ++ "> ") := by
  intro c reads run complaint report
  have hc : c.NeverFails := ⟨Output.neverFails_unlimited, Output.neverFails_unlimited⟩
  let input := Input.ofReads reads
  let said := (account (some "> ") input.failure .initial c input.lines).said
  have hcoloured : c.err.contents ++ said.flatMap (Saying.shown ⟨true⟩) =
      utf8 ("\x1b[36m\x1b[1m> \x1b[0m" ++ complaint ++
        "\x1b[36m\x1b[1m> \x1b[0m" ++ "\x1b[31m" ++ report ++ "\x1b[0m\n" ++
          "\x1b[36m\x1b[1m> \x1b[0m") := by
    dsimp only [said, input, reads, c, complaint, report]
    decide +kernel
  have hplain : c.err.contents ++ said.flatMap (Saying.shown ⟨false⟩) =
      utf8 ("> " ++ complaint ++ "> " ++ report ++ "\n" ++ "> ") := by
    dsimp only [said, input, reads, c, complaint, report]
    decide +kernel
  -- Nothing is evaluated from here on.
  clear_value c reads
  obtain ⟨-, hresult, -, hout, herr, hplainErr, -⟩ :=
    run_of_palettes hc .initial (some "> ") reads
  exact ⟨hc, hout, hresult, herr.trans hcoloured, hplainErr.trans hplain⟩

end Run

end CommandShell.Session
