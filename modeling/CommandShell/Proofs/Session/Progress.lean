import CommandShell.Proofs.Execution.Appending
import CommandShell.Proofs.Session.Effect
import CommandShell.Proofs.Stream.Pieces
import CommandShell.Proofs.Text.Decoding

/-!
# Running lines one after the other

How far a session comes with some lines is a fold over them (`Session.Progress.step`): each line is
run in a context of its own, with nothing to read, until one of them is an `exit`. What lasts from
line to line is the session and the files; what each line writes is kept apart.

A run of the session reads its lines without their newlines, and writes everything to the streams
that it was given, with a prompt in front of each line if there is one. Where no stream fails, it
nevertheless comes as far as the fold over the pieces of its input says
(`Session.Reached.through`), since it does not matter to a line whether it is read with its newline
(`Session.runLine_newline`) nor what has been written before (`Session.appends_runLine`).
-/

namespace CommandShell

/-- The status that a session ends with, if it is to end. -/
def Flow.exitStatus? : Flow → Option Int
  | .proceed _ => none
  | .exit status => some status

/-- The context of a line: there is nothing to read, and nothing has been written yet. -/
def Context.ofLine (c : Context) (files : Files) : Context :=
  { c.fresh with files, input := .empty }

theorem Context.fresh_eq_ofLine {c now : Context} (h : now.setting = c.setting) :
    Context.fresh { now with input := .empty } = c.ofLine now.files := by
  obtain ⟨hprograms, hothers⟩ := Prod.mk.inj h
  obtain ⟨hthreshold, hpatterns⟩ := Prod.mk.inj hothers
  rw [ofLine, fresh, fresh, hprograms, hthreshold, hpatterns]

namespace Session

/-! ## Lines with their newlines -/

/-- Blanks at the ends of a line do not matter. -/
theorem runLine_eq_of_trim (session : Session) {line line' : String}
    (h : Text.trim line.toList = Text.trim line'.toList) :
    session.runLine line = session.runLine line' := by
  have hlookups : Line.lookups line = Line.lookups line' := by
    rw [Line.lookups, Line.lookups, h]
  have hparse : Line.parse session.env line = Line.parse session.env line' := by
    rw [Line.parse, Line.parse, h]
  rw [runLine, runLine, parse, parse, hlookups, hparse]

/-- It does not matter whether a line is read with its newline or without. -/
theorem runLine_newline (session : Session) (line : Bytes) :
    session.runLine (lossyText (line ++ [Input.newline])) = session.runLine (lossyText line) := by
  refine session.runLine_eq_of_trim ?_
  rw [lossyText, lossyText, String.toList_ofList, String.toList_ofList,
    Utf8.decode_append_ascii line (by decide)]
  exact Text.trim_append_blank _ (by decide)

/-- The pieces of an input may be run instead of its lines. -/
theorem run_eq_runLines_pieces (session : Session) (prompt : Option String) (input : Input) :
    session.run prompt input = runLines prompt input.failure session input.pieces := by
  have hsame := input.forall₂_pieces_lines
  rw [run]
  generalize input.pieces = pieces, input.lines = lines at hsame ⊢
  -- By induction on the pieces together with their lines, in any session.
  induction hsame generalizing session with
  | nil => rfl
  | @cons piece line pieces lines hpiece _ ih =>
    have hline : session.runLine (lossyText piece) = session.runLine (lossyText line) := by
      rcases hpiece with rfl | rfl
      · rfl
      · exact runLine_newline session line
    rw [runLines, runLines, hline]
    simp only [ih]

/-! ## Running lines -/

theorem appends_forM_noteLookup (env : Environment) (names : List String) :
    (names.forM (noteLookup env)).Appends := by
  induction names with
  | nil => exact .pure ()
  | cons name rest ih => exact .bind (.note _ _ _) fun _ => ih

theorem appends_parse (session : Session) (line : String) : (session.parse line).Appends := by
  refine .bind (appends_forM_noteLookup session.env _) fun _ => ?_
  dsimp only
  split
  · exact .bind (.note _ _ _) fun _ => .pure _
  · exact .pure _

theorem appends_record (session : Session) (code : Int) : (session.record code).Appends :=
  .bind (.note _ _ _) fun _ => .pure _

theorem appends_report (session : Session) (error : Error) : (session.report error).Appends := by
  refine .bind (.complain _) fun failure => ?_
  cases failure with
  | none => exact .pure _
  | some failure => exact .bind (.note _ _ _) fun _ => .pure _

/-- What a line does not depend on is what has been written before it. -/
theorem appends_runLine (session : Session) (line : String) (inherited : Bool) :
    (session.runLine line inherited).Appends := by
  rw [runLine]
  refine .bind (session.appends_parse line) fun statement => ?_
  split
  · exact .bind (.bind (.note _ _ _) fun _ => .pure _) fun _ => .pure _
  · exact .bind (session.appends_report _) fun _ => .bind (appends_record _ _) fun _ => .pure _
  · exact .bind (.note _ _ _) fun _ => .bind (appends_record _ _) fun _ => .pure _
  · exact .bind (Pipeline.appends_run _ _) fun _ => .bind (appends_record _ _) fun _ => .pure _

/-- A line does not change how the session shows its messages. -/
theorem palette_runLine (session : Session) (line : String) (c : Context) :
    ((session.runLine line).runIn c).1.1.palette = session.palette := by
  by_cases hblank : Text.IsBlankText line.toList
  · rw [(runIn_runLine_of_isBlankText c hblank).1]
  · exact (leaves_runLine session line c false hblank).1

/-! ## Progress -/

/-- What a run gives at the end of its input, or at the failure that it meets instead. -/
def resultAtEnd (session : Session) : Option Failure → Except Error Int
  | some failure => .error (.io failure)
  | none => .ok session.env.status

/-- How far a session has come with some lines. -/
structure Progress where
  /-- The session. -/
  session : Session
  /-- The files. -/
  files : Files
  /-- What the lines have written to the output, each by itself. -/
  printed : List Bytes
  /-- What the lines have written to the error stream, each by itself. -/
  complained : List Bytes
  /-- The status of the `exit` that has ended the session. -/
  ended : Option Int

namespace Progress

/-- No line has been run. -/
def start (session : Session) (files : Files) : Progress := ⟨session, files, [], [], none⟩

/-- Run one more line, unless the session has ended. -/
def step (c : Context) (p : Progress) (piece : Bytes) : Progress :=
  if p.ended.isSome then p
  else
    let ran := (p.session.runLine (lossyText piece)).runIn (c.ofLine p.files)
    { session := ran.1.1
      files := ran.2.files
      printed := p.printed ++ [ran.2.out.contents]
      complained := p.complained ++ [ran.2.err.contents]
      ended := ran.1.2.exitStatus? }

/-- A line is run as long as the session has not ended. -/
theorem step_of_none {c : Context} {p : Progress} (h : p.ended = none) {piece : Bytes}
    {ran : (Session × Flow) × Context}
    (hran : (p.session.runLine (lossyText piece)).runIn (c.ofLine p.files) = ran) :
    p.step c piece =
      ⟨ran.1.1, ran.2.files, p.printed ++ [ran.2.out.contents],
        p.complained ++ [ran.2.err.contents], ran.1.2.exitStatus?⟩ := by
  subst hran
  rw [step, h]
  rfl

/-- How far a session comes with some lines, which are run one after the other. -/
def through (session : Session) (c : Context) (pieces : List Bytes) : Progress :=
  pieces.foldl (step c) (start session c.files)

/-- What a run gives that has come so far, where a failure or the end of the input follows the
lines. -/
def result (p : Progress) (failure : Option Failure) : Except Error Int :=
  match p.ended with
  | some status => .ok status
  | none => p.session.resultAtEnd failure

theorem result_of_exit {p : Progress} {status : Int} (h : p.ended = some status)
    (failure : Option Failure) : p.result failure = .ok status := by
  rw [result, h]

theorem result_of_end {p : Progress} (h : p.ended = none) (failure : Option Failure) :
    p.result failure = p.session.resultAtEnd failure := by
  rw [result, h]

end Progress

/-- The prompt as it is written, if there is one. -/
def shown (session : Session) : Option String → Bytes
  | none => []
  | some text => utf8 (session.palette.paintPrompt text)

/-- A run of `session`, started in the context `c`, has come as far as `p`. -/
structure Reached (session : Session) (prompt : Option String) (c : Context) (p : Progress)
    (now : Context) : Prop where
  palette : p.session.palette = session.palette
  files : now.files = p.files
  setting : now.setting = c.setting
  neverFails : now.NeverFails
  /-- The output holds what the lines have printed. -/
  out : now.out.contents = c.out.contents ++ p.printed.flatten
  /-- The error stream holds what they have complained about, with a prompt in front of each. -/
  err : now.err.contents =
    c.err.contents ++ (p.complained.map (session.shown prompt ++ ·)).flatten

section Loop

variable {session : Session} {prompt : Option String} {c now : Context} {p : Progress}

theorem Reached.threshold (h : Reached session prompt c p now) : now.threshold = c.threshold :=
  congrArg (·.2.1) h.setting

/-- The prompt does not change from line to line. -/
theorem Reached.shown_eq (h : Reached session prompt c p now) :
    p.session.shown prompt = session.shown prompt := by
  cases prompt with
  | none => rfl
  | some text => rw [shown, shown, h.palette]

theorem Reached.start (hc : c.NeverFails) (session : Session) (prompt : Option String) :
    Reached session prompt c (.start session c.files) c :=
  ⟨rfl, rfl, rfl, hc, (List.append_nil _).symm, (List.append_nil _).symm⟩

/-- The prompt is written, if there is one. -/
theorem runIn_showPrompt (session : Session) (prompt : Option String) (h : c.NeverFails) :
    ((session.showPrompt prompt).runIn c).1 = none ∧
      c.Wrote ((session.showPrompt prompt).runIn c).2 [] (session.shown prompt) := by
  cases prompt with
  | none => exact ⟨rfl, .refl h⟩
  | some text =>
    have hwrote := Action.wrote_complain h (session.palette.paintPrompt text)
    rw [showPrompt, Action.runIn_bind, Action.runIn_complain, h.err.write_failure]
    exact ⟨hwrote.neverFails.err.flush, hwrote⟩

/-- Note that the session ends because a line was `exit`. -/
def noteExit (status : Int) : Action Unit :=
  Action.note .info .session s!"exit requested with status {status}"

/-- A line that comes next is run behind its prompt. Where no stream fails, neither does the flush
behind the line. -/
theorem runIn_runLines_cons (h : c.NeverFails) (session : Session) (prompt : Option String)
    (failure : Option Failure) (line : Bytes) (rest : List Bytes) :
    (runLines prompt failure session (line :: rest)).runIn c =
      let asked := ((session.showPrompt prompt).runIn c).2
      let ran := (session.runLine (lossyText line)).runIn { asked with input := .empty }
      match ran.1.2 with
      | .proceed _ => (runLines prompt failure ran.1.1 rest).runIn ran.2
      | .exit status =>
        ((ran.1.1, .ok status), ((noteExit status).runIn ran.2).2) := by
  obtain ⟨hshown, hprompt⟩ := runIn_showPrompt session prompt h
  have hasked := (hprompt.setInput .empty).neverFails
  have hflush := ((session.appends_runLine (lossyText line) false).neverFails hasked).out.flush
  rw [runLines, Action.runIn_bind, hshown]
  dsimp only
  rw [Action.runIn_bind, Action.runIn_modify, Action.runIn_bind]
  dsimp only
  rw [Action.runIn_bind, Action.runIn_flush]
  generalize (session.runLine (lossyText line)).runIn
    { ((session.showPrompt prompt).runIn c).2 with input := .empty } = ran at hflush ⊢
  obtain ⟨⟨session', flow⟩, now⟩ := ran
  dsimp only at hflush ⊢
  rw [hflush]
  cases flow <;> rfl

/-- A line in a run that has come this far does what it does in a context of its own. -/
theorem Reached.step (h : Reached session prompt c p now) (hended : p.ended = none)
    (piece : Bytes) {ran : (Session × Flow) × Context}
    (hran : (p.session.runLine (lossyText piece)).runIn
      { ((p.session.showPrompt prompt).runIn now).2 with input := .empty } = ran) :
    ran.1.1 = (p.step c piece).session ∧ ran.1.2.exitStatus? = (p.step c piece).ended ∧
      Reached session prompt c (p.step c piece) ran.2 := by
  obtain ⟨-, hprompt⟩ := runIn_showPrompt p.session prompt h.neverFails
  generalize ((p.session.showPrompt prompt).runIn now).2 = asked at hprompt hran
  dsimp only at hran
  have hsetting : asked.setting = c.setting := hprompt.setting_eq.trans h.setting
  have hasked : Context.NeverFails { asked with input := .empty } :=
    ⟨hprompt.neverFails.out, hprompt.neverFails.err⟩
  have hline := appends_runLine p.session (lossyText piece) false
  have hpalette := palette_runLine p.session (lossyText piece) { asked with input := .empty }
  have hkept := hline.setting_eq hasked
  have hnever := hline.neverFails hasked
  -- In a context of its own, the line finds the same files and writes the same.
  have hfresh : Context.fresh { asked with input := .empty } = c.ofLine p.files :=
    (Context.fresh_eq_ofLine hsetting).trans
      (congrArg c.ofLine (hprompt.files.trans h.files))
  have hown := hline.runIn_eq hasked
  rw [hfresh] at hown
  rw [hran] at hpalette hkept hnever hown
  rw [Progress.step_of_none hended rfl]
  generalize (p.session.runLine (lossyText piece)).runIn (c.ofLine p.files) = own at hown ⊢
  subst hown
  refine ⟨rfl, rfl, hpalette.trans h.palette, rfl, hkept.trans hsetting, hnever, ?_, ?_⟩
  · refine (Output.contents_followedBy _ _).trans ?_
    rw [hprompt.out, h.out]
    simp
  · refine (Output.contents_followedBy _ _).trans ?_
    rw [hprompt.err, h.err, h.shown_eq]
    simp

/-- Once the session has ended, no further line is run. -/
theorem Progress.foldl_step_of_ended (c : Context) {p : Progress} (h : p.ended.isSome = true)
    (pieces : List Bytes) : pieces.foldl (Progress.step c) p = p := by
  induction pieces with
  | nil => rfl
  | cons piece rest ih =>
    rw [List.foldl_cons, show p.step c piece = p from if_pos h]
    exact ih

/-- A run gets through some lines as the fold says; behind them it goes on, unless it has ended. -/
theorem Reached.through (h : Reached session prompt c p now) (hended : p.ended = none)
    (pieces : List Bytes) :
    let q := pieces.foldl (Progress.step c) p
    ∃ later, Reached session prompt c q later ∧ ∀ failure others,
      (runLines prompt failure p.session (pieces ++ others)).runIn now =
        match q.ended with
        | none => (runLines prompt failure q.session others).runIn later
        | some status => ((q.session, .ok status), ((noteExit status).runIn later).2) := by
  -- Each line leads from one context that has been reached to the next.
  induction pieces generalizing p now with
  | nil =>
    refine ⟨now, h, fun failure others => ?_⟩
    rw [List.foldl_nil, hended]
    rfl
  | cons piece rest ih =>
    obtain ⟨hsession, hflow, hreached⟩ := h.step hended piece rfl
    have hfirst (failure : Option Failure) (others : List Bytes) :=
      runIn_runLines_cons h.neverFails p.session prompt failure piece (rest ++ others)
    dsimp only at hfirst
    generalize (p.session.runLine (lossyText piece)).runIn
      { ((p.session.showPrompt prompt).runIn now).2 with input := .empty } = ran
      at hsession hflow hreached hfirst
    obtain ⟨⟨session', flow⟩, next⟩ := ran
    obtain rfl : session' = (p.step c piece).session := hsession
    rw [List.foldl_cons]
    cases flow with
    | proceed code =>
      obtain ⟨later, hlater, hrest⟩ := ih hreached hflow.symm
      exact ⟨later, hlater, fun failure others => (hfirst failure others).trans
        (hrest failure others)⟩
    | exit status =>
      -- The fold stays where it is, and so does the run.
      have hstatus : (p.step c piece).ended = some status := hflow.symm
      rw [Progress.foldl_step_of_ended c (by rw [hstatus]; rfl)]
      refine ⟨next, hreached, fun failure others => ?_⟩
      rw [hstatus]
      exact hfirst failure others

end Loop

end Session

end CommandShell
