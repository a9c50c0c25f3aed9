import CommandShell.Proofs.Session.Progress

/-!
# Scripts

The result of running a whole input. A run comes as far as the fold over the pieces of its input,
and then ends: with the status of an `exit`, with the failure of the input, or with the last exit
status. So the prompt changes nothing but the error stream, and of two scripts in one the second is
run where the first one ends, unless that ends the session (`Session.run_script`).
-/

namespace CommandShell.Session

/-! ## The end of a run -/

/-- The line that a prompt is left standing in is ended where the input ends. -/
def lineEnd (prompt : Option String) (failure : Option Failure) : Bytes :=
  if prompt.isSome && failure.isNone then utf8 "\n" else []

/-- A run ends with the failure of its input, or with the last exit status. -/
theorem runIn_finish {c : Context} (h : c.NeverFails) (session : Session)
    (prompt : Option String) (failure : Option Failure) :
    let ran := (session.finish prompt failure).runIn c
    ran.1 = (session, session.resultAtEnd failure) ∧
    ran.2 = { c with err := ran.2.err } ∧
    ∃ before after, AreNotes c.threshold before ∧ AreNotes c.threshold after ∧
      ran.2.err.contents = c.err.contents ++ (before ++ lineEnd prompt failure ++ after) := by
  cases failure with
  | some failure =>
    refine ⟨rfl, rfl, [], [], .nil, .nil, ?_⟩
    rw [lineEnd, Option.isNone_some, Bool.and_false]
    exact (List.append_nil _).symm
  | none =>
    let noted := ((Action.note .debug .session "end of input").runIn c).2
    have hnoted : c.Noted noted := .note .refl _ _ _
    obtain ⟨before, hbefore, hwrote⟩ := hnoted.wrote h
    cases prompt with
    | none =>
      -- Without a prompt no line is ended, so the notes are all there is.
      have hread := noted_noteLookup noted session.env Environment.statusName
      obtain ⟨after, hafter, hlookup⟩ := hread.wrote hwrote.neverFails
      rw [hwrote.threshold] at hafter
      refine ⟨rfl, (hnoted.trans hread).eq_setErr, before, after, hbefore, hafter, ?_⟩
      rw [lineEnd, Option.isSome_none, Bool.false_and, if_neg Bool.false_ne_true,
        List.append_nil]
      exact (hwrote.trans hlookup).err
    | some text =>
      let ended := ((Action.complain "\n").runIn noted).2
      let last := ((noteLookup session.env Environment.statusName).runIn ended).2
      have hran : (session.finish (some text) none).runIn c =
          ((session, .ok session.env.status), last) := by
        rw [finish, Action.runIn_bind, Action.runIn_bind, Action.runIn_complain,
          hwrote.neverFails.err.write_failure]
        rfl
      have hline := hwrote.trans (Action.wrote_complain hwrote.neverFails "\n")
      have hread := noted_noteLookup ended session.env Environment.statusName
      obtain ⟨after, hafter, hlookup⟩ := hread.wrote hline.neverFails
      rw [hran]
      refine ⟨rfl, ?_, before, after, hbefore, ?_, (hline.trans hlookup).err⟩
      · -- Notes and the end of the line are written to the error stream.
        refine hread.eq_setErr.trans ?_
        exact congrArg (fun d : Context => { d with err := last.err }) hnoted.eq_setErr
      · rwa [hline.threshold] at hafter

/-- How a run of `session` ends that was started in the context `c` and has come as far as `p`.
After its last line there is nothing more to read because of a failure, or because the input has
ended. -/
structure Finishes (session : Session) (prompt : Option String) (failure : Option Failure)
    (c : Context) (p : Progress) (ran : (Session × Except Error Int) × Context) : Prop where
  result : ran.1 = (p.session, p.result failure)
  files : ran.2.files = p.files
  setting : ran.2.setting = c.setting
  /-- The output holds what the lines have printed. -/
  out : ran.2.out.contents = c.out.contents ++ p.printed.flatten
  /-- After an `exit`, the error stream holds what the lines have complained about, with a prompt in
  front of each, and notes. -/
  err_of_exit : p.ended.isSome →
    ∃ notes, AreNotes c.threshold notes ∧
      ran.2.err.contents =
        c.err.contents ++ (p.complained.map (session.shown prompt ++ ·)).flatten ++ notes
  /-- Without an `exit` there is one more prompt, which is left standing in its line if reading
  fails. -/
  err_of_end : p.ended = none →
    ∃ before after, AreNotes c.threshold before ∧ AreNotes c.threshold after ∧
      ran.2.err.contents =
        c.err.contents ++ (p.complained.map (session.shown prompt ++ ·)).flatten ++
          session.shown prompt ++ (before ++ lineEnd prompt failure ++ after)

section End

variable {session : Session} {prompt : Option String} {c now : Context} {p : Progress}

/-- Behind the last line, the prompt is shown once more, and the run ends. -/
theorem runIn_runLines_nil (h : c.NeverFails) (session : Session) (prompt : Option String)
    (failure : Option Failure) :
    (runLines prompt failure session []).runIn c =
      (session.finish prompt failure).runIn ((session.showPrompt prompt).runIn c).2 := by
  rw [runLines, Action.runIn_bind, (runIn_showPrompt session prompt h).1]

/-- An `exit` ends the run with a note. -/
theorem Reached.finishes_of_exit (h : Reached session prompt c p now) {status : Int}
    (hended : p.ended = some status) (failure : Option Failure) :
    Finishes session prompt failure c p
      ((p.session, .ok status), ((noteExit status).runIn now).2) := by
  have hnoted : now.Noted ((noteExit status).runIn now).2 := .note .refl _ _ _
  obtain ⟨notes, hnotes, hwrote⟩ := hnoted.wrote h.neverFails
  rw [h.threshold] at hnotes
  refine ⟨?_, hwrote.files.trans h.files, ?_, ?_, fun _ => ⟨notes, hnotes, ?_⟩, ?_⟩
  · rw [Progress.result_of_exit hended]
  · exact hwrote.setting_eq.trans h.setting
  · rw [hwrote.out, h.out, List.append_nil]
  · rw [hwrote.err, h.err]
  · rw [hended]
    exact nofun

/-- Without an `exit`, the run ends behind one more prompt. -/
theorem Reached.finishes_of_end (h : Reached session prompt c p now) (hended : p.ended = none)
    (failure : Option Failure) :
    Finishes session prompt failure c p
      ((runLines prompt failure p.session []).runIn now) := by
  obtain ⟨-, hprompt⟩ := runIn_showPrompt p.session prompt h.neverFails
  obtain ⟨hresult, hleft, before, after, hbefore, hafter, herr⟩ :=
    runIn_finish hprompt.neverFails p.session prompt failure
  rw [runIn_runLines_nil h.neverFails]
  generalize (p.session.finish prompt failure).runIn
    ((p.session.showPrompt prompt).runIn now).2 = ran at hresult hleft herr ⊢
  rw [hprompt.threshold, h.threshold] at hbefore hafter
  refine ⟨?_, ?_, ?_, ?_, ?_, fun _ => ⟨before, after, hbefore, hafter, ?_⟩⟩
  · rw [hresult, Progress.result_of_end hended]
  · rw [hleft]
    exact hprompt.files.trans h.files
  · rw [hleft]
    exact hprompt.setting_eq.trans h.setting
  · rw [hleft]
    exact hprompt.out.trans (by rw [h.out, List.append_nil])
  · rw [hended]
    exact nofun
  · rw [herr, hprompt.err, h.err, h.shown_eq]

/-- Every run gets as far as the fold over the pieces of its input does. -/
theorem finishes_run (hc : c.NeverFails) (session : Session) (prompt : Option String)
    (input : Input) :
    Finishes session prompt input.failure c (.through session c input.pieces)
      ((session.run prompt input).runIn c) := by
  obtain ⟨later, hlater, hrun⟩ := (Reached.start hc session prompt).through rfl input.pieces
  have hran := hrun input.failure []
  rw [List.append_nil] at hran
  rw [run_eq_runLines_pieces]
  change Finishes _ _ _ _ (input.pieces.foldl (Progress.step c) (.start session c.files))
    ((runLines prompt input.failure (Progress.start session c.files).session
      input.pieces).runIn c)
  rw [hran]
  generalize input.pieces.foldl (Progress.step c) (.start session c.files) = q at hlater ⊢
  -- No lines are left: the run ends at once, or behind the prompt for a line that never comes.
  cases hended : q.ended with
  | some status => exact hlater.finishes_of_exit hended input.failure
  | none => exact hlater.finishes_of_end hended input.failure

end End

/-! ## Scripts one after the other -/

theorem appends_showPrompt (session : Session) (prompt : Option String) :
    (session.showPrompt prompt).Appends := by
  cases prompt with
  | none => exact .pure none
  | some text =>
    refine .bind (.complain _) fun refused => ?_
    cases refused with
    | some refused => exact .pure _
    | none => exact .flushErrors

theorem appends_finish (session : Session) (prompt : Option String) (failure : Option Failure) :
    (session.finish prompt failure).Appends := by
  have hread : session.readStatus.Appends := .bind (.note _ _ _) fun _ => .pure _
  cases failure with
  | some failure => exact .pure _
  | none =>
    refine .bind (.note _ _ _) fun _ => ?_
    cases prompt with
    | none => exact .bind hread fun _ => .pure _
    | some text =>
      refine .bind (.complain _) fun failure => ?_
      cases failure with
      | some failure => exact .pure _
      | none => exact .bind hread fun _ => .pure _

theorem appends_runLines (prompt : Option String) (failure : Option Failure) (session : Session)
    (lines : List Bytes) : (runLines prompt failure session lines).Appends := by
  induction lines generalizing session with
  | nil =>
    rw [runLines]
    refine .bind (session.appends_showPrompt prompt) fun refused => ?_
    cases refused with
    | some refused => exact .pure _
    | none => exact session.appends_finish prompt failure
  | cons line rest ih =>
    rw [runLines]
    refine .bind (session.appends_showPrompt prompt) fun refused => ?_
    cases refused with
    | some refused => exact .pure _
    | none =>
      refine .bind (.setInput .empty) fun _ => .bind (session.appends_runLine _ _) fun ran => ?_
      obtain ⟨session', flow⟩ := ran
      refine .bind .flush fun unflushed => ?_
      cases unflushed with
      | some unflushed => exact .pure _
      | none =>
        cases flow with
        | proceed code => exact ih session'
        | exit status => exact .bind (.note _ _ _) fun _ => .pure _

/-- What follows a script is run where that ended, unless it has ended the session. -/
theorem run_prepend {c : Context} (hc : c.NeverFails) (session : Session) (script : Bytes) :
    let p := Progress.through session c (Input.cutBehind (script ++ [Input.newline]))
    ∃ now, Reached session none c p now ∧ ∀ rest : Input,
      (session.run none (rest.prepend (script ++ [Input.newline]))).runIn c =
        match p.ended with
        | none => (p.session.run none rest).runIn now
        | some status => ((p.session, .ok status), ((noteExit status).runIn now).2) := by
  obtain ⟨now, hnow, hrun⟩ :=
    (Reached.start hc session none).through rfl (Input.cutBehind (script ++ [Input.newline]))
  refine ⟨now, hnow, fun rest => ?_⟩
  rw [run_eq_runLines_pieces, Input.pieces_prepend]
  refine (hrun rest.failure rest.pieces).trans ?_
  rw [run_eq_runLines_pieces]
  rfl

/-- Where the session has not ended, a script that has come to its end leaves the context in which
what follows it is run. -/
theorem Reached.run_none_empty {session : Session} {c now : Context} {p : Progress}
    (h : Reached session none c p now) :
    let alone := (p.session.run none .empty).runIn now
    alone.1.1 = p.session ∧ alone.2 = { now with err := alone.2.err } ∧
      ∃ notes, AreNotes c.threshold notes ∧
        alone.2.err.contents = now.err.contents ++ notes := by
  have hrun : (p.session.run none .empty).runIn now = (p.session.finish none none).runIn now :=
    runIn_runLines_nil h.neverFails p.session none none
  obtain ⟨hresult, hleft, before, after, hbefore, hafter, herr⟩ :=
    runIn_finish h.neverFails p.session none none
  rw [h.threshold] at hbefore hafter
  rw [hrun]
  refine ⟨congrArg Prod.fst hresult, hleft, before ++ after, hbefore.append hafter, ?_⟩
  rw [herr, lineEnd, Option.isSome_none, Bool.false_and, if_neg Bool.false_ne_true,
    List.append_nil]

/-- Running a script is folding its lines, and running two scripts in one is running them one after
the other.

The input is cut behind each newline, however it arrives; the lines are run in order, each with
nothing to read and with streams of its own, until one of them is an `exit`. The run leaves the
session and the files that the last line leaves. It gives the status of the `exit`, or the last exit
status, or the failure that is met behind the lines. The output holds what the lines have printed.
The error stream holds their complaints, with the prompt in front of each if there is one, and a
last prompt and a newline if the input ends.

A script that ends the session hides whatever follows it. Otherwise what follows is run in the
session and with the files that the script leaves, and what it writes comes behind what the script
has written. -/
theorem run_script {c : Context} (hc : c.NeverFails) (session : Session) :
    (∀ prompt reads,
      let input := Input.ofReads reads
      Finishes session prompt input.failure c (.through session c input.pieces)
        ((session.run prompt input).runIn c)) ∧
    ∀ script : Bytes,
      let first := script ++ [Input.newline]
      let alone := (session.run none (.ofBytes first)).runIn c
      let p := Progress.through session c (Input.ofBytes first).pieces
      (p.ended.isSome →
        ∀ rest : Input, (session.run none (rest.prepend first)).runIn c = alone) ∧
      (p.ended = none → ∀ rest : Input,
        let whole := (session.run none (rest.prepend first)).runIn c
        let later := (alone.1.1.run none rest).runIn alone.2.fresh
        whole.1 = later.1 ∧ whole.2.files = later.2.files ∧
          whole.2.out.contents = alone.2.out.contents ++ later.2.out.contents ∧
            ∃ said notes, AreNotes c.threshold notes ∧
              alone.2.err.contents = said ++ notes ∧
                whole.2.err.contents = said ++ later.2.err.contents) := by
  refine ⟨fun prompt reads => finishes_run hc session prompt _, fun script => ?_⟩
  intro first alone p
  obtain ⟨now, hnow, hrun⟩ := run_prepend hc session script
  change Reached session none c p now at hnow
  change ∀ rest : Input, (session.run none (rest.prepend first)).runIn c =
    match p.ended with | none => _ | some _ => _ at hrun
  have halone : alone = (session.run none (Input.empty.prepend first)).runIn c := by
    have hfirst : Input.empty.prepend first = .ofBytes first :=
      congrArg (Input.mk · none) (List.append_nil first)
    rw [hfirst]
  constructor
  · -- Neither run depends on what follows the script.
    intro hexit rest
    obtain ⟨status, hstatus⟩ := Option.isSome_iff_exists.mp hexit
    rw [hstatus] at hrun
    rw [halone, hrun rest, hrun .empty]
  · intro hended rest whole later
    have hgoes (rest : Input) : (session.run none (rest.prepend first)).runIn c =
        (p.session.run none rest).runIn now := by
      rw [hrun rest, hended]
      rfl
    obtain ⟨hsession, hleft, notes, hnotes, hnoted⟩ := hnow.run_none_empty
    rw [← hgoes .empty, ← halone] at hsession hleft hnoted
    -- The script leaves the context that it has reached, up to notes.
    have hfresh : alone.2.fresh = now.fresh := by
      rw [hleft]
      rfl
    have hwhole : whole = (later.1, now.continued later.2) := by
      have happends := appends_runLines none rest.failure p.session rest.lines
      change _ = (((alone.1.1.run none rest).runIn alone.2.fresh).1,
        now.continued ((alone.1.1.run none rest).runIn alone.2.fresh).2)
      rw [hsession, hfresh]
      exact (hgoes rest).trans (happends.runIn_eq hnow.neverFails)
    rw [hwhole]
    refine ⟨rfl, rfl, ?_, now.err.contents, notes, hnotes, hnoted, ?_⟩
    · have hout : alone.2.out = now.out := by rw [hleft]
      rw [hout]
      exact Output.contents_followedBy _ _
    · exact Output.contents_followedBy _ _

/-- What follows an `exit` is not run, whatever it is. -/
theorem exit_hides_what_follows :
    let c : Context :=
      ⟨⟨[], []⟩, .absent, .empty, .unlimited, .unlimited, none, Pattern.compile⟩
    let session : Session := ⟨.initial, .plain⟩
    let script : Bytes := utf8 "echo hi\nexit 3"
    c.NeverFails ∧ ∀ rest : Input,
      let ran := (session.run none (rest.prepend (script ++ [Input.newline]))).runIn c
      ran.1.2 = .ok 3 ∧ ran.2.out.contents = utf8 "hi\n" ∧ ran.2.err.contents = [] := by
  intro c session script
  have hc : c.NeverFails := ⟨Output.neverFails_unlimited, Output.neverFails_unlimited⟩
  let first := script ++ [Input.newline]
  have hended : (Progress.through session c (Input.ofBytes first).pieces).ended = some 3 := by
    dsimp only [first, c, session, script]
    decide +kernel
  have hwritten : (Progress.through session c (Input.ofBytes first).pieces).printed.flatten =
        utf8 "hi\n" ∧
      (Progress.through session c (Input.ofBytes first).pieces).complained = [[], []] := by
    dsimp only [first, c, session, script]
    decide +kernel
  have hquiet : c.threshold = none ∧ c.out.contents = [] ∧ c.err.contents = [] := ⟨rfl, rfl, rfl⟩
  -- Nothing is evaluated from here on.
  clear_value c session script
  refine ⟨hc, fun rest => ?_⟩
  obtain ⟨hfold, hscripts⟩ := run_script hc session
  obtain ⟨hhides, -⟩ := hscripts script
  have hfinishes := hfold none (Input.ofBytes first).reads
  rw [Input.ofReads_reads] at hfinishes
  obtain ⟨notes, hnotes, herr⟩ := hfinishes.err_of_exit (by rw [hended]; rfl)
  obtain rfl : notes = [] := (hquiet.1 ▸ hnotes).eq_nil
  dsimp only
  rw [hhides (by rw [hended]; rfl) rest]
  refine ⟨?_, hfinishes.out.trans ?_, herr.trans ?_⟩
  · exact (congrArg Prod.snd hfinishes.result).trans (Progress.result_of_exit hended _)
  · rw [hquiet.2.1, hwritten.1, List.nil_append]
  · rw [hquiet.2.2, hwritten.2]
    rfl

end CommandShell.Session
