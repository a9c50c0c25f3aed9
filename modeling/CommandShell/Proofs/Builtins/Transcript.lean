import CommandShell.Execution
import CommandShell.Proofs.Builtins.Operands

/-!
# Transcripts of the shell's own commands

What each of the shell's own commands does, as a list of events that depends on nothing but its
arguments, the files, its input and what makes patterns, and with which result it ends
(`Builtin.transcript`). The
commands do these things and nothing else wherever the output, if it fails, does so because nobody
reads it (`Builtin.runIn_run`).

A command that has complained ends with an exit code of its own, which is not zero
(`Builtin.result_of_complaint`).
-/

namespace CommandShell

/-- A command that prints something of its input, and fails as reading that fails. -/
def inputTranscript (content : Bytes) : Option Failure → Transcript Int
  | none => ⟨[.read, .print content, .flush], .ok 0⟩
  | some failure => ⟨[.read, .print content], .error (.io failure)⟩

/-- A command that prints something of each file; `code` is its exit code if one of them cannot be
read. -/
def operandsTranscript (command : String) (content : String → Input → Bytes) (code : Int)
    (files : Files) (paths : List String) : Transcript Int where
  events := (paths.flatMap fun path => operandEvents command (content path) files path) ++ [.flush]
  result := .ok (if paths.all (isReadable files) then 0 else code)

/-- What `cat` does. -/
def Cat.transcript (args : List String) (files : Files) (input : Input) : Transcript Int :=
  if args.isEmpty then inputTranscript input.data input.failure
  else operandsTranscript name (fun _ input => input.data) 1 files args

/-- What `echo` does. -/
def Echo.transcript (args : List String) : Transcript Int :=
  ⟨[.print (utf8 (" ".intercalate args ++ "\n")), .flush], .ok 0⟩

/-- What `pwd` does. -/
def Pwd.transcript (files : Files) : Transcript Int :=
  match workingDirectory files with
  | .ok path => ⟨[.print (utf8 (path ++ "\n")), .flush], .ok 0⟩
  | .error error => ⟨[], .error error⟩

namespace Grep

/-- What a search does: an input is searched if no files are named. -/
def searchTranscript (request : Request) (pattern : Pattern) (files : Files) (input : Input) :
    Transcript Int :=
  match request.files with
  | [] => inputTranscript (Search.output pattern request.after none input) input.failure
  | paths =>
    operandsTranscript name
      (fun path => Search.output pattern request.after
        (if paths.length > 1 then some path else none))
      2 files paths

/-- What `grep` does with an engine for its pattern. -/
def transcript (args : List String) (engine : Pattern.Engine) (files : Files) (input : Input) :
    Transcript Int :=
  match Request.ofArgs args with
  | .ok request =>
    match request.compile engine with
    | .ok pattern => searchTranscript request pattern files input
    | .error error => ⟨[], .error error⟩
  | .error (.shown text) => ⟨[.print (utf8 text)], .ok 0⟩
  | .error (.refused refusal) => ⟨[.complain refusal.message], .ok 2⟩

end Grep

namespace Wc

/-- The counts of a file, if it can be read. -/
def countsOf (files : Files) (path : String) : Except Failure Counts :=
  (files.openInput path).bind Counts.ofInput

/-- The file can be counted. -/
def isCounted (files : Files) (path : String) : Bool :=
  (countsOf files path).isOk

/-- What `wc` does with a file. -/
def fileEvent (files : Files) (path : String) : Event :=
  match countsOf files path with
  | .ok counts => .print (utf8 (counts.row (some path)))
  | .error failure => operandComplaint name path failure

/-- The sum of the counts of some files, as far as they can be read. -/
def total (files : Files) : List String → Counts
  | [] => .zero
  | path :: rest =>
    match countsOf files path with
    | .ok counts => counts.add (total files rest)
    | .error _ => total files rest

/-- The row of sums, which stands below the rows of several files. -/
def totalEvents (files : Files) (paths : List String) : List Event :=
  if paths.length > 1 then [.print (utf8 ((total files paths).row (some totalName)))] else []

/-- What `wc` does. -/
def transcript (args : List String) (files : Files) (input : Input) : Transcript Int :=
  if args.isEmpty then
    match Counts.ofInput input with
    | .ok counts => ⟨[.read, .print (utf8 (counts.row none)), .flush], .ok 0⟩
    | .error failure => ⟨[.read], .error (.io failure)⟩
  else
    ⟨args.map (fileEvent files) ++ (totalEvents files args ++ [.flush]),
      .ok (if args.all (isCounted files) then 0 else 1)⟩

end Wc

namespace Builtin

/-- What a command of the shell does, given its arguments, an engine for patterns, the files and its
input. -/
def transcript (builtin : Builtin) (args : List String) (engine : Pattern.Engine) (files : Files)
    (input : Input) : Transcript Int :=
  match builtin with
  | .cat => Cat.transcript args files input
  | .echo => Echo.transcript args
  | .grep => Grep.transcript args engine files input
  | .pwd => Pwd.transcript files
  | .wc => Wc.transcript args files input

/-- The exit code of a command that has complained. -/
def complaintCode : Builtin → Int
  | .grep => 2
  | _ => 1

end Builtin

/-! ## The commands follow their transcripts -/

/-- What is printed of an input comes before the failure of reading it. -/
theorem printInput_replays (content : Input → Bytes) (input : Input) (c : Context) :
    (printInput content input).Replays c
      ⟨[.print (content input)], Job.stopped input.failure⟩ := by
  refine (Job.Replays.perform c (.print (content input))).bind (t := ⟨[], _⟩)
    (fun _ => Job.stopOn input.failure) ?_
  rw [Job.Replays, Job.runIn_stopOn]
  rfl

/-- A command that prints something of its input and fails as reading that fails. -/
theorem runIn_inputTranscript (content : Input → Bytes) (c : Context) :
    (do printInput content (← Job.readInput); Job.flush; return 0 : Job Int).runIn c =
      (inputTranscript (content c.input) c.input.failure).replay.runIn c := by
  obtain ⟨files, programs, ⟨data, failure⟩, out, err, threshold, patterns⟩ := c
  rw [Job.runIn_bind, Job.runIn_readInput]
  cases failure with
  | none =>
    rw [inputTranscript, runIn_replay_read]
    exact (printInput_replays content ⟨data, none⟩ _).bind
      (fun _ => do Job.flush; return 0) (.perform_pure _ .flush 0)
  | some failure =>
    rw [inputTranscript, runIn_replay_read]
    exact (printInput_replays content ⟨data, some failure⟩ _).bind_error
      fun _ => do Job.flush; return 0

/-- A command that prints something of each file. -/
theorem operandsTranscript_follows (command : String) (content : String → Input → Bytes)
    (code : Int) (files : Files) (paths : List String) :
    (do
      let good ← withOperands
        (fun path => printOperand Job.openFile command (content path) path) paths
      Job.flush
      return if good then 0 else code : Job Int).Follows files
      (operandsTranscript command content code files paths) :=
  (withOperands_follows
    (fun path => printOperand_follows command (content path) files path) paths).bind
    (fun good => do Job.flush; return if good then 0 else code)
    (.perform_pure files .flush (if paths.all (isReadable files) then 0 else code))

/-- A command that prints a text and nothing else. -/
theorem print_flush_follows (bytes : Bytes) (files : Files) :
    (do Job.print bytes; Job.flush; return 0 : Job Int).Follows files
      ⟨[.print bytes, .flush], .ok 0⟩ := by
  intro c _ _
  exact (Job.Replays.perform c (.print bytes)).bind
    (fun _ => do Job.flush; return 0) (.perform_pure _ .flush 0)

theorem Cat.runIn_run (args : List String) {c : Context} (h : c.out.EndsQuietly) :
    (Cat.run args).runIn c = (Cat.transcript args c.files c.input).replay.runIn c := by
  rw [Cat.run, Cat.runWith, Cat.transcript]
  split
  · exact runIn_inputTranscript Input.data c
  · rw [Cat.orComplain_copyFile_eq]
    exact operandsTranscript_follows name (fun _ => Input.data) 1 c.files args c rfl h

theorem Echo.runIn_run (args : List String) {c : Context} (h : c.out.EndsQuietly) :
    (Echo.run args).runIn c = (Echo.transcript args).replay.runIn c :=
  print_flush_follows _ c.files c rfl h

theorem Pwd.runIn_run (args : List String) {c : Context} (h : c.out.EndsQuietly) :
    (Pwd.run args).runIn c = (Pwd.transcript c.files).replay.runIn c := by
  change (ExceptT.mk (Pure.pure (workingDirectory c.files)) >>= _ : Job Int).runIn c = _
  rw [Job.runIn_bind, Job.runIn_mk_pure, transcript]
  cases workingDirectory c.files with
  | ok path => exact print_flush_follows (utf8 (path ++ "\n")) c.files c rfl h
  | error error => rfl

namespace Grep

theorem runIn_perform (request : Request) {c : Context} (h : c.out.EndsQuietly) :
    (perform Job.openFile request).runIn c =
      (match request.compile c.patterns with
        | .ok pattern => searchTranscript request pattern c.files c.input
        | .error error => ⟨[], .error error⟩ : Transcript Int).replay.runIn c := by
  change (ExceptT.mk (Pure.pure (request.compile c.patterns)) >>= _ : Job Int).runIn c = _
  rw [Job.runIn_bind, Job.runIn_mk_pure]
  cases request.compile c.patterns with
  | error error => rfl
  | ok pattern =>
    dsimp only
    rw [searchTranscript]
    cases request.files with
    | nil => exact runIn_inputTranscript (Search.output pattern request.after none) c
    | cons path rest =>
      exact operandsTranscript_follows name
        (fun operand => Search.output pattern request.after
          (if (path :: rest).length > 1 then some operand else none))
        2 c.files (path :: rest) c rfl h

theorem runIn_run (args : List String) {c : Context} (h : c.out.EndsQuietly) :
    (run args).runIn c = (transcript args c.patterns c.files c.input).replay.runIn c := by
  rw [run, runWith, transcript]
  cases Request.ofArgs args with
  | ok request => exact runIn_perform request h
  | error stop =>
    cases stop with
    | shown text => exact Job.Follows.perform_pure c.files (.print (utf8 text)) 0 c rfl h
    | refused refusal =>
      exact Job.Follows.perform_pure c.files (.complain refusal.message) 2 c rfl h

end Grep

namespace Wc

/-- Files are counted one after the other, whatever becomes of each of them, until the output
fails. -/
theorem countFiles_replays (paths : List String) (c : Context) :
    (countFiles Job.openFile paths).Replays c
      ⟨paths.map (fileEvent c.files),
        .ok (total c.files paths, paths.all (isCounted c.files))⟩ := by
  induction paths generalizing c with
  | nil => exact .pure c (Counts.zero, true)
  | cons path rest ih =>
    have hrest (event : Event) := ih ((performAll [event]).runIn c).2
    simp only [files_performAll] at hrest
    rw [Job.Replays, countFiles, Job.runIn_bind, Job.runIn_openFile, total, List.map_cons,
      List.all_cons, isCounted, fileEvent, countsOf]
    dsimp only
    -- The sum and the verdict are made up behind the rest of the files, which adds no events.
    cases (c.files.openInput path).bind Counts.ofInput with
    | ok counts =>
      exact (Job.Replays.perform c (.print (utf8 (counts.row (some path))))).bind
        (fun _ => do
          let found ← countFiles Job.openFile rest
          return (counts.add found.1, found.2))
        ((hrest _).bind_pure fun found => (counts.add found.1, found.2))
    | error failure =>
      exact (Job.Replays.perform c (operandComplaint name path failure)).bind
        (fun _ => do
          let found ← countFiles Job.openFile rest
          return (found.1, false))
        ((hrest _).bind_pure fun found => (found.1, false))

/-- Unlike the other commands, `wc` leaves it to its caller how the output fails. -/
theorem runIn_run (args : List String) (c : Context) :
    (run args).runIn c = (transcript args c.files c.input).replay.runIn c := by
  rw [run, runWith, transcript]
  split
  · rw [Job.runIn_bind, Job.runIn_readInput]
    dsimp only
    cases Counts.ofInput c.input with
    | error failure => rfl
    | ok counts =>
      dsimp only
      rw [runIn_replay_read]
      exact (Job.Replays.perform _ (.print (utf8 (counts.row none)))).bind
        (fun _ => do Job.flush; return 0) (.perform_pure _ .flush 0)
  · -- The row of sums comes after the rows of all files.
    refine (countFiles_replays args c).bind
      (fun counted => (do
        if args.length > 1 then
          Job.print (utf8 (counted.1.row (some totalName)))
        Job.flush
        return if counted.2 then 0 else 1 : Job Int))
      (t := ⟨totalEvents c.files args ++ [.flush],
        .ok (if args.all (isCounted c.files) then 0 else 1)⟩) ?_
    dsimp only
    rw [totalEvents]
    split
    · exact (Job.Replays.perform _ (.print _)).bind
        (fun _ => (do Job.flush; return _ : Job Int)) (.perform_pure _ .flush _)
    · exact Job.Replays.perform_pure _ .flush _

end Wc

/-- A command of the shell does what its transcript says. -/
theorem Builtin.runIn_run (builtin : Builtin) (args : List String) {c : Context}
    (h : c.out.EndsQuietly) :
    (builtin.run args).runIn c =
      (builtin.transcript args c.patterns c.files c.input).replay.runIn c := by
  cases builtin with
  | cat => exact Cat.runIn_run args h
  | echo => exact Echo.runIn_run args h
  | grep => exact Grep.runIn_run args h
  | pwd => exact Pwd.runIn_run args h
  | wc => exact Wc.runIn_run args c

/-! ## Commands that have complained -/

/-- Of events none of which is a complaint, none has complained. -/
theorem not_isComplaint_of_any {events : List Event} (hnone : events.any Event.isComplaint = false)
    {event : Event} (hmem : event ∈ events) : ¬event.isComplaint = true :=
  List.any_eq_false.mp hnone event hmem

/-- A command that complains about a file ends with its own exit code. -/
theorem operandsTranscript_result_of_complaint {command : String}
    {content : String → Input → Bytes} {code : Int} {files : Files} {paths : List String}
    {event : Event} (hmem : event ∈ (operandsTranscript command content code files paths).events)
    (h : event.isComplaint = true) :
    (operandsTranscript command content code files paths).result = .ok code := by
  obtain hmem | hmem := List.mem_append.mp hmem
  case inr => exact absurd h (not_isComplaint_of_any rfl hmem)
  obtain ⟨path, hpath, hevent⟩ := List.mem_flatMap.mp hmem
  have hbad : isReadable files path = false :=
    (isReadable_eq_false_iff command (content path) files path).mpr ⟨event, hevent, h⟩
  have hall : paths.all (isReadable files) = false :=
    List.all_eq_false.mpr ⟨path, hpath, by rw [hbad]; decide⟩
  rw [operandsTranscript.eq_def, hall]
  rfl

/-- Working on the input alone gives no reason to complain. -/
theorem inputTranscript_no_complaint {content : Bytes} {failure : Option Failure} {event : Event}
    (hmem : event ∈ (inputTranscript content failure).events) : ¬event.isComplaint = true := by
  cases failure with
  | none => exact not_isComplaint_of_any rfl hmem
  | some failure => exact not_isComplaint_of_any rfl hmem

/-- What cannot be counted is complained about. -/
theorem Wc.isComplaint_fileEvent (files : Files) (path : String) :
    (fileEvent files path).isComplaint = !isCounted files path := by
  rw [fileEvent, isCounted]
  cases countsOf files path <;> rfl

theorem Cat.result_of_complaint {args : List String} {files : Files} {input : Input}
    {event : Event} (hmem : event ∈ (transcript args files input).events)
    (h : event.isComplaint = true) : (transcript args files input).result = .ok 1 := by
  rw [transcript] at hmem ⊢
  split at hmem
  · exact absurd h (inputTranscript_no_complaint hmem)
  · rename_i hargs
    rw [if_neg hargs]
    exact operandsTranscript_result_of_complaint hmem h

theorem Grep.result_of_complaint {args : List String} {engine : Pattern.Engine} {files : Files}
    {input : Input} {event : Event}
    (hmem : event ∈ (transcript args engine files input).events)
    (h : event.isComplaint = true) : (transcript args engine files input).result = .ok 2 := by
  rw [transcript] at hmem ⊢
  cases hrequest : Request.ofArgs args with
  | error stop =>
    rw [hrequest] at hmem
    cases stop with
    | shown text => exact absurd h (not_isComplaint_of_any rfl hmem)
    | refused refusal => rfl
  | ok request =>
    -- A search complains about files only.
    rw [hrequest] at hmem
    dsimp only at hmem ⊢
    cases hpattern : request.compile engine with
    | error e =>
      rw [hpattern] at hmem
      exact absurd hmem List.not_mem_nil
    | ok pattern =>
      rw [hpattern] at hmem
      dsimp only at hmem ⊢
      rw [searchTranscript] at hmem ⊢
      cases hfiles : request.files with
      | nil =>
        rw [hfiles] at hmem
        exact absurd h (inputTranscript_no_complaint hmem)
      | cons path rest =>
        rw [hfiles] at hmem
        exact operandsTranscript_result_of_complaint hmem h

theorem Wc.result_of_complaint {args : List String} {files : Files} {input : Input}
    {event : Event} (hmem : event ∈ (transcript args files input).events)
    (h : event.isComplaint = true) : (transcript args files input).result = .ok 1 := by
  rw [transcript] at hmem ⊢
  split at hmem
  · cases hcounts : Counts.ofInput input with
    | error failure =>
      rw [hcounts] at hmem
      exact absurd h (not_isComplaint_of_any rfl hmem)
    | ok counts =>
      rw [hcounts] at hmem
      exact absurd h (not_isComplaint_of_any rfl hmem)
  · rename_i hargs
    rw [if_neg hargs]
    obtain hmem | hmem := List.mem_append.mp hmem
    · obtain ⟨path, hpath, rfl⟩ := List.mem_map.mp hmem
      rw [isComplaint_fileEvent, Bool.not_eq_true'] at h
      have hall : args.all (isCounted files) = false :=
        List.all_eq_false.mpr ⟨path, hpath, by rw [h]; decide⟩
      rw [hall]
      rfl
    · -- The row of sums is no complaint.
      rw [totalEvents] at hmem
      split at hmem <;> exact absurd h (not_isComplaint_of_any rfl hmem)

theorem Pwd.not_isComplaint {files : Files} {event : Event}
    (hmem : event ∈ (transcript files).events) : ¬event.isComplaint = true := by
  rw [transcript] at hmem
  split at hmem <;> exact not_isComplaint_of_any rfl hmem

/-- A command that has complained ends with its own exit code. -/
theorem Builtin.result_of_complaint {builtin : Builtin} {args : List String}
    {engine : Pattern.Engine} {files : Files} {input : Input} {event : Event}
    (hmem : event ∈ (builtin.transcript args engine files input).events)
    (h : event.isComplaint = true) :
    (builtin.transcript args engine files input).result = .ok builtin.complaintCode := by
  cases builtin with
  | cat => exact Cat.result_of_complaint hmem h
  | echo => exact absurd h (not_isComplaint_of_any rfl hmem)
  | grep => exact Grep.result_of_complaint hmem h
  | pwd => exact absurd h (Pwd.not_isComplaint hmem)
  | wc => exact Wc.result_of_complaint hmem h

end CommandShell
