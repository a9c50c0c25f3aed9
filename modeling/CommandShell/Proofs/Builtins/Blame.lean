import CommandShell.Proofs.Builtins.Transcript
import CommandShell.Proofs.Stream.Acceptance
import Mathlib.Data.List.Basic
import Mathlib.Data.List.Flatten
import Mathlib.Tactic.ByContra

/-!
# Which files are blamed

The complaints of a command that works on files, and what becomes of them where the output fails. A
run whose output never fails complains about exactly those files that cannot be opened or read
(`faults`). Where nobody reads the output, a command stops, and its complaints are the first of
these; so they are with `wc` wherever the output fails. Otherwise `cat` and `grep` take the failure
of the output for one of the file that they have been copying or searching, and go on (`blames`,
`Context.FailsLoudly.withOperands`).

So no file is blamed for the output exactly if one of the former is the case, or there is room for
everything (`Builtin.complaints_isPrefix_iff`). The one exception is a file that breaks off while it
is read, with a reason that reads like that of the output: it is complained about either way
(`HidesLoss`).
-/

namespace CommandShell

/-! ## Complaints among events -/

/-- The complaint that an event is, as it is written. -/
def Event.message? : Event → Option Bytes
  | .complain text => some (utf8 text)
  | _ => none

/-- The complaints among some events, as they are written. -/
def messages (events : List Event) : List Bytes :=
  events.filterMap Event.message?

theorem messages_append (first second : List Event) :
    messages (first ++ second) = messages first ++ messages second :=
  List.filterMap_append

/-- What has been written to the error stream of a context, each message by itself. -/
def Context.messages (c : Context) : List Bytes :=
  c.err.pieces.reverse

theorem Output.NeverFails.pieces_write {out : Output} (h : out.NeverFails) (bytes : Bytes) :
    (out.write bytes).1.pieces = bytes :: out.pieces := by
  rw [h.write_eq]

/-- Wherever the output fails, the complaints that are delivered are the first ones among the
events; all of them if it does not fail. -/
theorem messages_performAll (events : List Event) {c : Context} (herr : c.err.NeverFails) :
    ∃ done, done <+: events ∧
      ((performAll events).runIn c).2.messages = c.messages ++ messages done ∧
        (c.out.NeverFails → done = events) := by
  induction events generalizing c with
  | nil => exact ⟨[], List.prefix_refl _, (List.append_nil _).symm, fun _ => rfl⟩
  | cons event rest ih =>
    rw [runIn_performAll_cons]
    -- Only the output can stop the events, at something to print or at a flush.
    cases event with
    | read =>
      obtain ⟨done, hdone, hmessages, hall⟩ :=
        ih (c := { c with input := { c.input with data := [] } }) herr
      exact ⟨.read :: done, List.cons_prefix_cons.mpr ⟨rfl, hdone⟩, hmessages,
        fun hout => congrArg _ (hall hout)⟩
    | print bytes =>
      rw [Event.perform, Job.runIn_print]
      cases hwrite : (c.out.write bytes).2 with
      | some failure =>
        refine ⟨[], List.nil_prefix, (List.append_nil _).symm, fun hout => ?_⟩
        rw [hout.write_failure] at hwrite
        cases hwrite
      | none =>
        obtain ⟨done, hdone, hmessages, hall⟩ :=
          ih (c := { c with out := (c.out.write bytes).1 }) herr
        exact ⟨.print bytes :: done, List.cons_prefix_cons.mpr ⟨rfl, hdone⟩, hmessages,
          fun hout => congrArg _ (hall (hout.write bytes))⟩
    | complain text =>
      rw [Event.perform, Job.runIn_complain, herr.write_failure]
      obtain ⟨done, hdone, hmessages, hall⟩ :=
        ih (c := { c with err := (c.err.write (utf8 text)).1 }) (herr.write _)
      refine ⟨.complain text :: done, List.cons_prefix_cons.mpr ⟨rfl, hdone⟩, ?_,
        fun hout => congrArg _ (hall hout)⟩
      refine hmessages.trans ?_
      rw [Context.messages, herr.pieces_write, List.reverse_cons, List.append_assoc]
      rfl
    | flush =>
      rw [Event.perform, Job.runIn_flush]
      cases hflush : c.out.flush with
      | some failure =>
        refine ⟨[], List.nil_prefix, (List.append_nil _).symm, fun hout => ?_⟩
        rw [hout.flush] at hflush
        cases hflush
      | none =>
        obtain ⟨done, hdone, hmessages, hall⟩ := ih herr
        exact ⟨.flush :: done, List.cons_prefix_cons.mpr ⟨rfl, hdone⟩, hmessages,
          fun hout => congrArg _ (hall hout)⟩

/-! ## What is wrong with a file -/

/-- What is wrong with a file: why it cannot be opened, or why reading it fails. -/
def Files.fault? (files : Files) (path : String) : Option Failure :=
  match files.openInput path with
  | .error failure => some failure
  | .ok input => input.failure

/-- The complaint about a file, as it is written. -/
def blame (command path : String) (failure : Failure) : Bytes :=
  utf8 s!"{command}: {path}: {failure.description}\n"

/-- The complaints about those files that cannot be opened or read. -/
def faults (command : String) (files : Files) (paths : List String) : List Bytes :=
  paths.flatMap fun path => (files.fault? path).toList.map (blame command path)

/-- What is written of a file, as far as it can be opened. -/
def contentsOf (content : String → Input → Bytes) (files : Files) (path : String) : Bytes :=
  match files.openInput path with
  | .error _ => []
  | .ok input => content path input

theorem messages_flatMap_operandEvents (command : String) (content : String → Input → Bytes)
    (files : Files) (paths : List String) :
    messages (paths.flatMap fun path => operandEvents command (content path) files path) =
      faults command files paths := by
  rw [messages, List.filterMap_flatMap, faults]
  refine List.flatMap_congr fun path _ => ?_
  rw [operandEvents, Files.fault?]
  cases files.openInput path with
  | error failure => rfl
  | ok input =>
    dsimp only
    cases input.failure <;> rfl

theorem printed_flatMap_operandEvents (command : String) (content : String → Input → Bytes)
    (files : Files) (paths : List String) :
    printed (paths.flatMap fun path => operandEvents command (content path) files path) =
      paths.flatMap (contentsOf content files) := by
  rw [printed, List.flatMap_assoc]
  refine List.flatMap_congr fun path _ => ?_
  rw [operandEvents, contentsOf]
  cases files.openInput path with
  | error failure => rfl
  | ok input =>
    dsimp only
    cases input.failure <;> simp [Event.output, operandComplaint]

/-- Some of a file can be read before reading it fails. -/
def Files.IsTorn (files : Files) (path : String) : Prop :=
  ∃ input, files.openInput path = .ok input ∧ input.failure ≠ none ∧ input.data ≠ []

/-! ## An output that fails otherwise -/

section Blames

variable (command : String) (content : String → Input → Bytes) (files : Files) (failure : Failure)

/-- What a file is blamed for where the output accepts `room` bytes and fails with `failure` then:
for that, if what is written of the file does not fit. -/
def blamed? (room : Nat) (path : String) : Option Failure :=
  if (contentsOf content files path).length ≤ room then files.fault? path else some failure

/-- The complaints about some files where the output accepts `room` bytes. -/
def blames : Nat → List String → List Bytes
  | _, [] => []
  | room, path :: rest =>
    (blamed? content files failure room path).toList.map (blame command path) ++
      blames (room - (contentsOf content files path).length) rest

theorem length_fault?_le (room : Nat) (path : String) :
    (files.fault? path).toList.length ≤
      (blamed? content files failure room path).toList.length := by
  rw [blamed?]
  split
  · exact Nat.le_refl _
  · cases files.fault? path <;> simp

/-- The failure of the output takes away no complaint. -/
theorem length_faults_le (room : Nat) (paths : List String) :
    (faults command files paths).length ≤
      (blames command content files failure room paths).length := by
  induction paths generalizing room with
  | nil => exact Nat.le_refl _
  | cons path rest ih =>
    rw [faults, List.flatMap_cons, List.length_append, List.length_map, blames,
      List.length_append, List.length_map]
    exact Nat.add_le_add (length_fault?_le content files failure room path)
      (ih (room - (contentsOf content files path).length))

/-- Each file of which something does not fit into `room` bytes cannot be read to its end either,
and the complaint about that is the same as that about the output. -/
def HidesLoss : Nat → List String → Prop
  | _, [] => True
  | room, path :: rest =>
    ((contentsOf content files path).length ≤ room ∨
        (files.fault? path).map (blame command path) = some (blame command path failure)) ∧
      HidesLoss (room - (contentsOf content files path).length) rest

/-- A file is blamed for what is wrong with it exactly if what is written of it fits, or it would be
blamed in the same words. -/
theorem map_blamed?_eq_iff (room : Nat) (path : String) :
    (blamed? content files failure room path).toList.map (blame command path) =
        (files.fault? path).toList.map (blame command path) ↔
      (contentsOf content files path).length ≤ room ∨
        (files.fault? path).map (blame command path) = some (blame command path failure) := by
  rw [blamed?]
  by_cases hfit : (contentsOf content files path).length ≤ room
  · simp [hfit]
  · rw [if_neg hfit, or_iff_right hfit]
    cases files.fault? path with
    | none => simp
    | some fault => simp [eq_comm]

variable {command content files failure}

/-- The complaints are those about files that cannot be read exactly if a loss of output is hidden
everywhere. -/
theorem blames_eq_faults_iff (room : Nat) (paths : List String) :
    blames command content files failure room paths = faults command files paths ↔
      HidesLoss command content files failure room paths := by
  induction paths generalizing room with
  | nil => exact iff_of_true rfl trivial
  | cons path rest ih =>
    rw [HidesLoss, ← map_blamed?_eq_iff, blames, faults, List.flatMap_cons]
    have ih := ih (room - (contentsOf content files path).length)
    rw [faults] at ih
    refine ⟨fun h => ?_, fun ⟨hfirst, hrest⟩ => by rw [hfirst, ih.mpr hrest]⟩
    -- Neither part has fewer complaints than faults, so that equality splits.
    have hfirst := length_fault?_le content files failure room path
    have hrest := length_faults_le command content files failure
      (room - (contentsOf content files path).length) rest
    have hsum := congrArg List.length h
    rw [List.length_append, List.length_append, List.length_map, List.length_map] at hsum
    rw [faults] at hrest
    have hlength : (blamed? content files failure room path).toList.length =
        (files.fault? path).toList.length := by omega
    have hparts := List.append_inj h (by rw [List.length_map, List.length_map, hlength])
    exact ⟨hparts.1, ih.mp hparts.2⟩

/-- The complaints are the first ones of those about files that cannot be read exactly if a loss of
output is hidden everywhere. -/
theorem blames_isPrefix_iff (room : Nat) (paths : List String) :
    blames command content files failure room paths <+: faults command files paths ↔
      HidesLoss command content files failure room paths := by
  rw [← blames_eq_faults_iff]
  exact ⟨fun h => h.eq_of_length_le (length_faults_le command content files failure room paths),
    fun h => h ▸ List.prefix_refl _⟩

/-- Where nothing can be read of a file that cannot be read to its end, a loss of output is hidden
only if nothing is lost. -/
theorem hidesLoss_iff (room : Nat) {paths : List String}
    (hempty : ∀ path ∈ paths, files.fault? path ≠ none → contentsOf content files path = []) :
    HidesLoss command content files failure room paths ↔
      (paths.flatMap (contentsOf content files)).length ≤ room := by
  induction paths generalizing room with
  | nil => exact iff_of_true trivial (Nat.zero_le room)
  | cons path rest ih =>
    rw [HidesLoss, List.flatMap_cons, List.length_append,
      ih _ fun other hother => hempty other (List.mem_cons_of_mem _ hother)]
    have hfirst : (contentsOf content files path).length ≤ room ∨
        (files.fault? path).map (blame command path) = some (blame command path failure) ↔
        (contentsOf content files path).length ≤ room := by
      refine or_iff_left_of_imp fun h => ?_
      -- A file with a fault of its own writes nothing, which fits.
      have hfault : files.fault? path ≠ none := by
        intro hnone
        rw [hnone] at h
        cases h
      rw [hempty path List.mem_cons_self hfault]
      exact Nat.zero_le room
    rw [hfirst]
    omega

end Blames

/-- The output has room for `room` bytes and fails with `failure` then, and the complaints `said`
have been delivered. -/
structure Context.FailsLoudly (c : Context) (files : Files) (failure : Failure) (room : Nat)
    (said : List Bytes) : Prop where
  files : c.files = files
  room : c.out.room = some room
  failure : c.out.failure = failure
  err : c.err.NeverFails
  messages : c.messages = said

namespace Context.FailsLoudly

variable {c : Context} {files : Files} {failure : Failure} {room : Nat} {said : List Bytes}

theorem print (h : c.FailsLoudly files failure room said) (bytes : Bytes) :
    FailsLoudly { c with out := (c.out.write bytes).1 } files failure (room - bytes.length)
      said where
  files := h.files
  room := by rw [Output.room_write, h.room]; rfl
  failure := (Output.failure_write _ _).trans h.failure
  err := h.err
  messages := h.messages

theorem complain (h : c.FailsLoudly files failure room said) (text : String) :
    FailsLoudly { c with err := (c.err.write (utf8 text)).1 } files failure room
      (said ++ [utf8 text]) where
  files := h.files
  room := h.room
  failure := h.failure
  err := h.err.write _
  messages := by
    rw [Context.messages, h.err.pieces_write, List.reverse_cons]
    exact congrArg (· ++ [utf8 text]) h.messages

variable (command : String) (content : String → Input → Bytes)

/-- A file is worked on, and blamed for its own failure or for that of the output. -/
theorem printOperand (hloud : failure.isBrokenPipe = false)
    (h : c.FailsLoudly files failure room said) (path : String) :
    ∃ good later,
      (printOperand Job.openFile command (content path) path).runIn c = (.ok good, later) ∧
      later.FailsLoudly files failure (room - (contentsOf content files path).length)
        (said ++ (blamed? content files failure room path).toList.map (blame command path)) := by
  rw [CommandShell.printOperand, Job.runIn_bind, Job.runIn_openFile, h.files, blamed?, contentsOf,
    Files.fault?]
  cases hopen : files.openInput path with
  | error e =>
    dsimp only
    rw [List.length_nil, if_pos (Nat.zero_le room), Job.runIn_bind, complainAbout,
      Job.runIn_complain, h.err.write_failure]
    exact ⟨false, _, rfl, h.complain _⟩
  | ok input =>
    dsimp only
    rw [orComplain, Job.runIn_tryCatch, Job.runIn_bind, printInput, Job.runIn_bind,
      Job.runIn_print]
    have hprint := h.print (content path input)
    by_cases hfit : (content path input).length ≤ room
    · -- Everything is written, and the file is to blame if it could not be read.
      rw [(Output.write_of_fits h.room hfit).1, if_pos hfit]
      simp only [Job.stopped, Job.runIn_stopOn]
      cases hfailure : input.failure with
      | none => exact ⟨true, _, rfl, by simpa using hprint⟩
      | some e =>
        have hquiet := Files.isBrokenPipe_of_openInput hopen hfailure
        simp only [hquiet, Bool.false_eq_true, if_false]
        rw [Job.runIn_bind, complainAbout, Job.runIn_complain, h.err.write_failure]
        exact ⟨false, _, rfl, hprint.complain _⟩
    · -- The failure of the output is handled as if it were that of the file.
      rw [Output.write_of_not_fits h.room hfit, if_neg hfit, h.failure]
      simp only [Job.stopped, hloud, Bool.false_eq_true, if_false]
      rw [Job.runIn_bind, complainAbout, Job.runIn_complain, h.err.write_failure]
      exact ⟨false, _, rfl, hprint.complain _⟩

/-- Files are worked on one after the other, although the output fails. -/
theorem withOperands (hloud : failure.isBrokenPipe = false)
    (h : c.FailsLoudly files failure room said) (paths : List String) :
    ∃ good later,
      (withOperands
        (fun path => CommandShell.printOperand Job.openFile command (content path) path)
        paths).runIn c = (.ok good, later) ∧
      later.messages = said ++ blames command content files failure room paths := by
  induction paths generalizing c room said with
  | nil => exact ⟨true, c, rfl, by rw [h.messages, blames, List.append_nil]⟩
  | cons path rest ih =>
    obtain ⟨here, between, hfirst, hbetween⟩ := h.printOperand command content hloud path
    obtain ⟨there, later, hrest, hlater⟩ := ih hbetween
    rw [CommandShell.withOperands, Job.runIn_bind, hfirst]
    dsimp only
    rw [Job.runIn_bind, hrest]
    exact ⟨here && there, later, rfl, by rw [hlater, blames, List.append_assoc]⟩

end Context.FailsLoudly

/-! ## Commands with operands -/

/-- Of a job that does what a transcript says wherever the output fails, the complaints that are
delivered are the first ones of the transcript. -/
theorem Job.Replays.messages_eq {job : Job Int} {t : Transcript Int} {c : Context}
    (h : job.Replays c t) (herr : c.err.NeverFails) :
    ∃ done, done <+: t.events ∧
      (job.runIn c).2.messages = c.messages ++ messages done ∧
        (c.out.NeverFails → done = t.events) := by
  have hleft : (job.runIn c).2 = ((performAll t.events).runIn c).2 := by
    rw [h, runIn_replay]
    cases (performAll t.events).runIn c with
    | mk result later => cases result <;> rfl
  rw [hleft]
  exact messages_performAll t.events herr

/-- The context with the output `out` and with an error stream that never fails, on which nothing
has been written. -/
def Context.withOutput (c : Context) (out : Output) : Context :=
  { c with out, err := .unlimited }

section Runs

variable {job : Job Int} {c : Context} {t : Transcript Int}

/-- Where the output never fails, all complaints of a transcript are delivered, and everything is
printed. -/
theorem Job.Replays.runIn_unlimited (h : job.Replays (c.withOutput .unlimited) t) :
    let free := (job.runIn (c.withOutput .unlimited)).2
    free.messages = messages t.events ∧ free.out.contents = printed t.events := by
  obtain ⟨done, -, hmessages, hall⟩ := h.messages_eq Output.neverFails_unlimited
  obtain rfl := hall Output.neverFails_unlimited
  refine ⟨hmessages, ?_⟩
  obtain ⟨-, hwrote⟩ :=
    runIn_performAll_of_neverFails (c := c.withOutput .unlimited)
      ⟨Output.neverFails_unlimited, Output.neverFails_unlimited⟩ t.events
  rw [h, runIn_replay]
  cases hran : (performAll t.events).runIn (c.withOutput .unlimited) with
  | mk result later =>
    rw [hran] at hwrote
    cases result <;> exact hwrote.out

/-- Where a transcript is followed although the output fails, the complaints are the first ones of
those of a run whose output never fails. -/
theorem Job.Replays.messages_isPrefix {out : Output}
    (hcut : job.Replays (c.withOutput out) t)
    (hfree : job.Replays (c.withOutput .unlimited) t) :
    (job.runIn (c.withOutput out)).2.messages <+:
      (job.runIn (c.withOutput .unlimited)).2.messages := by
  obtain ⟨done, hdone, hmessages, -⟩ := hcut.messages_eq Output.neverFails_unlimited
  rw [hfree.runIn_unlimited.1, hmessages]
  exact hdone.filterMap _

end Runs

/-- With the engine `engine`, the command does nothing but work on some files, of each of which it
prints `content`. -/
def WorksOn (job : Job Int) (engine : Pattern.Engine) (command : String)
    (content : String → Input → Bytes) (paths : List String) : Prop :=
  ∃ code : Int, ∀ c : Context, c.patterns = engine →
    job.runIn c = Job.runIn (do
      let good ← withOperands
        (fun path => printOperand Job.openFile command (content path) path) paths
      Job.flush
      return if good then 0 else code) c

section WorksOn

variable {job : Job Int} {command : String} {content : String → Input → Bytes}
  {paths : List String} {c : Context}

/-- Such a command complains about no file but those that cannot be read exactly if nobody reads the
output, or a loss of output is hidden everywhere. -/
theorem WorksOn.messages_isPrefix_iff (h : WorksOn job c.patterns command content paths)
    (room : Nat) (failure : Failure) :
    let free := (job.runIn (c.withOutput .unlimited)).2
    let cut := (job.runIn (c.withOutput (.limited room failure))).2
    free.messages = faults command c.files paths ∧
      free.out.contents = paths.flatMap (contentsOf content c.files) ∧
      (cut.messages <+: free.messages ↔
        failure.isBrokenPipe = true ∨
          HidesLoss command content c.files failure room paths) := by
  obtain ⟨code, hjob⟩ := h
  have hfree := hjob (c.withOutput .unlimited) rfl
  have hcut := hjob (c.withOutput (.limited room failure)) rfl
  intro free cut
  have hfollows := operandsTranscript_follows command content code c.files paths
  have hreplays : job.Replays (c.withOutput .unlimited)
      (operandsTranscript command content code c.files paths) :=
    hfree.trans (hfollows _ rfl Output.neverFails_unlimited.endsQuietly)
  obtain ⟨hmessages, hcontents⟩ := Job.Replays.runIn_unlimited hreplays
  change free.messages = _ at hmessages
  change free.out.contents = _ at hcontents
  rw [operandsTranscript, messages_append, messages_flatMap_operandEvents] at hmessages
  rw [operandsTranscript, printed_append, printed_flatMap_operandEvents] at hcontents
  rw [show messages [.flush] = [] from rfl, List.append_nil] at hmessages
  rw [show printed [.flush] = [] from rfl, List.append_nil] at hcontents
  refine ⟨hmessages, hcontents, ?_⟩
  cases hquiet : failure.isBrokenPipe with
  | true =>
    refine iff_of_true ?_ (.inl rfl)
    have hends : (Output.limited room failure).EndsQuietly := ⟨.inr hquiet, fun _ _ h => by cases h⟩
    exact Job.Replays.messages_isPrefix (hcut.trans (hfollows _ rfl hends)) hreplays
  | false =>
    -- No transcript is followed here: the failure is taken for one of the file.
    have hblames : cut.messages = blames command content c.files failure room paths := by
      have hstart : (c.withOutput (.limited room failure)).FailsLoudly c.files failure room [] :=
        ⟨rfl, rfl, rfl, Output.neverFails_unlimited, rfl⟩
      obtain ⟨good, later, hrun, hlater⟩ := hstart.withOperands command content hquiet paths
      change Context.messages (Prod.snd (Job.runIn job _)) = _
      rw [hcut, Job.runIn_bind, hrun]
      dsimp only
      rw [Job.runIn_bind, Job.runIn_flush]
      cases later.out.flush <;> exact hlater
    rw [hmessages, hblames, or_iff_right Bool.false_ne_true]
    exact blames_isPrefix_iff room paths

end WorksOn

/-- The files that `grep` is to search, if it accepts its arguments and the pattern, and what it is
to print of each. -/
def Grep.operands (args : List String) (engine : Pattern.Engine) :
    List String × (String → Input → Bytes) :=
  match Request.ofArgs args with
  | .error _ => ([], fun _ _ => [])
  | .ok request =>
    match request.compile engine with
    | .error _ => ([], fun _ _ => [])
    | .ok pattern =>
      (request.files, fun path => Search.output pattern request.after
        (if request.files.length > 1 then some path else none))

/-- The files that a command works on, one after the other. -/
def Builtin.operands (builtin : Builtin) (args : List String) (engine : Pattern.Engine) :
    List String :=
  match builtin with
  | .cat | .wc => args
  | .grep => (Grep.operands args engine).1
  | .echo | .pwd => []

/-- What a command prints of a file that can be opened, apart from `wc`, which prints nothing of a
file before it has been read to its end. -/
def Builtin.content (builtin : Builtin) (args : List String) (engine : Pattern.Engine) :
    String → Input → Bytes :=
  match builtin with
  | .cat => fun _ input => input.data
  | .grep => (Grep.operands args engine).2
  | .echo | .pwd | .wc => fun _ _ => []

theorem Cat.worksOn_run {args : List String} (h : args ≠ []) (engine : Pattern.Engine) :
    WorksOn (run args) engine name (fun _ => Input.data) args := by
  refine ⟨1, fun c _ => ?_⟩
  rw [run, runWith, if_neg (mt List.isEmpty_iff.mp h), orComplain_copyFile_eq]

theorem Grep.worksOn_run {args : List String} {engine : Pattern.Engine}
    (h : (operands args engine).1 ≠ []) :
    WorksOn (run args) engine name (operands args engine).2 (operands args engine).1 := by
  rw [run, runWith]
  rw [operands] at h ⊢
  cases hrequest : Request.ofArgs args with
  | error stop =>
    rw [hrequest] at h
    exact absurd rfl h
  | ok request =>
    rw [hrequest] at h
    dsimp only at h ⊢
    cases hpattern : request.compile engine with
    | error error =>
      rw [hpattern] at h
      exact absurd rfl h
    | ok pattern =>
      rw [hpattern] at h
      refine ⟨2, fun c hengine => ?_⟩
      change (ExceptT.mk (pure (request.compile c.patterns)) >>= _ : Job Int).runIn c = _
      rw [Job.runIn_bind, Job.runIn_mk_pure, hengine, hpattern]
      dsimp only at h ⊢
      cases hfiles : request.files with
      | nil => exact absurd hfiles h
      | cons path rest => rfl

/-- Nothing is shown of an input that holds nothing. -/
theorem Search.output_of_data_nil (pattern : Pattern) (after : Nat) (label : Option String)
    {input : Input} (h : input.data = []) : output pattern after label input = [] := by
  rw [output, Input.lines, h]
  rfl

/-- Nothing is printed of a file that holds nothing. -/
theorem Builtin.content_of_data_nil (builtin : Builtin) (args : List String)
    (engine : Pattern.Engine) (path : String) {input : Input} (h : input.data = []) :
    builtin.content args engine path input = [] := by
  cases builtin with
  | cat => exact h
  | grep =>
    change (Grep.operands args engine).2 path input = []
    unfold Grep.operands
    split
    · rfl
    · split
      · rfl
      · exact Search.output_of_data_nil _ _ _ h
  | echo | pwd | wc => rfl

namespace Wc

/-- A file cannot be counted exactly if it cannot be opened or read. -/
theorem message?_fileEvent (files : Files) (path : String) :
    (fileEvent files path).message?.toList =
      (files.fault? path).toList.map (blame name path) := by
  rw [fileEvent, countsOf, Files.fault?]
  cases files.openInput path with
  | error failure => rfl
  | ok input =>
    dsimp only [Except.bind]
    rw [Counts.ofInput, Counts.ofReads, Read.feed_eq, Input.ofReads_reads]
    cases input.failure <;> rfl

theorem messages_transcript {args : List String} (h : args ≠ []) (files : Files) (input : Input) :
    messages (transcript args files input).events = faults name files args := by
  have hrows : messages (totalEvents files args ++ [.flush]) = [] := by
    rw [totalEvents]
    split <;> rfl
  have hfiles : messages (args.map (fileEvent files)) = faults name files args := by
    rw [messages, List.filterMap_map, faults, List.filterMap_eq_flatMap_toList]
    exact List.flatMap_congr fun path _ => message?_fileEvent files path
  rw [transcript, if_neg (mt List.isEmpty_iff.mp h), messages_append, hrows, List.append_nil,
    hfiles]

end Wc

/-- Complaints where the output accepts `room` bytes and fails then, compared with those where it
never fails. In the latter case they are about the files that cannot be opened or read. In the
former, they are the first ones of these, so that no file is blamed for the output, exactly if the
command is `wc`, or nobody reads the output, or a loss of output is hidden everywhere. Unless some
file breaks off while it is read, the last means that there is room for everything. -/
theorem Builtin.complaints_isPrefix_iff {builtin : Builtin} {args : List String} {c : Context}
    (hoperands : builtin.operands args c.patterns ≠ []) (room : Nat) (failure : Failure) :
    let paths := builtin.operands args c.patterns
    let free := ((builtin.run args).runIn (c.withOutput .unlimited)).2
    let cut := ((builtin.run args).runIn (c.withOutput (.limited room failure))).2
    free.messages = faults builtin.name c.files paths ∧
      (cut.messages <+: free.messages ↔
        builtin = .wc ∨ failure.isBrokenPipe = true ∨
          HidesLoss builtin.name (builtin.content args c.patterns) c.files failure room paths) ∧
      ((∀ path ∈ paths, ¬c.files.IsTorn path) →
        (cut.messages <+: free.messages ↔
          builtin = .wc ∨ failure.isBrokenPipe = true ∨ free.out.contents.length ≤ room)) := by
  intro paths free cut
  -- Only `wc` does not print while it reads.
  by_cases hwc : builtin = .wc
  · subst hwc
    have hfree : (Wc.run args).Replays (c.withOutput .unlimited) _ := Wc.runIn_run args _
    have hprefix : cut.messages <+: free.messages :=
      Job.Replays.messages_isPrefix (Wc.runIn_run args _) hfree
    refine ⟨(Job.Replays.runIn_unlimited hfree).1.trans ?_, iff_of_true hprefix (.inl rfl),
      fun _ => iff_of_true hprefix (.inl rfl)⟩
    exact Wc.messages_transcript hoperands c.files c.input
  · have hworks : WorksOn (builtin.run args) c.patterns builtin.name
        (builtin.content args c.patterns) paths := by
      cases builtin with
      | cat => exact Cat.worksOn_run hoperands c.patterns
      | grep => exact Grep.worksOn_run hoperands
      | wc => exact absurd rfl hwc
      | echo | pwd => exact absurd rfl hoperands
    obtain ⟨hmessages, hcontents, hiff⟩ := hworks.messages_isPrefix_iff room failure
    refine ⟨hmessages, hiff.trans (or_iff_right hwc).symm, fun hsound => ?_⟩
    have hempty : ∀ path ∈ paths, c.files.fault? path ≠ none →
        contentsOf (builtin.content args c.patterns) c.files path = [] := by
      intro path hpath hfault
      rw [Files.fault?] at hfault
      rw [contentsOf]
      cases hopen : c.files.openInput path with
      | error e => rfl
      | ok input =>
        rw [hopen] at hfault
        refine builtin.content_of_data_nil args c.patterns path ?_
        by_contra hdata
        exact hsound path hpath ⟨input, hopen, hfault, hdata⟩
    rw [show free.out.contents = _ from hcontents, ← hidesLoss_iff room hempty]
    exact hiff.trans (or_iff_right hwc).symm

/-- A missing file and one that breaks off are blamed, and the file before them is not, as long as
the disk has room for that one: what is lost of the file that breaks off reads as its own fault. -/
theorem cat_blames_damaged_files_only :
    let files : Files :=
      ⟨["home"], [(["home", "a"], .file [0x68, 0x69] false),
        (["home", "t"], .torn [0x78] ⟨.other "disk full", rfl⟩), (["home"], .directory)]⟩
    let c : Context := ⟨files, .absent, .empty, .unlimited, .unlimited, none, Pattern.compile⟩
    let job := Builtin.cat.run ["a", "b", "t"]
    let free := (job.runIn (c.withOutput .unlimited)).2
    let cut := (job.runIn (c.withOutput (.limited 2 (.other "disk full")))).2
    Builtin.cat.operands ["a", "b", "t"] c.patterns ≠ [] ∧
      free.messages =
        [utf8 "cat: b: No such file or directory\n", utf8 "cat: t: disk full\n"] ∧
      cut.messages <+: free.messages := by
  intro files c job free cut
  have hoperands : Builtin.cat.operands ["a", "b", "t"] c.patterns ≠ [] := List.cons_ne_nil _ _
  obtain ⟨hfree, hcut, -⟩ := Builtin.complaints_isPrefix_iff hoperands 2 (.other "disk full")
  have hfaults : faults "cat" files ["a", "b", "t"] =
      [utf8 "cat: b: No such file or directory\n", utf8 "cat: t: disk full\n"] := by
    dsimp only [files]
    decide +kernel
  have hhidden : HidesLoss "cat" (fun _ => Input.data) files (.other "disk full") 2
      ["a", "b", "t"] := by
    dsimp only [files]
    refine ⟨.inl ?_, .inl ?_, .inr ?_, trivial⟩ <;> decide +kernel
  exact ⟨hoperands, hfree.trans hfaults, hcut.mpr (.inr (.inr hhidden))⟩

/-- A file that can be read is blamed for a disk that is full. -/
theorem cat_blames_file_for_full_disk :
    let files : Files :=
      ⟨["home"], [(["home", "a"], .file [0x68, 0x69] false), (["home"], .directory)]⟩
    let c : Context := ⟨files, .absent, .empty, .unlimited, .unlimited, none, Pattern.compile⟩
    let job := Builtin.cat.run ["a"]
    let free := (job.runIn (c.withOutput .unlimited)).2
    let cut := (job.runIn (c.withOutput (.limited 0 (.other "disk full")))).2
    files.fault? "a" = none ∧
      cut.messages = [utf8 "cat: a: disk full\n"] ∧
      ¬cut.messages <+: free.messages := by
  intro files c job free cut
  have hfree : free.messages = [] := by
    dsimp only [free, job, c, files]
    decide +kernel
  have hcut : cut.messages = [utf8 "cat: a: disk full\n"] := by
    dsimp only [cut, job, c, files]
    decide +kernel
  refine ⟨?_, hcut, ?_⟩
  · dsimp only [files]
    decide +kernel
  · rw [hcut, hfree, List.prefix_nil]
    exact List.cons_ne_nil _ _

end CommandShell
