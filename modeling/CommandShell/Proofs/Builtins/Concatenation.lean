import CommandShell.Proofs.Builtins.Blame
import CommandShell.Proofs.Builtins.Counting

/-!
# Files one after the other

What commands make of the files that they are given where no stream fails. Each file adds its own
part to the output, and to the error stream a complaint if it cannot be opened or read to its end.
Neither depends on the files before it: several files give what each of them gives, one after the
other (`operands_in_order`). Only the row of sums of `wc` is about all of them.

Files are taken as they are found, by whatever way of opening them a command has (`Supply`), so
that they can be such as `Files` does not hold: those that cannot be opened though they are there,
and those of which some bytes can be read before reading fails. The files of a context are a case
of this (`Opener.finds_openFile`).
-/

namespace CommandShell

variable {α β : Type}

/-! ## What is found at a path -/

/-- What is found when the file of a path is opened. -/
structure Supply where
  /-- The file, as far as it can be read, or why it cannot be opened. -/
  found : String → Except Failure Input

/-- Opening a file does not fail in the way of an output that nobody reads, which only writing
does. -/
def Supply.OpensAsFiles (supply : Supply) : Prop :=
  ∀ path failure, supply.found path = .error failure → failure.isBrokenPipe = false

/-- Neither does reading a file. -/
def Supply.ReadsAsFiles (supply : Supply) : Prop :=
  ∀ path input failure, supply.found path = .ok input → input.failure = some failure →
    failure.isBrokenPipe = false

/-- Where the files are these, opening a path finds what is supplied, and does nothing else. -/
def Opener.Finds (opener : Opener) (files : Files) (supply : Supply) : Prop :=
  ∀ (path : String) (c : Context), c.files = files →
    (opener path).runIn c = (.ok (supply.found path), c)

/-- What is found among some files. -/
def Files.supply (files : Files) : Supply where
  found := files.openInput

theorem Files.opensAsFiles_supply (files : Files) : files.supply.OpensAsFiles :=
  fun _ _ => isBrokenPipe_of_openInput_error

theorem Files.readsAsFiles_supply (files : Files) : files.supply.ReadsAsFiles :=
  fun _ _ _ => isBrokenPipe_of_openInput

theorem Opener.finds_openFile (files : Files) : Finds Job.openFile files files.supply := by
  intro path c hfiles
  rw [Job.runIn_openFile, hfiles]
  rfl

namespace Supply

variable (supply : Supply)

/-- Why a file cannot be opened, or not be read to its end. -/
def fault? (path : String) : Option Failure :=
  match supply.found path with
  | .error failure => some failure
  | .ok input => input.failure

/-- What is made of a file that can be opened; nothing is made of others. -/
def written (content : Input → Bytes) (path : String) : Bytes :=
  match supply.found path with
  | .error _ => []
  | .ok input => content input

/-- The bytes of a file that can be read. -/
def bytes (path : String) : Bytes :=
  supply.written Input.data path

/-- The lines of a file that can be read. If reading it fails, these are the complete ones. -/
def lines (path : String) : List Bytes :=
  if supply.fault? path = none then (Input.ofBytes (supply.bytes path)).lines
  else Input.completeLines (supply.bytes path)

/-- The file can be opened, and read to its end. -/
def isSound (path : String) : Bool :=
  (supply.fault? path).isNone

/-- The complaint about a file, if there is one. -/
def complaint (command path : String) : Bytes :=
  match supply.fault? path with
  | none => []
  | some failure => blame command path failure

/-- The exit code after some files: zero, or `code` if one of them is complained about. -/
def exitCode (code : Int) (paths : List String) : Int :=
  if ∀ path ∈ paths, supply.fault? path = none then 0 else code

variable {supply} {path : String} {input : Input}

theorem lines_of_found (h : supply.found path = .ok input) : supply.lines path = input.lines := by
  obtain ⟨data, failure⟩ := input
  rw [lines, fault?, bytes, written, h]
  cases failure with
  | none => rfl
  | some failure => simp [Input.lines, Input.completeLines]

end Supply

/-! ## Jobs that write and do not read -/

/-- Wherever the files and the engine are these and no stream fails, the job ends with `result`, has
written just `output` and `errors`, and has left the input alone. -/
def Job.Writes (job : Job α) (files : Files) (engine : Pattern.Engine) (result : Except Error α)
    (output errors : Bytes) : Prop :=
  ∀ c : Context, c.files = files → c.patterns = engine → c.NeverFails →
    ∃ c', job.runIn c = (result, c') ∧ c.Wrote c' output errors ∧ c'.input = c.input

namespace Job.Writes

variable {files : Files} {engine : Pattern.Engine} {output output' errors errors' : Bytes}

theorem pure (a : α) : (Pure.pure a : Job α).Writes files engine (.ok a) [] [] :=
  fun c _ _ hc => ⟨c, rfl, .refl hc, rfl⟩

theorem stopOn (failure : Option Failure) :
    (Job.stopOn failure).Writes files engine (Job.stopped failure) [] [] :=
  fun c _ _ hc => ⟨c, Job.runIn_stopOn failure c, .refl hc, rfl⟩

theorem print (bytes : Bytes) : (Job.print bytes).Writes files engine (.ok ()) bytes [] := by
  intro c _ _ hc
  rw [Job.runIn_print, hc.out.write_failure]
  exact ⟨_, rfl, Action.wrote_print hc bytes, rfl⟩

theorem complain (text : String) :
    (Job.complain text).Writes files engine (.ok ()) [] (utf8 text) := by
  intro c _ _ hc
  rw [Job.runIn_complain, hc.err.write_failure]
  exact ⟨_, rfl, Action.wrote_complain hc text, rfl⟩

theorem flush : Job.flush.Writes files engine (.ok ()) [] [] := by
  intro c _ _ hc
  rw [Job.runIn_flush, hc.out.flush]
  exact ⟨c, rfl, .refl hc, rfl⟩

/-- What two jobs write one after the other. -/
theorem bind {first : Job α} {a : α} {result : Except Error β}
    (hfirst : first.Writes files engine (.ok a) output errors) (next : α → Job β)
    (hnext : (next a).Writes files engine result output' errors') :
    (first >>= next).Writes files engine result (output ++ output') (errors ++ errors') := by
  intro c hfiles hengine hc
  obtain ⟨c', hrun, hwrote, hinput⟩ := hfirst c hfiles hengine hc
  obtain ⟨c'', hrun', hwrote', hinput'⟩ :=
    hnext c' (hwrote.files.trans hfiles) (hwrote.patterns.trans hengine) hwrote.neverFails
  rw [Job.runIn_bind, hrun]
  exact ⟨c'', hrun', hwrote.trans hwrote', hinput'.trans hinput⟩

/-- After a job that stops with an error, nothing more is written. -/
theorem bind_error {first : Job α} {error : Error}
    (h : first.Writes files engine (.error error) output errors) (next : α → Job β) :
    (first >>= next).Writes files engine (.error error) output errors := by
  intro c hfiles hengine hc
  obtain ⟨c', hrun, hwrote⟩ := h c hfiles hengine hc
  rw [Job.runIn_bind, hrun]
  exact ⟨c', rfl, hwrote⟩

/-- What is made of the result of a job is not written. -/
theorem bind_pure {job : Job α} {a : α} (h : job.Writes files engine (.ok a) output errors)
    (f : α → β) :
    (do let a ← job; return f a : Job β).Writes files engine (.ok (f a)) output errors := by
  have hbind := h.bind (fun a => Pure.pure (f a)) (.pure (f a))
  rwa [List.append_nil, List.append_nil] at hbind

/-- A job that flushes what has been written and gives something. -/
theorem flush_pure (a : α) :
    (do Job.flush; return a : Job α).Writes files engine (.ok a) [] [] :=
  flush.bind_pure fun _ => a

/-- Two jobs that do the same where the files are these write the same. -/
theorem congr {job job' : Job α} {result : Except Error α}
    (h : ∀ c : Context, c.files = files → c.patterns = engine → job.runIn c = job'.runIn c)
    (hjob' : job'.Writes files engine result output errors) :
    job.Writes files engine result output errors := by
  intro c hfiles hengine hc
  rw [h c hfiles hengine]
  exact hjob' c hfiles hengine hc

/-- Opening a file writes nothing. -/
theorem bind_opened {opener : Opener} {supply : Supply} (h : opener.Finds files supply)
    {path : String} {next : Except Failure Input → Job α} {result : Except Error α}
    (hnext : (next (supply.found path)).Writes files engine result output errors) :
    (opener path >>= next).Writes files engine result output errors := by
  intro c hfiles hengine hc
  rw [Job.runIn_bind, h path c hfiles]
  exact hnext c hfiles hengine hc

theorem tryCatch_ok {job : Job α} {a : α} (h : job.Writes files engine (.ok a) output errors)
    (handler : Error → Job α) :
    (tryCatch job handler : Job α).Writes files engine (.ok a) output errors := by
  intro c hfiles hengine hc
  obtain ⟨c', hrun, hwrote⟩ := h c hfiles hengine hc
  rw [Job.runIn_tryCatch, hrun]
  exact ⟨c', rfl, hwrote⟩

/-- An error is handled after everything that was written before it. -/
theorem tryCatch_error {job : Job α} {handler : Error → Job α} {error : Error}
    {result : Except Error α} (h : job.Writes files engine (.error error) output errors)
    (hhandler : (handler error).Writes files engine result output' errors') :
    (tryCatch job handler : Job α).Writes files engine result (output ++ output')
      (errors ++ errors') := by
  intro c hfiles hengine hc
  obtain ⟨c', hrun, hwrote, hinput⟩ := h c hfiles hengine hc
  obtain ⟨c'', hrun', hwrote', hinput'⟩ :=
    hhandler c' (hwrote.files.trans hfiles) (hwrote.patterns.trans hengine) hwrote.neverFails
  rw [Job.runIn_tryCatch, hrun]
  exact ⟨c'', hrun', hwrote.trans hwrote', hinput'.trans hinput⟩

end Job.Writes

/-! ## Work on files -/

section Operands

variable {opener : Opener} {files : Files} {engine : Pattern.Engine} {supply : Supply}

/-- What is printed of a file comes before the complaint about reading it. -/
theorem writes_printOperand (h : opener.Finds files supply) (hreads : supply.ReadsAsFiles)
    (command : String) (content : Input → Bytes) (path : String) :
    (printOperand opener command content path).Writes files engine (.ok (supply.isSound path))
      (supply.written content path) (supply.complaint command path) := by
  have hcomplain (failure : Failure) :
      (do complainAbout command path failure; return false : Job Bool).Writes files engine
        (.ok false) [] (blame command path failure) :=
    (Job.Writes.complain _).bind_pure fun _ => false
  rw [printOperand, Supply.complaint, Supply.isSound, Supply.fault?, Supply.written]
  -- Either the file cannot be opened, or it is worked on as far as it can be read.
  refine .bind_opened h ?_
  cases hfound : supply.found path with
  | error failure => exact hcomplain failure
  | ok input =>
    dsimp only
    have hwork : (printInput content input).Writes files engine (Job.stopped input.failure)
        (content input) [] := by
      have hprint : (Job.print (content input)).Writes files engine (.ok ()) (content input) [] :=
        .print _
      have hbind := hprint.bind (fun _ => Job.stopOn input.failure) (.stopOn input.failure)
      rwa [List.append_nil, List.append_nil] at hbind
    cases hfailure : input.failure with
    | none =>
      rw [hfailure] at hwork
      exact (hwork.bind_pure fun _ => true).tryCatch_ok _
    | some failure =>
      -- What was read before the failure has been printed, and the failure is no broken pipe.
      rw [hfailure] at hwork
      have hquiet := hreads path input failure hfound hfailure
      rw [← List.append_nil (content input)]
      refine (hwork.bind_error _).tryCatch_error ?_
      simp only [hquiet, Bool.false_eq_true, if_false]
      exact hcomplain failure

/-- Jobs on several files write one after the other what each of them writes. -/
theorem writes_withOperands {job : String → Job Bool} {good : String → Bool}
    {output errors : String → Bytes}
    (h : ∀ path, (job path).Writes files engine (.ok (good path)) (output path) (errors path))
    (paths : List String) :
    (withOperands job paths).Writes files engine (.ok (paths.all good)) (paths.flatMap output)
      (paths.flatMap errors) := by
  induction paths with
  | nil => exact .pure true
  | cons path rest ih => exact (h path).bind _ (ih.bind_pure fun there => good path && there)

end Operands

/-! ## What each file adds -/

/-- The exit code is decided on as the commands do it, by whether all went well. -/
theorem Supply.exitCode_eq (supply : Supply) (code : Int) (paths : List String) :
    (if paths.all supply.isSound then 0 else code) = supply.exitCode code paths := by
  simp [exitCode, isSound]

/-- Of a file, a search shows what it finds in the lines that can be read. -/
theorem Supply.written_output (supply : Supply) (pattern : Pattern) (after : Nat)
    (label : Option String) (path : String) :
    supply.written (Search.output pattern after label) path =
      Search.report pattern.isMatch after label ((supply.lines path).map Utf8.decode) := by
  rw [written]
  cases hfound : supply.found path with
  | error failure =>
    rw [lines, fault?, bytes, written, hfound]
    rfl
  | ok input =>
    rw [lines_of_found hfound]
    rfl

/-- The label of a file in a search of several files; there is none if it is the only one. -/
def Grep.labelAmong (paths : List String) (path : String) : Option String :=
  if 1 < paths.length then some path else none

/-- What a search shows of a file. -/
def Grep.shownOf (supply : Supply) (pattern : Pattern) (request : Request) (path : String) :
    Bytes :=
  Search.report pattern.isMatch request.after (labelAmong request.files path)
    ((supply.lines path).map Utf8.decode)

namespace Wc

variable {opener : Opener} {files : Files} {engine : Pattern.Engine} {supply : Supply}

/-- The row of a file, if the file can be read to its end. -/
def rowOf (supply : Supply) (path : String) : Bytes :=
  match supply.fault? path with
  | none => utf8 ((Counts.ofBytes (supply.bytes path)).row (some path))
  | some _ => []

/-- The sum of the counts of those files that can be read to their ends. -/
def sumOf (supply : Supply) (paths : List String) : Counts :=
  ((paths.filter supply.isSound).map fun path => Counts.ofBytes (supply.bytes path)).foldr
    Counts.add .zero

/-- No sum is greater than the number of all bytes that can be read. So none of the sums, nor any
count that they are made of, goes beyond 64 bits unless there are as many bytes. -/
theorem sumOf_le (supply : Supply) (paths : List String) :
    (sumOf supply paths).lines ≤ (paths.flatMap supply.bytes).length ∧
      (sumOf supply paths).words ≤ (paths.flatMap supply.bytes).length ∧
      (sumOf supply paths).bytes ≤ (paths.flatMap supply.bytes).length := by
  induction paths with
  | nil => exact ⟨Nat.le_refl 0, Nat.le_refl 0, Nat.le_refl 0⟩
  | cons path rest ih =>
    obtain ⟨hlines, hwords, hbytes⟩ := ih
    obtain ⟨hlines', hwords'⟩ := countsIn_le (supply.bytes path)
    have hcounts : (countsIn (supply.bytes path)).bytes = (supply.bytes path).length := rfl
    rw [List.flatMap_cons, List.length_append, sumOf, List.filter_cons]
    -- A file that cannot be read to its end adds nothing.
    split
    · rw [List.map_cons, List.foldr_cons, counts_ofBytes, ← sumOf]
      simp only [Counts.add]
      omega
    · rw [← sumOf]
      omega

/-- The row of sums, which only several files have. -/
def sumRow (supply : Supply) (paths : List String) : Bytes :=
  if 1 < paths.length then utf8 ((sumOf supply paths).row (some totalName)) else []

theorem bind_ofInput (supply : Supply) (path : String) :
    (supply.found path).bind Counts.ofInput =
      match supply.fault? path with
      | none => .ok (Counts.ofBytes (supply.bytes path))
      | some failure => .error failure := by
  rw [Supply.fault?, Supply.bytes, Supply.written]
  cases supply.found path with
  | error failure => rfl
  | ok input =>
    dsimp only [Except.bind]
    rw [Counts.ofInput, Counts.ofReads, Read.feed_eq, Input.ofReads_reads]
    cases input.failure <;> rfl

/-- Files are counted one after the other, and those that cannot be read to their ends add nothing
to the sum. -/
theorem writes_countFiles (h : opener.Finds files supply) (paths : List String) :
    (countFiles opener paths).Writes files engine
      (.ok (sumOf supply paths, paths.all supply.isSound))
      (paths.flatMap (rowOf supply)) (paths.flatMap (supply.complaint name)) := by
  induction paths with
  | nil => exact .pure (Counts.zero, true)
  | cons path rest ih =>
    rw [countFiles]
    refine .bind_opened h ?_
    rw [bind_ofInput, sumOf, List.filter_cons, List.all_cons, List.flatMap_cons, List.flatMap_cons,
      rowOf, Supply.complaint, Supply.isSound]
    -- The sum and the verdict are made up behind the rest of the files, which writes no more.
    cases supply.fault? path with
    | none =>
      have hrest := ih.bind_pure fun found =>
        ((Counts.ofBytes (supply.bytes path)).add found.1, found.2)
      have hrow : (Job.print (utf8 ((Counts.ofBytes (supply.bytes path)).row (some path)))).Writes
          files engine (.ok ()) _ [] := .print _
      simp only [Option.isNone_none, if_true, List.map_cons, List.foldr_cons, Bool.true_and]
      exact hrow.bind _ hrest
    | some failure =>
      have hrest := ih.bind_pure fun found => (found.1, false)
      have hcomplaint : (complainAbout name path failure).Writes files engine (.ok ()) []
          (blame name path failure) := .complain _
      simp only [Option.isNone_some, Bool.false_eq_true, if_false, Bool.false_and]
      exact hcomplaint.bind _ hrest

end Wc

/-! ## The commands -/

section Commands

variable {opener : Opener} {files : Files} {engine : Pattern.Engine} {supply : Supply}

/-- A command that prints something of each file. -/
theorem writes_operands {command : String} {job : String → Job Bool}
    (content : String → Input → Bytes)
    (hjob : ∀ path, (job path).Writes files engine (.ok (supply.isSound path))
      (supply.written (content path) path) (supply.complaint command path))
    (code : Int) (paths : List String) :
    (do
      let good ← withOperands job paths
      Job.flush
      return if good then 0 else code : Job Int).Writes files engine
      (.ok (supply.exitCode code paths))
      (paths.flatMap fun path => supply.written (content path) path)
      (paths.flatMap (supply.complaint command)) := by
  rw [← supply.exitCode_eq]
  have hbind := (writes_withOperands hjob paths).bind
    (fun good => do Job.flush; return if good then 0 else code) (.flush_pure _)
  rwa [List.append_nil, List.append_nil] at hbind

theorem Cat.writes_runWith (h : opener.Finds files supply) (hopens : supply.OpensAsFiles)
    (hreads : supply.ReadsAsFiles) {paths : List String} (hpaths : paths ≠ []) :
    (runWith opener paths).Writes files engine (.ok (supply.exitCode 1 paths))
      (paths.flatMap supply.bytes) (paths.flatMap (supply.complaint name)) := by
  rw [runWith, if_neg (mt List.isEmpty_iff.mp hpaths)]
  refine writes_operands (fun _ => Input.data) (fun path => ?_) 1 paths
  refine .congr (fun c hfiles _ => ?_) (writes_printOperand h hreads name Input.data path)
  exact runIn_orComplain_copyFile (h path c hfiles) (hopens path)

theorem Wc.writes_runWith (h : opener.Finds files supply) {paths : List String}
    (hpaths : paths ≠ []) :
    (runWith opener paths).Writes files engine (.ok (supply.exitCode 1 paths))
      (paths.flatMap (rowOf supply) ++ sumRow supply paths)
      (paths.flatMap (supply.complaint name)) := by
  rw [runWith, if_neg (mt List.isEmpty_iff.mp hpaths),
    ← List.append_nil (paths.flatMap (supply.complaint name))]
  -- Nothing is complained about behind the last file.
  refine (writes_countFiles h paths).bind _ ?_
  rw [sumRow, ← supply.exitCode_eq]
  dsimp only
  split
  · have hrow : (Job.print (utf8 ((sumOf supply paths).row (some totalName)))).Writes
        files engine (.ok ()) _ [] := .print _
    have hend := hrow.bind
      (fun _ => (do Job.flush; return if paths.all supply.isSound then 0 else 1 : Job Int))
      (.flush_pure _)
    rwa [List.append_nil, List.append_nil] at hend
  · exact .flush_pure _

theorem Grep.writes_runWith (h : opener.Finds files supply) (hreads : supply.ReadsAsFiles)
    {args : List String} {request : Request} {pattern : Pattern}
    (hargs : Request.ofArgs args = .ok request) (hpattern : request.compile engine = .ok pattern)
    (hfiles : request.files ≠ []) :
    (runWith opener args).Writes files engine (.ok (supply.exitCode 2 request.files))
      (request.files.flatMap (shownOf supply pattern request))
      (request.files.flatMap (supply.complaint name)) := by
  have hshown : shownOf supply pattern request = fun path =>
      supply.written (Search.output pattern request.after (labelAmong request.files path)) path :=
    funext fun path => (supply.written_output pattern request.after _ path).symm
  rw [runWith, hargs, hshown]
  -- Compiling the pattern writes nothing, so that only the files are left.
  refine .congr (fun c _ hengine => ?_) (writes_operands
    (fun path => Search.output pattern request.after (labelAmong request.files path))
    (fun path => writes_printOperand h hreads name _ path) 2 request.files)
  change (ExceptT.mk (pure (request.compile c.patterns)) >>= _ : Job Int).runIn c = _
  rw [Job.runIn_bind, Job.runIn_mk_pure, hengine, hpattern]
  cases hcases : request.files with
  | nil => exact absurd hcases hfiles
  | cons path rest => rfl

/-- Several files give what each of them gives, one after the other, where no stream fails. With
`cat` that is the bytes that can be read of a file, with `wc` its row if it can be read to its end,
and with `grep` what a search finds in the lines of this file that can be read; the row of sums
comes behind the rows of several files. Whatever is wrong with a file is complained about, and
decides on the exit code. Nothing but the files is read. -/
theorem operands_in_order (h : opener.Finds files supply) :
    (supply.OpensAsFiles → supply.ReadsAsFiles → ∀ paths : List String, paths ≠ [] →
      (Cat.runWith opener paths).Writes files engine (.ok (supply.exitCode 1 paths))
        (paths.flatMap supply.bytes)
        (paths.flatMap (supply.complaint Cat.name))) ∧
    (∀ paths : List String, paths ≠ [] →
      (Wc.runWith opener paths).Writes files engine (.ok (supply.exitCode 1 paths))
        (paths.flatMap (Wc.rowOf supply) ++ Wc.sumRow supply paths)
        (paths.flatMap (supply.complaint Wc.name))) ∧
    (supply.ReadsAsFiles → ∀ (args : List String) (request : Grep.Request) (pattern : Pattern),
      Grep.Request.ofArgs args = .ok request → request.compile engine = .ok pattern →
      request.files ≠ [] →
      (Grep.runWith opener args).Writes files engine (.ok (supply.exitCode 2 request.files))
        (request.files.flatMap (Grep.shownOf supply pattern request))
        (request.files.flatMap (supply.complaint Grep.name))) :=
  ⟨fun hopens hreads _ hpaths => Cat.writes_runWith h hopens hreads hpaths,
    fun _ hpaths => Wc.writes_runWith h hpaths,
    fun hreads _ _ _ hargs hpattern hfiles =>
      Grep.writes_runWith h hreads hargs hpattern hfiles⟩

end Commands

/-- What a command of the shell complains about where no stream fails, and its exit code: the files
that it cannot open or read. -/
theorem Builtin.writes_run {builtin : Builtin} {args : List String} {engine : Pattern.Engine}
    (hoperands : builtin.operands args engine ≠ []) (files : Files) :
    ∃ output, (builtin.run args).Writes files engine
      (.ok (files.supply.exitCode builtin.complaintCode (builtin.operands args engine))) output
      ((builtin.operands args engine).flatMap (files.supply.complaint builtin.name)) := by
  have hfinds := Opener.finds_openFile files
  have hreads := files.readsAsFiles_supply
  cases builtin with
  | cat => exact ⟨_, Cat.writes_runWith hfinds files.opensAsFiles_supply hreads hoperands⟩
  | wc => exact ⟨_, Wc.writes_runWith hfinds hoperands⟩
  | grep =>
    -- There are operands only if the arguments are a request with a legal pattern.
    rw [operands, Grep.operands] at hoperands ⊢
    cases hargs : Grep.Request.ofArgs args with
    | error stop =>
      rw [hargs] at hoperands
      exact absurd rfl hoperands
    | ok request =>
      rw [hargs] at hoperands
      dsimp only at hoperands ⊢
      cases hpattern : request.compile engine with
      | error error =>
        rw [hpattern] at hoperands
        exact absurd rfl hoperands
      | ok pattern =>
        rw [hpattern] at hoperands
        exact ⟨_, Grep.writes_runWith hfinds hreads hargs hpattern hoperands⟩
  | echo => exact absurd rfl hoperands
  | pwd => exact absurd rfl hoperands

theorem Except.eq_ok_of_toOption {ε : Type} {result : Except ε α} {a : α}
    (h : result.toOption = some a) : result = .ok a := by
  cases result with
  | error e => cases h
  | ok b => cases h; rfl

/-- Files of which one breaks off while it is read, and one cannot be opened. -/
def Supply.damaged : Supply where
  found
    | "whole" => .ok ⟨utf8 "x\ny", none⟩
    | "torn" => .ok ⟨utf8 "x\ny", some (.other "Input/output error (os error 5)")⟩
    | "locked" => .error (.system .accessDenied)
    | _ => .error (.system .noEntry)

theorem Supply.damaged_opensAsFiles : damaged.OpensAsFiles := by
  intro path failure hfound
  rw [damaged] at hfound
  dsimp only at hfound
  split at hfound <;> cases hfound <;> rfl

theorem Supply.damaged_readsAsFiles : damaged.ReadsAsFiles := by
  intro path input failure hfound hfailure
  rw [damaged] at hfound
  dsimp only at hfound
  split at hfound <;> cases hfound <;> cases hfailure
  rfl

/-- A file that breaks off adds what could be read of it, a search for `y` with a line of context
goes no further than the file that it is found in, and a file that is named again is there again. -/
theorem damaged_files_in_order :
    let opener : Opener := fun path => return Supply.damaged.found path
    let files : Files := ⟨[], []⟩
    let paths := ["whole", "torn", "locked", "whole"]
    let complaints (command : String) : Bytes :=
      utf8 s!"{command}: torn: Input/output error\n{command}: locked: Permission denied\n"
    opener.Finds files .damaged ∧
    (Cat.runWith opener paths).Writes files Pattern.compile (.ok 1) (utf8 "x\nyx\nyx\ny")
      (complaints "cat") ∧
    (Wc.runWith opener paths).Writes files Pattern.compile (.ok 1)
      (utf8 ("      1       2       3 whole\n      1       2       3 whole\n" ++
        "      2       4       6 total\n"))
      (complaints "wc") ∧
    (Grep.runWith opener (["-A", "1", "y"] ++ paths)).Writes files Pattern.compile (.ok 2)
      (utf8 "whole:y\nwhole:y\n") (complaints "grep") := by
  intro opener files paths complaints
  have hfinds : opener.Finds files .damaged := fun _ _ _ => rfl
  have hpaths : paths ≠ [] := List.cons_ne_nil _ _
  have hcomplaints : ∀ command ∈ ["cat", "wc", "grep"],
      paths.flatMap (Supply.damaged.complaint command) = complaints command := by
    decide +kernel
  obtain ⟨hcat, hwc, hgrep⟩ := @operands_in_order opener files Pattern.compile .damaged hfinds
  refine ⟨hfinds, ?_, ?_, ?_⟩
  · have hbytes : paths.flatMap Supply.damaged.bytes = utf8 "x\nyx\nyx\ny" := by decide +kernel
    rw [← hbytes, ← hcomplaints "cat" (by decide)]
    exact hcat Supply.damaged_opensAsFiles Supply.damaged_readsAsFiles paths hpaths
  · have hrows : paths.flatMap (Wc.rowOf .damaged) ++ Wc.sumRow .damaged paths =
        utf8 ("      1       2       3 whole\n      1       2       3 whole\n" ++
          "      2       4       6 total\n") := by
      decide +kernel
    rw [← hrows, ← hcomplaints "wc" (by decide)]
    exact hwc paths hpaths
  · let request : Grep.Request := ⟨false, false, 1, "y", paths⟩
    have hargs : Grep.Request.ofArgs (["-A", "1", "y"] ++ paths) = .ok request :=
      Except.eq_ok_of_toOption (by decide +kernel)
    have hshown : request.compile.toOption.map (fun pattern =>
        paths.flatMap (Grep.shownOf .damaged pattern request)) =
        some (utf8 "whole:y\nwhole:y\n") := by
      decide +kernel
    cases hcompile : request.compile with
    | error error =>
      rw [hcompile] at hshown
      cases hshown
    | ok pattern =>
      rw [hcompile] at hshown
      rw [← Option.some.inj hshown, ← hcomplaints "grep" (by decide)]
      exact hgrep Supply.damaged_readsAsFiles _ request pattern hargs hcompile hpaths

end CommandShell
