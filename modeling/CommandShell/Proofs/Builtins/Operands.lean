import CommandShell.Builtins.Cat
import CommandShell.Proofs.Job.Transcript

/-!
# Working on operands

What a command does with files. For each of them it prints what it has to print of the contents and
complains if the file cannot be opened or read (`printOperand`); a file spoils the exit code, but
not the work on the files after it (`withOperands_follows`).

The one failure that would end the work, that nobody reads the output, is never the failure of a
file, neither when it is opened (`Files.isBrokenPipe_of_openInput_error`) nor when it is read
(`Files.isBrokenPipe_of_openInput`).
-/

namespace CommandShell

/-! ## Failures of files -/

namespace Files

variable {files : Files} {path : String} {failure : Failure}

/-- Following a path does not fail in the way of an output that nobody reads. -/
theorem isBrokenPipe_of_follow {place : Place} {parts : List String}
    (h : files.follow place parts = .error failure) : failure.isBrokenPipe = false := by
  fun_induction follow files place parts with
  | case1 place => cases h
  | case2 | case3 | case4 | case5 =>
    obtain rfl := Except.error.inj h
    rfl
  | case6 place part rest _ _ ih => exact ih h
  | case7 place rest _ _ ih => exact ih h
  | case8 =>
    obtain rfl := Except.error.inj h
    rfl
  | case9 place part rest _ _ _ _ ih => exact ih h

/-- Nor does finding a file. -/
theorem isBrokenPipe_of_find (h : files.find path = .error failure) :
    failure.isBrokenPipe = false := by
  rw [find] at h
  cases hlocate : files.locate path with
  | ok place =>
    rw [hlocate] at h
    dsimp only [bind, Except.bind] at h
    cases hentry : files.entryAt? place with
    | some entry =>
      rw [hentry] at h
      cases h
    | none =>
      rw [hentry] at h
      obtain rfl := Except.error.inj h
      rfl
  | error e =>
    rw [hlocate] at h
    obtain rfl : e = failure := Except.error.inj h
    -- The path is refused as it stands, or it cannot be followed.
    rw [locate] at hlocate
    split at hlocate
    · obtain rfl := Except.error.inj hlocate
      rfl
    · split at hlocate
      · obtain rfl := Except.error.inj hlocate
        rfl
      · split at hlocate
        · obtain rfl := Except.error.inj hlocate
          rfl
        · exact isBrokenPipe_of_follow hlocate

/-- Opening a file does not fail in the way of an output that nobody reads. -/
theorem isBrokenPipe_of_openInput_error (h : files.openInput path = .error failure) :
    failure.isBrokenPipe = false := by
  rw [openInput] at h
  cases hfind : files.find path with
  | error e =>
    rw [hfind] at h
    obtain rfl : e = failure := Except.error.inj h
    exact isBrokenPipe_of_find hfind
  | ok entry =>
    rw [hfind] at h
    cases entry with
    | locked fault =>
      obtain rfl : fault.val = failure := Except.error.inj h
      exact fault.property
    | file | torn | directory => cases h

/-- Nor does reading it. -/
theorem isBrokenPipe_of_openInput {input : Input} (h : files.openInput path = .ok input)
    (hfailure : input.failure = some failure) : failure.isBrokenPipe = false := by
  rw [openInput] at h
  cases hfind : files.find path with
  | error e =>
    rw [hfind] at h
    cases h
  | ok entry =>
    rw [hfind] at h
    cases entry with
    | locked fault => cases h
    | file data executable =>
      obtain rfl : Input.ofBytes data = input := Except.ok.inj h
      cases hfailure
    | torn data fault =>
      obtain rfl : ⟨data, some fault⟩ = input := Except.ok.inj h
      obtain rfl : fault.val = failure := Option.some.inj hfailure
      exact fault.property
    | directory =>
      obtain rfl : Input.failing (.system .isDirectory) = input := Except.ok.inj h
      obtain rfl : Failure.system .isDirectory = failure := Option.some.inj hfailure
      rfl

end Files

/-! ## What is done with a file -/

/-- The complaint about a file. -/
def operandComplaint (command path : String) (failure : Failure) : Event :=
  .complain s!"{command}: {path}: {failure.description}\n"

/-- The file can be opened, and read to its end. -/
def isReadable (files : Files) (path : String) : Bool :=
  match files.openInput path with
  | .error _ => false
  | .ok input => input.failure.isNone

/-- What a command does with a file of which it prints `content`. -/
def operandEvents (command : String) (content : Input → Bytes) (files : Files) (path : String) :
    List Event :=
  match files.openInput path with
  | .error failure => [operandComplaint command path failure]
  | .ok input =>
    .print (content input) :: input.failure.toList.map (operandComplaint command path)

/-- There is a complaint about a file exactly if it cannot be read. -/
theorem isReadable_eq_false_iff (command : String) (content : Input → Bytes) (files : Files)
    (path : String) :
    isReadable files path = false ↔
      ∃ event ∈ operandEvents command content files path, event.isComplaint = true := by
  rw [isReadable, operandEvents]
  cases files.openInput path with
  | error failure => simp [operandComplaint, Event.isComplaint]
  | ok input =>
    dsimp only
    cases input.failure <;> simp [operandComplaint, Event.isComplaint]

/-- Print something of an input, and fail as reading it fails. -/
def printInput (content : Input → Bytes) (input : Input) : Job Unit := do
  Job.print (content input)
  Job.stopOn input.failure

/-- Print something of a file, and tell whether that succeeded. A file that cannot be opened or read
is complained about. -/
def printOperand (opener : Opener) (command : String) (content : Input → Bytes) (path : String) :
    Job Bool := do
  match ← opener path with
  | .error failure =>
    complainAbout command path failure
    return false
  | .ok input => orComplain command path (printInput content input)

/-- Complaints about a job depend on nothing but what the job does. -/
theorem runIn_orComplain_congr {command path : String} {job job' : Job Unit} {c : Context}
    (h : job.runIn c = job'.runIn c) :
    (orComplain command path job).runIn c = (orComplain command path job').runIn c := by
  rw [orComplain, orComplain, Job.runIn_tryCatch, Job.runIn_tryCatch, Job.runIn_bind,
    Job.runIn_bind, h]

/-- A job that stops at once is complained about. -/
theorem runIn_orComplain_throw {command path : String} {failure : Failure}
    (hquiet : failure.isBrokenPipe = false) (c : Context) :
    (orComplain command path (throw (.io failure))).runIn c =
      (do complainAbout command path failure; return false : Job Bool).runIn c := by
  rw [orComplain, Job.runIn_tryCatch, Job.runIn_bind, Job.runIn_throw]
  simp only [hquiet, Bool.false_eq_true, if_false]

/-- `cat` prints a file as other commands do, as long as no file fails to be opened in the way of an
output that nobody reads. -/
theorem Cat.runIn_orComplain_copyFile {opener : Opener} {path : String}
    {found : Except Failure Input} {c : Context} (hfound : (opener path).runIn c = (.ok found, c))
    (hquiet : ∀ failure, found = .error failure → failure.isBrokenPipe = false) :
    (orComplain name path (copyFile opener path)).runIn c =
      (printOperand opener name Input.data path).runIn c := by
  rw [printOperand, Job.runIn_bind, hfound]
  cases found with
  | ok input =>
    refine runIn_orComplain_congr ?_
    rw [copyFile, Job.runIn_bind, hfound]
    rfl
  | error failure =>
    refine (runIn_orComplain_congr ?_).trans (runIn_orComplain_throw (hquiet failure rfl) c)
    rw [copyFile, Job.runIn_bind, hfound]

/-- So does `cat` with the files of its context. -/
theorem Cat.orComplain_copyFile_eq :
    (fun path => orComplain name path (copyFile Job.openFile path)) =
      printOperand Job.openFile name Input.data := by
  funext path c
  exact runIn_orComplain_copyFile (Job.runIn_openFile path c)
    fun _ h => Files.isBrokenPipe_of_openInput_error h

/-- A file is done with once it is printed as far as it can be read, with all complaints. -/
theorem printOperand_follows (command : String) (content : Input → Bytes) (files : Files)
    (path : String) :
    (printOperand Job.openFile command content path).Follows files
      ⟨operandEvents command content files path, .ok (isReadable files path)⟩ := by
  intro c hfiles hout
  rw [printOperand, Job.runIn_bind, Job.runIn_openFile, hfiles, operandEvents, isReadable]
  cases hopen : files.openInput path with
  | error failure =>
    exact Job.Follows.perform_pure files (operandComplaint command path failure) false c hfiles hout
  | ok input =>
    dsimp only
    rw [orComplain, Job.runIn_tryCatch, Job.runIn_bind, printInput, Job.runIn_bind,
      Job.runIn_print, runIn_replay, runIn_performAll_cons, Event.perform, Job.runIn_print]
    cases hwrite : (c.out.write (content input)).2 with
    | some failure =>
      -- Nobody reads the output: the error is passed on, and no file is blamed for it.
      simp only [Job.stopped, hout.isBrokenPipe hwrite, if_true, Job.runIn_throw]
    | none =>
      -- The contents are printed, and what is wrong with the file comes after them.
      simp only [Job.stopped, Job.runIn_stopOn]
      cases hfailure : input.failure with
      | none => rfl
      | some failure =>
        have hquiet := Files.isBrokenPipe_of_openInput hopen hfailure
        simp only [hquiet, Bool.false_eq_true, if_false]
        exact (Job.Follows.perform_pure files (operandComplaint command path failure) false
          { c with out := (c.out.write (content input)).1 } hfiles (hout.after_write _)).trans
          (runIn_replay _ _)

/-- Files are worked on one after the other, whatever becomes of each of them. -/
theorem withOperands_follows {job : String → Job Bool} {files : Files}
    {events : String → List Event} {good : String → Bool}
    (h : ∀ path, (job path).Follows files ⟨events path, .ok (good path)⟩) (paths : List String) :
    (withOperands job paths).Follows files ⟨paths.flatMap events, .ok (paths.all good)⟩ := by
  induction paths with
  | nil => exact .pure files true
  | cons path rest ih =>
    exact (h path).bind
      (fun here => do let there ← withOperands job rest; return here && there)
      (ih.bind_pure fun there => good path && there)

end CommandShell
