import CommandShell.Job

/-!
# Running jobs

What an action or a job does, seen from outside: run in a context, it gives something and leaves a
context behind. There is one law for each way in which jobs are made: a job that is done after
another one starts where that one ended, and is not done at all if that one stopped with an error.

Two properties of outputs decide what writing and flushing can do to a job. An output that never
fails takes everything (`Output.NeverFails`); one that ends quietly fails, if it does, only because
nobody reads it (`Output.EndsQuietly`). Writing keeps both.
-/

namespace CommandShell

variable {α β : Type}

/-- Do an action in a context: what it gives, and the context afterwards. -/
def Action.runIn (action : Action α) (c : Context) : α × Context :=
  StateT.run action c

/-- Do a job in a context: what it gives or the error that it stops with, and the context
afterwards. -/
def Job.runIn (job : Job α) (c : Context) : Except Error α × Context :=
  Action.runIn (ExceptT.run job) c

/-! ## Outputs -/

namespace Output

/-- Neither writing to the output nor flushing it ever fails. -/
structure NeverFails (out : Output) : Prop where
  /-- Every write is accepted. -/
  room : out.room = none
  /-- Every flush goes well. -/
  flushing (pieces : List Bytes) : out.flushing pieces = none

/-- Writing to the output and flushing it fail, if at all, because nobody reads it. -/
structure EndsQuietly (out : Output) : Prop where
  /-- So does a write. -/
  write : out.room = none ∨ out.failure.isBrokenPipe = true
  /-- So does a flush. -/
  flush (pieces : List Bytes) (failure : Failure) :
    out.flushing pieces = some failure → failure.isBrokenPipe = true

/-- The output that never fails. -/
theorem neverFails_unlimited : unlimited.NeverFails := ⟨rfl, fun _ => rfl⟩

/-- An output that never fails takes everything. -/
theorem NeverFails.write_eq {out : Output} (h : out.NeverFails) (bytes : Bytes) :
    out.write bytes = ({ out with pieces := bytes :: out.pieces }, none) := by
  rw [Output.write, h.room]

/-- An output that never fails still never fails after a write. -/
theorem NeverFails.write {out : Output} (h : out.NeverFails) (bytes : Bytes) :
    (out.write bytes).1.NeverFails := by
  rw [h.write_eq]
  exact ⟨h.room, h.flushing⟩

/-- A write to an output that never fails succeeds. -/
theorem NeverFails.write_failure {out : Output} (h : out.NeverFails) (bytes : Bytes) :
    (out.write bytes).2 = none :=
  write_failure_of_room_none h.room bytes

/-- A flush of an output that never fails succeeds. -/
theorem NeverFails.flush {out : Output} (h : out.NeverFails) : out.flush = none :=
  h.flushing out.pieces

/-- An output that never fails holds what it held and what is written to it. -/
theorem NeverFails.contents_write {out : Output} (h : out.NeverFails) (bytes : Bytes) :
    (out.write bytes).1.contents = out.contents ++ bytes :=
  contents_write_of_room_none h.room bytes

/-- An output that never fails does not fail loudly either. -/
theorem NeverFails.endsQuietly {out : Output} (h : out.NeverFails) : out.EndsQuietly where
  write := .inl h.room
  flush pieces failure hflush := by
    rw [h.flushing] at hflush
    cases hflush

/-- A write that fails does so in the way of the output, which has found its room. -/
theorem write_failure_eq {out : Output} {bytes : Bytes} {failure : Failure}
    (h : (out.write bytes).2 = some failure) : out.room ≠ none ∧ failure = out.failure := by
  rw [Output.write] at h
  split at h
  · cases h
  · next room hroom =>
    dsimp only at h
    split at h
    · cases h
    · exact ⟨by simp [hroom], (Option.some.inj h).symm⟩

/-- An output that ends quietly still does so after a write. -/
theorem EndsQuietly.after_write {out : Output} (h : out.EndsQuietly) (bytes : Bytes) :
    (out.write bytes).1.EndsQuietly where
  write := by
    rw [failure_write]
    refine h.write.imp_left fun hroom => ?_
    rw [Output.write, hroom]
  flush := by
    rw [flushing_write]
    exact h.flush

/-- A failed write to an output that ends quietly means that nobody reads it. -/
theorem EndsQuietly.isBrokenPipe {out : Output} (h : out.EndsQuietly) {bytes : Bytes}
    {failure : Failure} (hwrite : (out.write bytes).2 = some failure) :
    failure.isBrokenPipe = true := by
  obtain ⟨hroom, rfl⟩ := write_failure_eq hwrite
  exact h.write.resolve_left hroom

end Output

/-! ## Actions -/

namespace Action

@[simp]
theorem runIn_pure (a : α) (c : Context) : (pure a : Action α).runIn c = (a, c) := rfl

/-- What comes next starts where the first action ended. -/
theorem runIn_bind (first : Action α) (next : α → Action β) (c : Context) :
    (first >>= next).runIn c = (next (first.runIn c).1).runIn (first.runIn c).2 := rfl

@[simp]
theorem runIn_get (c : Context) : (get : Action Context).runIn c = (c, c) := rfl

theorem runIn_modify (f : Context → Context) (c : Context) :
    (modify f : Action Unit).runIn c = ((), f c) := rfl

theorem runIn_print (bytes : Bytes) (c : Context) :
    (print bytes).runIn c =
      ((c.out.write bytes).2, { c with out := (c.out.write bytes).1 }) := rfl

theorem runIn_complain (text : String) (c : Context) :
    (complain text).runIn c =
      ((c.err.write (utf8 text)).2, { c with err := (c.err.write (utf8 text)).1 }) := rfl

theorem runIn_flush (c : Context) : flush.runIn c = (c.out.flush, c) := rfl

theorem runIn_flushErrors (c : Context) : flushErrors.runIn c = (c.err.flush, c) := rfl

end Action

/-! ## Jobs -/

namespace Job

@[simp]
theorem runIn_pure (a : α) (c : Context) : (pure a : Job α).runIn c = (.ok a, c) := rfl

@[simp]
theorem runIn_throw (e : Error) (c : Context) : (throw e : Job α).runIn c = (.error e, c) := rfl

@[simp]
theorem runIn_mk_pure (result : Except Error α) (c : Context) :
    Job.runIn (ExceptT.mk (pure result)) c = (result, c) := rfl

/-- After a job that succeeds, what comes next starts where that one ended; after one that stops
with an error, nothing more is done. -/
theorem runIn_bind (first : Job α) (next : α → Job β) (c : Context) :
    (first >>= next).runIn c =
      match first.runIn c with
      | (.ok a, c') => (next a).runIn c'
      | (.error e, c') => (.error e, c') := by
  change Action.runIn (ExceptT.run (first >>= next)) c = _
  rw [ExceptT.run_bind, Action.runIn_bind]
  rcases h : first.runIn c with ⟨result, c'⟩
  rw [show Action.runIn (ExceptT.run first) c = (result, c') from h]
  cases result <;> rfl

/-- An error is handled where the job stopped. -/
theorem runIn_tryCatch (job : Job α) (handler : Error → Job α) (c : Context) :
    (tryCatch job handler : Job α).runIn c =
      match job.runIn c with
      | (.ok a, c') => (.ok a, c')
      | (.error e, c') => (handler e).runIn c' := by
  change Action.runIn (ExceptT.run (tryCatch job handler)) c = _
  rw [ExceptT.run_tryCatch, Action.runIn_bind]
  rcases h : job.runIn c with ⟨result, c'⟩
  rw [show Action.runIn (ExceptT.run job) c = (result, c') from h]
  cases result <;> rfl

theorem runIn_readInput (c : Context) :
    readInput.runIn c = (.ok c.input, { c with input := { c.input with data := [] } }) := rfl

theorem runIn_openFile (path : String) (c : Context) :
    (openFile path).runIn c = (.ok (c.files.openInput path), c) := rfl

/-- A failure stops a job. -/
def stopped : Option Failure → Except Error Unit
  | none => .ok ()
  | some failure => .error (.io failure)

theorem runIn_stopOn (failure : Option Failure) (c : Context) :
    (stopOn failure).runIn c = (stopped failure, c) := by
  cases failure <;> rfl

theorem runIn_print (bytes : Bytes) (c : Context) :
    (print bytes).runIn c =
      (stopped (c.out.write bytes).2, { c with out := (c.out.write bytes).1 }) :=
  runIn_stopOn (c.out.write bytes).2 { c with out := (c.out.write bytes).1 }

theorem runIn_complain (text : String) (c : Context) :
    (complain text).runIn c =
      (stopped (c.err.write (utf8 text)).2,
        { c with err := (c.err.write (utf8 text)).1 }) :=
  runIn_stopOn (c.err.write (utf8 text)).2 { c with err := (c.err.write (utf8 text)).1 }

theorem runIn_flush (c : Context) : flush.runIn c = (stopped c.out.flush, c) :=
  runIn_stopOn c.out.flush c

end Job

end CommandShell
