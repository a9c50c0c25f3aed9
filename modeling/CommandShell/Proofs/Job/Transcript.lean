import CommandShell.Proofs.Job.Running
import Mathlib.Tactic.ByContra

/-!
# Transcripts

What a job does as a list of events: it reads its input, it prints, it complains and it flushes what
it has printed, and at the end it has a result. A job that follows a transcript does these things in
this order wherever it is run, and stops early only where a write or a flush fails (`Job.Replays`,
`Job.Follows`).

A transcript tells what a job does in any context. If neither stream fails, everything is printed
and every complaint is delivered (`runIn_performAll_of_neverFails`). If the error stream accepts
only so many bytes, the job stops at the first complaint that does not fit; what it has not done
then is `undelivered`, and what it has printed is everything but the output of that
(`runIn_performAll_of_limited`).
-/

namespace CommandShell

variable {α β : Type}

/-- Something that a job does to its streams. -/
inductive Event where
  /-- It reads its input to the end. -/
  | read
  /-- It writes to the output. -/
  | print (bytes : Bytes)
  /-- It writes to the error stream. -/
  | complain (text : String)
  /-- It flushes the output. -/
  | flush
  deriving DecidableEq, Repr

namespace Event

/-- Do what the event says. -/
def perform : Event → Job Unit
  | .read => do
    let _ ← Job.readInput
  | .print bytes => Job.print bytes
  | .complain text => Job.complain text
  | .flush => Job.flush

/-- What the event writes to the output. -/
def output : Event → Bytes
  | .print bytes => bytes
  | _ => []

/-- What the event writes to the error stream. -/
def errors : Event → Bytes
  | .complain text => utf8 text
  | _ => []

/-- The event is a complaint. -/
def isComplaint : Event → Bool
  | .complain _ => true
  | _ => false

end Event

/-- What some events write to the output. -/
def printed (events : List Event) : Bytes :=
  events.flatMap Event.output

/-- What some events write to the error stream. -/
def complained (events : List Event) : Bytes :=
  events.flatMap Event.errors

@[simp]
theorem printed_nil : printed [] = [] := rfl

@[simp]
theorem printed_append (first second : List Event) :
    printed (first ++ second) = printed first ++ printed second :=
  List.flatMap_append

@[simp]
theorem complained_nil : complained [] = [] := rfl

@[simp]
theorem complained_cons (event : Event) (rest : List Event) :
    complained (event :: rest) = event.errors ++ complained rest := rfl

/-- Do what some events say, one after the other. -/
def performAll : List Event → Job Unit
  | [] => return ()
  | event :: rest => do
    event.perform
    performAll rest

/-- What a job does and how it ends, as long as it can write. -/
structure Transcript (α : Type) where
  /-- What it does. -/
  events : List Event
  /-- How it ends. -/
  result : Except Error α

/-- Do what the transcript says, and end as it says. -/
def Transcript.replay (t : Transcript α) : Job α := do
  performAll t.events
  ExceptT.mk (pure t.result)

/-- Wherever the files are these and the output ends quietly, the job does what the transcript
says. -/
def Job.Follows (job : Job α) (files : Files) (t : Transcript α) : Prop :=
  ∀ c : Context, c.files = files → c.out.EndsQuietly → job.runIn c = t.replay.runIn c

/-! ## Performing events -/

/-- The later events happen if the first one succeeds. -/
theorem runIn_performAll_cons (event : Event) (rest : List Event) (c : Context) :
    (performAll (event :: rest)).runIn c =
      match event.perform.runIn c with
      | (.ok _, c') => (performAll rest).runIn c'
      | (.error e, c') => (.error e, c') := by
  rw [performAll, Job.runIn_bind]
  rcases event.perform.runIn c with ⟨_ | _, c'⟩ <;> rfl

theorem runIn_performAll_append (first second : List Event) (c : Context) :
    (performAll (first ++ second)).runIn c =
      match (performAll first).runIn c with
      | (.ok _, c') => (performAll second).runIn c'
      | (.error e, c') => (.error e, c') := by
  induction first generalizing c with
  | nil => rfl
  | cons event rest ih =>
    rw [List.cons_append, runIn_performAll_cons, runIn_performAll_cons]
    rcases event.perform.runIn c with ⟨_ | _, c'⟩
    · rfl
    · exact ih c'

/-- The result of a transcript counts if everything in it was done. -/
theorem runIn_replay (t : Transcript α) (c : Context) :
    t.replay.runIn c =
      match (performAll t.events).runIn c with
      | (.ok _, c') => (t.result, c')
      | (.error e, c') => (.error e, c') := by
  rw [Transcript.replay, Job.runIn_bind]
  rcases (performAll t.events).runIn c with ⟨_ | _, c'⟩ <;> rfl

/-- Reading comes first: the rest happens with nothing left to be read. -/
theorem runIn_replay_read (events : List Event) (result : Except Error α) (c : Context) :
    (⟨.read :: events, result⟩ : Transcript α).replay.runIn c =
      (⟨events, result⟩ : Transcript α).replay.runIn
        { c with input := { c.input with data := [] } } := by
  rw [runIn_replay, runIn_replay, runIn_performAll_cons]
  rfl

/-- An event leaves the files as they are. -/
theorem files_perform (event : Event) (c : Context) :
    (event.perform.runIn c).2.files = c.files := by
  cases event with
  | read => rfl
  | print bytes => rw [Event.perform, Job.runIn_print]
  | complain text => rw [Event.perform, Job.runIn_complain]
  | flush => rw [Event.perform, Job.runIn_flush]

/-- Events leave the files as they are. -/
theorem files_performAll (events : List Event) (c : Context) :
    ((performAll events).runIn c).2.files = c.files := by
  induction events generalizing c with
  | nil => rfl
  | cons event rest ih =>
    have hfirst := files_perform event c
    rw [runIn_performAll_cons]
    generalize event.perform.runIn c = ran at hfirst ⊢
    obtain ⟨_ | _, c'⟩ := ran
    · exact hfirst
    · exact (ih c').trans hfirst

/-- An output that ends quietly still does so after an event. -/
theorem endsQuietly_perform {c : Context} (h : c.out.EndsQuietly) (event : Event) :
    (event.perform.runIn c).2.out.EndsQuietly := by
  cases event with
  | read => exact h
  | print bytes =>
    rw [Event.perform, Job.runIn_print]
    exact h.after_write bytes
  | complain text =>
    rw [Event.perform, Job.runIn_complain]
    exact h
  | flush =>
    rw [Event.perform, Job.runIn_flush]
    exact h

/-- An output that ends quietly still does so after some events. -/
theorem endsQuietly_performAll {c : Context} (h : c.out.EndsQuietly) (events : List Event) :
    ((performAll events).runIn c).2.out.EndsQuietly := by
  induction events generalizing c with
  | nil => exact h
  | cons event rest ih =>
    have hfirst := endsQuietly_perform h event
    rw [runIn_performAll_cons]
    generalize event.perform.runIn c = ran at hfirst ⊢
    obtain ⟨_ | _, c'⟩ := ran
    · exact hfirst
    · exact ih hfirst

/-! ## Following a transcript -/

/-- In the context `c`, the job does what the transcript says. -/
def Job.Replays (job : Job α) (c : Context) (t : Transcript α) : Prop :=
  job.runIn c = t.replay.runIn c

namespace Job.Replays

variable {c : Context}

theorem pure (c : Context) (a : α) : (Pure.pure a : Job α).Replays c ⟨[], .ok a⟩ := rfl

/-- A job that is a single event. -/
theorem perform (c : Context) (event : Event) : event.perform.Replays c ⟨[event], .ok ()⟩ := by
  rw [Replays, runIn_replay, runIn_performAll_cons]
  rcases event.perform.runIn c with ⟨_ | _, c'⟩ <;> rfl

/-- Two jobs one after the other do what their transcripts say one after the other, the second one
in the context that the first one leaves behind. -/
theorem bind {first : Job α} {events : List Event} {a : α} {t : Transcript β}
    (hfirst : first.Replays c ⟨events, .ok a⟩) (next : α → Job β)
    (hnext : (next a).Replays ((performAll events).runIn c).2 t) :
    (first >>= next).Replays c ⟨events ++ t.events, t.result⟩ := by
  rw [Replays] at hfirst hnext
  rw [Replays, runIn_bind, hfirst, runIn_replay, runIn_replay, runIn_performAll_append]
  generalize (performAll events).runIn c = ran at hnext ⊢
  obtain ⟨_ | _, c'⟩ := ran
  · rfl
  · exact hnext.trans (runIn_replay t c')

/-- After a job that stops with an error, nothing more is done. -/
theorem bind_error {first : Job α} {events : List Event} {error : Error}
    (h : first.Replays c ⟨events, .error error⟩) (next : α → Job β) :
    (first >>= next).Replays c ⟨events, .error error⟩ := by
  rw [Replays] at h
  rw [Replays, runIn_bind, h, runIn_replay, runIn_replay]
  rcases (performAll events).runIn c with ⟨_ | _, c'⟩ <;> rfl

/-- What is made of the result of a job adds nothing to what the job does. -/
theorem bind_pure {job : Job α} {events : List Event} {a : α}
    (h : job.Replays c ⟨events, .ok a⟩) (f : α → β) :
    (do let a ← job; return f a : Job β).Replays c ⟨events, .ok (f a)⟩ := by
  have hbind := h.bind (fun a => Pure.pure (f a)) (.pure _ (f a))
  rwa [List.append_nil] at hbind

/-- A job that is a single event and gives something. -/
theorem perform_pure (c : Context) (event : Event) (a : α) :
    (do event.perform; return a : Job α).Replays c ⟨[event], .ok a⟩ :=
  (perform c event).bind_pure fun _ => a

end Job.Replays

namespace Job.Follows

theorem pure (files : Files) (a : α) : (Pure.pure a : Job α).Follows files ⟨[], .ok a⟩ :=
  fun c _ _ => Replays.pure c a

/-- A job that is a single event and gives something. -/
theorem perform_pure (files : Files) (event : Event) (a : α) :
    (do event.perform; return a : Job α).Follows files ⟨[event], .ok a⟩ :=
  fun c _ _ => Replays.perform_pure c event a

/-- Two jobs one after the other do what their transcripts say one after the other. -/
theorem bind {first : Job α} {files : Files} {events : List Event} {a : α} {t : Transcript β}
    (hfirst : first.Follows files ⟨events, .ok a⟩) (next : α → Job β)
    (hnext : (next a).Follows files t) :
    (first >>= next).Follows files ⟨events ++ t.events, t.result⟩ := by
  intro c hfiles hout
  refine Replays.bind (hfirst c hfiles hout) next (hnext _ ?_ ?_)
  · exact (files_performAll events c).trans hfiles
  · exact endsQuietly_performAll hout events

/-- What is made of the result of a job adds nothing to what the job does. -/
theorem bind_pure {job : Job α} {files : Files} {events : List Event} {a : α}
    (h : job.Follows files ⟨events, .ok a⟩) (f : α → β) :
    (do let a ← job; return f a : Job β).Follows files ⟨events, .ok (f a)⟩ :=
  fun c hfiles hout => Replays.bind_pure (h c hfiles hout) f

end Job.Follows

/-! ## Streams that never fail -/

/-- Neither stream of the context ever fails. -/
structure Context.NeverFails (c : Context) : Prop where
  /-- The output never fails. -/
  out : c.out.NeverFails
  /-- The error stream never fails. -/
  err : c.err.NeverFails

/-- The second context is the first one after some bytes have been written to its streams, none of
which fails; the input may be another one. -/
structure Context.Wrote (c c' : Context) (output errors : Bytes) : Prop where
  files : c'.files = c.files
  programs : c'.programs = c.programs
  threshold : c'.threshold = c.threshold
  patterns : c'.patterns = c.patterns
  neverFails : c'.NeverFails
  /-- What the output holds. -/
  out : c'.out.contents = c.out.contents ++ output
  /-- What the error stream holds. -/
  err : c'.err.contents = c.err.contents ++ errors

namespace Context.Wrote

variable {c c' c'' : Context} {output output' errors errors' : Bytes}

theorem refl (h : c.NeverFails) : c.Wrote c [] [] :=
  ⟨rfl, rfl, rfl, rfl, h, (List.append_nil _).symm, (List.append_nil _).symm⟩

/-- What is written one after the other is written together. -/
theorem trans (first : c.Wrote c' output errors) (second : c'.Wrote c'' output' errors') :
    c.Wrote c'' (output ++ output') (errors ++ errors') where
  files := second.files.trans first.files
  programs := second.programs.trans first.programs
  threshold := second.threshold.trans first.threshold
  patterns := second.patterns.trans first.patterns
  neverFails := second.neverFails
  out := by rw [second.out, first.out, List.append_assoc]
  err := by rw [second.err, first.err, List.append_assoc]

/-- What is read is not written. -/
theorem setInput (h : c.Wrote c' output errors) (input : Input) :
    c.Wrote { c' with input } output errors :=
  ⟨h.files, h.programs, h.threshold, h.patterns, ⟨h.neverFails.out, h.neverFails.err⟩, h.out, h.err⟩

end Context.Wrote

/-- Where no stream fails, what is printed appears on the output. -/
theorem Action.wrote_print {c : Context} (h : c.NeverFails) (bytes : Bytes) :
    c.Wrote ((print bytes).runIn c).2 bytes [] := by
  refine ⟨rfl, rfl, rfl, rfl, ⟨h.out.write bytes, h.err⟩, ?_, (List.append_nil _).symm⟩
  exact h.out.contents_write bytes

/-- Where no stream fails, a complaint is delivered. -/
theorem Action.wrote_complain {c : Context} (h : c.NeverFails) (text : String) :
    c.Wrote ((complain text).runIn c).2 [] (utf8 text) := by
  refine ⟨rfl, rfl, rfl, rfl, ⟨h.out, h.err.write _⟩, (List.append_nil _).symm, ?_⟩
  exact h.err.contents_write _

/-- Where no stream fails, an event happens in full. -/
theorem runIn_perform_of_neverFails {c : Context} (h : c.NeverFails) (event : Event) :
    (event.perform.runIn c).1 = .ok () ∧
      c.Wrote (event.perform.runIn c).2 event.output event.errors := by
  cases event with
  | read => exact ⟨rfl, (Context.Wrote.refl h).setInput _⟩
  | print bytes =>
    rw [Event.perform, Job.runIn_print, h.out.write_failure]
    exact ⟨rfl, Action.wrote_print h bytes⟩
  | complain text =>
    rw [Event.perform, Job.runIn_complain, h.err.write_failure]
    exact ⟨rfl, Action.wrote_complain h text⟩
  | flush =>
    rw [Event.perform, Job.runIn_flush, h.out.flush]
    exact ⟨rfl, .refl h⟩

/-- Where no stream fails, everything is printed and every complaint is delivered. -/
theorem runIn_performAll_of_neverFails {c : Context} (h : c.NeverFails) (events : List Event) :
    ((performAll events).runIn c).1 = .ok () ∧
      c.Wrote ((performAll events).runIn c).2 (printed events) (complained events) := by
  induction events generalizing c with
  | nil => exact ⟨rfl, Context.Wrote.refl h⟩
  | cons event rest ih =>
    obtain ⟨hresult, hfirst⟩ := runIn_perform_of_neverFails h event
    rw [runIn_performAll_cons]
    -- The first event succeeds and leaves a context where again no stream fails.
    rcases hrun : event.perform.runIn c with ⟨result, c'⟩
    rw [hrun] at hresult hfirst
    obtain rfl : result = .ok () := hresult
    obtain ⟨hrest, hwrote⟩ := ih hfirst.neverFails
    exact ⟨hrest, hfirst.trans hwrote⟩

/-! ## An error stream that stops accepting -/

/-- What is left of some events where the error stream accepts `room` bytes: the events from the
first complaint on that does not fit. -/
def undelivered : Nat → List Event → List Event
  | _, [] => []
  | room, .complain text :: rest =>
    if (utf8 text).length ≤ room then undelivered (room - (utf8 text).length) rest
    else .complain text :: rest
  | room, .read :: rest => undelivered room rest
  | room, .print _ :: rest => undelivered room rest
  | room, .flush :: rest => undelivered room rest

/-- Everything is delivered exactly if all complaints together fit. -/
theorem undelivered_eq_nil_iff (room : Nat) (events : List Event) :
    undelivered room events = [] ↔ (complained events).length ≤ room := by
  fun_induction undelivered room events with
  | case1 room => simp
  | case2 room text rest hfit ih =>
    rw [ih, complained_cons, List.length_append, Event.errors]
    omega
  | case3 room text rest hfit =>
    rw [complained_cons, List.length_append, Event.errors]
    constructor
    · intro h
      cases h
    · intro h
      omega
  | case4 room rest ih => exact ih
  | case5 room bytes rest ih => exact ih
  | case6 room rest ih => exact ih

/-- What is left begins with a complaint, which is one of the events. -/
theorem exists_complaint_of_undelivered_ne_nil {room : Nat} {events : List Event}
    (h : undelivered room events ≠ []) : ∃ event ∈ events, event.isComplaint = true := by
  by_contra hnone
  rw [not_exists] at hnone
  refine h ((undelivered_eq_nil_iff room events).mpr ?_)
  have hnil : complained events = [] := by
    rw [complained, List.flatMap_eq_nil_iff]
    intro event hmem
    cases event with
    | complain text => exact absurd ⟨hmem, rfl⟩ (hnone _)
    | read => rfl
    | print bytes => rfl
    | flush => rfl
  rw [hnil]
  exact Nat.zero_le room

/-- A write fits as long as it is not longer than the room. -/
theorem Output.write_of_fits {out : Output} {room : Nat} (hroom : out.room = some room)
    {bytes : Bytes} (h : bytes.length ≤ room) :
    (out.write bytes).2 = none ∧ (out.write bytes).1.room = some (room - bytes.length) := by
  rw [Output.write, hroom]
  simp [List.drop_eq_nil_of_le h]

/-- A write that is longer than the room fails. -/
theorem Output.write_of_not_fits {out : Output} {room : Nat} (hroom : out.room = some room)
    {bytes : Bytes} (h : ¬bytes.length ≤ room) : (out.write bytes).2 = some out.failure := by
  rw [Output.write, hroom]
  simp [List.drop_eq_nil_iff, h]

/-- Where the error stream accepts only so many bytes, events happen up to the first complaint that
does not fit: what is printed is everything but what is left from there on. -/
theorem runIn_performAll_of_limited {c : Context} {room : Nat} (hout : c.out.NeverFails)
    (hroom : c.err.room = some room) (events : List Event) :
    ((performAll events).runIn c).1 =
        Job.stopped (if undelivered room events = [] then none else some c.err.failure) ∧
      ((performAll events).runIn c).2.out.contents ++ printed (undelivered room events) =
        c.out.contents ++ printed events := by
  -- Each complaint that fits takes some of the room, which therefore varies in the induction.
  induction events generalizing c room with
  | nil => exact ⟨rfl, rfl⟩
  | cons event rest ih =>
    rw [runIn_performAll_cons]
    cases event with
    | read => exact ih (c := { c with input := { c.input with data := [] } }) hout hroom
    | print bytes =>
      rw [Event.perform, Job.runIn_print, hout.write_failure]
      obtain ⟨hresult, hprinted⟩ :=
        ih (c := { c with out := (c.out.write bytes).1 }) (hout.write bytes) hroom
      refine ⟨hresult, hprinted.trans ?_⟩
      change (c.out.write bytes).1.contents ++ printed rest = _
      rw [hout.contents_write, List.append_assoc]
      rfl
    | complain text =>
      rw [Event.perform, Job.runIn_complain, undelivered]
      by_cases hfit : (utf8 text).length ≤ room
      · obtain ⟨hnone, hroom'⟩ := Output.write_of_fits hroom hfit
        obtain ⟨hresult, hprinted⟩ :=
          ih (c := { c with err := (c.err.write (utf8 text)).1 }) hout hroom'
        rw [hnone, if_pos hfit]
        rw [show ({ c with err := (c.err.write (utf8 text)).1 } : Context).err.failure =
          c.err.failure from Output.failure_write _ _] at hresult
        exact ⟨hresult, hprinted⟩
      · -- The complaint does not fit: nothing more happens, and all of this is left.
        rw [Output.write_of_not_fits hroom hfit, if_neg hfit]
        exact ⟨rfl, rfl⟩
    | flush =>
      rw [Event.perform, Job.runIn_flush, hout.flush]
      exact ih hout hroom

end CommandShell
