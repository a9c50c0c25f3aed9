import CommandShell.Pipeline
import CommandShell.Proofs.Execution.Independence
import Mathlib.Data.List.ReduceOption

/-!
# Pipelines stage by stage

The loop over the stages of a pipeline, told as a recursion: a stage is run, and the stages behind
it are run with what it wrote as their input (`runStages`). Each stage then has an exit code of its
own, and neither places nor helpers nor programs that are still to end are kept.

The loop does the same as the recursion (`runIn_run`). What carries the induction is that the exit
codes, once all programs have ended, are those of the stages so far with zeros behind them
(`Progress.Reached`). A helper has something to say only where it hands the input of the pipeline
itself to a program, which can only be the first stage (`unfedFirst`).
-/

namespace CommandShell

variable {α β : Type}

/-! ## Actions that do not read -/

/-- The action does the same with any input, and leaves the input alone. -/
def Action.IgnoresInput (action : Action α) : Prop :=
  ∀ (c : Context) (input : Input),
    action.runIn { c with input } = ((action.runIn c).1, { (action.runIn c).2 with input })

namespace Action.IgnoresInput

theorem pure (a : α) : (Pure.pure a : Action α).IgnoresInput := fun _ _ => rfl

theorem bind {first : Action α} {next : α → Action β} (hfirst : first.IgnoresInput)
    (hnext : ∀ a, (next a).IgnoresInput) : (first >>= next).IgnoresInput := by
  intro c input
  rw [runIn_bind, runIn_bind, hfirst c input]
  exact hnext _ _ input

theorem complain (text : String) : (complain text).IgnoresInput := fun _ _ => rfl

theorem note (level : Journal.Level) (topic : Journal.Topic) (text : String) :
    (note level topic text).IgnoresInput := by
  intro c input
  rw [runIn_note, runIn_note]
  split <;> rfl

end Action.IgnoresInput

theorem Execution.ignoresInput_report (name : String) (error : Error) :
    (report name error).IgnoresInput := by
  refine .bind (.complain _) fun failure => ?_
  cases failure with
  | none => exact .pure _
  | some failure => exact .bind (.note _ _ _) fun _ => .pure _

theorem Execution.ignoresInput_copyOutput (outcome : Outcome) :
    (copyOutput outcome).IgnoresInput := by
  intro c input
  rw [runIn_copyOutput, runIn_copyOutput]

namespace Pipeline

theorem ignoresInput_noteSkipped (command : Command) : (noteSkipped command).IgnoresInput :=
  .note _ _ _

theorem ignoresInput_passOn (command : Command) (outcome : Outcome) :
    (passOn command outcome).IgnoresInput := by
  refine .bind (Execution.ignoresInput_copyOutput outcome) fun (status, failure) => ?_
  cases failure with
  | none => exact .pure _
  | some failure => exact .bind (.note _ _ _) fun _ => .pure _

/-! ## What a stage reads from -/

namespace Source

theorem runIn_supply (source : Source) (action : Action α) (c : Context) :
    (source.supply action).runIn c =
      match source.bytes? with
      | none => action.runIn c
      | some bytes =>
        let ran := action.runIn { c with input := .ofBytes bytes }
        (ran.1, { ran.2 with input := c.input }) := by
  rw [supply]
  cases source.bytes? <;> rfl

/-- What does not read needs no source. -/
theorem supply_of_ignoresInput (source : Source) {action : Action α} (h : action.IgnoresInput) :
    source.supply action = action := by
  funext c
  refine (runIn_supply source action c).trans ?_
  cases source.bytes? with
  | none => rfl
  | some bytes =>
    dsimp only
    rw [h c (.ofBytes bytes)]
    exact (h c c.input).symm

/-- What comes after the reading needs no source either. -/
theorem supply_bind (source : Source) (first : Action α) {next : α → Action β}
    (hnext : ∀ a, (next a).IgnoresInput) :
    source.supply (first >>= next) = source.supply first >>= next := by
  funext c
  refine (runIn_supply source _ c).trans ?_
  refine Eq.trans ?_ (Action.runIn_bind (source.supply first) next c).symm
  rw [runIn_supply]
  cases source.bytes? with
  | none => rfl
  | some bytes =>
    dsimp only
    rw [hnext]
    rfl

end Source

/-! ## The recursion -/

/-- Run a stage that is not the last: its exit code, and what it writes. -/
def innerStage (command : Command) : Action (Int × Bytes) := do
  if command.isExit then
    noteSkipped command
    return (0, [])
  else if command.isBuiltin then
    let (flow, written) ← captured (Execution.execute command)
    return (flow.code, written)
  else
    match ← Execution.start command with
    | .error error => return (← Execution.report command.name error, [])
    | .ok outcome => return (outcome.status.exitCode, outcome.output)

/-- Run the last stage: its exit code. -/
def lastStage (command : Command) : Action Int := do
  if command.isExit then
    noteSkipped command
    return 0
  else if command.isBuiltin then
    return (← Execution.execute command).code
  else
    match ← Execution.start command with
    | .error error => Execution.report command.name error
    | .ok outcome => return (← passOn command outcome).exitCode

/-- Run some stages: their exit codes. -/
def runStages : List Command → Action (List Int)
  | [] => return []
  | [last] => return [← lastStage last]
  | command :: rest => do
    let (code, written) ← innerStage command
    let own := (← get).input
    modify fun context => { context with input := .ofBytes written }
    let codes ← runStages rest
    modify fun context => { context with input := own }
    return code :: codes

/-! ## What the helpers say -/

theorem isBuiltin_of_isExit {command : Command} (h : command.isExit = true) :
    command.isBuiltin = true :=
  (Execution.isBuiltin_iff command).mpr (.inl h)

/-- What is found by the helper that hands the input of a pipeline to the program that the first
stage calls. Only a program has a helper, and only if it does not inherit its input. -/
def unfedFirst (inherited : Bool) (command : Command) (c : Context) : Option Failure :=
  if command.isBuiltin then none
  else
    match c.programs (command.call c) with
    | .error _ => none
    | .ok outcome => Execution.unfed? inherited outcome c.input

/-- An input that ends without a failure is handed to the first stage without one. -/
theorem unfedFirst_of_failure_eq_none (inherited : Bool) (command : Command) {c : Context}
    (h : c.input.failure = none) : unfedFirst inherited command c = none := by
  rw [unfedFirst]
  split
  · rfl
  · cases c.programs (command.call c) with
    | error failure => rfl
    | ok outcome => exact Execution.unfed?_of_failure_eq_none inherited outcome h

/-- The same by where a stage reads from. -/
def Source.unfed (source : Source) (command : Command) (c : Context) : Option Failure :=
  match source with
  | .input => unfedFirst false command c
  | _ => none

theorem Source.unfed_of_not_isFed {source : Source} (h : ¬source.isFed = true)
    (command : Command) (c : Context) : source.unfed command c = none := by
  cases source with
  | input => exact absurd rfl h
  | inherited | program | buffer | empty => rfl

/-- Behind the first stage no helper finds anything. -/
theorem Source.unfed_of_bytes? {source : Source} {bytes : Bytes} (h : source.bytes? = some bytes)
    (command : Command) (c : Context) : source.unfed command c = none := by
  cases source with
  | input => cases h
  | inherited | program | buffer | empty => rfl

/-- Commands of the shell have no helpers. -/
theorem Source.unfed_of_isBuiltin (source : Source) {command : Command}
    (h : command.isBuiltin = true) (c : Context) : source.unfed command c = none := by
  cases source with
  | input => exact if_pos h
  | inherited | program | buffer | empty => rfl

theorem unfed_start (inherited : Bool) (stages : Nat) (command : Command) (c : Context) :
    (Progress.start inherited stages).source.unfed command c = unfedFirst inherited command c := by
  cases inherited with
  | false => rfl
  | true =>
    change none = _
    rw [unfedFirst]
    split
    · rfl
    · split <;> rfl

/-- A helper that has found nothing says nothing. -/
theorem forM_noteUnfed (feeders : List (Option Failure)) :
    feeders.forM noteUnfed = feeders.reduceOption.forM fun failure => noteUnfed (some failure) := by
  induction feeders with
  | nil => rfl
  | cons feeder rest ih =>
    cases feeder with
    | none => exact ih
    | some failure => exact congrArg (fun others => noteUnfed (some failure) >>= fun _ => others) ih

/-! ## One stage of the loop -/

/-- The loop has gone on by the stage at a place, which has ended with an exit code, and whose
helper has found something if it has one. -/
structure Progress.Advanced (before after : Progress) (index : Nat) (code : Int)
    (feeder : Option Failure) : Prop where
  settled : after.settled = before.settled.set index code
  children : ∀ child ∈ after.children, child ∈ before.children ∨ child.1 = index
  feeders : after.feeders.reduceOption = before.feeders.reduceOption ++ feeder.toList

namespace Progress

variable {progress : Progress} {index : Nat}

/-- The ends of other stages can be settled before or after an exit code is put down. -/
theorem foldl_set_comm {children : List (Nat × ExitStatus)}
    (h : ∀ child ∈ children, child.1 < index) (codes : List Int) (code : Int) :
    children.foldl (fun codes (place, status) => codes.set place status.exitCode)
        (codes.set index code) =
      (children.foldl (fun codes (place, status) => codes.set place status.exitCode)
        codes).set index code := by
  induction children generalizing codes with
  | nil => rfl
  | cons child rest ih =>
    have hplace : index ≠ child.1 := Nat.ne_of_gt (h child List.mem_cons_self)
    rw [List.foldl_cons, List.foldl_cons,
      ← ih fun other hother => h other (List.mem_cons_of_mem _ hother)]
    dsimp only
    rw [List.set_comm _ _ hplace]

/-- A stage that is passed over leaves its exit code at zero. -/
theorem Advanced.skip (hzero : progress.settled.set index 0 = progress.settled)
    (source : Source) : progress.Advanced { progress with source } index 0 none :=
  ⟨hzero.symm, fun _ => .inl, (List.append_nil _).symm⟩

/-- A stage that ends at once puts down its exit code. -/
theorem Advanced.code (h : ∀ child ∈ progress.children, child.1 < index) (code : Int)
    (source : Source) :
    progress.Advanced { progress with codes := progress.codes.set index code, source } index code
      none :=
  ⟨foldl_set_comm h progress.codes code, fun _ => .inl, (List.append_nil _).symm⟩

/-- A program leaves its exit code to be settled. -/
theorem Advanced.child (status : ExitStatus) (source : Source) {feeders : List (Option Failure)}
    {feeder : Option Failure}
    (hfeeders : feeders.reduceOption = progress.feeders.reduceOption ++ feeder.toList) :
    progress.Advanced
      ⟨source, progress.codes, progress.children ++ [(index, status)], feeders⟩ index
      status.exitCode feeder where
  settled := by
    change List.foldl _ _ (progress.children ++ [(index, status)]) = _
    rw [List.foldl_append]
    rfl
  children child hchild := by
    obtain hbefore | hnew := List.mem_append.mp hchild
    · exact .inl hbefore
    · obtain rfl := List.mem_singleton.mp hnew
      exact .inr rfl
  feeders := hfeeders

end Progress

/-- The helper of a program that is started at a stage, if it has one. -/
theorem reduceOption_feeders (progress : Progress) (command : Command) (c : Context) :
    (if progress.source.isFed then progress.feeders ++ [progress.source.unfed command c]
      else progress.feeders).reduceOption =
      progress.feeders.reduceOption ++ (progress.source.unfed command c).toList := by
  split
  · rw [List.reduceOption_append]
    cases progress.source.unfed command c <;> rfl
  · next hfed =>
    rw [Source.unfed_of_not_isFed hfed]
    exact (List.append_nil _).symm

section Stage

variable {progress : Progress} {index : Nat} {command : Command}

/-- What there is to say about the feeding of a program is found when it is started. -/
theorem Source.unfed_of_start (source : Source) (h : command.isBuiltin = false) (c : Context) :
    source.unfed command c =
      match ((source.supply (Execution.start command)).runIn c).1 with
      | .error _ => none
      | .ok outcome =>
        match source with
        | .input => Execution.unfed? false outcome c.input
        | _ => none := by
  cases source with
  | input =>
    rw [runIn_supply]
    change unfedFirst false command c = _
    rw [unfedFirst, h, if_neg Bool.false_ne_true]
    dsimp only [bytes?]
    rw [Execution.runIn_start]
    cases c.programs (command.call c) <;> rfl
  | inherited | program | buffer | empty =>
    dsimp only [unfed]
    split <;> rfl

/-- A stage that calls a program: either the program is reported, or the stage behind it is left to
read its output. -/
theorem runIn_runStage_of_program (h : command.isBuiltin = false) (isLast : Bool) (c : Context) :
    (runStage isLast index command progress).runIn c =
      let started := (progress.source.supply (Execution.start command)).runIn c
      match started.1 with
      | .error error =>
        let reported := (Execution.report command.name error).runIn started.2
        ({ progress with codes := progress.codes.set index reported.1, source := .empty },
          reported.2)
      | .ok outcome =>
        let ended :=
          (if isLast then passOn command outcome else pure outcome.status).runIn started.2
        (⟨if isLast then .empty else .program outcome.output, progress.codes,
            progress.children ++ [(index, ended.1)],
            if progress.source.isFed then
              progress.feeders ++ [progress.source.unfed command c]
            else progress.feeders⟩,
          ended.2) := by
  have hexit : command.isExit = false := (Bool.or_eq_false_iff.mp h).1
  rw [progress.source.unfed_of_start h]
  rw [runStage, hexit, h, if_neg Bool.false_ne_true, if_neg Bool.false_ne_true, Action.runIn_bind,
    Action.runIn_get]
  dsimp only
  rw [Action.runIn_bind]
  cases ((progress.source.supply (Execution.start command)).runIn c).1 with
  | error error => rfl
  | ok outcome => cases isLast <;> rfl

/-- A stage that runs a command of the shell. -/
theorem runIn_runStage_of_isBuiltin (hexit : ¬command.isExit = true)
    (h : command.isBuiltin = true) (isLast : Bool) (c : Context) :
    (runStage isLast index command progress).runIn c =
      let ran := (progress.source.supply (runBuiltin isLast command)).runIn c
      ({ progress with codes := progress.codes.set index ran.1.1.code, source := ran.1.2 },
        ran.2) := by
  rw [runStage, if_neg hexit, if_pos h]
  rfl

/-- Run a stage without the loop around it: its exit code, and where the next stage reads from. -/
def runSingle (isLast : Bool) (command : Command) : Action (Int × Source) := do
  if command.isExit then
    noteSkipped command
    return (0, .empty)
  else if command.isBuiltin then
    let (flow, source) ← runBuiltin isLast command
    return (flow.code, source)
  else
    match ← Execution.start command with
    | .error error => return (← Execution.report command.name error, .empty)
    | .ok outcome =>
      let status ← if isLast then passOn command outcome else pure outcome.status
      return (status.exitCode, if isLast then .empty else .program outcome.output)

/-- The loop around a stage changes nothing about what the stage does. -/
theorem runIn_runStage (command : Command)
    (hchildren : ∀ child ∈ progress.children, child.1 < index)
    (hzero : progress.settled.set index 0 = progress.settled) (isLast : Bool) (c : Context) :
    let ran := (progress.source.supply (runSingle isLast command)).runIn c
    ∃ next, (runStage isLast index command progress).runIn c = (next, ran.2) ∧
      next.source = ran.1.2 ∧
      progress.Advanced next index ran.1.1 (progress.source.unfed command c) := by
  rw [runSingle]
  by_cases hexit : command.isExit = true
  · rw [if_pos hexit, progress.source.supply_of_ignoresInput
      (.bind (ignoresInput_noteSkipped command) fun _ => .pure _), runStage, if_pos hexit,
      progress.source.unfed_of_isBuiltin (isBuiltin_of_isExit hexit)]
    exact ⟨_, rfl, rfl, .skip hzero .empty⟩
  rw [if_neg hexit]
  cases hbuiltin : command.isBuiltin with
  | true =>
    rw [if_pos rfl, progress.source.supply_bind _ fun _ => .pure _,
      runIn_runStage_of_isBuiltin hexit hbuiltin, progress.source.unfed_of_isBuiltin hbuiltin]
    exact ⟨_, rfl, rfl, .code hchildren _ _⟩
  | false =>
    have hstart := progress.source.unfed_of_start hbuiltin c
    rw [if_neg Bool.false_ne_true, progress.source.supply_bind, runIn_runStage_of_program hbuiltin,
      Action.runIn_bind]
    · dsimp only
      -- Whether the program has been started decides where its exit code is kept.
      cases hstarted : ((progress.source.supply (Execution.start command)).runIn c).1 with
      | error error =>
        rw [hstarted] at hstart
        rw [hstart]
        exact ⟨_, rfl, rfl, .code hchildren _ _⟩
      | ok outcome =>
        have hfeeders := reduceOption_feeders progress command c
        cases isLast with
        | true => exact ⟨_, rfl, rfl, .child _ _ hfeeders⟩
        | false => exact ⟨_, rfl, rfl, .child _ _ hfeeders⟩
    · intro started
      cases started with
      | error error => exact .bind (Execution.ignoresInput_report _ _) fun _ => .pure _
      | ok outcome =>
        cases isLast with
        | true => exact .bind (ignoresInput_passOn _ _) fun _ => .pure _
        | false => exact .bind (.pure _) fun _ => .pure _

/-- A stage that is not the last does in the loop what it does in the recursion, and leaves what it
wrote to the next one. -/
theorem runIn_runStage_inner (command : Command)
    (hchildren : ∀ child ∈ progress.children, child.1 < index)
    (hzero : progress.settled.set index 0 = progress.settled) (c : Context) :
    let ran := (progress.source.supply (innerStage command)).runIn c
    ∃ next, (runStage false index command progress).runIn c = (next, ran.2) ∧
      next.source.bytes? = some ran.1.2 ∧
      progress.Advanced next index ran.1.1 (progress.source.unfed command c) := by
  -- Whichever input it has, the stage leaves the bytes that the recursion hands on.
  have hsingle (d : Context) :
      let ran := (innerStage command).runIn d
      ∃ source, (runSingle false command).runIn d = ((ran.1.1, source), ran.2) ∧
        source.bytes? = some ran.1.2 := by
    rw [innerStage, runSingle]
    split
    · exact ⟨_, rfl, rfl⟩
    split
    · exact ⟨_, rfl, rfl⟩
    · rw [Action.runIn_bind, Action.runIn_bind]
      cases ((Execution.start command).runIn d).1 <;> exact ⟨_, rfl, rfl⟩
  obtain ⟨next, hrun, hsource, hadvanced⟩ :=
    runIn_runStage command hchildren hzero false c
  rw [Source.runIn_supply] at hrun hsource hadvanced ⊢
  cases hbytes : progress.source.bytes? with
  | none =>
    obtain ⟨source, hran, hwritten⟩ := hsingle c
    simp only [hbytes, hran] at hrun hsource hadvanced
    exact ⟨next, hrun, hsource ▸ hwritten, hadvanced⟩
  | some bytes =>
    obtain ⟨source, hran, hwritten⟩ := hsingle { c with input := .ofBytes bytes }
    simp only [hbytes, hran] at hrun hsource hadvanced
    exact ⟨next, hrun, hsource ▸ hwritten, hadvanced⟩

/-- The last stage does in the loop what it does in the recursion. -/
theorem runIn_runStage_last (command : Command)
    (hchildren : ∀ child ∈ progress.children, child.1 < index)
    (hzero : progress.settled.set index 0 = progress.settled) (c : Context) :
    let ran := (progress.source.supply (lastStage command)).runIn c
    ∃ next, (runStage true index command progress).runIn c = (next, ran.2) ∧
      progress.Advanced next index ran.1 (progress.source.unfed command c) := by
  have hsingle (d : Context) : (runSingle true command).runIn d =
      ((((lastStage command).runIn d).1, .empty), ((lastStage command).runIn d).2) := by
    rw [lastStage, runSingle]
    split
    · rfl
    split
    · rfl
    · rw [Action.runIn_bind, Action.runIn_bind]
      cases ((Execution.start command).runIn d).1 <;> rfl
  obtain ⟨next, hrun, -, hadvanced⟩ :=
    runIn_runStage command hchildren hzero true c
  rw [Source.runIn_supply] at hrun hadvanced ⊢
  cases hbytes : progress.source.bytes? with
  | none =>
    simp only [hbytes, hsingle] at hrun hadvanced
    exact ⟨next, hrun, hadvanced⟩
  | some bytes =>
    simp only [hbytes, hsingle] at hrun hadvanced
    exact ⟨next, hrun, hadvanced⟩

end Stage

/-! ## All stages -/

/-- How far the loop has come: the stages so far have ended with these exit codes, and so many
stages are left. -/
structure Progress.Reached (progress : Progress) (codes : List Int) (left : Nat) : Prop where
  settled : progress.settled = codes ++ List.replicate left 0
  children : ∀ child ∈ progress.children, child.1 < codes.length

namespace Progress.Reached

theorem start (inherited : Bool) (stages : Nat) :
    (Progress.start inherited stages).Reached [] stages :=
  ⟨rfl, fun _ h => absurd h List.not_mem_nil⟩

variable {progress : Progress} {codes : List Int} {left : Nat}

/-- The exit codes of the stages that are left are zero. -/
theorem set_zero (h : progress.Reached codes (left + 1)) :
    progress.settled.set codes.length 0 = progress.settled := by
  rw [h.settled, List.replicate_succ]
  simp

/-- A stage adds its exit code. -/
theorem advanced (h : progress.Reached codes (left + 1)) {next : Progress} {code : Int}
    {feeder : Option Failure} (hnext : progress.Advanced next codes.length code feeder) :
    next.Reached (codes ++ [code]) left where
  settled := by
    rw [hnext.settled, h.settled, List.replicate_succ]
    simp
  children child hchild := by
    rw [List.length_append]
    obtain hbefore | hnew := hnext.children child hchild
    · exact Nat.lt_succ_of_lt (h.children child hbefore)
    · rw [hnew]
      exact Nat.lt_succ_self _

end Progress.Reached

/-- Of several stages, the first one hands on what it wrote to the others. -/
theorem runIn_runStages_cons (command : Command) {rest : List Command} (hrest : rest ≠ [])
    (c : Context) :
    (runStages (command :: rest)).runIn c =
      let first := (innerStage command).runIn c
      let others := (runStages rest).runIn { first.2 with input := .ofBytes first.1.2 }
      (first.1.1 :: others.1, { others.2 with input := first.2.input }) := by
  rw [runStages, Action.runIn_bind]
  · rfl
  · exact hrest

/-- Each stage has an exit code. -/
theorem length_runStages (commands : List Command) (c : Context) :
    ((runStages commands).runIn c).1.length = commands.length := by
  induction commands generalizing c with
  | nil => rfl
  | cons command rest ih =>
    cases rest with
    | nil => rfl
    | cons next rest =>
      rw [runIn_runStages_cons command (List.cons_ne_nil next rest), List.length_cons, ih]
      rfl

/-- So it does where the first one reads from a source of its own. -/
theorem Source.runIn_supply_runStages_cons (source : Source) (command : Command)
    {rest : List Command} (hrest : rest ≠ []) (c : Context) :
    (source.supply (runStages (command :: rest))).runIn c =
      let first := (source.supply (innerStage command)).runIn c
      let others := (runStages rest).runIn { first.2 with input := .ofBytes first.1.2 }
      (first.1.1 :: others.1, { others.2 with input := first.2.input }) := by
  rw [runIn_supply, runIn_supply]
  cases source.bytes? with
  | none => exact runIn_runStages_cons command hrest c
  | some bytes =>
    dsimp only
    rw [runIn_runStages_cons command hrest]

/-- The loop over some stages does what the recursion does. Only the first of them can have a helper
that has something to say. -/
theorem runIn_runFrom (command : Command) (rest : List Command) {progress : Progress}
    {codes : List Int} (hreached : progress.Reached codes (rest.length + 1)) {last : Nat}
    (hlast : last = codes.length + rest.length) (c : Context) :
    let ran := (progress.source.supply (runStages (command :: rest))).runIn c
    ∃ final, (runFrom last codes.length (command :: rest) progress).runIn c = (final, ran.2) ∧
      final.settled = codes ++ ran.1 ∧
      final.feeders.reduceOption =
        progress.feeders.reduceOption ++ (progress.source.unfed command c).toList := by
  induction rest generalizing command progress codes c with
  | nil =>
    obtain rfl : last = codes.length := hlast
    obtain ⟨final, hrun, hadvanced⟩ :=
      runIn_runStage_last command hreached.children hreached.set_zero c
    have hstages : (progress.source.supply (runStages [command])).runIn c =
        let ran := (progress.source.supply (lastStage command)).runIn c
        ([ran.1], ran.2) := by
      rw [Source.runIn_supply, Source.runIn_supply]
      cases progress.source.bytes? <;> rfl
    rw [hstages, runFrom, Action.runIn_bind, beq_self_eq_true, hrun]
    refine ⟨final, rfl, ?_, hadvanced.feeders⟩
    exact (hreached.advanced hadvanced).settled.trans (List.append_nil _)
  | cons next rest ih =>
    have hinner : (codes.length == last) = false := by
      rw [hlast, List.length_cons, beq_eq_false_iff_ne]
      omega
    obtain ⟨between, hrun, hbytes, hadvanced⟩ :=
      runIn_runStage_inner command hreached.children hreached.set_zero c
    rw [progress.source.runIn_supply_runStages_cons command (List.cons_ne_nil next rest), runFrom,
      Action.runIn_bind, hinner, hrun]
    generalize (progress.source.supply (innerStage command)).runIn c = first at hbytes hadvanced ⊢
    obtain ⟨final, hfrom, hsettled, hfeeders⟩ := ih next (hreached.advanced hadvanced)
      (by rw [hlast, List.length_append, List.length_cons, List.length_singleton]; omega) first.2
    -- What the first stage wrote is what the next one reads, with or without the loop.
    rw [Source.runIn_supply, hbytes] at hfrom hsettled
    rw [Source.unfed_of_bytes? hbytes, hadvanced.feeders] at hfeeders
    refine ⟨final, ?_, ?_, hfeeders.trans (List.append_nil _)⟩
    · rw [List.length_append] at hfrom
      exact hfrom
    · rw [hsettled, List.append_assoc]
      rfl

/-- Running a pipeline of several commands is running their stages one after the other. Behind them
stand what there is to say about the feeding of the first one, and a note about the exit codes. -/
theorem runIn_run (first second : Command) (rest : List Command) (inherited : Bool)
    (c : Context) :
    (run (first :: second :: rest) inherited).runIn c =
      let ran := (runStages (first :: second :: rest)).runIn c
      let fed := (noteUnfed (unfedFirst inherited first c)).runIn ran.2
      (.proceed (ran.1.getLastD 0),
        ((Action.note .debug .pipeline s!"pipeline exit codes: {showCodes ran.1}").runIn
          fed.2).2) := by
  have hreached := Progress.Reached.start inherited (rest.length + 2)
  obtain ⟨final, hrun, hsettled, hfeeders⟩ :=
    runIn_runFrom first (second :: rest) hreached (Nat.zero_add _).symm c
  rw [unfed_start] at hfeeders
  have hsupply : (Progress.start inherited (rest.length + 2)).source.supply
      (runStages (first :: second :: rest)) = runStages (first :: second :: rest) := by
    cases inherited <;> rfl
  rw [hsupply] at hrun hsettled
  have hlength := length_runStages (first :: second :: rest) c
  generalize (runStages (first :: second :: rest)).runIn c = ran at hrun hsettled hlength ⊢
  have hcodes : final.settled = ran.1 := hsettled
  -- Helpers that have found nothing say nothing, and the last code is that of the last place.
  have hnotes : (final.feeders.forM noteUnfed).runIn ran.2 =
      (noteUnfed (unfedFirst inherited first c)).runIn ran.2 := by
    rw [forM_noteUnfed, hfeeders]
    cases unfedFirst inherited first c <;> rfl
  have hlast : final.settled.getD (rest.length + 1) 0 = ran.1.getLastD 0 := by
    rw [hcodes, List.getD_eq_getElem?_getD, List.getLastD_eq_getLast?, List.getLast?_eq_getElem?,
      hlength]
    rfl
  dsimp only
  rw [← hlast, ← hnotes, ← hcodes]
  have hloop : (runFrom ((first :: second :: rest).length - 1) 0 (first :: second :: rest)
      (.start inherited (first :: second :: rest).length)).runIn c = (final, ran.2) := hrun
  rw [run.eq_def]
  dsimp only
  rw [Action.runIn_bind, hloop]
  rfl

end Pipeline

/-! ## Inherited inputs -/

/-- A program that is called with an input without a failure does the same whether it inherits the
input or not. -/
theorem Execution.runIn_execute_inherited (command : Command) (inherited : Bool) {c : Context}
    (h : c.input.failure = none) :
    (execute command inherited).runIn c = (execute command).runIn c := by
  have hcommand : (runCommand command inherited).runIn c = (runCommand command).runIn c := by
    rw [runCommand, runCommand]
    cases Builtin.ofName? command.name with
    | some builtin => rfl
    | none =>
      have hunfed (inherited : Bool) (outcome : Outcome) :=
        unfed?_of_failure_eq_none inherited outcome h
      simp only [runIn_runProgram, hunfed]
  rw [execute, execute]
  split
  · rfl
  · exact congrArg (fun ran => Action.runIn (settle command ran.1 >>= fun code =>
      pure (Flow.proceed code)) ran.2) hcommand

/-- So do pipelines. -/
theorem Pipeline.runIn_run_inherited (commands : List Command) (inherited : Bool) {c : Context}
    (h : c.input.failure = none) :
    (run commands inherited).runIn c = (run commands).runIn c := by
  obtain _ | ⟨first, _ | ⟨second, rest⟩⟩ := commands
  · rfl
  · exact Execution.runIn_execute_inherited first inherited h
  · rw [runIn_run, runIn_run, unfedFirst_of_failure_eq_none inherited first h,
      unfedFirst_of_failure_eq_none false first h]

end CommandShell
