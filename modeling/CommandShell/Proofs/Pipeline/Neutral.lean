import CommandShell.Proofs.Pipeline.Detour

/-!
# `cat` between other stages

`cat` without files hands on what it reads, says nothing, and ends with exit code 0. A pipeline is
the composition of its stages, and composing goes on from what has been reached (`composed_append`),
so `cat` between two stages leaves out of it only its own exit code, which is not the last one
(`composed_handOn_between`).

For runs on streams that never fail this means that both pipelines write the same output, complain
alike and end alike (`run_handOn_between`). Only the note about the exit codes tells them apart,
where it is asked for, since it lists one code more.

What stands in front of the first stage is the input of the whole pipeline. That can fail, unlike
what a stage hands on, and `cat` would report it: so `cat` may come first only where the input ends
without a failure.
-/

namespace CommandShell.Pipeline

section Composing

variable (answer : Answer) (engine : Pattern.Engine) (files : Files)
  (threshold : Option Journal.Level)

/-- Further stages go on from what the earlier ones have reached. -/
theorem composed_append (xs ys : List Command) (input : Input) :
    composed answer engine files threshold (xs ++ ys) input =
      let first := composed answer engine files threshold xs input
      let later := composed answer engine files threshold ys first.reading
      ⟨later.reading, first.errors ++ later.errors, first.codes ++ later.codes⟩ := by
  unfold composed
  rw [List.foldl_append, foldl_step]
  rfl

/-- Each stage has an exit code. -/
theorem length_codes_composed (commands : List Command) (input : Input) :
    (composed answer engine files threshold commands input).codes.length = commands.length := by
  induction commands generalizing input with
  | nil => rfl
  | cons command rest ih =>
    rw [composed_cons]
    simp [ih]

/-- What is handed on behind stages that read an input without a failure ends without one. -/
theorem failure_composed {input : Input} (h : input.failure = none) (commands : List Command) :
    (composed answer engine files threshold commands input).reading.failure = none := by
  -- The input varies: each stage reads what the one before it has handed on.
  induction commands generalizing input with
  | nil => exact h
  | cons command rest ih =>
    rw [composed_cons]
    exact ih rfl

/-- Behind any stage the input of the pipeline does not matter: what is handed on ends without a
failure. -/
theorem failure_composed_of_ne_nil {commands : List Command} (hne : commands ≠ [])
    (input : Input) :
    (composed answer engine files threshold commands input).reading.failure = none := by
  cases commands with
  | nil => exact absurd rfl hne
  | cons command rest =>
    rw [composed_cons]
    exact failure_composed answer engine files threshold rfl rest

/-- `cat` hands on what it reads, whatever the bytes are, and says nothing. -/
theorem stage_handOn {input : Input} (h : input.failure = none) :
    stage answer engine files threshold handOn input = ⟨input.data, [], 0⟩ := by
  obtain ⟨data, failure⟩ := input
  obtain rfl : failure = none := h
  rw [stage_of_builtin (show Builtin.ofName? handOn.name = some .cat by decide)]
  show Handover.mk (data ++ []) [] 0 = _
  rw [List.append_nil]

/-- `cat` in front of stages that read an input without a failure adds its exit code and nothing
else. -/
theorem composed_handOn_cons {input : Input} (h : input.failure = none) (ys : List Command) :
    composed answer engine files threshold (handOn :: ys) input =
      let later := composed answer engine files threshold ys input
      { later with codes := 0 :: later.codes } := by
  have hinput : Input.ofBytes input.data = input := by rw [Input.ofBytes, ← h]
  rw [composed_cons, stage_handOn answer engine files threshold h]
  simp [hinput]

/-- `cat` between stages adds its exit code and nothing else, if what it reads ends without a
failure. -/
theorem composed_handOn_between {xs : List Command} {input : Input}
    (h : xs ≠ [] ∨ input.failure = none) (ys : List Command) :
    let first := composed answer engine files threshold xs input
    let later := composed answer engine files threshold ys first.reading
    composed answer engine files threshold (xs ++ ys) input =
        ⟨later.reading, first.errors ++ later.errors, first.codes ++ later.codes⟩ ∧
      composed answer engine files threshold (xs ++ handOn :: ys) input =
        ⟨later.reading, first.errors ++ later.errors, first.codes ++ 0 :: later.codes⟩ := by
  intro first later
  have hread : first.reading.failure = none := by
    rcases h with hne | hfailure
    · exact failure_composed_of_ne_nil answer engine files threshold hne input
    · exact failure_composed answer engine files threshold hfailure xs
  constructor
  · exact composed_append answer engine files threshold xs ys input
  · rw [composed_append]
    dsimp only
    rw [composed_handOn_cons answer engine files threshold hread]

end Composing

/-- The last of some exit codes is the last of those at the end, if there are any. -/
theorem getLastD_append {codes : List Int} (h : codes ≠ []) (before : List Int) (default : Int) :
    (before ++ codes).getLastD default = codes.getLastD default := by
  rw [List.getLastD_eq_getLast?, List.getLastD_eq_getLast?, List.getLast?_append,
    List.getLast?_eq_some_getLast h]
  rfl

section Running

variable {answer : Answer} {c : Context}

/-- What is found by the helper of the first stage, if there is one. -/
def unfedHead (inherited : Bool) (commands : List Command) (c : Context) : Option Failure :=
  commands.head?.bind fun first => unfedFirst inherited first c

/-- `cat` does not change what there is to say about the feeding of the first stage: it may stand in
front of it only if there is nothing to say. -/
theorem unfedHead_handOn_between (inherited : Bool) {xs : List Command}
    (h : xs ≠ [] ∨ c.input.failure = none) (ys : List Command) :
    unfedHead inherited (xs ++ handOn :: ys) c = unfedHead inherited (xs ++ ys) c := by
  cases xs with
  | cons x xs => rfl
  | nil =>
    have hinput := h.resolve_left fun hne => hne rfl
    have hcat := unfedFirst_of_failure_eq_none inherited handOn hinput
    cases ys with
    | nil => exact hcat
    | cons y ys => exact hcat.trans (unfedFirst_of_failure_eq_none inherited y hinput).symm

/-- What a run of two or more stages writes and how it ends, by their composition. -/
theorem wrote_run_of_two_le {commands : List Command} (hlength : 2 ≤ commands.length)
    (inherited : Bool) (hprograms : c.programs = .ofFunction answer) (hc : c.NeverFails) :
    let finish := composed answer c.patterns c.files c.threshold commands c.input
    let ran := (run commands inherited).runIn c
    ran.1 = .proceed (finish.codes.getLastD 0) ∧
      c.Wrote ran.2 finish.reading.data (finish.errors ++
        feedNote c.threshold (unfedHead inherited commands c) ++
        noted c.threshold .debug .pipeline
          s!"pipeline exit codes: {showCodes finish.codes}") := by
  obtain _ | ⟨first, _ | ⟨second, rest⟩⟩ := commands
  · exact absurd hlength (by decide)
  · exact absurd hlength (Nat.not_succ_le_self 1)
  · exact wrote_run first second rest inherited hprograms hc

/-- `cat` between two stages changes nothing. Of two pipelines, one with `cat` at some place and one
without it, each writes the same output and ends in the same way, and the complaints are the same;
behind them stands in both the note about the exit codes, which lists one code more for `cat`. Where
that note is not asked for, the error streams are the same byte for byte.

This holds at each place behind a first stage, whatever the stages are and whatever bytes are handed
on, and also in front of two or more stages if the input of the pipeline ends without a failure. -/
theorem run_handOn_between {xs ys : List Command} (hys : ys ≠ [])
    (hplace : xs ≠ [] ∨ 2 ≤ ys.length ∧ c.input.failure = none) (inherited : Bool)
    (hprograms : c.programs = .ofFunction answer) (hc : c.NeverFails) :
    let direct := (run (xs ++ ys) inherited).runIn c
    let detour := (run (xs ++ handOn :: ys) inherited).runIn c
    detour.1 = direct.1 ∧
      detour.2.out.contents = direct.2.out.contents ∧
      (∃ said before after,
        let listed (codes : List Int) := noted c.threshold .debug .pipeline
          s!"pipeline exit codes: {showCodes codes}"
        direct.2.err.contents = c.err.contents ++ (said ++ listed (before ++ after)) ∧
          detour.2.err.contents = c.err.contents ++ (said ++ listed (before ++ 0 :: after)) ∧
          before.length = xs.length ∧ after.length = ys.length) ∧
      (Journal.Level.debug.isWithin c.threshold = false →
        detour.2.err.contents = direct.2.err.contents) := by
  intro direct detour
  have hlength : 2 ≤ (xs ++ ys).length := by
    have hxs := List.length_pos_iff (l := xs)
    have hpos := List.length_pos_iff.mpr hys
    rw [List.length_append]
    rcases hplace with hne | ⟨htwo, -⟩
    · have := hxs.mpr hne
      omega
    · omega
  have hlength' : 2 ≤ (xs ++ handOn :: ys).length := by
    rw [List.length_append] at hlength ⊢
    exact Nat.le_trans hlength (Nat.add_le_add_left (Nat.le_succ _) _)
  let first := composed answer c.patterns c.files c.threshold xs c.input
  let later := composed answer c.patterns c.files c.threshold ys first.reading
  obtain ⟨hdirect, hdetour⟩ := composed_handOn_between answer c.patterns c.files c.threshold
    (hplace.imp_right And.right) ys
  -- Both pipelines have two stages or more, so that both are compositions.
  obtain ⟨hflow, hwrote⟩ := wrote_run_of_two_le hlength inherited hprograms hc
  obtain ⟨hflow', hwrote'⟩ := wrote_run_of_two_le hlength' inherited hprograms hc
  rw [hdirect] at hflow hwrote
  rw [hdetour] at hflow' hwrote'
  rw [unfedHead_handOn_between inherited (hplace.imp_right And.right)] at hwrote'
  -- The last exit code is that of the last stage of `ys`, with or without `cat` before it.
  have hbefore : first.codes.length = xs.length := length_codes_composed _ _ _ _ _ _
  have hafter : later.codes.length = ys.length := length_codes_composed _ _ _ _ _ _
  have hcodes : later.codes ≠ [] := by
    rw [← List.length_pos_iff, hafter]
    exact List.length_pos_iff.mpr hys
  have hlast : (first.codes ++ 0 :: later.codes).getLastD 0 =
      (first.codes ++ later.codes).getLastD 0 := by
    rw [getLastD_append hcodes, List.append_cons, getLastD_append hcodes]
  refine ⟨?_, ?_, ⟨_, first.codes, later.codes, hwrote.err, hwrote'.err, hbefore, hafter⟩, ?_⟩
  · rw [show detour.1 = _ from hflow', show direct.1 = _ from hflow]
    exact congrArg Flow.proceed hlast
  · exact hwrote'.out.trans hwrote.out.symm
  · intro hquiet
    rw [show detour.2.err.contents = _ from hwrote'.err,
      show direct.2.err.contents = _ from hwrote.err]
    simp [noted, hquiet]

end Running

/-- Behind a program that is missing, another one writes a zero byte and a byte that is not UTF-8,
without a newline at the end. `cat` hands them on to the last program as they are. -/
theorem cat_hands_on_bytes_of_any_kind :
    let answer : Answer := fun name _ input =>
      if name = "tool" then .ok ([0x00, 0xFF] ++ input, .code 3)
      else if name = "copy" then .ok (input, .code 5)
      else .error (.system .noEntry)
    let c : Context :=
      ⟨⟨[], []⟩, .ofFunction answer, ⟨[0x78], some .closed⟩, .unlimited, .unlimited, none,
        Pattern.compile⟩
    let xs : List Command := [⟨"nosuch", []⟩, ⟨"tool", []⟩]
    let ys : List Command := [⟨"copy", []⟩]
    let direct := (run (xs ++ ys)).runIn c
    let detour := (run (xs ++ handOn :: ys)).runIn c
    (ys ≠ [] ∧ xs ≠ [] ∧ c.programs = .ofFunction answer ∧ c.NeverFails) ∧
      (detour.1 = .proceed 5 ∧ direct.1 = .proceed 5) ∧
      (detour.2.out.contents = [0x00, 0xFF] ∧ direct.2.out.contents = [0x00, 0xFF]) ∧
      detour.2.err.contents = utf8 "nosuch: command not found\n" ∧
        direct.2.err.contents = utf8 "nosuch: command not found\n" := by
  intro answer c xs ys
  have hys : ys ≠ [] := by decide
  have hxs : xs ≠ [] := by decide
  have hc : c.NeverFails := ⟨Output.neverFails_unlimited, Output.neverFails_unlimited⟩
  have hdirect : ((run (xs ++ ys)).runIn c).1 = .proceed 5 := by decide +kernel
  have houtput : ((run (xs ++ ys)).runIn c).2.out.contents = [0x00, 0xFF] := by decide +kernel
  have herrors : ((run (xs ++ ys)).runIn c).2.err.contents =
      utf8 "nosuch: command not found\n" := by decide +kernel
  have hquiet : Journal.Level.debug.isWithin c.threshold = false := rfl
  have hprograms : c.programs = .ofFunction answer := rfl
  clear_value c xs ys
  obtain ⟨hflow, hout, -, herr⟩ := run_handOn_between hys (.inl hxs) false hprograms hc
  exact ⟨⟨hys, hxs, hprograms, hc⟩, ⟨hflow.trans hdirect, hdirect⟩, ⟨hout.trans houtput, houtput⟩,
    (herr hquiet).trans herrors, herrors⟩

end CommandShell.Pipeline
