import CommandShell.Proofs.Line.Retained
import CommandShell.Proofs.Session.Ending
import CommandShell.Proofs.Text.Validity

/-!
# Input that is not text

Sessions and searches read bytes line by line, and decode each line on its own. This comes to the
same as if the whole input had been decoded, written as text and read again
(`Session.mended_input_reads_alike`): the lines are the same texts, and nothing but their texts
matters.

What replaces a sequence that is not valid is a character of the line like any other. It stays in a
word of the line, wherever it stands, and such a word is neither `exit` nor a number; so a line with
bytes that are not valid does not end a session (`Session.flow_runLine_of_replacement_mem`).
-/

namespace CommandShell

namespace Session

/-- A run depends on the texts of its lines only. -/
theorem runLines_congr {lines lines' : List Bytes}
    (h : lines.map Utf8.decode = lines'.map Utf8.decode) (prompt : Option String)
    (failure : Option Failure) (session : Session) :
    runLines prompt failure session lines = runLines prompt failure session lines' := by
  -- The session varies, since each line leaves another one to the next.
  induction lines generalizing lines' session with
  | nil =>
    obtain rfl : lines' = [] := List.map_eq_nil_iff.mp h.symm
    rfl
  | cons line rest ih =>
    cases lines' with
    | nil => cases h
    | cons line' rest' =>
      obtain ⟨hline, hrest⟩ := List.cons.inj h
      have htext : lossyText line = lossyText line' := congrArg String.ofList hline
      rw [runLines, runLines, htext]
      simp only [ih hrest]

/-- The same is done with an input when each sequence in it that is not valid has been replaced. -/
theorem run_mended (session : Session) (prompt : Option String) (input : Input) :
    session.run prompt input.mended = session.run prompt input :=
  runLines_congr input.map_decode_lines_mended prompt input.failure session

end Session

/-- What asks for a status consists of letters, digits and signs, so that nothing in it has
replaced a sequence. -/
theorem Exit.Asks.replacement_notMem {args : List String} {n : Int} (h : Asks args n)
    {word : String} (hword : word ∈ Builtin.exitName :: args) :
    Utf8.replacement ∉ word.toList := by
  rcases List.mem_cons.mp hword with rfl | hargs
  · decide
  · cases h with
    | nothing => exact absurd hargs List.not_mem_nil
    | number hinteger =>
      obtain rfl := List.mem_singleton.mp hargs
      intro hmem
      rcases hinteger.isDigit_or_sign hmem with hdigit | hsign | hsign
      · exact absurd hdigit (by decide)
      · exact absurd hsign (by decide)
      · exact absurd hsign (by decide)

namespace Session

/-- A line in which a sequence has been replaced leaves an exit code, whatever else it says. -/
theorem flow_runLine_of_replacement_mem {line : Bytes} (h : Utf8.replacement ∈ Utf8.decode line)
    (session : Session) (c : Context) :
    ∃ code, ((session.runLine (lossyText line)).runIn c).1.2 = .proceed code := by
  cases hflow : ((session.runLine (lossyText line)).runIn c).1.2 with
  | proceed code => exact ⟨code, rfl⟩
  | exit n =>
    obtain ⟨args, hparse, hasks⟩ := flow_runLine_eq_exit_iff.mp hflow
    have hmem : Utf8.replacement ∈ (lossyText line).toList := by
      rwa [lossyText, String.toList_ofList]
    -- The character would have to be in one of the words of the single command.
    obtain ⟨command, hcommand, word, hword, hreplacement⟩ :=
      Line.mem_words_of_parse hparse (by decide) hmem
    obtain rfl := List.mem_singleton.mp hcommand
    exact absurd hreplacement (hasks.replacement_notMem hword)

/-- An input that is not text is read as the text in which each sequence that is not valid has been
replaced, although it is decoded line by line.

Behind each newline, decoding begins anew, and there are as many newlines in the text as in the
bytes: a sequence that is not valid, or is cut short by a newline or the end, takes no newline with
it and makes none. So the lines are those of the text, and there are as many of them. Sessions and
searches do the same in any context, with all that they write, leave and give. And a line that is
not valid shows that in its text, and leaves an exit code, so that the session goes on behind it. -/
theorem mended_input_reads_alike (input : Input) :
    let text := Utf8.decode input.data
    (∀ front back, input.data = front ++ Input.newline :: back →
        text = Utf8.decode front ++ '\n' :: Utf8.decode back) ∧
      (Input.cutBehind input.data).flatMap Utf8.decode = text ∧
      text.count '\n' = input.data.count Input.newline ∧
      input.lines.map Utf8.decode = Input.linesOfText input.failure text ∧
      input.mended.lines.map Utf8.decode = Input.linesOfText input.failure text ∧
      input.mended.lines.length = input.lines.length ∧
      (∀ session prompt c, (Session.run session prompt input.mended).runIn c =
        (Session.run session prompt input).runIn c) ∧
      (∀ pattern after label c, (Grep.search pattern after label input.mended).runIn c =
        (Grep.search pattern after label input).runIn c) ∧
      ∀ line, Utf8.decode? line = none → Utf8.replacement ∈ Utf8.decode line ∧
        ∀ session c, ∃ code,
          ((Session.runLine session (lossyText line)).runIn c).1.2 = .proceed code := by
  intro text
  have hlines := input.map_decode_lines_mended
  refine ⟨?_, Utf8.flatMap_decode_cutBehind _, Utf8.count_decode _, input.map_decode_lines, ?_, ?_,
    ?_, ?_, ?_⟩
  · intro front back hdata
    show Utf8.decode input.data = _
    rw [hdata, Utf8.decode_append_newline]
  · rw [hlines]
    exact input.map_decode_lines
  · simpa using congrArg List.length hlines
  · intro session prompt c
    rw [run_mended]
  · intro pattern after label c
    have houtput : Search.output pattern after label input.mended =
        Search.output pattern after label input := by
      rw [Search.output, Search.output, hlines]
    unfold Grep.search
    rw [houtput]
    rfl
  · intro line hinvalid
    have hreplacement := Utf8.replacement_mem_decode hinvalid
    exact ⟨hreplacement, flow_runLine_of_replacement_mem hreplacement⟩

end Session

end CommandShell
