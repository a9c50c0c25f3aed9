import CommandShell.Proofs.Line.Splitter
import Mathlib.Data.List.TakeWhile

/-!
# Splitting follows the quotes

A line can be split exactly when its quotes are closed, and the quote that is left open is the one
that `Quoting` finds open at the end of the line (`tokenize_eq_error_iff`). Every token closes its
own quotes, and no token other than `|` itself begins with an unquoted `|`; both are parts of an
invariant of the splitter, `Splitter.Sound`, which every character keeps.

Blanks at the ends of a line do not matter (`tokenize_trim`), not even inside a quote that is left
open there.
-/

namespace CommandShell.Line

/-- No quote is left open at the end of the text. -/
def IsClosed (cs : List Char) : Prop :=
  Quoting.bare.run cs = .bare

instance (cs : List Char) : Decidable (IsClosed cs) :=
  inferInstanceAs (Decidable (Quoting.bare.run cs = .bare))

/-- A text is closed exactly when no quote is open at its end. -/
theorem isClosed_iff_openQuote? {cs : List Char} :
    IsClosed cs ↔ (Quoting.bare.run cs).openQuote? = none :=
  Quoting.openQuote?_eq_none_iff.symm

namespace Quoting

/-- Outside quotes, only quotes matter. -/
theorem step_bare_of_ne {c : Char} (hs : c ≠ '\'') (hd : c ≠ '"') :
    Quoting.bare.step c = .bare := by
  simp only [step, hs, hd, if_false]

theorem run_bare_of_ne {cs : List Char} (h : ∀ c ∈ cs, c ≠ '\'' ∧ c ≠ '"') :
    Quoting.bare.run cs = .bare := by
  induction cs with
  | nil => rfl
  | cons c cs ih =>
    obtain ⟨hsingle, hdouble⟩ := h c List.mem_cons_self
    rw [run_cons, step_bare_of_ne hsingle hdouble]
    exact ih fun d hd => h d (List.mem_cons_of_mem c hd)

theorem ne_quote_of_isBlank {c : Char} (h : Text.isBlank c = true) :
    c ≠ '\'' ∧ c ≠ '"' ∧ c ≠ '\\' := by
  refine ⟨?_, ?_, ?_⟩ <;> (rintro rfl; exact absurd h (by decide))

theorem step_bare_of_isBlank {c : Char} (h : Text.isBlank c = true) :
    Quoting.bare.step c = .bare := by
  obtain ⟨hs, hd, -⟩ := ne_quote_of_isBlank h
  exact step_bare_of_ne hs hd

/-- A blank character changes nothing about which quote is open. -/
theorem openQuote?_step_of_isBlank (q : Quoting) {c : Char} (h : Text.isBlank c = true) :
    (q.step c).openQuote? = q.openQuote? := by
  obtain ⟨hs, hd, hb⟩ := ne_quote_of_isBlank h
  cases q <;> simp [step, hs, hd, hb, openQuote?]

end Quoting

namespace Splitter

/-- The splitter is at quotes where `Quoting` is. -/
@[simp]
theorem quoting_step (s : Splitter) (c : Char) : (s.step c).quoting = s.quoting.step c := by
  unfold step
  split_ifs with hbar hblank
  · obtain ⟨hq, rfl⟩ := hbar
    rw [hq]
    rfl
  · rw [hblank.1, Quoting.step_bare_of_isBlank hblank.2]
  · rfl

@[simp]
theorem quoting_run (s : Splitter) (cs : List Char) :
    (s.run cs).quoting = s.quoting.run cs := by
  induction cs generalizing s with
  | nil => rfl
  | cons c cs ih =>
    change ((s.step c).run cs).quoting = _
    rw [ih, quoting_step, Quoting.run_cons]

theorem finish_eq_ok {s : Splitter} (h : s.quoting = .bare) :
    s.finish = .ok s.flushed.reverse := by
  simp [finish, h, Quoting.openQuote?]

theorem finish_eq_error {s : Splitter} {quote : Char} (h : s.quoting.openQuote? = some quote) :
    s.finish = .error (unclosed quote) := by
  simp [finish, h]

/-- A blank character at the end of a line makes no difference. -/
theorem finish_step_of_isBlank (s : Splitter) {c : Char} (h : Text.isBlank c = true) :
    (s.step c).finish = s.finish := by
  by_cases hq : s.quoting = .bare
  · -- Outside quotes a blank ends the token, and so does the end of the line.
    have hbar : c ≠ '|' := by rintro rfl; exact absurd h (by decide)
    have hstep : s.step c = ⟨.bare, [], s.flushed⟩ := by simp [step, hq, hbar, h]
    rw [hstep, finish_eq_ok rfl, finish_eq_ok hq]
    simp [flushed]
  · -- Inside quotes it is only the open quote that counts.
    obtain ⟨quote, hquote⟩ : ∃ quote, s.quoting.openQuote? = some quote :=
      Option.ne_none_iff_exists'.mp (mt Quoting.openQuote?_eq_none_iff.mp hq)
    rw [finish_eq_error hquote]
    apply finish_eq_error
    rw [quoting_step, Quoting.openQuote?_step_of_isBlank _ h, hquote]

theorem finish_run_of_isBlankText (s : Splitter) {cs : List Char} (h : Text.IsBlankText cs) :
    (s.run cs).finish = s.finish := by
  induction cs generalizing s with
  | nil => rfl
  | cons c cs ih =>
    change ((s.step c).run cs).finish = _
    rw [ih _ fun d hd => h d (List.mem_cons_of_mem c hd),
      finish_step_of_isBlank _ (h c List.mem_cons_self)]

theorem run_start_dropWhile (cs : List Char) :
    start.run (cs.dropWhile Text.isBlank) = start.run cs := by
  induction cs with
  | nil => rfl
  | cons c cs ih =>
    by_cases h : Text.isBlank c = true
    · have hbar : c ≠ '|' := by rintro rfl; exact absurd h (by decide)
      have hstep : start.step c = start := by simp [step, start, flushed, hbar, h]
      rw [List.dropWhile_cons_of_pos h, ih]
      change _ = (start.step c).run cs
      rw [hstep]
    · rw [List.dropWhile_cons_of_neg h]

/-- What is true of a splitter at any time: the token being collected is at quotes where the
splitter is, it does not begin with a `|` outside quotes, and the finished tokens are closed. -/
structure Sound (s : Splitter) : Prop where
  /-- The quotes of the token being collected stand as those of the whole line. -/
  quoting_current : Quoting.bare.run s.current.reverse = s.quoting
  /-- The token being collected does not begin with a `|`. -/
  head_ne_bar : s.current.reverse.head? ≠ some '|'
  /-- The finished tokens leave no quote open. -/
  closed : ∀ token ∈ s.tokens, IsClosed token

theorem sound_start : start.Sound :=
  ⟨rfl, by simp [start], by simp [start]⟩

namespace Sound

variable {s : Splitter}

theorem quoting_eq_bare_of_nil (hs : s.Sound) (h : s.current = []) : s.quoting = .bare := by
  rw [← hs.quoting_current, h]
  rfl

/-- Outside quotes the token being collected may be finished. -/
theorem closed_flushed (hs : s.Sound) (hq : s.quoting = .bare) :
    ∀ token ∈ s.flushed, IsClosed token := by
  unfold flushed
  split_ifs with h
  · exact hs.closed
  · intro token htoken
    rcases List.mem_cons.mp htoken with rfl | htoken
    · exact hs.quoting_current.trans hq
    · exact hs.closed token htoken

theorem step (hs : s.Sound) (c : Char) : (s.step c).Sound := by
  unfold Splitter.step
  split_ifs with hbar hblank
  -- A bar is a token of its own, which leaves no quote open.
  · refine ⟨rfl, by simp, fun token htoken => ?_⟩
    rcases List.mem_cons.mp htoken with rfl | htoken
    · rfl
    · exact hs.closed_flushed hbar.1 token htoken
  · exact ⟨rfl, by simp, hs.closed_flushed hblank.1⟩
  · refine ⟨?_, ?_, hs.closed⟩
    · rw [List.reverse_cons, Quoting.run_append, hs.quoting_current]
      rfl
    · rw [List.reverse_cons, List.head?_append]
      cases h : s.current.reverse.head? with
      | some d =>
        rw [Option.some_or, ← h]
        exact hs.head_ne_bar
      | none =>
        -- The first character of a token stands outside quotes, where `|` is a token of its own.
        have hnil : s.current = [] := by simpa using h
        rw [Option.none_or]
        rintro hc
        exact hbar ⟨hs.quoting_eq_bare_of_nil hnil, by simpa using hc⟩

theorem run (hs : s.Sound) (cs : List Char) : (s.run cs).Sound := by
  induction cs generalizing s with
  | nil => exact hs
  | cons c cs ih => exact ih (hs.step c)

end Sound

end Splitter

/-- A closed line is split into the tokens that the splitter has at its end. -/
theorem tokenize_eq_ok {cs : List Char} (h : IsClosed cs) :
    tokenize cs = .ok (Splitter.start.run cs).flushed.reverse := by
  rw [tokenize_eq_finish]
  exact Splitter.finish_eq_ok ((Splitter.quoting_run _ _).trans h)

theorem exists_tokenize_eq_ok {cs : List Char} (h : IsClosed cs) :
    ∃ tokens, tokenize cs = .ok tokens :=
  ⟨_, tokenize_eq_ok h⟩

/-- Splitting fails exactly when a quote is open at the end, and names that quote. -/
theorem tokenize_eq_error_iff {cs : List Char} {e : Error} :
    tokenize cs = .error e ↔
      ∃ quote, (Quoting.bare.run cs).openQuote? = some quote ∧ e = unclosed quote := by
  have hq : (Splitter.start.run cs).quoting = Quoting.bare.run cs := Splitter.quoting_run _ _
  constructor
  · intro h
    cases hopen : (Quoting.bare.run cs).openQuote? with
    | none =>
      rw [tokenize_eq_ok (isClosed_iff_openQuote?.mpr hopen)] at h
      cases h
    | some quote =>
      rw [tokenize_eq_finish, Splitter.finish_eq_error (by rw [hq, hopen])] at h
      exact ⟨quote, rfl, (Except.error.inj h).symm⟩
  · rintro ⟨quote, hopen, rfl⟩
    rw [tokenize_eq_finish]
    exact Splitter.finish_eq_error (by rw [hq, hopen])

/-- A line that is split is closed. -/
theorem isClosed_of_tokenize {cs : List Char} {tokens : List Token}
    (h : tokenize cs = .ok tokens) : IsClosed cs := by
  rw [isClosed_iff_openQuote?]
  by_contra hopen
  obtain ⟨quote, hquote⟩ := Option.ne_none_iff_exists'.mp hopen
  rw [tokenize_eq_error_iff.mpr ⟨quote, hquote, rfl⟩] at h
  cases h

/-- Every token closes its own quotes. -/
theorem isClosed_of_mem_tokenize {cs : List Char} {tokens : List Token}
    (h : tokenize cs = .ok tokens) {token : Token} (htoken : token ∈ tokens) :
    IsClosed token := by
  have hcs := isClosed_of_tokenize h
  rw [tokenize_eq_ok hcs] at h
  have hs : (Splitter.start.run cs).Sound := Splitter.sound_start.run cs
  apply hs.closed_flushed ((Splitter.quoting_run _ _).trans hcs)
  rw [← List.mem_reverse, Except.ok.inj h]
  exact htoken

/-- Blanks at the ends of a line do not matter to splitting. -/
theorem tokenize_trim (cs : List Char) : tokenize (Text.trim cs) = tokenize cs := by
  set inner := cs.dropWhile Text.isBlank
  have hinner : (inner.reverse.dropWhile Text.isBlank).reverse ++
      (inner.reverse.takeWhile Text.isBlank).reverse = inner := by
    rw [← List.reverse_append, List.takeWhile_append_dropWhile, List.reverse_reverse]
  have hblank : Text.IsBlankText (inner.reverse.takeWhile Text.isBlank).reverse :=
    fun c hc => List.mem_takeWhile_imp (List.mem_reverse.mp hc)
  calc tokenize (Text.trim cs)
      = (Splitter.start.run (inner.reverse.dropWhile Text.isBlank).reverse).finish :=
        tokenize_eq_finish _
    _ = ((Splitter.start.run (inner.reverse.dropWhile Text.isBlank).reverse).run
          (inner.reverse.takeWhile Text.isBlank).reverse).finish :=
        (Splitter.finish_run_of_isBlankText _ hblank).symm
    _ = (Splitter.start.run inner).finish := by rw [← Splitter.run_append, hinner]
    _ = tokenize cs := by rw [Splitter.run_start_dropWhile, tokenize_eq_finish]

/-- Trimming leaves nothing exactly of a blank text. -/
theorem trim_eq_nil_iff {cs : List Char} : Text.trim cs = [] ↔ Text.IsBlankText cs := by
  rw [Text.trim, List.reverse_eq_nil_iff, List.dropWhile_eq_nil_iff]
  constructor
  · intro h
    -- Dropping blanks from the front leaves nothing, or a text that begins with no blank.
    have hnil : cs.dropWhile Text.isBlank = [] := by
      by_contra hne
      have hhead := h _ (List.mem_reverse.mpr (List.head_mem hne))
      rw [List.head_dropWhile_not Text.isBlank hne] at hhead
      cases hhead
    exact List.dropWhile_eq_nil_iff.mp hnil
  · intro h c hc
    exact h c ((List.dropWhile_suffix _).subset (List.mem_reverse.mp hc))

end CommandShell.Line
