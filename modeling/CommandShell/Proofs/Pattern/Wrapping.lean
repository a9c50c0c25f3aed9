import CommandShell.Proofs.Pattern.Bracket
import CommandShell.Proofs.Pattern.Opening
import CommandShell.Proofs.Pattern.Repetition

/-!
# Reading a pattern as a group of a longer one

A pattern is read step by step, and so is a longer pattern in which it stands as a group. The second
reading has the groups around the pattern open, but otherwise it does what the first one does
(`Progress.Embedded`, `Progress.step_embedded`).

So a pattern that can be read is found again in the longer one, unless what should close its group
is taken for a part of a comment (`wraps_read`). A pattern that cannot be read makes the longer one
unreadable, unless it closes a group that was never opened: that group is then the one around the
pattern (`read_opening_closing_of_error`).
-/

namespace CommandShell.Pattern

variable {tail : List Char}

/-! ## What has been read, without places -/

/-- What has been read since a group was opened, without places. -/
def Level.erase (level : Level) : Level :=
  ⟨0, level.branches.map Node.erase, 0, level.parts.map Node.erase⟩

/-- An open group without places. -/
def OpenGroup.erase (group : OpenGroup) : OpenGroup :=
  ⟨.nowhere, group.change, group.extended, group.outside.erase⟩

/-- Parts in sequence without places are made of the parts without places. -/
theorem Node.erase_ofParts (span : Span) (parts : List Node) :
    (Node.ofParts span parts).erase =
      match parts.map Node.erase with
      | [] => .empty .nowhere
      | [part] => part
      | parts => .concatenation .nowhere parts.reverse := by
  match parts with
  | [] => rfl
  | [part] => rfl
  | last :: second :: others =>
    rw [Node.ofParts, Node.erase, Node.eraseAll_eq_map, List.map_reverse]
    · rfl
    · exact nofun
    · exact nofun

/-- A pattern between word boundaries, without places. -/
def Node.betweenBoundaries (node : Node) : Node :=
  .concatenation .nowhere
    [.anchor .nowhere .wordBoundary, .group .nowhere [] node, .anchor .nowhere .wordBoundary]

theorem Node.isRepeatable_of_erase {node node' : Node} (h : node'.erase = node.erase) :
    node'.isRepeatable = node.isRepeatable := by
  have hrepeatable (node : Node) : node.isRepeatable = node.erase.isRepeatable := by
    cases node <;> rfl
  rw [hrepeatable node', h, hrepeatable node]

namespace Level

variable {level level' : Level}

theorem erase_branch (h : level'.erase = level.erase) (stop stop' : Nat) :
    (level'.branch stop').erase = (level.branch stop).erase := by
  obtain ⟨-, -, -, hparts⟩ := Level.mk.inj h
  rw [branch, branch, Node.erase_ofParts, Node.erase_ofParts, hparts]

theorem erase_nextBranch (h : level'.erase = level.erase) (stop stop' : Nat) :
    (level'.nextBranch stop').erase = (level.nextBranch stop).erase := by
  obtain ⟨-, hbranches, -, -⟩ := Level.mk.inj h
  change Level.mk 0 ((level'.branch stop').erase :: level'.branches.map Node.erase) 0 [] =
    ⟨0, (level.branch stop).erase :: level.branches.map Node.erase, 0, []⟩
  rw [erase_branch h stop, hbranches]

theorem erase_add (h : level'.erase = level.erase) {part part' : Node}
    (hpart : part'.erase = part.erase) : (level'.add part').erase = (level.add part).erase := by
  obtain ⟨-, hbranches, -, hparts⟩ := Level.mk.inj h
  change Level.mk 0 (level'.branches.map Node.erase) 0
      (part'.erase :: level'.parts.map Node.erase) =
    ⟨0, level.branches.map Node.erase, 0, part.erase :: level.parts.map Node.erase⟩
  rw [hbranches, hparts, hpart]

theorem erase_toNode (h : level'.erase = level.erase) (stop stop' : Nat) :
    (level'.toNode stop').erase = (level.toNode stop).erase := by
  have hbranch := erase_branch h stop stop'
  obtain ⟨-, hbranches, -, -⟩ := Level.mk.inj h
  have hempty : level'.branches.isEmpty = level.branches.isEmpty := by
    rw [← List.isEmpty_map, hbranches, List.isEmpty_map]
  rw [toNode, toNode, hempty]
  split
  · exact hbranch
  · rw [Node.erase, Node.erase, Node.eraseAll_eq_map, Node.eraseAll_eq_map, List.map_reverse,
      List.map_reverse, List.map_cons, List.map_cons, hbranch, hbranches]

end Level

namespace Progress

/-! ## One step -/

/-- The second reading is where the first one is, but of a longer pattern, in which the groups
`around` stand around the pattern of the first one. -/
structure Embedded (tail : List Char) (around : List OpenGroup) (p p' : Progress) : Prop where
  cursor : p.cursor.Embedded tail p'.cursor
  level : p'.level.erase = p.level.erase
  groups : p'.groups.map OpenGroup.erase = (p.groups ++ around).map OpenGroup.erase

/-- What a step of a longer pattern does, compared with that of the shorter one. -/
inductive StepSimulates (tail : List Char) (around : List OpenGroup) (base : List Char) :
    Except Fault Progress → Except Fault Progress → Prop
  | both {q q' : Progress} (embedded : q.Embedded tail around q')
    (suffix : q.cursor.rest <:+ base) : StepSimulates tail around base (.ok q) (.ok q')
  | neither {fault fault' : Fault} : StepSimulates tail around base (.error fault) (.error fault')
  /-- The shorter pattern closes a group that was never opened. -/
  | unopened {place : Span} {result' : Except Fault Progress} :
    StepSimulates tail around base (.error (.inPart .groupUnopened place)) result'
  /-- The longer pattern has been read beyond the end of the shorter one. -/
  | beyond {fault : Fault} {q' : Progress} (left : q'.cursor.rest <:+ closing.tail)
    (groups : around.length ≤ q'.groups.length) :
    StepSimulates tail around base (.error fault) (.ok q')
  /-- The shorter pattern ends with the opening brace behind a word boundary. -/
  | brace {fault : Fault} {q' : Progress} (next : q'.cursor.next? = some '\x7b')
    (rest : q'.cursor.advanceSkipping.rest = closing)
    (parts : ∃ span parts, q'.level.parts = .anchor span .wordBoundary :: parts) :
    StepSimulates tail around base (.error fault) (.ok q')

variable {around : List OpenGroup} {p p' : Progress}

theorem Embedded.length_le (h : p.Embedded tail around p') : around.length ≤ p'.groups.length := by
  have hlength := congrArg List.length h.groups
  rw [List.length_map, List.length_map, List.length_append] at hlength
  omega

theorem Embedded.add (h : p.Embedded tail around p') {part part' : Node} {after after' : Cursor}
    (hpart : part'.erase = part.erase) (hafter : after.Embedded tail after') :
    (p.add part after).Embedded tail around (p'.add part' after') :=
  ⟨hafter, Level.erase_add h.level hpart, h.groups⟩

/-- A part that is made of what is read alike is added to both patterns. -/
theorem StepSimulates.of_simulates {α β : Type} {erase : α → β} (h : p.Embedded tail around p')
    {result result' : Except Fault (α × Cursor)} {base : List Char}
    (hresult : Simulates tail (· <:+ closing.tail) base erase result result') (part : α → Node)
    (hpart : ∀ a a', erase a' = erase a → (part a').erase = (part a).erase) :
    StepSimulates tail around base
      (do let (a, after) ← result; return p.add (part a) after)
      (do let (a, after) ← result'; return p'.add (part a) after) := by
  cases hresult with
  | both value embedded suffix => exact .both (h.add (hpart _ _ value) embedded) suffix
  | neither => exact .neither
  | beyond left => exact .beyond left h.length_le

theorem openGroup_embedded (h : p.Embedded tail around p') {c : Char}
    (hc : p.cursor.next? = some c) :
    StepSimulates tail around p.cursor.rest.tail p.openGroup p'.openGroup := by
  have hopening := simulates_readOpening h.cursor hc
  rw [openGroup, openGroup, h.cursor.extended]
  generalize readOpening p.cursor = result at hopening ⊢
  generalize readOpening p'.cursor = result' at hopening ⊢
  cases hopening with
  | neither => exact .neither
  | @both opening opening' after after' value embedded suffix =>
    -- Flags are a part of the level, a group begins a level of its own on top of the others.
    have hafter (extended : Bool) :
        Cursor.Embedded tail { after with extended } { after' with extended } :=
      ⟨embedded.isTail, embedded.rest, rfl, embedded.names⟩
    cases opening with
    | flags span change =>
      cases opening' with
      | group span' change' => cases value
      | flags span' change' =>
        obtain ⟨-, rfl⟩ := Opening.flags.inj value
        exact .both (h.add rfl (hafter _)) suffix
    | group span change =>
      cases opening' with
      | flags span' change' => cases value
      | group span' change' =>
        obtain ⟨-, rfl⟩ := Opening.group.inj value
        refine .both ⟨hafter _, rfl, ?_⟩ suffix
        rw [List.map_cons, h.groups, List.cons_append, List.map_cons, OpenGroup.erase,
          OpenGroup.erase, h.level]
  | @beyond fault opening' after' left =>
    cases opening' with
    | flags span' change' => exact .beyond left h.length_le
    | group span' change' => exact .beyond left (Nat.le_succ_of_le h.length_le)

theorem closeGroup_embedded (h : p.Embedded tail around p') {c : Char}
    (hc : p.cursor.next? = some c) :
    StepSimulates tail around p.cursor.rest.tail p.closeGroup p'.closeGroup := by
  have hgroups := h.groups
  rw [closeGroup, closeGroup]
  cases hopen : p.groups with
  | nil => exact .unopened
  | cons group others =>
    rw [hopen] at hgroups
    obtain ⟨group', others', hopen', hgroup, hothers⟩ := List.map_eq_cons_iff.mp hgroups
    obtain ⟨-, hchange, hextended, houtside⟩ := OpenGroup.mk.inj hgroup
    have hafter := h.cursor.advance hc
    rw [hopen']
    refine .both ⟨⟨hafter.isTail, hafter.rest, hextended, hafter.names⟩, ?_, hothers⟩
      (p.cursor.rest_advance ▸ List.suffix_rfl)
    refine Level.erase_add houtside ?_
    rw [Node.erase, Node.erase, hchange, Level.erase_toNode h.level p.cursor.offset]

theorem repeatLast_embedded (h : p.Embedded tail around p') {c : Char}
    (hc : p.cursor.next? = some c) :
    StepSimulates tail around p.cursor.rest.tail (p.repeatLast c) (p'.repeatLast c) := by
  obtain ⟨-, hbranches, -, hparts⟩ := Level.mk.inj h.level
  rw [repeatLast, repeatLast]
  cases hlast : p.level.parts with
  | nil =>
    rw [hlast] at hparts
    rw [List.map_eq_nil_iff.mp hparts]
    exact .neither
  | cons body parts =>
    rw [hlast] at hparts
    obtain ⟨body', parts', hlast', hbody, hothers⟩ := List.map_eq_cons_iff.mp hparts
    rw [hlast']
    dsimp only
    rw [Node.isRepeatable_of_erase hbody]
    split
    · -- A repetition never goes on beyond the shorter pattern.
      have hread : Simulates tail (fun _ => False) p.cursor.rest.tail Node.erase _ _ :=
        simulates_readRepetition h.cursor hc hbody
      generalize readRepetition c body p.cursor = result at hread ⊢
      generalize readRepetition c body' p'.cursor = result' at hread ⊢
      cases hread with
      | neither => exact .neither
      | beyond left => exact left.elim
      | @both node node' after after' value embedded suffix =>
        refine .both ⟨embedded, ?_, h.groups⟩ suffix
        change Level.mk 0 (p'.level.branches.map Node.erase) 0 (node'.erase :: _) =
          ⟨0, p.level.branches.map Node.erase, 0, node.erase :: parts.map Node.erase⟩
        rw [hbranches, value, hothers]
    · exact .neither

theorem step_embedded (h : p.Embedded tail around p') {c : Char} (hc : p.cursor.next? = some c) :
    StepSimulates tail around p.cursor.rest.tail (p.step c) (p'.step c) := by
  have hrest := p.cursor.rest_advance
  rw [step.eq_def, step.eq_def]
  dsimp only
  split
  · exact openGroup_embedded h hc
  · exact closeGroup_embedded h hc
  · exact .both ⟨h.cursor.advance hc, Level.erase_nextBranch h.level _ _, h.groups⟩
      (hrest ▸ List.suffix_rfl)
  · exact .of_simulates h (simulates_readBracket h.cursor hc) Node.oneOf
      fun _ _ => congrArg Node.oneOf
  · exact repeatLast_embedded h hc
  · exact repeatLast_embedded h hc
  · exact repeatLast_embedded h hc
  · exact repeatLast_embedded h hc
  · rcases readItem_embedded h.cursor hc with
      hitem | ⟨⟨fault, hitem⟩, span, after', hitem', hafter'⟩
    · exact .of_simulates h hitem id fun _ _ => id
    · rw [hitem, hitem']
      exact .brace hafter'.1 hafter'.2 ⟨span, _, rfl⟩

/-! ## Reading to the end -/

/-- A step reads at least one character. -/
theorem step_suffix {c : Char} (hc : p.cursor.next? = some c) {q : Progress}
    (h : p.step c = .ok q) : q.cursor.rest <:+ p.cursor.rest.tail := by
  have hself : p.Embedded [] [] p := ⟨.refl .nothing _, rfl, by rw [List.append_nil]⟩
  have hstep := step_embedded hself hc
  rw [h] at hstep
  cases hstep with
  | both embedded suffix => exact suffix

/-- The progress once blanks have been skipped. -/
def skipBlanks (p : Progress) : Progress :=
  { p with cursor := p.cursor.skipBlanks }

theorem length_step_lt {c : Char} (hc : p.skipBlanks.cursor.next? = some c) {q : Progress}
    (h : p.skipBlanks.step c = .ok q) : q.cursor.rest.length < p.cursor.rest.length :=
  Nat.lt_of_lt_of_le (Cursor.length_lt_of_suffix hc (step_suffix hc h))
    p.cursor.skipBlanks_suffix.length_le

theorem run_of_end (fuel : Nat) (h : p.skipBlanks.cursor.next? = none) :
    run (fuel + 1) p = .ok p.skipBlanks := by
  change p.cursor.skipBlanks.next? = none at h
  rw [run, h]
  rfl

theorem run_of_next (fuel : Nat) {c : Char} (h : p.skipBlanks.cursor.next? = some c) :
    run (fuel + 1) p = p.skipBlanks.step c >>= run fuel := by
  change p.cursor.skipBlanks.next? = some c at h
  rw [run, h]
  rfl

/-- As many steps as there are characters are enough. -/
theorem run_eq_of_lt {fuel fuel' : Nat} (h : p.cursor.rest.length < fuel)
    (h' : p.cursor.rest.length < fuel') : run fuel p = run fuel' p := by
  -- Each step leaves less to be read, so what is left stays below both bounds.
  induction fuel generalizing p fuel' with
  | zero => cases h
  | succ fuel ih =>
    obtain ⟨fuel', rfl⟩ : ∃ n, fuel' = n + 1 := ⟨fuel' - 1, by omega⟩
    cases hnext : p.skipBlanks.cursor.next? with
    | none => rw [run_of_end fuel hnext, run_of_end fuel' hnext]
    | some c =>
      rw [run_of_next fuel hnext, run_of_next fuel' hnext]
      cases hstep : p.skipBlanks.step c with
      | error fault => rfl
      | ok q =>
        have hlength := length_step_lt hnext hstep
        exact ih (by omega) (by omega)

/-- Read what is left of a pattern. -/
def readToEnd (p : Progress) : Except Fault Node := do
  (← run (p.cursor.rest.length + 1) p).finish

theorem readToEnd_of_end (h : p.skipBlanks.cursor.next? = none) :
    p.readToEnd = p.skipBlanks.finish := by
  rw [readToEnd, run_of_end _ h]
  rfl

theorem readToEnd_of_next {c : Char} (h : p.skipBlanks.cursor.next? = some c) :
    p.readToEnd = p.skipBlanks.step c >>= readToEnd := by
  rw [readToEnd, run_of_next _ h]
  cases hstep : p.skipBlanks.step c with
  | error fault => rfl
  | ok q =>
    change run p.cursor.rest.length q >>= finish = run (q.cursor.rest.length + 1) q >>= finish
    rw [run_eq_of_lt (length_step_lt h hstep) (Nat.lt_succ_self _)]

theorem Embedded.skipBlanks (h : p.Embedded tail around p') :
    p.skipBlanks.Embedded tail around p'.skipBlanks :=
  ⟨h.cursor.skipBlanks, h.level, h.groups⟩

theorem readToEnd_of_nil (h : p.skipBlanks.cursor.rest = []) (hgroups : p.groups ≠ []) :
    ∃ fault, p.readToEnd = .error fault := by
  obtain ⟨group, others, hopen⟩ := List.exists_cons_of_ne_nil hgroups
  change p.skipBlanks.groups = group :: others at hopen
  rw [readToEnd_of_end (Cursor.next?_of_nil h), finish, hopen]
  exact ⟨_, rfl⟩

/-! ### Beyond the end of the shorter pattern -/

/-- A step that reads a part leaves the open groups as they are. -/
theorem groups_of_step_word {c : Char} (hc : c ∈ closing.tail) {q : Progress}
    (h : p.step c = .ok q) : q.groups = p.groups := by
  have hword : c = '\\' ∨ c = 'b' := by simpa [closing] using hc
  have hitem : p.step c = readItem c p.cursor >>= fun read => pure (p.add read.1 read.2) := by
    rcases hword with rfl | rfl <;> rfl
  rw [hitem] at h
  obtain ⟨read, -, h⟩ := exists_of_bind_eq_ok h
  cases h
  rfl

/-- Without the closing parenthesis, the groups that are open stay so. -/
theorem readToEnd_of_lost (h : p.cursor.rest <:+ closing.tail) (hgroups : p.groups ≠ []) :
    ∃ fault, p.readToEnd = .error fault := by
  induction hlength : p.cursor.rest.length using Nat.strong_induction_on generalizing p with
  | h n ih =>
    subst hlength
    cases hnext : p.skipBlanks.cursor.next? with
    | none => exact readToEnd_of_nil (Cursor.next?_eq_none_iff.mp hnext) hgroups
    | some c =>
      rw [readToEnd_of_next hnext]
      have hleft : p.skipBlanks.cursor.rest <:+ closing.tail :=
        p.cursor.skipBlanks_suffix.trans h
      cases hstep : p.skipBlanks.step c with
      | error fault => exact ⟨fault, rfl⟩
      | ok q =>
        -- Only a backslash or the letter behind it can be next, and neither closes a group.
        have hc : c ∈ closing.tail :=
          hleft.subset (Cursor.rest_eq_cons hnext ▸ List.mem_cons_self)
        refine ih _ (length_step_lt hnext hstep) ?_ ?_ rfl
        · exact ((step_suffix hnext hstep).trans (List.tail_suffix _)).trans hleft
        · rw [groups_of_step_word hc hstep]
          exact hgroups

/-- The end of a group fits only where exactly one group is open. -/
theorem readToEnd_of_closing (h : p.skipBlanks.cursor.rest = closing)
    (hgroups : p.groups.length ≠ 1) : ∃ fault, p.readToEnd = .error fault := by
  rw [readToEnd_of_next (Cursor.next?_of_closing h)]
  change ∃ fault, p.skipBlanks.closeGroup >>= readToEnd = .error fault
  match hopen : p.skipBlanks.groups with
  | [] =>
    rw [closeGroup, hopen]
    exact ⟨_, rfl⟩
  | [group] => exact absurd (congrArg List.length hopen) hgroups
  | group :: second :: others =>
    rw [closeGroup, hopen]
    exact readToEnd_of_lost (Cursor.advance_suffix_of_closing h) (List.cons_ne_nil second others)

/-- A brace that is left behind a word boundary begins no counts. -/
theorem readToEnd_of_brace (hnext : p.cursor.next? = some '\x7b')
    (hrest : p.cursor.advanceSkipping.rest = closing) {span : Span} {parts : List Node}
    (hparts : p.level.parts = .anchor span .wordBoundary :: parts) :
    ∃ fault, p.readToEnd = .error fault := by
  have hskip : p.skipBlanks = p := by
    rw [skipBlanks, Cursor.skipBlanks_of_next hnext (by decide) (by decide)]
  obtain ⟨fault, hfault⟩ := readCounted_of_closing hrest (.anchor span .wordBoundary)
  have hstep : p.step '\x7b' = .error fault := by
    change p.repeatLast '\x7b' = .error fault
    rw [repeatLast, hparts]
    change (readCounted _ p.cursor >>= _) = _
    rw [hfault]
    rfl
  rw [readToEnd_of_next (p := p) (c := '\x7b') (hskip.symm ▸ hnext), hskip, hstep]
  exact ⟨fault, rfl⟩

/-! ### Patterns that cannot be read -/

/-- Where the shorter pattern cannot be read, neither can the longer one, unless a group is closed
that was never opened. -/
theorem readToEnd_embedded_of_error (h : p.Embedded tail around p') (haround : around ≠ [])
    {fault : Fault} (hfault : p.readToEnd = .error fault) :
    (∃ place, fault = .inPart .groupUnopened place) ∨ ∃ fault', p'.readToEnd = .error fault' := by
  induction hlength : p.cursor.rest.length using Nat.strong_induction_on generalizing p p' with
  | h n ih =>
    subst hlength
    have hnow := h.skipBlanks
    have hmore := List.length_pos_iff.mpr haround
    have hopen := h.length_le
    obtain ⟨c, hc, hc'⟩ | ⟨hend, hend'⟩ | ⟨hend, hclosing⟩ := hnow.cursor.next
    · rw [readToEnd_of_next hc] at hfault
      rw [readToEnd_of_next hc']
      have hlength (q : Progress) := length_step_lt (q := q) hc
      have hstep := step_embedded hnow hc
      generalize p.skipBlanks.step c = result at hfault hlength hstep
      generalize p'.skipBlanks.step c = result' at hstep ⊢
      cases hstep with
      | both embedded suffix => exact ih _ (hlength _ rfl) embedded hfault rfl
      | @neither _ fault' => exact .inr ⟨fault', rfl⟩
      | @unopened place =>
        cases hfault
        exact .inl ⟨place, rfl⟩
      | beyond left groups =>
        exact .inr (readToEnd_of_lost left (List.ne_nil_of_length_pos (by omega)))
      | brace next rest parts =>
        obtain ⟨span, parts, hparts⟩ := parts
        exact .inr (readToEnd_of_brace next rest hparts)
    · -- Nothing is left to close the groups around.
      exact .inr (readToEnd_of_nil hend' (List.ne_nil_of_length_pos (by omega)))
    · -- The shorter pattern has left a group open, so the tail closes too few of them.
      refine .inr (readToEnd_of_closing hclosing ?_)
      have hlength := congrArg List.length h.groups
      rw [List.length_map, List.length_map, List.length_append] at hlength
      have hopen : p.groups ≠ [] := by
        intro hopen
        change p.skipBlanks.groups = [] at hopen
        rw [readToEnd_of_end (Cursor.next?_of_nil hend), finish, hopen] at hfault
        cases hfault
      have := List.length_pos_iff.mpr hopen
      omega

/-! ### Patterns that can be read -/

/-- The group around a pattern that is searched for between word boundaries. -/
def wordGroup : OpenGroup := ⟨⟨2, 3⟩, [], false, ⟨0, [], 0, [.anchor ⟨0, 2⟩ .wordBoundary]⟩⟩

/-- Behind the closing parenthesis, there is a word boundary. -/
theorem readToEnd_boundary (offset : Nat) (names : List (List Char × Span)) (level : Level) :
    readToEnd ⟨⟨closing.tail, offset, false, names⟩, level, []⟩ =
      .ok ((level.add (.anchor ⟨offset, offset + 2⟩ .wordBoundary)).toNode (offset + 2)) :=
  rfl

/-- The end of the group around a pattern completes the longer one. -/
theorem readToEnd_wordGroup (h : p.skipBlanks.cursor.rest = closing)
    (hgroups : p.groups.map OpenGroup.erase = [wordGroup.erase]) (stop : Nat) :
    ∃ node, p.readToEnd = .ok node ∧
      node.erase = (p.level.toNode stop).erase.betweenBoundaries := by
  obtain ⟨group, hopen, hgroup⟩ := List.map_eq_singleton_iff.mp hgroups
  change p.skipBlanks.groups = [group] at hopen
  obtain ⟨-, hchange, hextended, houtside⟩ := OpenGroup.mk.inj hgroup
  have hstep : p.skipBlanks.step ')' = p.skipBlanks.closeGroup := rfl
  rw [readToEnd_of_next (Cursor.next?_of_closing h), hstep, closeGroup, hopen]
  change ∃ node, readToEnd ⟨⟨p.skipBlanks.cursor.advance.rest, _, group.extended, _⟩, _, []⟩ = _ ∧ _
  rw [Cursor.rest_advance, h, hextended]
  refine ⟨_, readToEnd_boundary _ _ _, ?_⟩
  have hbody : p.skipBlanks.level.erase = p.level.erase := rfl
  have hnode (span : Span) : (Node.group span group.change
        (p.skipBlanks.level.toNode p.skipBlanks.cursor.offset)).erase =
      (Node.group .nowhere [] (p.level.toNode stop)).erase := by
    rw [Node.erase, Node.erase, hchange, Level.erase_toNode hbody stop]
    rfl
  have hanchor (span : Span) : (Node.anchor span .wordBoundary).erase =
      (Node.anchor .nowhere .wordBoundary).erase := rfl
  exact Level.erase_toNode (Level.erase_add (Level.erase_add houtside (hnode _)) (hanchor _)) 0 _

/-- What becomes of a pattern that can be read, first with the end of a group behind it, and then
within the group that is searched for between word boundaries. -/
inductive Wraps (node : Node) : Except Fault Node → Except Fault Node → Prop
  /-- The end of the group is taken for a part of a comment, so the group is never closed. -/
  | commented {node₂ : Node} {fault : Fault} (same : node₂.erase = node.erase) :
    Wraps node (.ok node₂) (.error fault)
  /-- The end of the group closes the group, and there must be one. -/
  | closed {fault : Fault} {node' : Node}
    (between : node'.erase = node.erase.betweenBoundaries) : Wraps node (.error fault) (.ok node')

variable {p₂ : Progress} {node : Node}

theorem wraps_of_end (h : p.Embedded closing [] p₂) (h' : p₂.Embedded [] [wordGroup] p')
    (hend : p.skipBlanks.cursor.next? = none) (hok : p.readToEnd = .ok node) :
    Wraps node p₂.readToEnd p'.readToEnd := by
  have hnow := h.skipBlanks.cursor
  have hnow' := h'.skipBlanks.cursor
  rw [readToEnd_of_end hend] at hok
  cases hgroups : p.skipBlanks.groups with
  | cons group others =>
    rw [finish, hgroups] at hok
    cases hok
  | nil =>
    rw [finish, hgroups] at hok
    obtain rfl := Except.ok.inj hok
    change p.groups = [] at hgroups
    have hgroups₂ : p₂.groups = [] := List.map_eq_nil_iff.mp (by rw [h.groups, hgroups]; rfl)
    have hgroups' : p'.groups.map OpenGroup.erase = [wordGroup.erase] := by
      rw [h'.groups, hgroups₂]
      rfl
    have hrest' : p'.skipBlanks.cursor.rest = p₂.skipBlanks.cursor.rest := by
      simpa using hnow'.rest
    obtain ⟨c, hc, -⟩ | ⟨-, hend₂⟩ | ⟨-, hclosing⟩ := hnow.next
    · rw [hend] at hc
      cases hc
    · -- The tail has been skipped with a comment.
      have hopen : p'.groups ≠ [] := by
        intro hopen
        rw [hopen] at hgroups'
        cases hgroups'
      obtain ⟨fault, hfault⟩ := readToEnd_of_nil (hrest'.trans hend₂) hopen
      change p₂.skipBlanks.groups = [] at hgroups₂
      rw [readToEnd_of_end (Cursor.next?_of_nil hend₂), finish, hgroups₂, hfault]
      exact .commented (Level.erase_toNode h.level _ _)
    · -- The tail closes the group, where there is one.
      obtain ⟨fault, hfault⟩ := readToEnd_of_closing hclosing (by rw [hgroups₂]; decide)
      obtain ⟨node', hnode', hbetween⟩ :=
        readToEnd_wordGroup (hrest'.trans hclosing) hgroups' p₂.skipBlanks.cursor.offset
      rw [hfault, hnode']
      exact .closed (hbetween.trans
        (congrArg Node.betweenBoundaries (Level.erase_toNode (h'.level.trans h.level) _ _)))

/-- A pattern that can be read is found again between word boundaries, unless it ends in a
comment. -/
theorem wraps_readToEnd (h : p.Embedded closing [] p₂) (h' : p₂.Embedded [] [wordGroup] p')
    (hok : p.readToEnd = .ok node) : Wraps node p₂.readToEnd p'.readToEnd := by
  induction hlength : p.cursor.rest.length using Nat.strong_induction_on generalizing p p₂ p' with
  | h n ih =>
    subst hlength
    cases hc : p.skipBlanks.cursor.next? with
    | none => exact wraps_of_end h h' hc hok
    | some c =>
      -- The three readings take the same step, since the first one does not end in a fault.
      have hc₂ := h.skipBlanks.cursor.next_eq hc
      have hc' := h'.skipBlanks.cursor.next_eq hc₂
      have hstep := step_embedded h.skipBlanks hc
      have hstep' := step_embedded h'.skipBlanks hc₂
      rw [readToEnd_of_next hc] at hok
      rw [readToEnd_of_next hc₂, readToEnd_of_next hc']
      obtain ⟨q, hq, hok⟩ := exists_of_bind_eq_ok hok
      rw [hq] at hstep
      generalize p₂.skipBlanks.step c = result₂ at hstep hstep' ⊢
      generalize p'.skipBlanks.step c = result' at hstep' ⊢
      cases hstep with
      | both embedded suffix =>
        cases hstep' with
        | both embedded' suffix' => exact ih _ (length_step_lt hc hq) embedded embedded' hok rfl

end Progress

/-! ## Whole patterns -/

open Progress

theorem read_eq_readToEnd (text : List Char) : read text = (Progress.start text).readToEnd := rfl

/-- What is in front of a pattern that is searched for between word boundaries. -/
def opening : List Char := ['\\', 'b', '(', '?', ':']

/-- Where the longer pattern goes on with the shorter one. -/
theorem read_opening_append (text : List Char) :
    read (opening ++ text) =
      readToEnd ⟨⟨text, 5, false, []⟩, .startingAt 5, [wordGroup]⟩ := by
  rw [read_eq_readToEnd, readToEnd_of_next (c := '\\') rfl]
  change readToEnd ⟨⟨['(', '?', ':'] ++ text, 2, false, []⟩,
    (Level.startingAt 0).add (.anchor ⟨0, 2⟩ .wordBoundary), []⟩ = _
  rw [readToEnd_of_next (c := '(') rfl]
  rfl

theorem start_embedded (text : List Char) :
    (Progress.start text).Embedded closing [] (.start (text ++ closing)) :=
  ⟨⟨.closing, .inr rfl, rfl, rfl⟩, rfl, rfl⟩

theorem start_embedded_wordGroup (text : List Char) :
    (Progress.start text).Embedded [] [wordGroup]
      ⟨⟨text, 5, false, []⟩, .startingAt 5, [wordGroup]⟩ :=
  ⟨⟨.nothing, .inl rfl, rfl, rfl⟩, rfl, rfl⟩

/-- A pattern that can be read is read alike between word boundaries. -/
theorem wraps_read {text : List Char} {node : Node} (h : read text = .ok node) :
    Wraps node (read (text ++ closing)) (read (opening ++ (text ++ closing))) := by
  rw [read_opening_append]
  exact wraps_readToEnd (start_embedded text) (start_embedded_wordGroup _) h

/-- A pattern that cannot be read cannot be read between word boundaries either, unless it closes a
group that was never opened. -/
theorem read_opening_closing_of_error {text : List Char} {fault : Fault}
    (h : read text = .error fault) :
    (∃ place, fault = .inPart .groupUnopened place) ∨
      ∃ fault', read (opening ++ (text ++ closing)) = .error fault' := by
  have hstart : (Progress.start text).Embedded closing [wordGroup]
      ⟨⟨text ++ closing, 5, false, []⟩, .startingAt 5, [wordGroup]⟩ :=
    ⟨⟨.closing, .inr rfl, rfl, rfl⟩, rfl, rfl⟩
  rw [read_opening_append]
  exact readToEnd_embedded_of_error hstart (List.cons_ne_nil wordGroup []) h

end CommandShell.Pattern
