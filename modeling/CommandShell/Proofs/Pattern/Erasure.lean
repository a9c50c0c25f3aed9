import CommandShell.Pattern.Compiled

/-!
# Patterns without their places

The places that are noted with the parts of a pattern matter to complaints only. Once they are
erased, two patterns that are written alike at different places of a text are the same, and erasing
them changes neither how deep a pattern is nested (`Node.isSome_tooDeep?_erase`) nor what it means
(`Node.toOption_meaning_erase`).
-/

namespace CommandShell.Pattern

/-- The place of what has none. -/
def Span.nowhere : Span := ⟨0, 0⟩

/-- A character without its place. -/
def Literal.erase (one : Literal) : Literal :=
  { one with span := .nowhere }

mutual

/-- A set of characters without the places of its parts. -/
def CharSet.erase : CharSet → CharSet
  | .literal one => .literal one.erase
  | .range _ first last => .range .nowhere first.erase last.erase
  | .ascii _ kind negated => .ascii .nowhere kind negated
  | .short _ kind negated => .short .nowhere kind negated
  | .property _ query negated => .property .nowhere query negated
  | .bracketed _ negated body => .bracketed .nowhere negated body.erase
  | .union _ members => .union .nowhere (CharSet.eraseAll members)
  | .combined _ operation left right => .combined .nowhere operation left.erase right.erase

/-- Some sets of characters without the places of their parts. -/
def CharSet.eraseAll : List CharSet → List CharSet
  | [] => []
  | first :: others => first.erase :: CharSet.eraseAll others

end

mutual

/-- A pattern without the places of its parts. -/
def Node.erase : Node → Node
  | .empty _ => .empty .nowhere
  | .flags _ change => .flags .nowhere change
  | .literal one => .literal one.erase
  | .dot _ => .dot .nowhere
  | .anchor _ kind => .anchor .nowhere kind
  | .oneOf set => .oneOf set.erase
  | .repetition _ body least most => .repetition .nowhere body.erase least most
  | .group _ change body => .group .nowhere change body.erase
  | .alternation _ branches => .alternation .nowhere (Node.eraseAll branches)
  | .concatenation _ parts => .concatenation .nowhere (Node.eraseAll parts)

/-- Some patterns without the places of their parts. -/
def Node.eraseAll : List Node → List Node
  | [] => []
  | first :: others => first.erase :: Node.eraseAll others

end

theorem CharSet.eraseAll_eq_map (members : List CharSet) :
    CharSet.eraseAll members = members.map CharSet.erase := by
  induction members with
  | nil => rfl
  | cons first others ih => rw [CharSet.eraseAll, ih, List.map_cons]

theorem Node.eraseAll_eq_map (nodes : List Node) : Node.eraseAll nodes = nodes.map Node.erase := by
  induction nodes with
  | nil => rfl
  | cons first others ih => rw [Node.eraseAll, ih, List.map_cons]

/-! ## Nesting -/

mutual

theorem CharSet.isSome_tooDeep?_erase (depth : Nat) (set : CharSet) :
    (set.erase.tooDeep? depth).isSome = (set.tooDeep? depth).isSome := by
  match set with
  | .literal _ | .range .. | .ascii .. | .short .. | .property .. => rfl
  | .union _ [] => rfl
  | .bracketed _ _ body =>
    rw [CharSet.erase, CharSet.tooDeep?, CharSet.tooDeep?]
    split
    · rfl
    · exact CharSet.isSome_tooDeep?_erase (depth + 1) body
  | .union _ (first :: others) =>
    rw [CharSet.erase, CharSet.eraseAll, CharSet.tooDeep?, CharSet.tooDeep?]
    split
    · rfl
    · rw [Option.isSome_or, Option.isSome_or, CharSet.isSome_tooDeep?_erase (depth + 1) first,
        CharSet.isSome_anyTooDeep?_eraseAll (depth + 1) others]
  | .combined _ _ left right =>
    rw [CharSet.erase, CharSet.tooDeep?, CharSet.tooDeep?]
    split
    · rfl
    · rw [Option.isSome_or, Option.isSome_or, CharSet.isSome_tooDeep?_erase (depth + 1) left,
        CharSet.isSome_tooDeep?_erase (depth + 1) right]

theorem CharSet.isSome_anyTooDeep?_eraseAll (depth : Nat) (members : List CharSet) :
    (CharSet.anyTooDeep? depth (CharSet.eraseAll members)).isSome =
      (CharSet.anyTooDeep? depth members).isSome := by
  match members with
  | [] => rfl
  | first :: others =>
    rw [CharSet.eraseAll, CharSet.anyTooDeep?, CharSet.anyTooDeep?, Option.isSome_or,
      Option.isSome_or, CharSet.isSome_tooDeep?_erase depth first,
      CharSet.isSome_anyTooDeep?_eraseAll depth others]

end

mutual

/-- How deep a pattern is nested does not depend on places. -/
theorem Node.isSome_tooDeep?_erase (depth : Nat) (node : Node) :
    (node.erase.tooDeep? depth).isSome = (node.tooDeep? depth).isSome := by
  match node with
  | .empty _ | .flags .. | .literal _ | .dot _ | .anchor .. => rfl
  | .oneOf set => exact set.isSome_tooDeep?_erase depth
  | .repetition _ body .. | .group _ _ body =>
    rw [Node.erase, Node.tooDeep?, Node.tooDeep?]
    split
    · rfl
    · exact Node.isSome_tooDeep?_erase (depth + 1) body
  | .alternation _ parts | .concatenation _ parts =>
    rw [Node.erase, Node.tooDeep?, Node.tooDeep?]
    split
    · rfl
    · exact Node.isSome_anyTooDeep?_eraseAll (depth + 1) parts

theorem Node.isSome_anyTooDeep?_eraseAll (depth : Nat) (nodes : List Node) :
    (Node.anyTooDeep? depth (Node.eraseAll nodes)).isSome =
      (Node.anyTooDeep? depth nodes).isSome := by
  match nodes with
  | [] => rfl
  | first :: others =>
    rw [Node.eraseAll, Node.anyTooDeep?, Node.anyTooDeep?, Option.isSome_or, Option.isSome_or,
      Node.isSome_tooDeep?_erase depth first, Node.isSome_anyTooDeep?_eraseAll depth others]

end

mutual

theorem CharSet.tooDeep?_of_le {depth depth' : Nat} (h : depth ≤ depth') (set : CharSet)
    (hset : set.tooDeep? depth' = none) : set.tooDeep? depth = none := by
  match set with
  | .literal _ | .range .. | .ascii .. | .short .. | .property .. | .union _ [] => rfl
  | .bracketed _ _ body =>
    rw [CharSet.tooDeep?] at hset ⊢
    split at hset
    · cases hset
    · rw [if_neg (by omega)]
      exact CharSet.tooDeep?_of_le (Nat.succ_le_succ h) body hset
  | .union _ (first :: others) =>
    rw [CharSet.tooDeep?] at hset ⊢
    split at hset
    · cases hset
    · obtain ⟨hfirst, hothers⟩ := Option.or_eq_none_iff.mp hset
      rw [if_neg (by omega), CharSet.tooDeep?_of_le (Nat.succ_le_succ h) first hfirst,
        CharSet.anyTooDeep?_of_le (Nat.succ_le_succ h) others hothers]
      rfl
  | .combined _ _ left right =>
    rw [CharSet.tooDeep?] at hset ⊢
    split at hset
    · cases hset
    · obtain ⟨hleft, hright⟩ := Option.or_eq_none_iff.mp hset
      rw [if_neg (by omega), CharSet.tooDeep?_of_le (Nat.succ_le_succ h) left hleft,
        CharSet.tooDeep?_of_le (Nat.succ_le_succ h) right hright]
      rfl

theorem CharSet.anyTooDeep?_of_le {depth depth' : Nat} (h : depth ≤ depth')
    (members : List CharSet) (hmembers : CharSet.anyTooDeep? depth' members = none) :
    CharSet.anyTooDeep? depth members = none := by
  match members with
  | [] => rfl
  | first :: others =>
    rw [CharSet.anyTooDeep?] at hmembers ⊢
    obtain ⟨hfirst, hothers⟩ := Option.or_eq_none_iff.mp hmembers
    rw [CharSet.tooDeep?_of_le h first hfirst, CharSet.anyTooDeep?_of_le h others hothers]
    rfl

end

mutual

/-- What is not too deep within some levels is not too deep within fewer. -/
theorem Node.tooDeep?_of_le {depth depth' : Nat} (h : depth ≤ depth') (node : Node)
    (hnode : node.tooDeep? depth' = none) : node.tooDeep? depth = none := by
  match node with
  | .empty _ | .flags .. | .literal _ | .dot _ | .anchor .. => rfl
  | .oneOf set => exact set.tooDeep?_of_le h hnode
  | .repetition _ body .. | .group _ _ body =>
    rw [Node.tooDeep?] at hnode ⊢
    split at hnode
    · cases hnode
    · rw [if_neg (by omega)]
      exact Node.tooDeep?_of_le (Nat.succ_le_succ h) body hnode
  | .alternation _ parts | .concatenation _ parts =>
    rw [Node.tooDeep?] at hnode ⊢
    split at hnode
    · cases hnode
    · rw [if_neg (by omega)]
      exact Node.anyTooDeep?_of_le (Nat.succ_le_succ h) parts hnode

theorem Node.anyTooDeep?_of_le {depth depth' : Nat} (h : depth ≤ depth') (nodes : List Node)
    (hnodes : Node.anyTooDeep? depth' nodes = none) : Node.anyTooDeep? depth nodes = none := by
  match nodes with
  | [] => rfl
  | first :: others =>
    rw [Node.anyTooDeep?] at hnodes ⊢
    obtain ⟨hfirst, hothers⟩ := Option.or_eq_none_iff.mp hnodes
    rw [Node.tooDeep?_of_le h first hfirst, Node.anyTooDeep?_of_le h others hothers]
    rfl

end

/-! ## Meaning -/

theorem toOption_bind {α β : Type} (first : Except Fault α) (next : α → Except Fault β) :
    (first >>= next).toOption = first.toOption.bind fun a => (next a).toOption := by
  cases first <;> rfl

theorem Modes.toOption_negateIf (modes : Modes) (span span' : Span) (negated : Bool)
    (set : Unicode.CharClass) :
    (modes.negateIf span negated set).toOption = (modes.negateIf span' negated set).toOption := by
  rw [negateIf, negateIf]
  split
  · split <;> rfl
  · rfl

theorem Modes.toOption_propertyClass (modes : Modes) (span span' : Span) (query : PropertyQuery) :
    (modes.propertyClass span query).toOption = (modes.propertyClass span' query).toOption := by
  rw [propertyClass, propertyClass]
  split
  · cases query.characters <;> rfl
  · rfl

theorem Modes.toOption_dotClass (modes : Modes) (span span' : Span) :
    (modes.dotClass span).toOption = (modes.dotClass span').toOption := by
  rw [dotClass, dotClass]
  split <;> rfl

theorem Literal.toOption_resolve_erase (modes : Modes) (one : Literal) :
    (one.erase.resolve modes).toOption = (one.resolve modes).toOption := by
  rw [Literal.resolve, Literal.resolve]
  change (if !modes.unicode && one.asByte && 128 ≤ one.char.toNat then _ else _ :
    Except Fault Char).toOption = _
  split <;> rfl

theorem Literal.toOption_resolveInSet_erase (modes : Modes) (one : Literal) :
    (one.erase.resolveInSet modes).toOption = (one.resolveInSet modes).toOption := by
  rw [Literal.resolveInSet, Literal.resolveInSet, toOption_bind, toOption_bind,
    one.toOption_resolve_erase]
  congr 1
  funext c
  split <;> rfl

mutual

theorem CharSet.toOption_characters_erase (modes : Modes) (set : CharSet) :
    (set.erase.characters modes).toOption = (set.characters modes).toOption := by
  match set with
  | .literal one =>
    rw [CharSet.erase, CharSet.characters, CharSet.characters, toOption_bind, toOption_bind,
      one.toOption_resolveInSet_erase]
  | .range _ first last =>
    rw [CharSet.erase, CharSet.characters, CharSet.characters]
    simp only [toOption_bind, Literal.toOption_resolveInSet_erase]
  | .ascii .. | .short .. => exact modes.toOption_negateIf _ _ _ _
  | .property _ query negated =>
    rw [CharSet.erase, CharSet.characters, CharSet.characters, toOption_bind, toOption_bind,
      modes.toOption_propertyClass _ _ query]
    congr 1
    funext set
    exact modes.toOption_negateIf _ _ _ _
  | .bracketed _ negated body =>
    rw [CharSet.erase, CharSet.characters, CharSet.characters, toOption_bind, toOption_bind,
      CharSet.toOption_characters_erase modes body]
    congr 1
    funext set
    exact modes.toOption_negateIf _ _ _ _
  | .union _ members => exact CharSet.toOption_charactersOfAny_eraseAll modes members
  | .combined _ _ left right =>
    rw [CharSet.erase, CharSet.characters, CharSet.characters]
    simp only [toOption_bind, CharSet.toOption_characters_erase modes left,
      CharSet.toOption_characters_erase modes right]

theorem CharSet.toOption_charactersOfAny_eraseAll (modes : Modes) (members : List CharSet) :
    (CharSet.charactersOfAny modes (CharSet.eraseAll members)).toOption =
      (CharSet.charactersOfAny modes members).toOption := by
  match members with
  | [] => rfl
  | first :: others =>
    rw [CharSet.eraseAll, CharSet.charactersOfAny, CharSet.charactersOfAny]
    simp only [toOption_bind, CharSet.toOption_characters_erase modes first,
      CharSet.toOption_charactersOfAny_eraseAll modes others]

end

mutual

/-- What a pattern means does not depend on places. -/
theorem Node.toOption_meaning_erase (modes : Modes) (node : Node) :
    (node.erase.meaning modes).toOption = (node.meaning modes).toOption := by
  match node with
  | .empty _ | .flags .. | .anchor .. => rfl
  | .literal one =>
    rw [Node.erase, Node.meaning, Node.meaning, toOption_bind, toOption_bind,
      one.toOption_resolve_erase]
  | .dot _ =>
    rw [Node.erase, Node.meaning, Node.meaning, toOption_bind, toOption_bind,
      modes.toOption_dotClass _ _]
  | .oneOf set =>
    rw [Node.erase, Node.meaning, Node.meaning, toOption_bind, toOption_bind,
      set.toOption_characters_erase]
  | .repetition _ body .. | .group _ _ body =>
    rw [Node.erase, Node.meaning, Node.meaning, toOption_bind, toOption_bind,
      Node.toOption_meaning_erase _ body]
  | .alternation _ parts | .concatenation _ parts =>
    rw [Node.erase, Node.meaning, Node.meaning, toOption_bind, toOption_bind,
      Node.toOption_meanings_eraseAll modes parts]

theorem Node.toOption_meanings_eraseAll (modes : Modes) (nodes : List Node) :
    (Node.meanings modes (Node.eraseAll nodes)).toOption =
      (Node.meanings modes nodes).toOption := by
  match nodes with
  | [] => rfl
  | first :: others =>
    rw [Node.eraseAll, Node.meanings, Node.meanings]
    simp only [toOption_bind, Node.toOption_meaning_erase _ first,
      Node.toOption_meanings_eraseAll _ others]

end

end CommandShell.Pattern
