import CommandShell.Pattern.Reader

/-!
# Nesting

How deeply the parts of a pattern are nested is limited. Groups, repetitions, branches, sequences,
brackets, and the unions and combinations within brackets each count as one level; single
characters, classes and conditions count as none. The fault is in the first part, from the outside
in and from left to right, that lies too deep.
-/

namespace CommandShell.Pattern

mutual

/-- The first part of a set that lies too deep, if `depth` levels are around the set. -/
def CharSet.tooDeep? (depth : Nat) : CharSet → Option Span
  | .literal _ | .range .. | .ascii .. | .short .. | .property .. | .union _ [] => none
  | .bracketed span _ body =>
    if nestingLimit ≤ depth then some span else body.tooDeep? (depth + 1)
  | .union span (first :: others) =>
    if nestingLimit ≤ depth then some span
    else (first.tooDeep? (depth + 1)).or (CharSet.anyTooDeep? (depth + 1) others)
  | .combined span _ left right =>
    if nestingLimit ≤ depth then some span
    else (left.tooDeep? (depth + 1)).or (right.tooDeep? (depth + 1))

/-- The first part of some sets that lies too deep. -/
def CharSet.anyTooDeep? (depth : Nat) : List CharSet → Option Span
  | [] => none
  | first :: others => (first.tooDeep? depth).or (CharSet.anyTooDeep? depth others)

end

mutual

/-- The first part of a pattern that lies too deep, if `depth` levels are around the pattern. -/
def Node.tooDeep? (depth : Nat) : Node → Option Span
  | .empty _ | .flags .. | .literal _ | .dot _ | .anchor .. => none
  | .oneOf set => set.tooDeep? depth
  | .repetition span body .. | .group span _ body =>
    if nestingLimit ≤ depth then some span else body.tooDeep? (depth + 1)
  | .alternation span parts | .concatenation span parts =>
    if nestingLimit ≤ depth then some span else Node.anyTooDeep? (depth + 1) parts

/-- The first part of some patterns that lies too deep. -/
def Node.anyTooDeep? (depth : Nat) : List Node → Option Span
  | [] => none
  | first :: others => (first.tooDeep? depth).or (Node.anyTooDeep? depth others)

end

/-- Read a pattern that is not nested too deeply. -/
def readWithinLimit (pattern : List Char) : Except Fault Node := do
  let node ← read pattern
  match node.tooDeep? 0 with
  | some span => .error (.inPart .nestingTooDeep span)
  | none => return node

end CommandShell.Pattern
