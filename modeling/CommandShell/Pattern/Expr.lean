/-!
# Matching

What a pattern matches, without regard to how it is written: characters of certain sets and
conditions on places, put together by sequence, choice and repetition.

A text of `n` characters has `n + 1` places. A set of places is kept as a number, with a bit for
each place. Matching takes the set of places where a match may begin to the set of places where it
may then end, so that each way of putting expressions together has one equation. A pattern is found
in a text if it leads from the set of all places to some place.
-/

namespace CommandShell.Pattern

/-- A condition on the place between two characters; at an end of the text there is only one. -/
abbrev PlaceTest := (before : Option Char) → (after : Option Char) → Bool

/-- An expression over tests `κ` of one character and tests `τ` of one place. -/
inductive Expr (κ τ : Type) where
  /-- Matches nothing but the empty text. -/
  | empty
  /-- Matches one character that passes a test. -/
  | oneOf (test : κ)
  /-- Matches the empty text at a place that passes a test. -/
  | look (test : τ)
  /-- Matches one expression and then another. -/
  | sequence (first second : Expr κ τ)
  /-- Matches one of two expressions. -/
  | either (left right : Expr κ τ)
  /-- Matches an expression at least `least` times and, if there is a bound, at most `most`
  times. -/
  | repeated (body : Expr κ τ) (least : Nat) (most : Option Nat)

namespace Expr

variable {κ τ κ' τ' : Type}

/-- Several expressions one after the other. -/
def ofSequence : List (Expr κ τ) → Expr κ τ
  | [] => .empty
  | [only] => only
  | first :: rest => .sequence first (ofSequence rest)

/-- One of an expression and some others. -/
def ofChoice (first : Expr κ τ) : List (Expr κ τ) → Expr κ τ
  | [] => first
  | second :: rest => .either first (ofChoice second rest)

/-- Replace the tests of an expression. -/
def map (onChar : κ → κ') (onPlace : τ → τ') : Expr κ τ → Expr κ' τ'
  | .empty => .empty
  | .oneOf test => .oneOf (onChar test)
  | .look test => .look (onPlace test)
  | .sequence first second => .sequence (first.map onChar onPlace) (second.map onChar onPlace)
  | .either left right => .either (left.map onChar onPlace) (right.map onChar onPlace)
  | .repeated body least most => .repeated (body.map onChar onPlace) least most

end Expr

/-- A set of places: bit `i` says whether place `i` belongs to it. -/
abbrev Places := Nat

/-- A number that is put together bit by bit, from the highest bit to the lowest. The bits that
were added last are kept apart, so that most additions have to do with a small number only. -/
structure Packing where
  /-- The bits that were added first. -/
  high : Nat
  /-- How many bits have been added since. -/
  width : Nat
  /-- Those bits. -/
  low : Nat

namespace Packing

/-- How many bits are kept apart. -/
def widthLimit : Nat := 512

/-- No bits. -/
def empty : Packing := ⟨0, 0, 0⟩

/-- The number put together so far. -/
def value (packing : Packing) : Nat :=
  packing.high <<< packing.width + packing.low

/-- Add a bit below the others. -/
def add (bit : Bool) (packing : Packing) : Packing :=
  if packing.width = widthLimit then ⟨packing.value, 1, bit.toNat⟩
  else ⟨packing.high, packing.width + 1, 2 * packing.low + bit.toNat⟩

@[simp]
theorem value_empty : empty.value = 0 := rfl

@[simp]
theorem value_add (bit : Bool) (packing : Packing) :
    (packing.add bit).value = 2 * packing.value + bit.toNat := by
  unfold add
  split
  · simp only [value, Nat.shiftLeft_eq]
    omega
  · simp only [value, Nat.shiftLeft_eq, Nat.pow_succ]
    rw [← Nat.mul_assoc]
    omega

end Packing

namespace Places

/-- The set given by the memberships of the places in order. -/
def ofBits (bits : List Bool) : Places :=
  (bits.foldr Packing.add .empty).value

@[simp]
theorem ofBits_nil : ofBits [] = 0 := rfl

/-- The membership of the first place is the lowest bit. -/
@[simp]
theorem ofBits_cons (bit : Bool) (bits : List Bool) :
    ofBits (bit :: bits) = 2 * ofBits bits + bit.toNat :=
  Packing.value_add bit _

/-- The places in front of a character that passes a test. -/
def beforeChar (text : List Char) (test : Char → Bool) : Places :=
  ofBits (text.map test)

/-- The characters around each place. -/
def neighbours (text : List Char) : List (Option Char × Option Char) :=
  (none :: text.map some).zip (text.map some ++ [none])

/-- The places that pass a test. -/
def passing (text : List Char) (test : PlaceTest) : Places :=
  ofBits ((neighbours text).map fun (before, after) => test before after)

/-- All places of a text of `n` characters. -/
def all (n : Nat) : Places := 1 <<< (n + 1) - 1

/-- Apply `step` exactly `count` times; nothing changes any more once it yields what it was
given. -/
def iterate (step : Places → Places) : (count : Nat) → Places → Places
  | 0, places => places
  | count + 1, places =>
    let next := step places
    if next = places then places else iterate step count next

/-- Apply `step` at most `count` times, and take together all places that come up. -/
def gather (step : Places → Places) : (count : Nat) → Places → Places
  | 0, places => places
  | count + 1, places =>
    let next := places ||| step places
    if next = places then places else gather step count next

end Places

namespace Expr

/-- The places where a match may end that begins at one of some places, in a text of `n`
characters. The tests are given as the places that pass them. -/
def ends (n : Nat) : Expr Places Places → Places → Places
  | .empty, places => places
  | .oneOf test, places => (places &&& test) <<< 1
  | .look test, places => places &&& test
  | .sequence first second, places => second.ends n (first.ends n places)
  | .either left right, places => left.ends n places ||| right.ends n places
  | .repeated body least most, places =>
    let more := match most with
      | none => n + 1
      | some most => most - least
    Places.gather (body.ends n) more (Places.iterate (body.ends n) least places)

/-- The expression matches somewhere in a text. -/
def isFound (expr : Expr (Char → Bool) PlaceTest) (text : List Char) : Bool :=
  let tests := expr.map (Places.beforeChar text) (Places.passing text)
  tests.ends text.length (Places.all text.length) != 0

end Expr

end CommandShell.Pattern
