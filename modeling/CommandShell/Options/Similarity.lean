/-!
# Similar Words

How alike two words are, to suggest a known word for one that is not: the Jaro similarity, which
goes by the letters that two words share at nearby places and by how many of those are out of
order.
-/

namespace CommandShell.Options

/-- Words are suggested if they are more alike than this. -/
def similarityThreshold : Float := 0.7

/-- The first position from `low` below `high` at which `letters` has `c` and that is not taken. -/
def findLetter? (letters : Array Char) (taken : List Nat) (c : Char) (low high : Nat) :
    Option Nat :=
  (List.range high).find? fun j => low ≤ j && letters[j]? == some c && !taken.contains j

/-- For each letter of a word that has a partner in `letters`, the letter and the place of its
partner. Partners are at most `reach` places away and belong to one letter only. -/
def partners (letters : Array Char) (reach : Nat) : (place : Nat) → (taken : List Nat) →
    List Char → List (Char × Nat)
  | _, _, [] => []
  | place, taken, c :: rest =>
    match findLetter? letters taken c (place - reach) (min letters.size (place + reach + 1)) with
    | some j => (c, j) :: partners letters reach (place + 1) (j :: taken) rest
    | none => partners letters reach (place + 1) taken rest

/-- The Jaro similarity of two words, between 0 and 1. -/
def similarity (a b : String) : Float :=
  let first := a.toList
  let second := b.toList.toArray
  if first.isEmpty && second.isEmpty then 1.0
  else
    let reach := max first.length second.size / 2 - 1
    let pairs := partners second reach 0 [] first
    let places := (pairs.map (·.2)).mergeSort
    let moved := (pairs.zip places).countP fun ((c, _), j) => second[j]? != some c
    let count := pairs.length
    if count = 0 then 0.0
    else
      (count.toFloat / first.length.toFloat + count.toFloat / second.size.toFloat +
        (count - moved / 2).toFloat / count.toFloat) / 3.0

/-- Put a word among others that are in order of similarity, after those as similar. -/
def insertByScore (word : Float × String) : List (Float × String) → List (Float × String)
  | [] => [word]
  | other :: rest =>
    if other.1 > word.1 then word :: other :: rest else other :: insertByScore word rest

/-- The known words that are similar to a word, the most similar one last. -/
def similarWords (word : String) (known : List String) : List String :=
  let scored := known.map fun other => (similarity word other, other)
  let similar := scored.filter fun entry => entry.1 > similarityThreshold
  (similar.foldl (fun sorted entry => insertByScore entry sorted) []).map (·.2)

end CommandShell.Options
