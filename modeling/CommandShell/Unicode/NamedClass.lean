import CommandShell.Unicode.RangeTable

/-!
# Named Sets of Characters

Sets of characters with the names they go by. In names, blanks, underscores, hyphens, an initial
`is` and the difference between capitals and small letters do not count, nor does anything that is
not ASCII.
-/

namespace CommandShell.Unicode

/-- A set of characters. -/
abbrev CharClass := Char → Bool

/-- The characters of a table. -/
def RangeTable.members (table : RangeTable) : CharClass := fun c => table.contains c.toNat

/-- A name without what does not count in it. -/
def plainName (name : List Char) : List Char :=
  let text (cs : List Char) : List Char :=
    (cs.filter fun c => c.toNat < 128 && c != ' ' && c != '_' && c != '-').map Char.toLower
  match name with
  | a :: b :: rest =>
    if a.toLower = 'i' ∧ b.toLower = 's' ∧ text rest ≠ ['c'] then text rest else text name
  | _ => text name

/-- The names say the same. -/
def sameName (a b : String) : Bool :=
  plainName a.toList == plainName b.toList

/-- A set of characters with its names. -/
structure NamedClass where
  /-- Its names. -/
  names : List String
  /-- The set. -/
  members : CharClass

/-- The set of a given name. -/
def classNamed? (name : String) (classes : List NamedClass) : Option CharClass :=
  (classes.find? fun one => one.names.any (sameName name)).map (·.members)

end CommandShell.Unicode
