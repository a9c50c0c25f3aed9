import CommandShell.Programs.Records.Scalar

/-!
# Arrays

Arrays have elements with texts for keys. The order in which keys are gone through follows from
how elements are kept: in rows, which are numbered by a sum over the bytes of the key, and in a row
the element that has been used last comes first.
-/

namespace CommandShell.Programs.Records

/-- A key: a text, which may have been made of a number. -/
structure Key where
  /-- The text. -/
  text : Bytes
  /-- It has been made of a number. -/
  isNumber : Bool

/-- An element of an array. -/
structure Element where
  /-- Its key. -/
  key : Key
  /-- Its value. -/
  value : Scalar

/-- An array: its elements, the one used last first. -/
abbrev Table := List Element

namespace Table

/-- The element with a key. -/
def find? (table : Table) (key : Key) : Option Element :=
  List.find? (fun element => element.key.text == key.text) table

/-- The elements without the one with a key. -/
def erase (table : Table) (key : Key) : Table :=
  List.filter (fun element => element.key.text != key.text) table

/-- Give the element with a key a value. -/
def put (table : Table) (key : Key) (value : Scalar) : Table :=
  ⟨((table.find? key).map (·.key)).getD key, value⟩ :: table.erase key

/-- The value of the element with a key; there is one from then on. -/
def use (table : Table) (key : Key) : Scalar × Table :=
  let value := ((table.find? key).map (·.value)).getD .unset
  (value, table.put key value)

/-- A table of texts with the numbers from one on for keys. -/
def ofList (values : List Scalar) : Table :=
  (values.zipIdx.map fun (value, i) => ⟨⟨utf8 (toString (i + 1)), true⟩, value⟩).reverse

end Table

/-- How many rows there are. -/
def rowCount : Nat := 64

/-- The sum over the bytes of a text that tells the row of a key. -/
def rowSum (text : Bytes) : UInt32 :=
  text.foldl (fun sum b => (sum ^^^ b.toUInt32) * 16777619) 2166136261

/-- Put elements in the order of their rows; the ones of a row keep their order. -/
def inRows (row : Element → Nat) (elements : List Element) : List Element :=
  (elements.map fun element => (row element, element)).mergeSort
    (fun a b => a.1 ≤ b.1) |>.map (·.2)

/-- The keys of an array in the order in which they are gone through. Keys that are numbers have
rows of their own first, and are put before the others from the last one on. -/
def Table.keys (table : Table) : List Bytes :=
  let value (element : Element) : Nat := (lossyText element.key.text).toNat?.getD 0
  let numbers := inRows (fun element => value element % rowCount)
    (List.filter (·.key.isNumber) table)
  let others := List.filter (!·.key.isNumber) table
  (inRows (fun element => (rowSum element.key.text).toNat % rowCount)
    (numbers.reverse ++ others)).map (·.key.text)

end CommandShell.Programs.Records
