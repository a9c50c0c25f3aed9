import CommandShell.Text.Integer

/-!
# Variables

The variables that `$NAME` expands to. The variable named `?` is always there to begin with; it
holds the exit status of the last command in decimal.
-/

namespace CommandShell

/-- The variables of a session with their values. -/
structure Environment where
  /-- Names and values; the first binding of a name is the one in force. -/
  bindings : List (String × String)
  deriving DecidableEq, Repr

namespace Environment

/-- The name of the variable that holds the last exit status. -/
def statusName : String := "?"

/-- The value of a variable, if it is set. -/
def get? (env : Environment) (name : String) : Option String :=
  env.bindings.lookup name

/-- The value of a variable; one that is not set has the empty value. -/
def get (env : Environment) (name : String) : String :=
  (env.get? name).getD ""

/-- The variable is set. -/
def contains (env : Environment) (name : String) : Bool :=
  (env.get? name).isSome

/-- Bindings in which `name` has the value `value`. -/
def assign (name value : String) : List (String × String) → List (String × String)
  | [] => [(name, value)]
  | (key, old) :: rest =>
    if name = key then (name, value) :: rest else (key, old) :: assign name value rest

/-- Give a variable a value. -/
def set (env : Environment) (name value : String) : Environment :=
  ⟨assign name value env.bindings⟩

/-- Variables that hold nothing but the status 0. -/
def initial : Environment := ⟨[(statusName, "0")]⟩

/-- The initial variables together with those of a process. -/
def ofProcess (process : List (String × String)) : Environment :=
  process.foldl (fun env binding => env.set binding.1 binding.2) initial

/-- Record an exit status. -/
def setStatus (env : Environment) (code : Int) : Environment :=
  env.set statusName (Text.decimal code)

/-- The status variable is read as a signed number of this many values on either side of zero. -/
def statusBound : Nat := Nat.pow 2 31

/-- The last exit status: the value of `?` read as a 32-bit integer, or 0 if it is none. -/
def status (env : Environment) : Int :=
  match Text.readSigned statusBound (env.get statusName).toList with
  | .ok code => code
  | .error _ => 0

@[simp]
theorem lookup_assign_self (name value : String) (bindings : List (String × String)) :
    (assign name value bindings).lookup name = some value := by
  fun_induction assign name value bindings with
  | case1 => simp
  | case2 old rest => simp
  | case3 key old rest h ih =>
    have hne : (name == key) = false := beq_eq_false_iff_ne.mpr h
    simp [List.lookup_cons, hne, ih]

theorem lookup_assign_of_ne {name other : String} (h : other ≠ name) (value : String)
    (bindings : List (String × String)) :
    (assign name value bindings).lookup other = bindings.lookup other := by
  have hne : (other == name) = false := beq_eq_false_iff_ne.mpr h
  fun_induction assign name value bindings with
  | case1 => simp [List.lookup_cons, hne]
  | case2 old rest => simp [List.lookup_cons, hne]
  | case3 key old rest _ ih => simp [List.lookup_cons, ih]

@[simp]
theorem get_set_self (env : Environment) (name value : String) :
    (env.set name value).get name = value := by
  simp [get, get?, set]

/-- Setting one variable leaves the others as they were. -/
theorem get_set_of_ne (env : Environment) {name other : String} (h : other ≠ name)
    (value : String) : (env.set name value).get other = env.get other := by
  simp [get, get?, set, lookup_assign_of_ne h]

end Environment

end CommandShell
