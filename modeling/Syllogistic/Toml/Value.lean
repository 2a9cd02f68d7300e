/-!
# TOML values

What a TOML document says. A table remembers how it came to be, because that
decides whether it may still be added to: a table that a longer header implied
may get a header of its own, one that dotted keys made may get more dotted keys,
and one in braces is closed for good.
-/

namespace Syllogistic.Toml

/-- How a table came to be. -/
inductive Origin where
  /-- By its own header. -/
  | header
  /-- By the header of a table inside it. -/
  | implied
  /-- By a dotted key. -/
  | dotted
  /-- In braces. -/
  | inline
  deriving DecidableEq, Repr

/-- A TOML value. Numbers with a fraction and dates are told apart from the rest,
but nothing needs what they say. -/
inductive Value where
  | text (content : String)
  | integer (number : Int)
  | real
  | boolean (value : Bool)
  | moment
  | array (items : List Value)
  | table (origin : Origin) (entries : List (String × Value))
  /-- Tables with one header in double brackets each. -/
  | tables (rows : List (List (String × Value)))
  deriving Repr, Inhabited

/-- The entries of a table. -/
abbrev Entries := List (String × Value)

/-- Why a text is no TOML document, or does not say what is asked of it. -/
inductive Fault where
  | malformed
  | tooDeep
  | duplicateKey (key : String)
  | notATable (key : String)
  | wrongType (key : String)
  | missingKey (key : String)
  deriving DecidableEq, Repr

def Fault.message : Fault → String
  | malformed => "malformed document"
  | tooDeep => "nested too deeply"
  | duplicateKey key => "duplicate key " ++ key
  | notATable key => "not a table: " ++ key
  | wrongType key => "unexpected value of " ++ key
  | missingKey key => "missing key " ++ key

/-- How many values may be nested in each other, and how many parts a key may
have. -/
def depthLimit : Nat := 79

namespace Entries

/-- The value of a key. -/
def get? (entries : Entries) (key : String) : Option Value :=
  entries.lookup key

/-- Adds an entry at the end, or changes the one with the key. -/
def put (key : String) (value : Value) : Entries → Entries
  | [] => [(key, value)]
  | (other, old) :: rest =>
    if other = key then (key, value) :: rest else (other, old) :: put key value rest

/-- The entries without those of a key. -/
def remove (entries : Entries) (key : String) : Entries :=
  entries.filter (·.1 ≠ key)

end Entries

/-- A change to a table, which may depend on how the table came to be, with
something to tell about it. -/
abbrev Change (α : Type) := Origin → Entries → Except Fault (Entries × α)

/-- Changes the table at the end of a path. Tables that are not there are made:
by a dotted key if `dotted` is set, else implied by a header. Of the tables under
one repeated header the last is meant. -/
def changeAt {α : Type} (dotted : Bool) (change : Change α) :
    List String → Change α
  | [], origin, entries => change origin entries
  | key :: rest, _, entries =>
    match Entries.get? entries key with
    | none =>
      let origin := if dotted then Origin.dotted else Origin.implied
      match changeAt dotted change rest origin [] with
      | .error fault => .error fault
      | .ok (children, told) => .ok (Entries.put key (.table origin children) entries, told)
    | some (.table origin children) =>
      if origin = .inline then .error (.notATable key)
      else if dotted ∧ origin = .header then .error (.duplicateKey key)
      else
        match changeAt dotted change rest origin children with
        | .error fault => .error fault
        | .ok (children, told) => .ok (Entries.put key (.table origin children) entries, told)
    | some (.tables rows) =>
      match rows.getLast? with
      | none => .error (.notATable key)
      | some row =>
        match changeAt dotted change rest .header row with
        | .error fault => .error fault
        | .ok (row, told) => .ok (Entries.put key (.tables (rows.dropLast ++ [row])) entries, told)
    | some _ => .error (.notATable key)

/-- The path and the last part of a dotted key. -/
def splitLast : List String → Option (List String × String)
  | [] => none
  | [last] => some ([], last)
  | part :: rest => (splitLast rest).map fun (path, last) => (part :: path, last)

/-- Adds a value under a key to the table its path leads to. A path of more than
one part leads to tables made by dotted keys only. -/
def addValue (key : List String) (value : Value) (entries : Entries) : Except Fault Entries :=
  match splitLast key with
  | none => .error .malformed
  | some (path, last) =>
    let add : Change Unit := fun origin entries =>
      if path ≠ [] ∧ origin ≠ .dotted then .error (.duplicateKey last)
      else if (Entries.get? entries last).isSome then .error (.duplicateKey last)
      else .ok (Entries.put last value entries, ())
    (changeAt true add path .header entries).map (·.1)

end Syllogistic.Toml
