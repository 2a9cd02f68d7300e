import Syllogistic.Toml.Scalar

/-!
# TOML documents

A document is lines: comments, entries, and headers that say which table the
entries after them belong to. Arrays may go over several lines; tables in braces
may not. A document is read line by line into the tables that are complete and
the one that is being filled.
-/

namespace Syllogistic.Toml

/-! ## Keys and values -/

/-- Characters of keys without quotes. -/
def isKeyChar (c : Char) : Bool :=
  c.isAlphanum || c == '_' || c == '-'

/-- Reads one part of a key. -/
def readKeyPart : Reader String
  | '"' :: rest => readBasic [] rest
  | '\'' :: rest => readLiteral [] rest
  | s =>
    match s.takeWhile isKeyChar with
    | [] => .error .malformed
    | part => .ok (String.ofList part, s.dropWhile isKeyChar)

/-- Reads the parts of a key with dots between them, so many at most, and the
blanks around them. -/
def readKeyParts : Nat → Reader (List String)
  | 0, _ => .error .tooDeep
  | count + 1, s =>
    match readKeyPart (skipSpace s) with
    | .error fault => .error fault
    | .ok (part, rest) =>
      match skipSpace rest with
      | '.' :: rest =>
        match readKeyParts count rest with
        | .error fault => .error fault
        | .ok (parts, rest) => .ok (part :: parts, rest)
      | rest => .ok ([part], rest)

/-- Reads a key. -/
def readKey : Reader (List String) := readKeyParts depthLimit

/-- What follows a comment, which goes to the end of the line. -/
def afterComment (s : List Char) : List Char :=
  match s with
  | '#' :: rest => rest.dropWhile isPlain
  | _ => s

/-- What follows blanks, comments and line breaks; every comment has to end in a
line break. `fuel` bounds the number of lines. -/
def skipLines : Nat → List Char → List Char
  | 0, s => s
  | fuel + 1, s =>
    match afterBreak? (afterComment (skipSpace s)) with
    | some rest => skipLines fuel rest
    | none => skipSpace s

/-- What follows blanks, comments and line breaks. -/
def skipBlank (s : List Char) : List Char :=
  skipLines (s.length + 1) s

mutual

/-- Reads a value with no more than `depth` values around its parts. `fuel` is
used up by every part and never runs out before the text does. -/
def readValue (fuel depth : Nat) (s : List Char) : Except Fault (Value × List Char) :=
  match fuel with
  | 0 => .error .malformed
  | fuel + 1 =>
    match s with
    | '[' :: rest =>
      match depth with
      | 0 => .error .tooDeep
      | depth + 1 => readItems fuel depth [] (skipBlank rest)
    | '{' :: rest =>
      match depth with
      | 0 => .error .tooDeep
      | depth + 1 =>
        match skipSpace rest with
        | '}' :: rest => .ok (.table .inline [], rest)
        | rest => readPairs fuel depth [] rest
    | '"' :: _ | '\'' :: _ => (readString s).map fun (text, rest) => (.text text, rest)
    | _ => readRun s

/-- Reads the items of an array up to its closing bracket; `done` holds those
before, the last first. -/
def readItems (fuel depth : Nat) (done : List Value) (s : List Char) :
    Except Fault (Value × List Char) :=
  match fuel with
  | 0 => .error .malformed
  | fuel + 1 =>
    match s with
    | ']' :: rest => .ok (.array done.reverse, rest)
    | _ =>
      match readValue fuel depth s with
      | .error fault => .error fault
      | .ok (item, rest) =>
        match skipBlank rest with
        | ',' :: rest => readItems fuel depth (item :: done) (skipBlank rest)
        | ']' :: rest => .ok (.array (item :: done).reverse, rest)
        | _ => .error .malformed

/-- Reads the entries of a table in braces up to the closing one; `done` holds
those before. -/
def readPairs (fuel depth : Nat) (done : Entries) (s : List Char) :
    Except Fault (Value × List Char) :=
  match fuel with
  | 0 => .error .malformed
  | fuel + 1 =>
    match readKey s with
    | .error fault => .error fault
    | .ok (key, '=' :: rest) =>
      match readValue fuel depth (skipSpace rest) with
      | .error fault => .error fault
      | .ok (value, rest) =>
        match addValue key value done with
        | .error fault => .error fault
        | .ok entries =>
          match skipSpace rest with
          | ',' :: rest => readPairs fuel depth entries rest
          | '}' :: rest => .ok (.table .inline entries, rest)
          | _ => .error .malformed
    | .ok _ => .error .malformed

end

/-- Reads a value, which is at most `depthLimit` deep. -/
def readAnyValue (s : List Char) : Except Fault (Value × List Char) :=
  readValue (2 * s.length + 2) depthLimit s

/-! ## Lines -/

/-- A document that is being read: the tables that are complete, and the entries
of the one that is being filled, with its path and whether it is one of several
under a repeated header. -/
structure Draft where
  root : Entries
  path : List String
  repeated : Bool
  entries : Entries

namespace Draft

/-- Nothing is read yet; the first entries belong to the root. -/
def empty : Draft := ⟨[], [], false, []⟩

/-- Puts the table that was being filled in its place. -/
def complete (draft : Draft) : Except Fault Entries :=
  match splitLast draft.path with
  | none => .ok draft.entries
  | some (path, last) =>
    let place : Change Unit := fun _ entries =>
      match Entries.get? entries last with
      | none =>
        .ok (Entries.put last
          (if draft.repeated then .tables [draft.entries] else .table .header draft.entries)
          entries, ())
      | some (.tables rows) =>
        if draft.repeated then .ok (Entries.put last (.tables (rows ++ [draft.entries])) entries, ())
        else .error (.duplicateKey last)
      | some _ => .error (.duplicateKey last)
    (changeAt false place path .header draft.root).map (·.1)

/-- Begins the table of a header. A table that a longer header implied goes on
with the entries it has. -/
def openTable (draft : Draft) (key : List String) : Except Fault Draft :=
  match draft.complete with
  | .error fault => .error fault
  | .ok root =>
    match splitLast key with
    | none => .error .malformed
    | some (path, last) =>
      let pick : Change Entries := fun _ entries =>
        match Entries.get? entries last with
        | none => .ok (entries, [])
        | some (.table .implied children) => .ok (Entries.remove entries last, children)
        | some _ => .error (.duplicateKey last)
      match changeAt false pick path .header root with
      | .error fault => .error fault
      | .ok (root, children) => .ok ⟨root, key, false, children⟩

/-- Begins one more table under a repeated header. -/
def openRow (draft : Draft) (key : List String) : Except Fault Draft :=
  match draft.complete with
  | .error fault => .error fault
  | .ok root =>
    match splitLast key with
    | none => .error .malformed
    | some (path, last) =>
      let reserve : Change Unit := fun _ entries =>
        match Entries.get? entries last with
        | none => .ok (Entries.put last (.tables []) entries, ())
        | some (.tables _) => .ok (entries, ())
        | some _ => .error (.duplicateKey last)
      match changeAt false reserve path .header root with
      | .error fault => .error fault
      | .ok (root, ()) => .ok ⟨root, key, true, []⟩

/-- Adds an entry to the table that is being filled. -/
def add (draft : Draft) (key : List String) (value : Value) : Except Fault Draft :=
  match addValue key value draft.entries with
  | .error fault => .error fault
  | .ok entries => .ok { draft with entries }

end Draft

/-- What follows the end of a line: blanks, a comment, and a line break or the
end of the text. -/
def endLine (s : List Char) : Except Fault (List Char) :=
  match afterComment (skipSpace s) with
  | [] => .ok []
  | rest =>
    match afterBreak? rest with
    | some rest => .ok rest
    | none => .error .malformed

/-- Reads an entry. -/
def readEntry (draft : Draft) (s : List Char) : Except Fault (Draft × List Char) :=
  match readKey s with
  | .error fault => .error fault
  | .ok (key, '=' :: rest) =>
    match readAnyValue (skipSpace rest) with
    | .error fault => .error fault
    | .ok (value, rest) => (draft.add key value).map fun draft => (draft, rest)
  | .ok _ => .error .malformed

/-- Reads the rest of a header behind its opening brackets. -/
def readHeader (draft : Draft) (repeated : Bool) (s : List Char) :
    Except Fault (Draft × List Char) :=
  match readKey s with
  | .error fault => .error fault
  | .ok (key, ']' :: rest) =>
    if repeated then
      match rest with
      | ']' :: rest => (draft.openRow key).map fun draft => (draft, rest)
      | _ => .error .malformed
    else (draft.openTable key).map fun draft => (draft, rest)
  | .ok _ => .error .malformed

/-- Reads what stands on a line that is not empty. -/
def readLine (draft : Draft) : List Char → Except Fault (Draft × List Char)
  | '[' :: '[' :: rest => readHeader draft true rest
  | '[' :: rest => readHeader draft false rest
  | s => readEntry draft s

/-- Reads the lines of a document; `fuel` bounds their number. -/
def readLines : Nat → Draft → List Char → Except Fault Entries
  | 0, _, _ => .error .malformed
  | fuel + 1, draft, s =>
    match skipSpace s with
    | [] => draft.complete
    | '#' :: _ | '\n' :: _ | '\r' :: _ =>
      match endLine s with
      | .error fault => .error fault
      | .ok rest => readLines fuel draft rest
    | s =>
      match readLine draft s with
      | .error fault => .error fault
      | .ok (draft, rest) =>
        match endLine rest with
        | .error fault => .error fault
        | .ok rest => readLines fuel draft rest

/-- The text without a byte order mark at its start. -/
def dropMark : List Char → List Char
  | '\uFEFF' :: rest => rest
  | s => s

/-- The root table of a document. -/
def read (document : String) : Except Fault Entries :=
  let s := dropMark document.toList
  readLines (s.length + 1) .empty s

end Syllogistic.Toml
