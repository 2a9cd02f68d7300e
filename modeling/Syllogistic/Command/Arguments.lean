import Syllogistic.Command.Request
import Syllogistic.Text.Casing

/-!
# Reading a command line

Arguments are read from left to right, and the first that cannot be understood
ends the reading, as does a question for the help or the version. The program's
own options come first, then the name of a command, then that command's options
and operands; the options on how answers are written are understood in both
places, and what is said last counts.

An option is a word after two dashes or a letter after one. Letters may share a
dash. A value is the next argument, or follows an equals sign, or follows the
letter directly. An argument that looks like an option is never a value, and
after two lone dashes nothing looks like one.
-/

namespace Syllogistic.Command

/-- What is wrong with the arguments. -/
inductive ArgumentError where
  | unknownOption (given : String)
  | repeatedOption (name : String)
  | missingValue (name : String)
  | needlessValue (name : String)
  | badValue (name value : String)
  | needlessArgument (given : String)
  | unknownCommand (given : String)
  | missingCommand
  | missingCode
  deriving DecidableEq, Repr

def ArgumentError.message : ArgumentError → String
  | unknownOption given => "unknown option " ++ given
  | repeatedOption name => "option --" ++ name ++ " is given more than once"
  | missingValue name => "option --" ++ name ++ " needs a value"
  | needlessValue name => "option --" ++ name ++ " takes no value"
  | badValue name value => "option --" ++ name ++ " cannot be '" ++ value ++ "'"
  | needlessArgument given => "unexpected argument '" ++ given ++ "'"
  | unknownCommand given => "unknown command '" ++ given ++ "'"
  | missingCommand => "a command is needed"
  | missingCode => "a syllogism code is needed"

/-- Why the reading of arguments ends without a request. -/
inductive Stop where
  | help
  | version
  | wrong (error : ArgumentError)
  deriving DecidableEq, Repr

/-- What an option does to what is asked for so far. -/
inductive Effect (α : Type) where
  | mark (set : α → α)
  /-- The option takes a value, which may be refused. -/
  | value (set : α → String → Option α)
  | stop (stop : Stop)

/-- An option: its word, its letter if it has one, and what it does. -/
structure OptionRule (α : Type) where
  word : String
  letter : Option Char
  effect : Effect α

/-- What plain arguments are, next to options. -/
inductive Operands (α : Type) where
  /-- The first one names a command and ends the reading. -/
  | command
  /-- Each one is a value, which may be refused. -/
  | values (set : α → String → Option α)

/-- The options and operands that are understood in some part of the command
line. -/
structure Grammar (α : Type) where
  options : List (OptionRule α)
  operands : Operands α

/-- What is asked for so far, and the words of the options given so far. -/
structure Progress (α : Type) where
  asked : α
  given : List String := []

/-- What an argument looks like. -/
inductive Shape where
  | plain
  /-- Two lone dashes. -/
  | lastOption
  | word (name : List Char) (value : Option (List Char))
  | letters (letters : List Char)

/-- Tells what an argument looks like; a lone dash is a plain argument. -/
def Shape.of (argument : String) : Shape :=
  match argument.toList with
  | ['-', '-'] => lastOption
  | '-' :: '-' :: rest =>
    let name := rest.takeWhile (· != '=')
    match rest.drop name.length with
    | [] => word name none
    | _ :: value => word name (some value)
  | '-' :: letter :: rest => letters (letter :: rest)
  | _ => plain

/-- Whether an argument can be the value of the option before it. -/
def canBeValue (argument : String) : Bool :=
  match Shape.of argument with
  | .plain => true
  | _ => false

namespace Progress

variable {α : Type}

/-- Notes that an option is given; it may not be given twice. -/
def note (progress : Progress α) (rule : OptionRule α) : Except Stop (Progress α) :=
  if progress.given.contains rule.word then .error (.wrong (.repeatedOption rule.word))
  else .ok { progress with given := rule.word :: progress.given }

/-- Takes the value of an option. -/
def take (progress : Progress α) (rule : OptionRule α) (value : String) :
    Except Stop (Progress α) :=
  match rule.effect with
  | .value set =>
    match progress.note rule, set progress.asked value with
    | .error stop, _ => .error stop
    | .ok _, none => .error (.wrong (.badValue rule.word value))
    | .ok progress, some asked => .ok { progress with asked }
  | _ => .error (.wrong (.needlessValue rule.word))

/-- Takes an option that has no value of its own in the same argument. What is
left is the option if its value is still to come. -/
def begin (progress : Progress α) (rule : OptionRule α) :
    Except Stop (Progress α × Option (OptionRule α)) :=
  match rule.effect with
  | .stop stop => .error stop
  | .value _ => .ok (progress, some rule)
  | .mark set =>
    (progress.note rule).map fun progress =>
      ({ progress with asked := set progress.asked }, none)

/-- Takes an option that is given by its word. -/
def takeWord (progress : Progress α) (options : List (OptionRule α)) (name : List Char)
    (value : Option (List Char)) : Except Stop (Progress α × Option (OptionRule α)) :=
  match options.find? (·.word.toList == name) with
  | none => .error (.wrong (.unknownOption ("--" ++ String.ofList name)))
  | some rule =>
    match value with
    | none => progress.begin rule
    | some value => (progress.take rule (String.ofList value)).map (·, none)

/-- Takes options that are given by their letters. -/
def takeLetters (progress : Progress α) (options : List (OptionRule α)) :
    List Char → Except Stop (Progress α × Option (OptionRule α))
  | [] => .ok (progress, none)
  | letter :: rest =>
    match options.find? (·.letter == some letter) with
    | none => .error (.wrong (.unknownOption (String.ofList ['-', letter])))
    | some rule =>
      match rule.effect, rest with
      | .value _, '=' :: value => (progress.take rule (String.ofList value)).map (·, none)
      | .value _, c :: more => (progress.take rule (String.ofList (c :: more))).map (·, none)
      | _, _ =>
        match progress.begin rule with
        | .error stop => .error stop
        | .ok (progress, none) => progress.takeLetters options rest
        | .ok awaiting => .ok awaiting

/-- Takes an operand. -/
def takeOperand (progress : Progress α) (set : α → String → Option α) (argument : String) :
    Except Stop (Progress α) :=
  match set progress.asked argument with
  | none => .error (.wrong (.needlessArgument argument))
  | some asked => .ok { progress with asked }

/-- Takes one operand after the other. -/
def takeOperands (progress : Progress α) (set : α → String → Option α) :
    List String → Except Stop (Progress α)
  | [] => .ok progress
  | argument :: rest =>
    match progress.takeOperand set argument with
    | .error stop => .error stop
    | .ok progress => progress.takeOperands set rest

end Progress

namespace Grammar

variable {α : Type}

/-- Reads arguments; what is left begins with the name of a command. -/
def readFrom (grammar : Grammar α) (progress : Progress α) :
    List String → Except Stop (Progress α × List String)
  | [] => .ok (progress, [])
  | argument :: rest =>
    let begun :=
      match Shape.of argument with
      | .word name value => some (progress.takeWord grammar.options name value)
      | .letters letters => some (progress.takeLetters grammar.options letters)
      | .plain | .lastOption => none
    match begun with
    | some (.error stop) => .error stop
    | some (.ok (progress, none)) => grammar.readFrom progress rest
    | some (.ok (progress, some rule)) =>
      match rest with
      | [] => .error (.wrong (.missingValue rule.word))
      | value :: rest =>
        if canBeValue value then
          match progress.take rule value with
          | .error stop => .error stop
          | .ok progress => grammar.readFrom progress rest
        else .error (.wrong (.missingValue rule.word))
    | none =>
      match grammar.operands, canBeValue argument with
      | .command, true => .ok (progress, argument :: rest)
      | .command, false => .error (.wrong ((rest.head?.map .needlessArgument).getD .missingCommand))
      | .values set, true =>
        match progress.takeOperand set argument with
        | .error stop => .error stop
        | .ok progress => grammar.readFrom progress rest
      | .values set, false => (progress.takeOperands set rest).map (·, [])

/-- Reads arguments, beginning with what is asked for if they say nothing. -/
def read (grammar : Grammar α) (usual : α) (arguments : List String) :
    Except Stop (α × List String) :=
  (grammar.readFrom { asked := usual } arguments).map fun (progress, rest) =>
    (progress.asked, rest)

end Grammar

/-! ## Values -/

/-- A count: decimal digits, perhaps after a plus sign. -/
def count? (text : String) : Option Nat :=
  let digits :=
    match text.toList with
    | '+' :: rest => rest
    | all => all
  if digits.isEmpty || digits.any (fun c => !('0' ≤ c && c ≤ '9')) then none
  else
    let n := digits.foldl (fun n c => 10 * n + (c.toNat - '0'.toNat)) 0
    if n ≤ maxCount then some n else none

/-- A path, which cannot be empty. -/
def path? (text : String) : Option String :=
  if text.isEmpty then none else some text

/-- A format by its name in any case. -/
def Format.ofName? (text : String) : Option Format :=
  match Text.lower text with
  | "text" => some .text
  | "json" => some .json
  | _ => none

/-! ## The options -/

/-- What a part of the command line asks for: how answers are written, if it
says so, and what is its own. -/
structure Asked (α : Type) where
  format : Option Format := none
  own : α

/-- An option that takes a value of a kind. -/
def valued {α β : Type} (word : String) (letter : Option Char) (kind : String → Option β)
    (set : α → β → α) : OptionRule (Asked α) where
  word := word
  letter := letter
  effect := .value fun asked text =>
    (kind text).map fun b => { asked with own := set asked.own b }

/-- An option that takes none. -/
def marking {α : Type} (word : String) (letter : Option Char) (set : α → α) :
    OptionRule (Asked α) where
  word := word
  letter := letter
  effect := .mark fun asked => { asked with own := set asked.own }

/-- The options that are understood everywhere. Answers have no colours and tell
no progress, so of these only the format changes an answer. -/
def generalOptions (α : Type) : List (OptionRule (Asked α)) :=
  [{ word := "format", letter := none
     effect := .value fun asked text =>
      (Format.ofName? text).map fun format => { asked with format := some format } },
    marking "verbose" (some 'v') id, marking "no-color" none id,
    { word := "help", letter := some 'h', effect := .stop .help }]

/-- The options before the name of a command. -/
def programGrammar : Grammar (Asked Unit) where
  options :=
    generalOptions Unit ++ [{ word := "version", letter := some 'V', effect := .stop .version }]
  operands := .command

/-- No operand is wanted. -/
def noOperands {α : Type} : Operands α := .values fun _ _ => none

/-- The options of the command that writes a formula set. -/
def generateGrammar : Grammar (Asked (Selection × String)) where
  options :=
    [valued "limit" (some 'l') count? fun own n => ({ own.1 with limit := some n }, own.2),
      valued "stride" none count? fun own n => ({ own.1 with stride := n }, own.2),
      valued "skip" none count? fun own n => ({ own.1 with skip := n }, own.2),
      marking "no-dedup" none fun own => ({ own.1 with distinct := false }, own.2),
      valued "out" (some 'o') path? fun own path => (own.1, path)] ++
    generalOptions (Selection × String)
  operands := noOperands

/-- The command that shows a syllogism takes one code. -/
def showGrammar : Grammar (Asked (Option String)) where
  options := generalOptions (Option String)
  operands := .values fun asked text =>
    if asked.own.isSome then none else some { asked with own := some text }

/-- The options of the command that runs a batch. -/
def runGrammar : Grammar (Asked RunOptions) where
  options :=
    [valued "config" (some 'c') path? fun own path => { own with settings := some path },
      valued "processes" (some 'n') count? fun own n => { own with ranks := some n },
      valued "timeout" (some 't') count? fun own n => { own with base := some n },
      valued "formulas" none path? fun own path => { own with formulas := some path },
      valued "output" (some 'o') path? fun own path => { own with output := some path }] ++
    generalOptions RunOptions
  operands := noOperands

/-- The options of the command that lists the engines. -/
def listGrammar : Grammar (Asked Bool) where
  options := marking "detailed" (some 'd') (fun _ => true) :: generalOptions Bool
  operands := noOperands

/-! ## The command line -/

/-- The names of the commands. -/
def taskNames : List String := ["generate", "show", "run", "list-provers"]

/-- Reads the arguments after the name of a command. -/
def readTask (name : String) (arguments : List String) : Except Stop (Asked Task) :=
  match name with
  | "generate" => do
    let (asked, _) ← generateGrammar.read { own := ({}, "formulas.bin") } arguments
    return { format := asked.format, own := .generate asked.own.1 asked.own.2 }
  | "show" => do
    let (asked, _) ← showGrammar.read { own := none } arguments
    match asked.own with
    | none => throw (.wrong .missingCode)
    | some code => return { format := asked.format, own := .show code }
  | "run" => do
    let (asked, _) ← runGrammar.read { own := {} } arguments
    return { format := asked.format, own := .run asked.own }
  | "list-provers" => do
    let (asked, _) ← listGrammar.read { own := false } arguments
    return { format := asked.format, own := .listEngines asked.own }
  | _ => throw (.wrong (.unknownCommand name))

/-- Reads what help is asked about: nothing, or the name of one command. -/
def readTopic : List String → Stop
  | [] => .help
  | [name] => if name ∈ "help" :: taskNames then .help else .wrong (.unknownCommand name)
  | name :: next :: _ =>
    .wrong (.unknownCommand (if name ∈ "help" :: taskNames then next else name))

/-- Reads a command line, without the name of the program. -/
def Request.read (arguments : List String) : Except Stop Request := do
  let (general, rest) ← programGrammar.read { own := () } arguments
  match rest with
  | [] => throw (.wrong .missingCommand)
  | "help" :: topic => throw (readTopic topic)
  | name :: arguments =>
    let asked ← readTask name arguments
    return { format := (asked.format.or general.format).getD .text, task := asked.own }

end Syllogistic.Command
