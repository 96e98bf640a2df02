import Courier.Text.Cut

/-! The arguments of a program.

A switch is given by its name, as `--name`, or by its letter, as `-n`; letters of several switches
may share one dash. Some switches take a value, which is the next argument or stands in the same
one: `--name=value`, `-nvalue`, `-n=value`. What starts with a dash is no value, and no switch is
given twice. All else are words, a single dash too, and behind `--` there are only words.

A program has commands. Its own switches come first, then the name of a command, then what that
command takes. -/
namespace Courier.Program

/-- Why a program does not start its work. -/
inductive Halt where
  /-- The arguments cannot be understood. -/
  | usage
  /-- No command is named, or an unknown one. -/
  | noCommand
  | version
  | help
  deriving DecidableEq, Repr

/-- A switch that a program or a command knows. -/
structure Switch where
  name : String
  letter : Option Char := none
  takesValue : Bool := false
  /-- What the program does instead of its work where the switch is given. -/
  halt : Option Halt := none

def Switch.help : Switch := { name := "help", letter := some 'h', halt := some .help }

def Switch.version : Switch := { name := "version", letter := some 'V', halt := some .version }

/-- The arguments that were read so far. -/
structure Arguments where
  /-- The switches that were given, each with its value or with an empty one. -/
  switches : List (String × String) := []
  words : List String := []
  /-- The switch whose value is the next argument. -/
  awaited : Option Switch := none
  /-- Whether only words follow. -/
  verbatim : Bool := false

namespace Arguments

/-! ### Reading -/

/-- Notes a switch with its value, unless it was given before. -/
def give (a : Arguments) (s : Switch) (value : String) : Except Halt Arguments :=
  match s.halt with
  | some halt => .error halt
  | none =>
    if (a.switches.lookup s.name).isSome then .error .usage
    else .ok { a with switches := a.switches ++ [(s.name, value)], awaited := none }

/-- Takes a switch that is given by its name. A value is taken just where the switch has one. -/
def takeName (known : List Switch) (a : Arguments) (text : List Char) : Except Halt Arguments :=
  let (name, value) := match Text.cutFirst '=' text with
    | some (name, value) => (name, some (String.ofList value))
    | none => (text, none)
  match known.find? (·.name.toList == name), value with
  | none, _ => .error .usage
  | some s, some value => if s.takesValue then a.give s value else .error .usage
  | some s, none => if s.takesValue then .ok { a with awaited := some s } else a.give s ""

/-- Takes the letters behind one dash. What follows the letter of a switch with a value is its
value. -/
def takeLetters (known : List Switch) (a : Arguments) : List Char → Except Halt Arguments
  | [] => .ok a
  | c :: rest =>
    match known.find? (·.letter == some c) with
    | none => .error .usage
    | some s =>
      if s.takesValue then
        match rest with
        | [] => .ok { a with awaited := some s }
        | '=' :: value => a.give s (String.ofList value)
        | value => a.give s (String.ofList value)
      else
        match a.give s "" with
        | .error halt => .error halt
        | .ok a => takeLetters known a rest

/-- Whether an argument gives switches or ends them. -/
def isDashed (arg : String) : Bool :=
  match arg.toList with
  | '-' :: _ :: _ => true
  | _ => false

/-- Takes one argument. -/
def take (known : List Switch) (a : Arguments) (arg : String) : Except Halt Arguments :=
  if a.verbatim then .ok { a with words := a.words ++ [arg] }
  else match a.awaited with
    | some s => if isDashed arg then .error .usage else a.give s arg
    | none =>
      match arg.toList with
      | ['-', '-'] => .ok { a with verbatim := true }
      | '-' :: '-' :: name => a.takeName known name
      | '-' :: c :: rest => a.takeLetters known (c :: rest)
      | _ => .ok { a with words := a.words ++ [arg] }

/-- Reads all arguments of a command. -/
def read (known : List Switch) (a : Arguments) : List String → Except Halt Arguments
  | [] => if a.awaited.isSome then .error .usage else .ok a
  | arg :: rest =>
    match a.take known arg with
    | .error halt => .error halt
    | .ok a => a.read known rest

/-- Help is given on the program or on one of its commands. -/
def helpOn (commands : List String) : List String → Halt
  | [] => .help
  | [name] => if name ∈ commands then .help else .noCommand
  | _ => .noCommand

/-- Reads switches up to the name of a command. The last part is what follows the name. -/
def readToCommand (known : List Switch) (commands : List String) (a : Arguments) :
    List String → Except Halt (Arguments × String × List String)
  | [] => .error (if a.awaited.isSome then .usage else .noCommand)
  | arg :: rest =>
    if a.verbatim then .error (if arg ∈ "help" :: commands then .usage else .noCommand)
    else if a.awaited.isSome || isDashed arg then
      match a.take known arg with
      | .error halt => .error halt
      | .ok a => a.readToCommand known commands rest
    else if arg ∈ commands then .ok (a, arg, rest)
    else if arg = "help" then .error (helpOn ("help" :: commands) rest)
    else .error .noCommand

/-! ### What was given -/

def has (a : Arguments) (name : String) : Bool := (a.switches.lookup name).isSome

def value? (a : Arguments) (name : String) : Option String := a.switches.lookup name

/-- The value of a switch, if it is given; `none` for a value that cannot be read. -/
def readValue {α : Type} (a : Arguments) (name : String) (read : String → Option α) :
    Option (Option α) :=
  match a.value? name with
  | none => some none
  | some text => (read text).map some

end Arguments

/-! ### Commands -/

/-- A command of a program: the switches that it takes, and what its arguments stand for. -/
structure Form (α : Type) where
  name : String
  switches : List Switch := []
  read : Arguments → Option α

/-- Reads the command that the arguments of a program name, and the switches in front of it.
`own` are the switches of the program, `shared` are those of every command. -/
def readCommand {α : Type} (own shared : List Switch) (forms : List (Form α)) (args : List String) :
    Except Halt (Arguments × α) :=
  match Arguments.readToCommand (own ++ shared) (forms.map (·.name)) {} args with
  | .error halt => .error halt
  | .ok (before, name, rest) =>
    match forms.find? (·.name == name) with
    | none => .error .noCommand
    | some form =>
      match Arguments.read (form.switches ++ shared) {} rest with
      | .error halt => .error halt
      | .ok arguments =>
        match form.read arguments with
        | none => .error .usage
        | some command => .ok (before, command)

end Courier.Program
