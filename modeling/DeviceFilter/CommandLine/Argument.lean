import DeviceFilter.Decimal.Integer
import DeviceFilter.Text.Split

/-!
Arguments of a command line, level by level: options and positional arguments up to the name of a
subcommand, then those of the subcommand.

An option's value is attached to it, after `=` if the option is long, or is the next argument unless
that begins with a dash; a lone dash is a value. A double dash makes everything after it positional.
Reading stops at the first thing that is not understood, or at a request for help or the version,
whichever comes first.
-/
set_option autoImplicit false

namespace DeviceFilter.CommandLine

inductive ValueKind where
  /-- No value. -/
  | flag
  | text
  /-- Any text but the empty one. -/
  | path
  | integer (range : IntegerRange)
deriving DecidableEq, Repr

def ValueKind.accepts (kind : ValueKind) (value : List Char) : Bool :=
  match kind with
  | flag => value.isEmpty
  | text => true
  | path => !value.isEmpty
  | integer range => (Decimal.readInteger? range value).isSome

/-- A named thing that a level takes; at most one value may be given for it. -/
structure Argument where
  name : String
  short : Option Char := none
  kind : ValueKind
deriving DecidableEq, Repr

structure Level where
  options : List Argument
  positionals : List Argument := []
  commands : List String := []
  /-- Whether the version may be asked for. -/
  hasVersion : Bool := false

/-- What ends the reading before anything is run. -/
inductive Interruption where
  | help
  | version
  | misuse
deriving DecidableEq, Repr

/-- Values by the names of their arguments. -/
abbrev Values := List (String × List Char)

/-- What one level said, and the subcommand with the arguments after its name. -/
structure Reading where
  values : Values
  command : Option (String × List (List Char)) := none

inductive Token where
  | doubleDash
  | long (name : List Char) (value : Option (List Char))
  | short (letters : List Char)
  | word (text : List Char)
deriving DecidableEq, Repr

def Token.ofChars : List Char → Token
  | ['-', '-'] => doubleDash
  | '-' :: '-' :: rest =>
    match Text.cutAt '=' rest with
    | some (name, value) => long name (some value)
    | none => long rest none
  | '-' :: c :: rest => short (c :: rest)
  | text => word text

namespace Level

/-- An option as it was written. -/
inductive Found where
  | option (argument : Argument)
  | interruption (i : Interruption)

def long? (level : Level) (name : List Char) : Option Found :=
  match level.options.find? (·.name.toList == name) with
  | some argument => some (.option argument)
  | none =>
    if name = "help".toList then some (.interruption .help)
    else if name = "version".toList && level.hasVersion then some (.interruption .version)
    else none

def short? (level : Level) (letter : Char) : Option Found :=
  match level.options.find? (·.short == some letter) with
  | some argument => some (.option argument)
  | none =>
    if letter = 'h' then some (.interruption .help)
    else if letter = 'V' && level.hasVersion then some (.interruption .version)
    else none

/-- Adds a value that its argument accepts and that is the first for it. -/
def add (values : Values) (argument : Argument) (value : List Char) :
    Except Interruption Values :=
  if argument.kind.accepts value && (values.lookup argument.name).isNone then
    .ok (values ++ [(argument.name, value)])
  else .error .misuse

/-- The first positional argument that has no value yet takes the next one. -/
def addPositional (level : Level) (values : Values) (value : List Char) :
    Except Interruption Values :=
  match level.positionals.find? fun a => (values.lookup a.name).isNone with
  | some argument => add values argument value
  | none => .error .misuse

/-- Letters after one dash: flags, up to an option that takes the rest as its value. An option at
the very end waits for the next argument. -/
def readLetters (level : Level) (values : Values) :
    List Char → Except Interruption (Values × Option Argument)
  | [] => .ok (values, none)
  | c :: cs =>
    match level.short? c with
    | none => .error .misuse
    | some (.interruption i) => .error i
    | some (.option argument) =>
      if argument.kind = .flag then do readLetters level (← add values argument []) cs
      else match cs with
        | [] => .ok (values, some argument)
        | '=' :: value => (add values argument value).map fun vs => (vs, none)
        | value => (add values argument value).map fun vs => (vs, none)

def readLong (level : Level) (values : Values) (name : List Char) (value : Option (List Char)) :
    Except Interruption (Values × Option Argument) :=
  match level.long? name, value with
  | none, _ => .error .misuse
  | some (.interruption i), none => .error i
  | some (.interruption _), some _ => .error .misuse
  | some (.option argument), some value =>
    if argument.kind = .flag then .error .misuse
    else (add values argument value).map fun vs => (vs, none)
  | some (.option argument), none =>
    if argument.kind = .flag then (add values argument []).map fun vs => (vs, none)
    else .ok (values, some argument)

def readPositionals (level : Level) (values : Values) :
    List (List Char) → Except Interruption Values
  | [] => .ok values
  | value :: rest => do readPositionals level (← level.addPositional values value) rest

/-- Reads arguments while `waiting` is an option that still has no value. -/
def readFrom (level : Level) (waiting : Option Argument) (values : Values) :
    List (List Char) → Except Interruption Reading
  | [] => if waiting.isSome then .error .misuse else .ok { values }
  | arg :: args =>
    match waiting, Token.ofChars arg with
    | some argument, .word value => do readFrom level none (← add values argument value) args
    | some _, _ => .error .misuse
    | none, .doubleDash => (level.readPositionals values args).map fun values => { values }
    | none, .long name value => do
      let (values, waiting) ← level.readLong values name value
      readFrom level waiting values args
    | none, .short letters => do
      let (values, waiting) ← level.readLetters values letters
      readFrom level waiting values args
    | none, .word value =>
      let name := String.ofList value
      if level.commands.contains name then .ok { values, command := some (name, args) }
      else do readFrom level none (← level.addPositional values value) args

def read (level : Level) (args : List (List Char)) : Except Interruption Reading :=
  level.readFrom none [] args

end Level

end DeviceFilter.CommandLine
