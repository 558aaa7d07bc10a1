import Stencil.Text

/-!
# Flags

Reading command-line arguments from left to right against a table of flags. A flag has a long name
after two dashes and perhaps a letter after one. Letters may stand together after one dash, and a value
follows its flag in the same argument or the next. The first fault, or the first question for help,
ends the reading.
-/

namespace Stencil

namespace CommandLine

/-- What a flag takes. -/
inductive Kind
  /-- Nothing; it stands once. -/
  | switch
  /-- Nothing; it may stand again. -/
  | count
  /-- A value of some form; it stands once. -/
  | value (accepts : Text → Bool)
  /-- A value; it may stand again. -/
  | values
  /-- Nothing; it asks for help. -/
  | help
  /-- Nothing; it asks for the version. -/
  | version

/-- A flag. -/
structure Flag where
  /-- The name after two dashes. -/
  long : Text
  /-- The letter after one dash. -/
  short : Option Char
  /-- What it takes. -/
  kind : Kind

/-- A flag with a letter. -/
def Flag.lettered (long : String) (short : Char) (kind : Kind) : Flag :=
  ⟨long.toList, some short, kind⟩

/-- A flag without a letter. -/
def Flag.plain (long : String) (kind : Kind) : Flag := ⟨long.toList, none, kind⟩

/-- Why the reading of arguments ends before them. -/
inductive Stop
  /-- They are not used as they should be. -/
  | usage
  /-- Help is asked for. -/
  | help
  /-- The version is asked for. -/
  | version
  deriving DecidableEq, Repr

/-- The flags given, by their long names, with their values; the last one first. -/
abbrev Given := List (Text × Text)

namespace Given

/-- Whether a flag is given. -/
def has (given : Given) (long : String) : Bool := given.any fun g => g.1 = long.toList

/-- The value of a flag. -/
def value? (given : Given) (long : String) : Option Text :=
  (given.find? fun g => g.1 = long.toList).map Prod.snd

/-- All values of a flag, in order. -/
def values (given : Given) (long : String) : List Text :=
  ((given.filter fun g => g.1 = long.toList).map Prod.snd).reverse

end Given

/-- Whether an argument looks like a flag. -/
def isFlag : Text → Bool
  | '-' :: _ :: _ => true
  | _ => false

/-- Give a flag that takes nothing. -/
def give (f : Flag) (given : Given) : Except Stop Given :=
  match f.kind with
  | .help => .error .help
  | .version => .error .version
  | .switch =>
    if given.any fun g => g.1 = f.long then .error .usage else .ok ((f.long, []) :: given)
  | .count => .ok ((f.long, []) :: given)
  | .value _ | .values => .error .usage

/-- Give a flag that takes a value. -/
def giveValue (f : Flag) (value : Text) (given : Given) : Except Stop Given :=
  match f.kind with
  | .value accepts =>
    if !accepts value ∨ given.any fun g => g.1 = f.long then .error .usage
    else .ok ((f.long, value) :: given)
  | .values => .ok ((f.long, value) :: given)
  | _ => .error .usage

/-- Whether a flag takes a value. -/
def Flag.takesValue (f : Flag) : Bool :=
  match f.kind with
  | .value _ | .values => true
  | _ => false

/-- Give a flag that takes the next argument as its value. -/
def giveNext (f : Flag) (next : Option Text) (given : Given) : Except Stop Given :=
  match next with
  | some value => if isFlag value then .error .usage else giveValue f value given
  | none => .error .usage

/-- Read the name after two dashes. The result tells whether the next argument is used. -/
def readLong (flags : List Flag) (t : Text) (next : Option Text) (given : Given) :
    Except Stop (Given × Bool) :=
  let name := t.takeWhile (· ≠ '=')
  match flags.find? fun f => f.long = name, t.dropWhile (· ≠ '=') with
  | none, _ => .error .usage
  | some f, _ :: value => (giveValue f value given).map (·, false)
  | some f, [] =>
    if f.takesValue then (giveNext f next given).map (·, true) else (give f given).map (·, false)

/-- Read the letters after one dash. The result tells whether the next argument is used. -/
def readShort (flags : List Flag) : Text → Option Text → Given → Except Stop (Given × Bool)
  | [], _, given => .ok (given, false)
  | c :: rest, next, given =>
    match flags.find? fun f => f.short = some c with
    | none => .error .usage
    | some f =>
      if f.takesValue then
        match rest with
        | [] => (giveNext f next given).map (·, true)
        | '=' :: value => (giveValue f value given).map (·, false)
        | value => (giveValue f value given).map (·, false)
      else
        match give f given with
        | .ok given => readShort flags rest next given
        | .error stop => .error stop

/-- Read one argument, which is no command. The result tells whether the next one is used. -/
def readOne (flags : List Flag) (arg : Text) (next : Option Text) (given : Given) :
    Except Stop (Given × Bool) :=
  match arg with
  | ['-', '-'] => if next.isNone then .ok (given, false) else .error .usage
  | '-' :: '-' :: long => readLong flags long next given
  | '-' :: c :: letters => readShort flags (c :: letters) next given
  | _ => .error .usage

/-- Read arguments up to the name of a command or to their end. Gives the flags, and the command with
the arguments after it. -/
def readFlags (flags : List Flag) (commands : List Text) :
    List Text → Given → Except Stop (Given × Option (Text × List Text))
  | [], given => .ok (given, none)
  | [arg], given =>
    if commands.contains arg then .ok (given, some (arg, []))
    else (readOne flags arg none given).map fun found => (found.1, none)
  | arg :: next :: rest, given =>
    if commands.contains arg then .ok (given, some (arg, next :: rest))
    else
      match readOne flags arg (some next) given with
      | .error stop => .error stop
      | .ok (given, true) => readFlags flags commands rest given
      | .ok (given, false) => readFlags flags commands (next :: rest) given

end CommandLine

end Stencil
