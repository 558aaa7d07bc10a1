import Stencil.CommandLine.Address
import Stencil.CommandLine.Flag
import Stencil.Output
import Stencil.Source

/-!
# The command line

There are two commands: one renders a file or a folder, the other serves templates. Flags set how; some
of them can also be set in the environment, where the command line has the last word.
-/

namespace Stencil

/-- The command that renders. -/
structure RenderCommand where
  /-- The path of the template or of the folder of templates. -/
  input : Text
  /-- The path of the output or of the folder of outputs. -/
  output : Text
  /-- The path of the variables. -/
  data : Text
  /-- Whether a folder is rendered. -/
  folder : Bool
  /-- What is taken from the variables. -/
  extract : Extract
  /-- How templates are rendered. -/
  options : Settings
  /-- The pattern of output names. -/
  pattern : Text
  /-- The globs of templates that are passed over. -/
  exclude : List Text

/-- The command that serves. -/
structure ServeCommand where
  /-- The port to listen on. -/
  port : Text
  /-- The address to listen on. -/
  host : Text
  /-- The path of the folder of templates. -/
  folder : Text

/-- What is asked for on the command line. -/
inductive Invocation
  | render (command : RenderCommand)
  | serve (command : ServeCommand)

namespace CommandLine

/-- What is set in the environment. -/
abbrev Environment := List (Text × Text)

/-- Paths hold a character. -/
def isPath (t : Text) : Bool := !t.isEmpty

/-- Whether a text is one of some words. -/
def isWord (words : List String) (t : Text) : Bool := words.any fun w => w.toList = t

/-- Whether a text is a whole number of 16 bits, perhaps after a sign. -/
def isPort (t : Text) : Bool :=
  let (negative, digits) :=
    match t with
    | '+' :: rest => (false, rest)
    | '-' :: rest => (true, rest)
    | _ => (false, t)
  let n := digits.foldl (fun n c => n * 10 + (c.toNat - '0'.toNat)) 0
  !digits.isEmpty && digits.all Char.isDigit && n < 65536 && (!negative || n == 0)

/-- Any text. -/
def anyText : Text → Bool := fun _ => true

/-- The flags of every command. -/
def commonFlags : List Flag :=
  [.lettered "verbose" 'v' .count, .lettered "quiet" 'q' .switch, .lettered "help" 'h' .help]

/-- The flags before a command. -/
def mainFlags : List Flag := .lettered "version" 'V' .version :: commonFlags

/-- The flags of rendering. -/
def renderFlags : List Flag :=
  [.lettered "in" 'i' (.value isPath), .lettered "out" 'o' (.value isPath),
    .lettered "data" 'd' (.value isPath),
    .lettered "mode" 'm' (.value (isWord ["file", "dir"])),
    .lettered "key-column" 'k' (.value anyText), .plain "data-pointer" (.value anyText),
    .plain "data-filter" (.value anyText), .plain "multiple-output" .switch,
    .plain "multiple-output-filename-pattern" (.value anyText),
    .plain "loop-injection-variable" (.value anyText),
    .lettered "left-delimiter" 'l' (.value anyText),
    .lettered "right-delimiter" 'r' (.value anyText),
    .plain "left-loop-variable-delimiter" (.value anyText),
    .plain "right-loop-variable-delimiter" (.value anyText),
    .plain "left-loop-block-delimiter" (.value anyText),
    .plain "right-loop-block-delimiter" (.value anyText), .plain "strict" .switch,
    .plain "reindent" (.value (isWord ["preserve", "pad", "fail"])),
    .lettered "exclude" 'x' .values] ++ commonFlags

/-- The flags of serving. -/
def serveFlags : List Flag :=
  [.lettered "port" 'p' (.value isPort), .plain "host" (.value Address.isAddress),
    .lettered "template-dir" 't' (.value isPath)] ++ commonFlags

/-- Whether flags are given that do not go together. -/
def clash (given : Given) : Bool := given.has "verbose" && given.has "quiet"

/-- The value of a flag, or what the environment sets in its place. -/
def setting (given : Given) (environment : Environment) (long variable_ : String) : Text :=
  (given.value? long).getD ((Dictionary.find? variable_.toList environment).getD [])

/-- The delimiters that are set. -/
def delimiters (given : Given) (environment : Environment) : Delimiters :=
  let get := setting given environment
  .ofPairs
    ⟨get "left-delimiter" "WEFT_LEFT_DELIMITER", get "right-delimiter" "WEFT_RIGHT_DELIMITER"⟩
    ⟨get "left-loop-variable-delimiter" "WEFT_LEFT_LOOP_VARIABLE_DELIMITER",
      get "right-loop-variable-delimiter" "WEFT_RIGHT_LOOP_VARIABLE_DELIMITER"⟩
    ⟨get "left-loop-block-delimiter" "WEFT_LEFT_LOOP_BLOCK_DELIMITER",
      get "right-loop-block-delimiter" "WEFT_RIGHT_LOOP_BLOCK_DELIMITER"⟩

/-- What is done with loop bodies indented less than their tag. -/
def policy (given : Given) : Shortfall :=
  match (given.value? "reindent").map String.ofList with
  | some "pad" => .pad
  | some "fail" => .fail
  | _ => .preserve

/-- What is taken from the variables. -/
def extract (given : Given) : Extract :=
  let standard : Extract := {}
  { keyColumn := (given.value? "key-column").getD standard.keyColumn
    pointer := given.value? "data-pointer"
    query := given.value? "data-filter"
    multiple := given.has "multiple-output"
    listName := (given.value? "loop-injection-variable").getD standard.listName }

/-- The rendering that is asked for. The input, the output and the variables must be named. -/
def renderCommand? (given : Given) (environment : Environment) : Option RenderCommand := do
  let standard : Production := {}
  return {
    input := ← given.value? "in"
    output := ← given.value? "out"
    data := ← given.value? "data"
    folder := given.value? "mode" = some "dir".toList
    extract := extract given
    options :=
      { delimiters := delimiters given environment
        strict := given.has "strict"
        shortfall := policy given }
    pattern := (given.value? "multiple-output-filename-pattern").getD standard.pattern
    exclude := given.values "exclude" }

/-- The serving that is asked for. The port must be named. -/
def serveCommand? (given : Given) (environment : Environment) : Option ServeCommand := do
  let folder := (given.value? "template-dir").getD
    ((Dictionary.find? "WEFT_TEMPLATE_DIR".toList environment).getD "templates".toList)
  if !isPath folder then none
  else
    return {
      port := ← given.value? "port"
      host := (given.value? "host").getD "0.0.0.0".toList
      folder := folder }

/-- Read the arguments of a command. -/
def readCommand (environment : Environment) (command : Text) (args : List Text) :
    Except Stop Invocation :=
  let build (flags : List Flag) (make? : Given → Option Invocation) : Except Stop Invocation :=
    match readFlags flags [] args [] with
    | .error stop => .error stop
    | .ok (given, _) =>
      match clash given, make? given with
      | false, some invocation => .ok invocation
      | _, _ => .error .usage
  if command = "render".toList then
    build renderFlags fun given => (renderCommand? given environment).map .render
  else build serveFlags fun given => (serveCommand? given environment).map .serve

/-- The names of the commands. -/
def commands : List Text := ["render".toList, "serve".toList, "help".toList]

/-- Read the command line. The flags before the command are looked over after those of the command. -/
def read (environment : Environment) (args : List Text) : Except Stop Invocation :=
  match readFlags mainFlags commands args [] with
  | .error stop => .error stop
  | .ok (_, none) => .error .usage
  | .ok (given, some (command, rest)) =>
    if command = "help".toList then
      .error (if rest = [] ∨ ∃ topic ∈ commands, rest = [topic] then .help else .usage)
    else
      match readCommand environment command rest with
      | .error stop => .error stop
      | .ok invocation => if clash given then .error .usage else .ok invocation

end CommandLine

end Stencil
