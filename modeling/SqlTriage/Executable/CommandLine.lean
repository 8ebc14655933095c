import SqlTriage.Program

/-!
# Command lines

Options and statements stand in any order. An option takes its value from the same argument or
from the next one, which must not look like an option itself; `--` makes statements of all
arguments behind it. No option may be given twice. `--version` and `--help` take effect where they
stand, unless something before them is wrong.
-/

namespace SqlTriage.Executable

open SqlTriage.Text

/-- What the arguments ask for. -/
inductive Request where
  | run (command : Command)
  | version
  | help
deriving DecidableEq, Repr

namespace CommandLine

/-- The options that take a value. -/
inductive Opt where
  | file
  | config
  | dialect
  | format
  | delimiter
deriving DecidableEq, Repr

/-- The long name of an option. -/
def Opt.name : Opt → String
  | .file => "file"
  | .config => "config"
  | .dialect => "dialect"
  | .format => "format"
  | .delimiter => "delimiter"

/-- The options that take a value, all of them. -/
def Opt.all : List Opt := [.file, .config, .dialect, .format, .delimiter]

/-- Gives an option its value, unless it has one. -/
def setOnce {α : Type} (old : Option α) (value : Option α) : Option (Option α) :=
  match old, value with
  | none, some v => some (some v)
  | _, _ => none

/-- A path, which must not be empty. -/
def path? (value : Bytes) : Option Bytes :=
  if value.isEmpty then none else some value

/-- The command with an option set, if the value suits it and the option was not set before. -/
def setOption? (c : Command) (o : Opt) (value : Bytes) : Option Command :=
  match o with
  | .file => (setOnce c.script (path? value)).map fun v => { c with script := v }
  | .config => (setOnce c.settings (path? value)).map fun v => { c with settings := v }
  | .dialect =>
    let chosen := (decode? value).bind fun v => (Dialect.ofName v).toOption
    (setOnce c.overrides.dialect chosen).map fun v =>
      { c with overrides := { c.overrides with dialect := v } }
  | .format =>
    let chosen := (decode? value).bind fun v => (OutputFormat.ofName v).toOption
    (setOnce c.overrides.format chosen).map fun v =>
      { c with overrides := { c.overrides with format := v } }
  | .delimiter =>
    (setOnce c.overrides.delimiter (decode? value)).map fun v =>
      { c with overrides := { c.overrides with delimiter := v } }

/-- The command with `--fail-fast`, unless it has that already. -/
def setFailFast? (c : Command) : Option Command :=
  if c.overrides.failFast then none
  else some { c with overrides := { c.overrides with failFast := true } }

/-- The command with one more statement, which must be text. -/
def addStatement? (c : Command) (argument : Bytes) : Option Command :=
  (decode? argument).map fun sql => { c with statements := c.statements ++ [sql] }

/-- The bytes of an ASCII text. -/
def ascii (s : String) : Bytes :=
  s.toList.map fun c => UInt8.ofNat c.toNat

/-- The sign that begins an option. -/
def dash : UInt8 := 0x2D

/-- The sign between an option and its value. -/
def equalsSign : UInt8 := 0x3D

/-- Whether an argument looks like an option. A single dash does not. -/
def looksLikeOption (argument : Bytes) : Bool :=
  argument.head? == some dash && argument.length != 1

/-- A long option without its dashes: its name and the value behind an equals sign. -/
def splitValue (argument : Bytes) : Bytes × Option Bytes :=
  let name := argument.takeWhile fun b => b != equalsSign
  let rest := argument.dropWhile fun b => b != equalsSign
  (name, if rest.isEmpty then none else some rest.tail)

/-- How one argument is to be taken. -/
inductive Argument where
  /-- All further arguments are statements. -/
  | endOfOptions
  | option (o : Opt) (value : Option Bytes)
  | failFast
  | version
  | help
  | statement

/-- Tells what an argument is, if it is anything. -/
def classify? (argument : Bytes) : Option Argument :=
  if argument = [dash, dash] then some .endOfOptions
  else if !looksLikeOption argument then some .statement
  else
    match argument with
    | _ :: b :: rest =>
      if b = dash then
        let (name, value) := splitValue rest
        match Opt.all.find? fun o => ascii o.name == name, value with
        | some o, value => some (.option o value)
        | none, none =>
          if name = ascii "fail-fast" then some .failFast
          else if name = ascii "version" then some .version
          else if name = ascii "help" then some .help
          else none
        | none, some _ => none
      else if [b] = ascii "f" then
        match rest with
        | [] => some (.option .file none)
        | b :: value => some (.option .file (if b = equalsSign then value else b :: value))
      else if [b] = ascii "V" then some .version
      else if [b] = ascii "h" then some .help
      else none
    | _ => none

/-- Reads arguments onto a command. -/
def readFrom? (c : Command) : List Bytes → Option Request
  | [] => some (.run c)
  | argument :: rest =>
    match classify? argument with
    | none => none
    | some .version => some .version
    | some .help => some .help
    | some .endOfOptions => (rest.foldlM addStatement? c).map .run
    | some .failFast => (setFailFast? c).bind fun c => readFrom? c rest
    | some .statement => (addStatement? c argument).bind fun c => readFrom? c rest
    | some (.option o (some value)) => (setOption? c o value).bind fun c => readFrom? c rest
    | some (.option o none) =>
      match rest with
      | [] => none
      | value :: rest =>
        if looksLikeOption value then none
        else (setOption? c o value).bind fun c => readFrom? c rest

/-- Reads the arguments of a program. There is no request if they break a rule. -/
def read? (arguments : List Bytes) : Option Request :=
  readFrom? {} arguments

end CommandLine

/-! ## Requests -/

/-- The name and version that the program prints. -/
def versionLine : String := "sqljudge 0.3.1-dev"

/-- How the program is used. -/
def usageLines : List String :=
  ["Usage: sqljudge [OPTIONS] [SQL]...",
   "",
   "  -f, --file <FILE>            Script file with delimiter-separated statements",
   "      --config <CONFIG>        YAML configuration file",
   "      --dialect <DIALECT>      SQL dialect: mysql, postgresql or sql92",
   "      --format <FORMAT>        Output format: text or json",
   "      --delimiter <DELIMITER>  Statement delimiter for scripts",
   "      --fail-fast              Stop at the first statement that cannot be classified",
   "  -h, --help                   Print help",
   "  -V, --version                Print version"]

/-- Carries out a request. -/
def Request.perform (lib : Libraries) (r : Request) (around : Surroundings) : Result :=
  match r with
  | .run command => command.perform lib around
  | .version => { output := [versionLine], exitCode := 0 }
  | .help => { output := usageLines, exitCode := 0 }

end SqlTriage.Executable
