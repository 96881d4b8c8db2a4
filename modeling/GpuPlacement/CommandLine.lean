import GpuPlacement.Policy.Kind
import GpuPlacement.Text.Numeral
import GpuPlacement.Text.Split

/-!
# The command line

What may be written on the command line and what it means. The general part reads one level of
arguments at a time, options in any order and up to the name of a command; the particular part
lists the options of this program. An option of the program as a whole may also stand behind the
command, where it weighs more.
-/

set_option autoImplicit false

namespace GpuPlacement.CommandLine

/-! ## Options -/

/-- What follows the name of an option. -/
inductive Arity where
  | flag
  /-- A value, given once. -/
  | value
  /-- A list with commas, or several of them. -/
  | list
  deriving DecidableEq, Repr

/-- An option by its name, perhaps a letter, and the values it accepts. -/
structure OptionSpec where
  name : String
  arity : Arity
  letter : Option Char := none
  accepts : String → Bool := fun _ => true

/-- What may be written at one level of the command line. -/
structure Level where
  options : List OptionSpec
  commands : List String := []
  /-- Whether a plain argument is accepted; `none` if there are no plain arguments. -/
  operand : Option (String → Bool) := none
  hasVersion : Bool := false

/-- Why the command line is not run. -/
inductive Stop where
  | usage
  | help
  | version
  deriving DecidableEq, Repr

/-- What was written at one level. -/
structure Written where
  options : List (String × String)
  operands : List String
  deriving DecidableEq, Repr

namespace Written

def nothing : Written := ⟨[], []⟩

def has (w : Written) (name : String) : Bool := (w.options.lookup name).isSome

def value? (w : Written) (name : String) : Option String := w.options.lookup name

/-- The pieces of a list between its commas. -/
def pieces (text : String) : List String :=
  (Text.splitOn ',' text.toList).map String.ofList

/-- All pieces of the values of an option. -/
def list (w : Written) (name : String) : List String :=
  (w.options.filter fun option => option.1 == name).flatMap fun option => pieces option.2

/-- Adds an option. Only lists may be given twice, and the value must be acceptable. -/
def addOption (w : Written) (spec : OptionSpec) (value : String) : Except Stop Written :=
  if spec.arity ≠ .list ∧ w.has spec.name ∨ !spec.accepts value then .error .usage
  else .ok { w with options := w.options ++ [(spec.name, value)] }

/-- Adds a plain argument, which is a list of its own. -/
def addOperand (w : Written) (level : Level) (text : String) : Except Stop Written :=
  match level.operand with
  | none => .error .usage
  | some accepts =>
    if (pieces text).all accepts then .ok { w with operands := w.operands ++ pieces text }
    else .error .usage

end Written

/-! ## Reading one level -/

/-- Adds the flags of a cluster of letters. -/
def addLetters (level : Level) (w : Written) : List Char → Except Stop Written
  | [] => .ok w
  | 'h' :: _ => .error .help
  | c :: rest =>
    if c == 'V' && level.hasVersion then .error .version
    else
      match level.options.find? fun spec => spec.letter == some c && spec.arity == .flag with
      | none => .error .usage
      | some spec => do addLetters level (← w.addOption spec "") rest

/-- How an argument begins. -/
inductive Form where
  /-- Two hyphens alone. -/
  | separator
  /-- A name behind two hyphens, with the text behind an equals sign. -/
  | long (name : String) (attached : Option String)
  | letters (cs : List Char)
  | plain
  deriving DecidableEq, Repr

/-- The form of an argument. A hyphen alone is plain. -/
def formOf (arg : String) : Form :=
  match arg.toList with
  | ['-'] => .plain
  | ['-', '-'] => .separator
  | '-' :: '-' :: cs =>
    match Text.splitFirst? '=' cs with
    | none => .long (String.ofList cs) none
    | some (name, value) => .long (String.ofList name) (some (String.ofList value))
  | '-' :: cs => .letters cs
  | _ => .plain

/-- Reads a level: what was written at it and, if a command was named, its name and the arguments
behind it. Behind the separator all arguments are plain. -/
def readLevel (level : Level) (w : Written) :
    List String → Except Stop (Written × Option (String × List String))
  | [] => .ok (w, none)
  | arg :: rest =>
    match formOf arg with
    | .separator => do
      let w ← rest.foldlM (fun w text => w.addOperand level text) w
      return (w, none)
    | .letters cs => do readLevel level (← addLetters level w cs) rest
    | .plain =>
      if w.operands.isEmpty && level.commands.contains arg then .ok (w, some (arg, rest))
      else do readLevel level (← w.addOperand level arg) rest
    | .long name attached =>
      if name == "help" && attached.isNone then .error .help
      else if name == "version" && attached.isNone && level.hasVersion then .error .version
      else
        match level.options.find? fun spec => spec.name == name with
        | none => .error .usage
        | some spec =>
          match spec.arity, attached, rest with
          | .flag, none, rest => do readLevel level (← w.addOption spec "") rest
          | .flag, some _, _ => .error .usage
          | _, some value, rest => do readLevel level (← w.addOption spec value) rest
          | _, none, [] => .error .usage
          | _, none, value :: rest =>
            if formOf value = .plain then do readLevel level (← w.addOption spec value) rest
            else .error .usage

/-! ## The options of the program -/

def isPath (text : String) : Bool := text != ""

/-- A number of 64 bits. -/
def readCount? (text : String) : Option Nat := (Text.readNat Text.maxU64 text.toList).toOption

/-- The options that may stand before or behind a command. -/
def globalOptions : List OptionSpec := [
  { name := "config", arity := .value, accepts := isPath },
  { name := "topology", arity := .value, accepts := isPath },
  { name := "policy", arity := .value, accepts := fun s => (PolicyKind.ofName? s).isSome },
  { name := "log-level", arity := .value },
  { name := "verbose", arity := .flag, letter := some 'v' },
  { name := "json", arity := .flag }]

def allocateOptions : List OptionSpec := [
  { name := "size", arity := .value, accepts := fun s => (readCount? s).isSome },
  { name := "available", arity := .list },
  { name := "required", arity := .list }]

def numaNodesOptions : List OptionSpec := [
  { name := "container", arity := .value },
  { name := "mems", arity := .value },
  { name := "visible-devices", arity := .value },
  { name := "sysfs-root", arity := .value, accepts := isPath }]

/-- The commands with what may follow each. -/
def commandLevels : List (String × Level) := [
  ("allocate", { options := globalOptions ++ allocateOptions }),
  ("plan", { options := globalOptions, operand := some fun s => (readCount? s).isSome }),
  ("numa-nodes", { options := globalOptions ++ numaNodesOptions }),
  ("topology", { options := globalOptions })]

def rootLevel : Level where
  options := globalOptions
  commands := "help" :: commandLevels.map Prod.fst
  hasVersion := true

/-- Whether help on `names` can be had: on the program, or on one of its commands. The commands
have none of their own, and options count as names. -/
def isHelpTopic (names : List String) : Bool :=
  match names with
  | [] => true
  | [name] => rootLevel.commands.contains name
  | _ => false

/-! ## Invocations -/

/-- What the program is asked to do. -/
inductive Command where
  | allocate (size : Nat) (available required : List String)
  | plan (counts : List Nat)
  | numaNodes (container : String) (mems visibleDevices sysfsRoot : Option String)
  | topology
  deriving DecidableEq, Repr

/-- A whole command line. -/
structure Invocation where
  config : Option String
  topology : Option String
  policy : Option PolicyKind
  logLevel : Option String
  verbose : Bool
  json : Bool
  command : Command
  deriving DecidableEq, Repr

/-- The command of a name with what was written behind it. -/
def commandOf (name : String) (w : Written) : Except Stop Command :=
  match name with
  | "allocate" =>
    match (w.value? "size").bind readCount? with
    | none => .error .usage
    | some size => .ok (.allocate size (w.list "available") (w.list "required"))
  | "plan" =>
    match w.operands.filterMap readCount? with
    | [] => .error .usage
    | counts => .ok (.plan counts)
  | "numa-nodes" =>
    .ok (.numaNodes ((w.value? "container").getD "cli") (w.value? "mems")
      (w.value? "visible-devices") (w.value? "sysfs-root"))
  | "topology" => .ok .topology
  | _ => .error .help

/-- The invocation that arguments stand for, or why there is none. -/
def parse (args : List String) : Except Stop Invocation := do
  let (before, command) ← readLevel rootLevel .nothing args
  match command with
  | none => .error .usage
  | some (name, rest) =>
    match commandLevels.lookup name with
    | none => .error (if isHelpTopic rest then .help else .usage)
    | some level =>
      let (behind, _) ← readLevel level .nothing rest
      let command ← commandOf name behind
      let value? (option : String) : Option String :=
        (behind.value? option).or (before.value? option)
      return {
        config := value? "config"
        topology := value? "topology"
        policy := (value? "policy").bind PolicyKind.ofName?
        logLevel := value? "log-level"
        verbose := behind.has "verbose" || before.has "verbose"
        json := behind.has "json" || before.has "json"
        command := command }

end GpuPlacement.CommandLine
