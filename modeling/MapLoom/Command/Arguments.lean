import MapLoom.Text.Basic

set_option autoImplicit false

/-!
# Arguments

Options stand before or after the name of a command, with their value in the same argument or in the
next one; given on both sides, the later one counts. No option is given twice on one side, values
are not empty, and a value of its own argument does not look like an option.
-/
namespace MapLoom.Command

/-- Where arguments stand: before any command's name, or after one. -/
inductive Side
  | program
  | file
  | dumpSchema
  deriving DecidableEq

structure Given where
  root : Option Text
  config : Option Text
  verbose : Bool
  schema : Option Text
  path : Option Text

namespace Given

def nothing : Given := ⟨none, none, false, none, none⟩

end Given

inductive Side.End
  | reached (given : Given)
  | command (given : Given) (name : Text) (rest : List Text)
  | version
  | help
  | misuse

/-- Sets what must be given once only and not be empty. -/
def setOnce (old : Option Text) (value : Text) : Option (Option Text) :=
  if old.isSome || value.isEmpty then none else some (some value)

inductive Valued
  | root
  | config
  | schema
  deriving DecidableEq

namespace Valued

def ofName? (side : Side) (name : Text) : Option Valued :=
  if name = "root" then some .root
  else if name = "config" then some .config
  else if name = "file" ∧ side = .dumpSchema then some .schema
  else none

def give (option : Valued) (g : Given) (value : Text) : Option Given :=
  match option with
  | .root => (setOnce g.root value).map fun root => { g with root }
  | .config => (setOnce g.config value).map fun config => { g with config }
  | .schema => (setOnce g.schema value).map fun schema => { g with schema }

end Valued

/-- Whether an argument looks like an option; a single hyphen does not. -/
def isOption : Text → Bool
  | '-' :: _ :: _ => true
  | _ => false

/-- An argument that is no option, or comes after the mark that ends the options. -/
def giveOperand (side : Side) (g : Given) (operand : Text) : Option Given :=
  match side with
  | .file => (setOnce g.path operand).map fun path => { g with path }
  | _ => none

def giveOperands (side : Side) : Given → List Text → Side.End
  | g, [] => .reached g
  | g, operand :: rest =>
    match giveOperand side g operand with
    | some g => giveOperands side g rest
    | none => .misuse

/-- What the letters after one hyphen say. -/
inductive Letters
  | given (g : Given)
  | wantsRoot (g : Given)
  | version
  | help
  | misuse

def letters (side : Side) : Given → Text → Letters
  | g, [] => .given g
  | g, c :: t =>
    if c = 'v' then if g.verbose then .misuse else letters side { g with verbose := true } t
    else if c = 'r' then
      match t with
      | [] => .wantsRoot g
      | '=' :: value => ((Valued.root.give g value).map .given).getD .misuse
      | value => ((Valued.root.give g value).map .given).getD .misuse
    else if c = 'h' then .help
    else if c = 'V' ∧ side = .program then .version
    else .misuse

/-- The name of a long option and the value in the same argument, if there is one. -/
def longOption (t : Text) : Text × Option Text :=
  match t.cut? "=" with
  | some (name, value) => (name, some value)
  | none => (t, none)

def readSide (side : Side) : Given → List Text → Side.End
  | g, [] => .reached g
  | g, ('-' :: '-' :: name) :: args =>
    if name = [] then giveOperands side g args
    else
      let (name, value) := longOption name
      match Valued.ofName? side name with
      | some option =>
        match value, args with
        | some value, args =>
          match option.give g value with
          | some g => readSide side g args
          | none => .misuse
        | none, value :: args =>
          if isOption value then .misuse
          else
            match option.give g value with
            | some g => readSide side g args
            | none => .misuse
        | none, [] => .misuse
      | none =>
        if value.isSome then .misuse
        else if name = "verbose" then
          if g.verbose then .misuse else readSide side { g with verbose := true } args
        else if name = "help" then .help
        else if name = "version" ∧ side = .program then .version
        else .misuse
  | g, ('-' :: c :: t) :: args =>
    match letters side g (c :: t), args with
    | .given g, args => readSide side g args
    | .wantsRoot g, value :: args =>
      if isOption value then .misuse
      else
        match Valued.root.give g value with
        | some g => readSide side g args
        | none => .misuse
    | .wantsRoot _, [] => .misuse
    | .version, _ => .version
    | .help, _ => .help
    | .misuse, _ => .misuse
  | g, operand :: args =>
    if side = .program then .command g operand args
    else
      match giveOperand side g operand with
      | some g => readSide side g args
      | none => .misuse

inductive Task
  | generateAll
  | generateFile (path : Text)
  | dumpSchema (file : Option Text)
  deriving DecidableEq

structure Options where
  root : Option Text
  config : Option Text
  verbose : Bool
  deriving DecidableEq

inductive Request
  | perform (options : Options) (task : Task)
  | version
  | help
  | misuse
  deriving DecidableEq

/-- The options of both sides; those after the command's name count. -/
def Options.ofSides (before after : Given) : Options :=
  ⟨after.root <|> before.root, after.config <|> before.config, before.verbose || after.verbose⟩

def task? (side : Side) (g : Given) : Option Task :=
  match side with
  | .program => some .generateAll
  | .file => g.path.map .generateFile
  | .dumpSchema => some (.dumpSchema g.schema)

def Request.ofCommand (before : Given) (side : Side) (args : List Text) : Request :=
  match readSide side .nothing args with
  | .reached after =>
    match task? side after with
    | some task => .perform (.ofSides before after) task
    | none => .misuse
  | .command .. => .misuse
  | .version => .version
  | .help => .help
  | .misuse => .misuse

/-- Help is given on the program or on one of its commands, itself included. -/
def Request.ofHelp (topics : List Text) : Request :=
  if ([[], ["file"], ["dump-schema"], ["help"]] : List (List Text)).contains topics then .help
  else .misuse

def Request.ofArguments (args : List Text) : Request :=
  match readSide .program .nothing args with
  | .reached g => .perform (.ofSides g .nothing) .generateAll
  | .command g name rest =>
    if name = "file" then ofCommand g .file rest
    else if name = "dump-schema" then ofCommand g .dumpSchema rest
    else if name = "help" then ofHelp rest
    else .misuse
  | .version => .version
  | .help => .help
  | .misuse => .misuse

end MapLoom.Command
