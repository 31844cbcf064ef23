import RelationAtlas.Text.Basic

/-! # Arguments

The arguments of a command are options and operands. A long option takes its value from behind an
equals sign or from the next argument; short options may stand together in one argument, the last
of them with its value behind it. A value in an argument of its own does not look like an option.
All arguments after `--` are operands. -/

namespace RelationAtlas.Cli

inductive Arity
  | flag
  | optional
  | required
  | repeated
deriving DecidableEq, Repr

inductive UsageFault
  | unexpected (argument : String)
  | unknownCommand (name : String)
  | missingCommand
  | unwantedValue (option : String)
  | missingValue (option : String)
  | invalidValue (option value : String)
  | givenTwice (option : String)
  | notGiven (argument : String)
deriving DecidableEq, Repr

def UsageFault.message : UsageFault → String
  | unexpected argument => "unexpected argument '" ++ argument ++ "' found"
  | unknownCommand name => "unrecognized subcommand '" ++ name ++ "'"
  | missingCommand => "a subcommand is required but none was provided"
  | unwantedValue option => "unexpected value for '" ++ option ++ "' found; no more were expected"
  | missingValue option => "a value is required for '" ++ option ++ "' but none was supplied"
  | invalidValue option value => "invalid value '" ++ value ++ "' for '" ++ option ++ "'"
  | givenTwice option => "the argument '" ++ option ++ "' cannot be used multiple times"
  | notGiven argument => "the following required arguments were not provided:\n  " ++ argument

inductive Stop
  | help
  | version
  | usage (fault : UsageFault)
deriving DecidableEq, Repr

structure OptionSpec where
  long : String
  short : Option Char := none
  arity : Arity
  valueName : String := ""
  accepts : String → Bool := fun _ => true
  preset : Option String := none
  stop : Option Stop := none
  help : String

def OptionSpec.label (o : OptionSpec) : String :=
  if o.arity = .flag then "--" ++ o.long else "--" ++ o.long ++ " <" ++ o.valueName ++ ">"

structure OperandSpec where
  name : String
  many : Bool := false
  help : String

def OperandSpec.label (o : OperandSpec) : String :=
  if o.many then "[" ++ o.name ++ "]..." else "<" ++ o.name ++ ">"

structure CommandSpec where
  name : String
  help : String
  operands : List OperandSpec := []
  options : List OptionSpec

structure Given where
  /-- Options with their values, in the order they were given; a flag has the empty value. -/
  values : List (String × String) := []
  operands : List String := []
  pending : Option OptionSpec := none
  closed : Bool := false

namespace Given

def has (g : Given) (long : String) : Bool := g.values.any fun v => v.1 == long

def all (g : Given) (long : String) : List String :=
  (g.values.filter fun v => v.1 == long).map Prod.snd

def value? (g : Given) (long : String) : Option String := (g.all long).getLast?

def record (g : Given) (o : OptionSpec) (value : String) : Except Stop Given :=
  match o.stop with
  | some stop => .error stop
  | none =>
    if o.arity ≠ .repeated ∧ g.has o.long then .error (.usage (.givenTwice o.label))
    else if !o.accepts value then .error (.usage (.invalidValue o.label value))
    else .ok { g with values := g.values ++ [(o.long, value)], pending := none }

def longOption (options : List OptionSpec) (g : Given) (argument name : String)
    (value : Option String) : Except Stop Given :=
  match options.find? fun o => o.long == name with
  | none => .error (.usage (.unexpected argument))
  | some o =>
    match value with
    | some value => if o.arity = .flag then .error (.usage (.unwantedValue o.label)) else g.record o value
    | none => if o.arity = .flag then g.record o "" else .ok { g with pending := some o }

def shortOptions (options : List OptionSpec) (g : Given) : List Char → Except Stop Given
  | [] => .ok g
  | c :: rest =>
    match options.find? fun o => o.short == some c with
    | none => .error (.usage (.unexpected ("-" ++ String.singleton c)))
    | some o =>
      if o.arity = .flag then do
        let g ← g.record o ""
        shortOptions options g rest
      else match rest with
        | [] => .ok { g with pending := some o }
        | '=' :: value => g.record o (String.ofList value)
        | value => g.record o (String.ofList value)

def operand (spec : CommandSpec) (g : Given) (argument : String) : Except Stop Given :=
  if g.operands.length < spec.operands.length then
    .ok { g with operands := g.operands ++ [argument] }
  else .error (.usage (.unexpected argument))

def step (spec : CommandSpec) (g : Given) (argument : String) : Except Stop Given :=
  if g.closed then g.operand spec argument
  else match g.pending, argument.toList with
    | some o, '-' :: _ :: _ => .error (.usage (.missingValue o.label))
    | some o, _ => g.record o argument
    | none, ['-', '-'] => .ok { g with closed := true }
    | none, '-' :: '-' :: body =>
      match Text.cutAtFirst '=' body with
      | some (name, value) =>
        longOption spec.options g argument (String.ofList name) (some (String.ofList value))
      | none => longOption spec.options g argument (String.ofList body) none
    | none, '-' :: c :: rest => shortOptions spec.options g (c :: rest)
    | none, _ => g.operand spec argument

def complete (spec : CommandSpec) (g : Given) : Except Stop Given :=
  match g.pending with
  | some o => .error (.usage (.missingValue o.label))
  | none =>
    match spec.options.find? fun o => o.arity = .required && !g.has o.long with
    | some o => .error (.usage (.notGiven o.label))
    | none =>
      match spec.operands[g.operands.length]? with
      | some o => .error (.usage (.notGiven o.label))
      | none => .ok g

end Given

def CommandSpec.read (spec : CommandSpec) (arguments : List String) : Except Stop Given := do
  let g ← arguments.foldlM (Given.step spec) {}
  g.complete spec

end RelationAtlas.Cli
