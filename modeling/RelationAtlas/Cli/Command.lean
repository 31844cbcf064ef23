import RelationAtlas.Cli.Argument
import RelationAtlas.Extent.Expander

/-! # Commands

The commands of the program, how they are written, and what they ask for. -/

namespace RelationAtlas.Cli

def programName : String := "rust-sqlbrowse"

def programVersion : String := "0.1.0"

def programHelp : String := "Browse a SQL Server database through its relation graph"

/-- A request of none is the overview of all tables. -/
inductive Command
  | describe (catalog : String) (options : BrowseOptions)
  | sql (catalog : String) (options : BrowseOptions) (request : Option ExtentRequest)
  | materialize (catalog : String) (options : BrowseOptions) (request : Option ExtentRequest)
      (result : String)
  | template (catalog : String) (options : BrowseOptions) (request : Option ExtentRequest)
  | validate (typeName value : String)
  | snapshot (catalog output : String)
deriving DecidableEq, Repr

structure Invocation where
  command : Command
  verbose : Bool
deriving DecidableEq, Repr

def nullText : String := "<null>"

def count? (text : String) : Option Nat := (Text.unsigned? text).filter fun n => n ≤ 0xFFFFFFFFFFFFFFFF

def flavor? (text : String) : Option Flavor := (Flavor.parse text).toOption

def isPath (text : String) : Bool := !text.isEmpty

def defaultTopFlavor : Flavor := ({} : BrowseOptions).topFlavor

def defaultFlavor : Flavor := ⟨.page, 1⟩

def verboseOption : OptionSpec where
  long := "verbose"
  short := some 'v'
  arity := .flag
  help := "Enable verbose output"

def helpOption : OptionSpec where
  long := "help"
  short := some 'h'
  arity := .flag
  stop := some .help
  help := "Print help"

def versionOption : OptionSpec where
  long := "version"
  short := some 'V'
  arity := .flag
  stop := some .version
  help := "Print version"

def pathOption (long : String) (short : Char) (valueName help : String) : OptionSpec where
  long
  short := some short
  arity := .required
  valueName
  accepts := isPath
  help

def catalogOption (help : String) : OptionSpec := pathOption "catalog" 'c' "CATALOG" help

def modelOptions : List OptionSpec := [
  catalogOption "Catalog snapshot file",
  { long := "exclude-views", arity := .flag, help := "Leave views out of the model" },
  { long := "default-limit", arity := .optional, valueName := "DEFAULT_LIMIT"
    accepts := fun v => (count? v).isSome
    help := "Row limit for flavors without a fixed one" },
  { long := "top-flavor", arity := .optional, valueName := "TOP_FLAVOR"
    accepts := fun v => (flavor? v).isSome
    preset := some defaultTopFlavor.display
    help := "Flavor of each table in the overview, e.g. existence or block:1" }]

def requestOptions : List OptionSpec := [
  { long := "table", arity := .optional, valueName := "TABLE"
    help := "Table to query; the overview of all tables when omitted" },
  { long := "flavor", short := some 'f', arity := .optional, valueName := "FLAVOR"
    accepts := fun v => (flavor? v).isSome
    preset := some defaultFlavor.display
    help := "Flavor of the requested table, e.g. page or blocklist:2" },
  { long := "index", arity := .optional, valueName := "INDEX"
    help := "Index to order by and force" },
  { long := "order", arity := .repeated, valueName := "ORDER"
    help := "Order column, `name` or `name:desc`; repeatable" },
  { long := "value", arity := .repeated, valueName := "VALUES"
    help := "Filter value aligned with the order columns; `<null>` for NULL; repeatable" },
  { long := "key-values", arity := .optional, valueName := "KEY_VALUES"
    accepts := fun v => (count? v).isSome
    preset := some "0"
    help := "How many leading values are bound key components" },
  { long := "scan", arity := .optional, valueName := "SCAN", help := "Free-text search" },
  { long := "limit", arity := .optional, valueName := "LIMIT"
    accepts := fun v => (count? v).isSome
    help := "Row limit of the requested table" }]

/-- All options of a command that has some of its own. The one that every command has is described
after the first seven. -/
def commandOptions (own : List OptionSpec) : List OptionSpec :=
  own.take 7 ++ [verboseOption] ++ own.drop 7 ++ [helpOption]

def orderColumn (item : String) : OrderColumn :=
  match Text.cutAtLast ':' item.toList with
  | some (name, direction) => ⟨String.ofList name, Direction.parse (String.ofList direction)⟩
  | none => ⟨item, .ascending⟩

namespace Given

def value (g : Given) (long : String) : String := (g.value? long).getD ""

def browseOptions (g : Given) : BrowseOptions where
  excludeViews := g.has "exclude-views"
  defaultLimit := (g.value? "default-limit").bind count?
  topFlavor := ((g.value? "top-flavor").bind flavor?).getD defaultTopFlavor

def request? (g : Given) : Option ExtentRequest :=
  (g.value? "table").map fun table => {
    table
    flavor := ((g.value? "flavor").bind flavor?).getD defaultFlavor
    index := g.value? "index"
    order := (g.all "order").map orderColumn
    values := (g.all "value").map fun v => if v = nullText then none else some v
    keyCount := ((g.value? "key-values").bind count?).getD 0
    scan := g.value? "scan"
    limit := (g.value? "limit").bind count? }

end Given

def commands : List (CommandSpec × (Given → Command)) := [
  ({ name := "describe"
     help := "Show tables, keys and relations of a catalog snapshot"
     options := commandOptions modelOptions },
    fun g => .describe (g.value "catalog") g.browseOptions),
  ({ name := "sql"
     help := "Print the query for a table, or the overview of all tables"
     options := commandOptions (modelOptions ++ requestOptions) },
    fun g => .sql (g.value "catalog") g.browseOptions g.request?),
  ({ name := "materialize"
     help := "Read a saved query result back into entities"
     options := commandOptions (modelOptions ++ requestOptions ++
       [pathOption "result" 'r' "RESULT" "XML document the query returned"]) },
    fun g => .materialize (g.value "catalog") g.browseOptions g.request? (g.value "result")),
  ({ name := "template"
     help := "Print the empty entity shape of a request"
     options := commandOptions (modelOptions ++ requestOptions) },
    fun g => .template (g.value "catalog") g.browseOptions g.request?),
  ({ name := "validate"
     help := "Check a search value against a column type"
     operands := [{ name := "VALUE", help := "Value to check" }]
     options := commandOptions [
       { long := "type", short := some 't', arity := .required, valueName := "TYPE_NAME"
         help := "SQL type name, e.g. datetime2" }] },
    fun g => .validate (g.value "type") (g.operands.headD "")),
  ({ name := "snapshot"
     help := "Load a catalog snapshot and write it back normalized"
     options := commandOptions [catalogOption "Catalog snapshot to read",
       pathOption "output" 'o' "OUTPUT" "Where to write the result"] },
    fun g => .snapshot (g.value "catalog") (g.value "output"))]

def helpCommand : CommandSpec where
  name := "help"
  help := "Print this message or the help of the given subcommand(s)"
  operands := [{ name := "COMMAND", many := true, help := "Print help for the subcommand(s)" }]
  options := []

def program : CommandSpec where
  name := ""
  help := programHelp
  options := [verboseOption, helpOption, versionOption]

inductive Halt
  | help (command : Option CommandSpec)
  | version
  | usage (fault : UsageFault)

def Stop.within (command : Option CommandSpec) : Stop → Halt
  | help => .help command
  | version => .version
  | usage fault => .usage fault

def helpTopic : List String → Halt
  | [] => .help none
  | name :: rest =>
    match ((commands.map Prod.fst) ++ [helpCommand]).find? fun c => c.name == name with
    | none => .usage (.unknownCommand name)
    | some c =>
      match rest with
      | [] => .help (some c)
      | name :: _ => .usage (.unknownCommand name)

def readCommand (verbose : Bool) (name : String) (arguments : List String) :
    Except Halt Invocation :=
  match commands.find? fun c => c.1.name == name with
  | none => .error (.usage (.unknownCommand name))
  | some (spec, meaning) => do
    let g ← (spec.read arguments).mapError (Stop.within (some spec))
    return ⟨meaning g, verbose || g.has verboseOption.long⟩

def readFrom (g : Given) : List String → Except Halt Invocation
  | [] => .error (.usage .missingCommand)
  | argument :: rest =>
    if argument.toList.head? == some '-' && argument ≠ "-" then do
      let g ← (g.step program argument).mapError (Stop.within none)
      if g.closed then throw (.usage (rest.head?.elim .missingCommand .unexpected))
      readFrom g rest
    else if argument = helpCommand.name then .error (helpTopic rest)
    else readCommand (g.has verboseOption.long) argument rest

def Invocation.read (arguments : List String) : Except Halt Invocation := readFrom {} arguments

end RelationAtlas.Cli
