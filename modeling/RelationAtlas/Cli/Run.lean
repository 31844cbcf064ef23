import RelationAtlas.Catalog.Snapshot
import RelationAtlas.Cli.Command
import RelationAtlas.Entity.Basic
import RelationAtlas.Entity.Materialize
import RelationAtlas.Json
import RelationAtlas.Model.Basic
import RelationAtlas.Model.Build
import RelationAtlas.Query.Compile

/-! # Running commands

What a command line prints and which exit code it ends with, given access to files. A command that
fails prints nothing but why it failed. -/

namespace RelationAtlas.Cli

/-! ## Descriptions of models

The tables of a model as JSON, each with its columns, indexes and relations. -/

def columnJson (c : Column) : Json :=
  .object [("name", .text c.name), ("sql_type", .text c.sqlType), ("nullable", .bool c.nullable)]

def indexJson (t : Table) (i : Index) : Json :=
  .object [("name", .text i.name), ("unique", .bool i.unique), ("primary", .bool i.primary),
    ("columns", .array ((t.columnNames i.tuple).map .text)),
    ("unsupported", .ofOption (fun r => .text r.display) i.unsupported)]

def relationJson (m : Model) (name : String) (e : EndId) : Json :=
  .object [("name", .text name), ("target", .text (m.target e).name.simple),
    ("many", .bool (m.navigatesToMany e)), ("uniquely_typed", .bool (m.isUniquelyTyped e))]

def tableJson (m : Model) (t : Table) : Json :=
  .object [("name", .text t.name.simple), ("abbreviation", .text t.abbreviation),
    ("hue", .number t.hue), ("is_view", .bool t.isView),
    ("primary_name", .ofOption (fun c => .text c.name) t.primaryNameColumn?),
    ("columns", .array (t.columns.map columnJson)),
    ("indexes", .array (t.indexes.map (indexJson t))),
    ("relations", .array (t.relations.entries.map fun (name, e) => relationJson m name e))]

def modelJson (m : Model) : Json := .array (m.realTables.map (tableJson m))

/-! ## Help

What the program and its commands are for, how they are written, and what their arguments mean, in
two columns. -/

def twoColumns (rows : List (String × String)) : List String :=
  let width := (rows.map fun r => r.1.length).foldl max 0
  rows.map fun (first, second) =>
    "  " ++ first ++ String.ofList (List.replicate (width - first.length) ' ') ++ "  " ++ second

def block (heading : String) (rows : List (String × String)) : List String :=
  if rows.isEmpty then [] else ["", heading ++ ":"] ++ twoColumns rows

def optionRow (o : OptionSpec) : String × String :=
  ((match o.short with
    | some c => "-" ++ String.singleton c ++ ", "
    | none => "    ") ++ o.label,
   o.help ++ (match o.preset with
    | some value => " [default: " ++ value ++ "]"
    | none => ""))

def requiredLabels (spec : CommandSpec) : List String :=
  (spec.options.filter fun o => o.arity = .required).map OptionSpec.label

def usage (spec : CommandSpec) : String :=
  " ".intercalate ([programName, spec.name] ++
    (if spec.options.any fun o => o.arity ≠ .required ∧ o.stop.isNone then ["[OPTIONS]"] else []) ++
    requiredLabels spec ++ spec.operands.map OperandSpec.label)

def page (help usage : String) (blocks : List String) : String :=
  String.join (([help, "", "Usage: " ++ usage] ++ blocks).map fun line => line ++ "\n")

def CommandSpec.page (spec : CommandSpec) : String :=
  Cli.page spec.help (usage spec)
    (block "Arguments" (spec.operands.map fun o => (o.label, o.help)) ++
      block "Options" (spec.options.map optionRow))

def programPage : String :=
  page program.help (programName ++ " [OPTIONS] <COMMAND>")
    (block "Commands" (((commands.map Prod.fst) ++ [helpCommand]).map fun c => (c.name, c.help)) ++
      block "Options" (program.options.map optionRow))

/-! ## Commands -/

structure Outcome where
  exitCode : Nat
  stdout : String := ""
  stderr : String := ""
deriving DecidableEq, Repr

structure Failure where
  message : String
  cause : Option String := none
deriving DecidableEq, Repr

namespace Failure

def ofError (e : BrowseError) : Failure := ⟨e.message, e.fileFault?.map FileFault.message⟩

def indented (text : String) : String := "    " ++ Text.replace "\n" "\n    " text

def text (f : Failure) : String :=
  "Error: " ++ f.message ++
    (match f.cause with
      | some cause => "\n\nCaused by:\n" ++ indented cause
      | none => "") ++ "\n"

end Failure

variable {m : Type → Type} [Monad m]

def orFail {α : Type} (x : Except BrowseError α) : ExceptT Failure m α :=
  .mk (pure (x.mapError .ofError))

def loadCatalog (files : FileAccess m) (path : String) : ExceptT Failure m Catalog := do
  orFail (← (Snapshot.load files path).run)

def loadModel (files : FileAccess m) (path : String) (options : BrowseOptions) :
    ExceptT Failure m Model := do
  let catalog ← loadCatalog files path
  match Model.build options catalog with
  | .ok model => return model
  | .error e => throw ⟨"Failed to model " ++ path, some e.message⟩

def readText (files : FileAccess m) (path : String) : ExceptT Failure m String := do
  match ← files.read path with
  | .ok text => return text
  | .error fault => throw ⟨"Failed to read " ++ path, some fault.message⟩

def compile (model : Model) (options : BrowseOptions) :
    Option ExtentRequest → Except BrowseError (Extent × String)
  | some r => compileRequest model options r
  | none => compileOverview model options

def rangeJson (r : ValueRange) : Json :=
  .object [("lower", .ofOption .text r.lower), ("upper", .ofOption .text r.upper)]

def validate (typeName value : String) : Except Failure Json :=
  match ColumnType.ofSqlName? typeName with
  | none => .error ⟨"Unsupported column type: " ++ typeName, none⟩
  | some type =>
    match type.validate value with
    | .ok range => .ok (rangeJson range)
    | .error fault => .error ⟨"Invalid value for " ++ typeName ++ ": " ++ fault.message, none⟩

def line (text : String) : String := text ++ "\n"

def Command.run (files : FileAccess m) (verbose : Bool) : Command → ExceptT Failure m String
  | .describe catalog options => do
    let model ← loadModel files catalog options
    return line (modelJson model).pretty
  | .sql catalog options request => do
    let model ← loadModel files catalog options
    let (_, statement) ← orFail (compile model options request)
    return line statement
  | .materialize catalog options request result => do
    let model ← loadModel files catalog options
    let (extent, _) ← orFail (compile model options request)
    let answer ← orFail (QueryResult.parse model extent (← readText files result))
    return line answer.root.toJson.pretty
  | .template catalog options request => do
    let model ← loadModel files catalog options
    let (extent, _) ← orFail (compile model options request)
    let entity ← orFail (Entity.template model extent)
    return line entity.toJson.pretty
  | .validate typeName value => do
    let range ← ExceptT.mk (pure (Cli.validate typeName value))
    return line range.pretty
  | .snapshot path output => do
    let catalog ← loadCatalog files path
    orFail (← (Snapshot.save files output catalog).run)
    return if verbose then
      line ("Wrote " ++ toString catalog.tables.length ++ " tables to " ++ output)
    else ""

def Halt.outcome : Halt → Outcome
  | help none => ⟨0, programPage, ""⟩
  | help (some command) => ⟨0, command.page, ""⟩
  | version => ⟨0, line (programName ++ " " ++ programVersion), ""⟩
  | usage fault =>
    ⟨2, "", "error: " ++ fault.message ++ "\n\nFor more information, try '--help'.\n"⟩

def run (files : FileAccess m) (arguments : List String) : m Outcome := do
  match Invocation.read arguments with
  | .error halt => return halt.outcome
  | .ok i =>
    match ← (i.command.run files i.verbose).run with
    | .ok text => return ⟨0, text, ""⟩
    | .error failure => return ⟨1, "", failure.text⟩

end RelationAtlas.Cli
