import RelationAtlas.Entity.Materialize
import RelationAtlas.Query.Compile
import RelationAtlas.SystemViews.Reading

/-! # The current model

Readers share one model, which is replaced as a whole: by a given one, or by a new one when the
fingerprint of the database has changed. Whatever fails on the way leaves it as it was. -/

namespace RelationAtlas

/-! ## Reading a schema

A database is asked three statements: for its fingerprint, for its tables, and for its foreign
keys. From the answers a catalog is read and a model is built. What answers the statements is a
source in any monad. -/

inductive SchemaQuestion
  | fingerprint
  | tables
  | foreignKeys
deriving DecidableEq, Repr

inductive SchemaError
  | unanswered (question : SchemaQuestion) (reason : String)
  | malformedFingerprint
  | browse (e : BrowseError)
deriving DecidableEq

def SchemaQuestion.subject : SchemaQuestion → String
  | fingerprint => "the schema fingerprint"
  | tables => "tables"
  | foreignKeys => "foreign keys"

def SchemaError.message : SchemaError → String
  | unanswered question reason => "Failed to query " ++ question.subject ++ ": " ++ reason
  | malformedFingerprint => "Failed to parse the fingerprint result"
  | browse e => e.message

def SchemaError.lift {m : Type → Type} [Monad m] {α : Type} (x : Except BrowseError α) :
    ExceptT SchemaError m α :=
  .mk (pure (x.mapError browse))

abbrev SchemaSource (m : Type → Type) := String → m (Except String String)

structure SchemaReader where
  system : Model
  tables : Extent
  foreignKeys : Extent
  options : BrowseOptions

namespace SchemaReader

variable {m : Type → Type} [Monad m]

def new (options : BrowseOptions) : Except BrowseError SchemaReader := do
  let system ← systemModel
  return ⟨system, ← SystemViews.tablesExtent system, ← SystemViews.foreignKeysExtent system, options⟩

/-- The extent that a question is asked with; the outermost extent alone gives the fingerprint. -/
def extent (r : SchemaReader) : SchemaQuestion → Extent
  | .fingerprint => .root ⟨.none, 0⟩
  | .tables => r.tables
  | .foreignKeys => r.foreignKeys

def sql (r : SchemaReader) (question : SchemaQuestion) : Except BrowseError String :=
  Query.sql r.system (r.extent question)

def ask (r : SchemaReader) (source : SchemaSource m) (question : SchemaQuestion) :
    ExceptT SchemaError m String := do
  let statement ← SchemaError.lift (r.sql question)
  match ← source statement with
  | .ok document => return document
  | .error reason => throw (.unanswered question reason)

def fingerprint (r : SchemaReader) (source : SchemaSource m) :
    ExceptT SchemaError m (Option String) := do
  match Xml.parse? (← r.ask source .fingerprint) with
  | some e => return e.attribute? Query.fingerprintAttribute
  | none => throw .malformedFingerprint

def result (r : SchemaReader) (source : SchemaSource m) (question : SchemaQuestion) :
    ExceptT SchemaError m QueryResult := do
  let document ← r.ask source question
  SchemaError.lift (QueryResult.parse r.system (r.extent question) document)

def readCatalog (r : SchemaReader) (source : SchemaSource m) : ExceptT SchemaError m Catalog := do
  let tables ← r.result source .tables
  let foreignKeys ← r.result source .foreignKeys
  SchemaError.lift (SystemViews.catalogOfResults tables foreignKeys)

def build (r : SchemaReader) (source : SchemaSource m) : ExceptT SchemaError m Model := do
  let catalog ← r.readCatalog source
  SchemaError.lift (Model.build r.options catalog)

def renew (r : SchemaReader) (source : SchemaSource m) (current : Model) :
    ExceptT SchemaError m (Option Model) := do
  let fingerprint ← r.fingerprint source
  if current.isStale fingerprint then return some (← r.build source)
  return none

end SchemaReader

/-! ## Sharing -/

structure CurrentModel where
  model : Model
deriving DecidableEq

namespace CurrentModel

variable {m : Type → Type} [Monad m]

def replace (_ : CurrentModel) (model : Model) : CurrentModel := ⟨model⟩

def refresh (c : CurrentModel) (r : SchemaReader) (source : SchemaSource m) :
    m (Except SchemaError Bool × CurrentModel) := do
  match ← (r.renew source c.model).run with
  | .ok (some model) => return (.ok true, c.replace model)
  | .ok none => return (.ok false, c)
  | .error e => return (.error e, c)

end CurrentModel

end RelationAtlas
