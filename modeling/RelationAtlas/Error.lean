/-! # Errors

Each way in which a catalog, a request or a result can be at fault, as a cause with the names it
is about. The wording is `message`, and nothing else depends on it. -/

namespace RelationAtlas

inductive PartFault
  | count
  | empty
  | reserved
deriving DecidableEq, Repr

def PartFault.message : PartFault → String
  | .count => "a name has one to three parts"
  | .empty => "name parts must not be empty"
  | .reserved => "name parts must not contain '[', ']' or '\"'"

inductive CatalogFault
  | documentElement (found : String)
  | missingAttribute (element name : String)
  | unknownTag (tag : String)
  | repeatedTable (name : String)
  | keyArity (foreignKey : String) (columns : Nat) (key : String) (keyColumns : Nat)
deriving DecidableEq, Repr

def CatalogFault.message : CatalogFault → String
  | .documentElement found => "expected <catalog> document element, found <" ++ found ++ ">"
  | .missingAttribute element name =>
    "<" ++ element ++ "> is missing attribute '" ++ name ++ "'"
  | .unknownTag tag => "unknown unsupported tag '" ++ tag ++ "'"
  | .repeatedTable name => "table " ++ name ++ " appears twice"
  | .keyArity foreignKey columns key keyColumns =>
    "foreign key " ++ foreignKey ++ " has " ++ toString columns ++ " columns but key " ++ key ++
      " has " ++ toString keyColumns

inductive ResultFault
  | documentElement (found : String)
  | missingValue (column : String)
  | missingReferencedTable (foreignKey : String)
  | missingReferencedSchema (foreignKey : String)
  | missingReferencedKey (foreignKey : String)
deriving DecidableEq, Repr

def ResultFault.message : ResultFault → String
  | .documentElement found => "expected <root>, found <" ++ found ++ ">"
  | .missingValue column => "missing value for " ++ column
  | .missingReferencedTable name => "foreign key " ++ name ++ " has no referenced table"
  | .missingReferencedSchema name => "foreign key " ++ name ++ " has no referenced schema"
  | .missingReferencedKey name => "foreign key " ++ name ++ " has no referenced key"

inductive FileFault
  | missing
  | notDirectory
  | isDirectory
  | nameTooLong
  | nulInName
  | notText
  | other (reason : String)
deriving DecidableEq, Repr

def FileFault.message : FileFault → String
  | .missing => "No such file or directory (os error 2)"
  | .notDirectory => "Not a directory (os error 20)"
  | .isDirectory => "Is a directory (os error 21)"
  | .nameTooLong => "File name too long (os error 36)"
  | .nulInName => "file name contained an unexpected NUL byte"
  | .notText => "stream did not contain valid UTF-8"
  | .other reason => reason

inductive BrowseError
  | invalidNamePart (part : String) (fault : PartFault)
  | invalidEscapedName (text : String)
  | rootNameInSql
  | unresolvedTable (name : String)
  | unresolvedColumn (table column : String)
  | unresolvedKey (table key : String)
  | unresolvedRelation (relation table : String)
  | tooManyValues (relation : String) (values order : Nat)
  | unknownFlavor (name : String)
  | invalidCatalog (fault : CatalogFault)
  | unexpectedResult (fault : ResultFault)
  | malformedXml
  | unreadableSnapshot (path : String) (fault : FileFault)
  | unwritableSnapshot (path : String) (fault : FileFault)
deriving DecidableEq, Repr

namespace BrowseError

def message : BrowseError → String
  | invalidNamePart part fault =>
    "Invalid object name part '" ++ part ++ "': " ++ fault.message
  | invalidEscapedName text => "Invalid escaped object name: " ++ text
  | rootNameInSql => "The root name is unusable in SQL"
  | unresolvedTable name => "Could not resolve table " ++ name
  | unresolvedColumn table column =>
    "Could not resolve column " ++ column ++ " in table " ++ table
  | unresolvedKey table key => "Could not resolve key " ++ key ++ " in table " ++ table
  | unresolvedRelation relation table =>
    "Can't find relation " ++ relation ++ " in table " ++ table
  | tooManyValues relation values order =>
    "Extent for " ++ relation ++ " has " ++ toString values ++ " filter values but only " ++
      toString order ++ " order columns"
  | unknownFlavor name => "Unknown flavor: " ++ name
  | invalidCatalog fault => "Invalid catalog: " ++ fault.message
  | unexpectedResult fault => "Unexpected query result shape: " ++ fault.message
  | malformedXml => "Failed to parse XML"
  | unreadableSnapshot path _ => "Failed to read catalog snapshot: " ++ path
  | unwritableSnapshot path _ => "Failed to write catalog snapshot: " ++ path

def fileFault? : BrowseError → Option FileFault
  | unreadableSnapshot _ fault => some fault
  | unwritableSnapshot _ fault => some fault
  | _ => none

end BrowseError

end RelationAtlas
