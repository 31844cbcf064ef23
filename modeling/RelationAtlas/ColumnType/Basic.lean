import RelationAtlas.ColumnType.DateTime
import RelationAtlas.ColumnType.Range
import RelationAtlas.Text.Case

/-! # Column types

The families of SQL column types, by what a search text may mean for them. A type name outside
the list has no family, and its columns are left out of a model. -/

namespace RelationAtlas

inductive ColumnType
  | character (unicode : Bool)
  | integer (kind : IntegerKind)
  | decimal
  | float
  | guid
  | dateTime (kind : DateTimeKind)
  | binary
  | assembly
deriving DecidableEq, Repr

inductive ScanOption
  | equal (value : String)
  | substring (value : String)
deriving DecidableEq, Repr

namespace ColumnType

def names : List (String × ColumnType) := [
  ("char", character false), ("varchar", character false), ("sysname", character true),
  ("nchar", character true), ("nvarchar", character true),
  ("bit", integer .bit), ("tinyint", integer .tinyInt), ("smallint", integer .smallInt),
  ("int", integer .int), ("bigint", integer .bigInt),
  ("decimal", decimal), ("numeric", decimal), ("money", decimal), ("smallmoney", decimal),
  ("float", float), ("real", float),
  ("uniqueidentifier", guid),
  ("date", dateTime .date), ("time", dateTime .time), ("smalldatetime", dateTime .smallDateTime),
  ("datetime", dateTime .dateTime), ("datetime2", dateTime .dateTime2),
  ("datetimeoffset", dateTime .dateTimeOffset),
  ("binary", binary), ("varbinary", binary), ("timestamp", binary), ("rowversion", binary),
  ("hierarchyid", assembly), ("geometry", assembly), ("geography", assembly)]

def ofSqlName? (name : String) : Option ColumnType :=
  names.lookup (Text.toLowerAscii (Text.trim name))

/-- Any text is a value of a character column; the empty text leaves both sides open. -/
def validateText (text : String) : ValueRange :=
  if text.isEmpty then .unbounded else .exact text

def validate : ColumnType → String → Except ValueFault ValueRange
  | character _, text => .ok (validateText text)
  | integer kind, text => kind.validate text
  | decimal, text => validateDecimal text
  | float, text => validateFloat text
  | guid, text => Guid.validate text
  | dateTime kind, text => kind.validate text
  | binary, _ => .error .binary
  | assembly, _ => .error .binary

def exactValue? : Except ValueFault ValueRange → Option String
  | .ok range => if range.isExact then range.lower else none
  | .error _ => none

def scanOption? : ColumnType → String → Option ScanOption
  | character _, value => if value.isEmpty then none else some (.substring value)
  | dateTime _, _ => none
  | binary, _ => none
  | assembly, _ => none
  | type, value => (exactValue? (type.validate value)).map .equal

def isCharacter : ColumnType → Bool
  | character _ => true
  | _ => false

def isBinary : ColumnType → Bool
  | binary => true
  | _ => false

def needsTextCast : ColumnType → Bool
  | assembly => true
  | _ => false

def isSeekable : ColumnType → Bool
  | binary => false
  | assembly => false
  | _ => true

end ColumnType

end RelationAtlas
