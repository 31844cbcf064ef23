import RelationAtlas.Json
import RelationAtlas.Model.Table

/-! # Entities

A row of a result with the rows fetched for it, list by list in the order of the extent's
children. -/

namespace RelationAtlas

mutual

structure Entity where
  values : NameMap (Option String)
  matching : Option Bool
  related : List Related

structure Related where
  name : String
  tableAlias : String
  endId : EndId
  entities : List Entity

end

namespace Entity

mutual

protected def decEq : (a b : Entity) → Decidable (a = b)
  | ⟨values, matching, related⟩, ⟨values', matching', related'⟩ =>
    match decEq (values, matching) (values', matching'), decEqLists related related' with
    | isTrue h, isTrue h' => isTrue (by cases h; rw [h'])
    | isFalse h, _ => isFalse fun e => h (by cases e; rfl)
    | _, isFalse h => isFalse fun e => h (Entity.mk.inj e).2.2

def decEqLists : (a b : List Related) → Decidable (a = b)
  | [], [] => isTrue rfl
  | [], _ :: _ => isFalse nofun
  | _ :: _, [] => isFalse nofun
  | a :: as, b :: bs =>
    match decEqList a b, decEqLists as bs with
    | isTrue h, isTrue h' => isTrue (by rw [h, h'])
    | isFalse h, _ => isFalse fun e => h (List.cons.inj e).1
    | _, isFalse h => isFalse fun e => h (List.cons.inj e).2

def decEqList : (a b : Related) → Decidable (a = b)
  | ⟨name, tableAlias, endId, entities⟩, ⟨name', tableAlias', endId', entities'⟩ =>
    match decEq (name, tableAlias, endId) (name', tableAlias', endId'),
      decEqRows entities entities' with
    | isTrue h, isTrue h' => isTrue (by cases h; rw [h'])
    | isFalse h, _ => isFalse fun e => h (by cases e; rfl)
    | _, isFalse h => isFalse fun e => h (Related.mk.inj e).2.2.2

def decEqRows : (a b : List Entity) → Decidable (a = b)
  | [], [] => isTrue rfl
  | [], _ :: _ => isFalse nofun
  | _ :: _, [] => isFalse nofun
  | a :: as, b :: bs =>
    match Entity.decEq a b, decEqRows as bs with
    | isTrue h, isTrue h' => isTrue (by rw [h, h'])
    | isFalse h, _ => isFalse fun e => h (List.cons.inj e).1
    | _, isFalse h => isFalse fun e => h (List.cons.inj e).2

end

instance : DecidableEq Entity := Entity.decEq

instance : DecidableEq Related := decEqList

/-- The value of a column; none if it is NULL or was not selected. -/
def value? (e : Entity) (column : String) : Option String := (e.values.get? column).join

def related? (e : Entity) (relation : String) : Option Related :=
  e.related.find? fun r => r.name == relation

def rows (e : Entity) (relation : String) : List Entity :=
  ((e.related? relation).map Related.entities).getD []

end Entity

structure QueryResult where
  fingerprint : Option String
  root : Entity
deriving DecidableEq

def QueryResult.entities (r : QueryResult) (relation : String) : List Entity :=
  r.root.rows relation

/-! ## Entities as JSON

An entity is shown as an object with its columns and its relations, both by name. A list whose
name is taken by a list before it gets its alias added to the name. -/

namespace Entity

def displayKey (shown : NameMap Json) (name tableAlias : String) : String :=
  if shown.contains name then name ++ " (" ++ tableAlias ++ ")" else name

def columnsJson (values : NameMap (Option String)) : Json :=
  .object (values.entries.map fun (name, value) => (name, .ofOption .text value))

mutual

def toJson : Entity → Json
  | ⟨values, _, related⟩ =>
    .object [("columns", columnsJson values), ("relations", .object (relatedJson .empty related).entries)]

def relatedJson (shown : NameMap Json) : List Related → NameMap Json
  | [] => shown
  | ⟨name, tableAlias, _, entities⟩ :: rest =>
    relatedJson (shown.insert (displayKey shown name tableAlias) (.array (rowsJson entities))) rest

def rowsJson : List Entity → List Json
  | [] => []
  | e :: rest => e.toJson :: rowsJson rest

end

end Entity

end RelationAtlas
