import RecordTypes.Metadata.Base

/-! Tables selected by name or id. Each request has to mean exactly one table. -/

namespace RecordTypes

/-- Requests of which some do not mean one table, with the names of the tables that were found. -/
structure Unresolved where
  requested : List String
  found : List String
  unresolved : List String

def Unresolved.message (u : Unresolved) : String :=
  "Could not find all tables:\n\nRequested: " ++ ", ".intercalate u.requested ++
    "\nFound: " ++ ", ".intercalate u.found ++
    "\nUnresolved: " ++ ", ".intercalate u.unresolved

def Table.isCalled (table : Table) (request : String) : Bool :=
  request == table.id || request == table.name

/-- The table that a request means, if there is exactly one. -/
def meant? (tables : List Table) (request : String) : Option Table :=
  match tables.filter fun table => table.isCalled request with
  | [table] => some table
  | _ => none

/-- The tables asked for, in the order of the metadata. -/
def select (tables : List Table) (requests : List String) : Except Unresolved (List Table) :=
  let ids := (requests.filterMap (meant? tables)).map fun table => table.id
  let found := tables.filter fun table => ids.contains table.id
  let unresolved := requests.filter fun request => (meant? tables request).isNone
  if unresolved.isEmpty then .ok found
  else .error ⟨requests, found.map fun table => table.name, unresolved⟩

/-- Without a request all tables are taken. -/
def selectIf (tables : List Table) : Option (List String) → Except Unresolved (List Table)
  | some requests => select tables requests
  | none => .ok tables

end RecordTypes
