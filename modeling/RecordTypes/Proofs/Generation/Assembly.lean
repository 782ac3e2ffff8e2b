import RecordTypes.Generation.Basic
import RecordTypes.Proofs.Target.Block

/-! An assembly as a whole: its lines and registrations are those of the header, of the shared
declarations that are written, of the tables one after another and of the lookups, in this order. -/

namespace RecordTypes

namespace Assembly

theorem add_add (a : Assembly) (lines lines' : List String) (rs rs' : List Registration)
    (tables tables' : List Table) :
    (a.add lines rs tables).add lines' rs' tables' =
      a.add (lines ++ lines') (rs ++ rs') (tables ++ tables') := by
  simp [add]

theorem add_nil (a : Assembly) : a.add [] [] [] = a := by
  simp [add]

end Assembly

def allFields (tables : List Table) : List Field := tables.flatMap fun table => table.fields

namespace Target

def written (target : Target) (fields : List Field) : List SharedDeclaration :=
  target.sharedDeclarations.filter fun declaration => anyReferences fields declaration.shape

def sharedBlock (target : Target) (fields : List Field) : List String :=
  (target.written fields).flatMap target.sharedLines

def tableBlocks (target : Target) (fieldIds : Bool) (tables : List Table) : List String :=
  tables.flatMap (target.tableLines fieldIds)

def lookupBlock (target : Target) (fieldIds : Bool) (tables : List Table) : List String :=
  if fieldIds then target.tableLookupLines tables else []

/-- Everything that is registered for some tables, from the imports to the lookups. -/
def allRegistrations (target : Target) (fieldIds : Bool) (tables : List Table) :
    List Registration :=
  registeredFrom fromImports target.importedNames ++
    (target.written (allFields tables)).flatMap
      (fun declaration => registeredFrom fromShared declaration.identifiers) ++
    tables.flatMap (fun table => target.registrations table fieldIds) ++
    if fieldIds then registeredFrom fromLookups target.lookupIdentifiers else []

end Target

theorem foldl_addShared (target : Target) (fields : List Field)
    (declarations : List SharedDeclaration) (a : Assembly) :
    declarations.foldl (Assembly.addShared target fields) a =
      a.add ((declarations.filter fun d => anyReferences fields d.shape).flatMap target.sharedLines)
        ((declarations.filter fun d => anyReferences fields d.shape).flatMap
          fun d => registeredFrom fromShared d.identifiers) [] := by
  induction declarations generalizing a with
  | nil => exact a.add_nil.symm
  | cons declaration declarations ih =>
    rw [List.foldl_cons, ih]
    by_cases h : anyReferences fields declaration.shape = true
    · simp [Assembly.addShared, h, Assembly.add_add]
    · simp [Assembly.addShared, h]

theorem addTable_eq (target : Target) (fieldIds : Bool) (a : Assembly) (table : Table) :
    a.addTable target fieldIds table =
      a.add (target.tableLines fieldIds table) (target.registrations table fieldIds) [table] := rfl

theorem foldl_addTable (target : Target) (fieldIds : Bool) (tables : List Table) (a : Assembly) :
    tables.foldl (Assembly.addTable target fieldIds) a =
      a.add (target.tableBlocks fieldIds tables)
        (tables.flatMap fun table => target.registrations table fieldIds) tables := by
  induction tables generalizing a with
  | nil => exact a.add_nil.symm
  | cons table tables ih =>
    rw [List.foldl_cons, ih, addTable_eq, Assembly.add_add]
    rfl

theorem assemble_eq (target : Target) (fieldIds : Bool) (base : Base) (tables : List Table) :
    assemble target fieldIds base tables =
      ⟨target.header base ++ target.sharedBlock (allFields tables) ++
          target.tableBlocks fieldIds tables ++ target.lookupBlock fieldIds tables,
        target.allRegistrations fieldIds tables, tables⟩ := by
  simp only [assemble, foldl_addShared, foldl_addTable, Assembly.add_add, Assembly.addLookups]
  cases fieldIds <;>
    simp [Assembly.add, Assembly.empty, Target.lookupBlock, Target.allRegistrations,
      Target.sharedBlock, Target.written, allFields]

end RecordTypes
