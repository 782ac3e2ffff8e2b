import RecordTypes.Code.Dialect
import RecordTypes.Metadata.Named

/-! What declarations are written as: for each of two languages, static types or schemas that also
validate values at run time. -/

namespace RecordTypes

inductive Language where
  | typescript
  | python
  deriving DecidableEq

instance : Named Language where
  all := [.typescript, .python]
  name
    | .typescript => "typescript"
    | .python => "python"

inductive Mode where
  | types
  | schemas
  deriving DecidableEq

instance : Named Mode where
  all := [.types, .schemas]
  name
    | .types => "types"
    | .schemas => "schemas"

/-- Interfaces and Zod schemas in TypeScript, typed dictionaries and Pydantic models in Python. -/
inductive Target where
  | interface
  | zod
  | typedDict
  | model
  deriving DecidableEq

namespace Target

def all : List Target := [.interface, .zod, .typedDict, .model]

def of : Language → Mode → Target
  | .typescript, .types => .interface
  | .typescript, .schemas => .zod
  | .python, .types => .typedDict
  | .python, .schemas => .model

def ofNames? (language mode : String) : Option Target :=
  match Named.ofName? language, Named.ofName? mode with
  | some language, some mode => some (of language mode)
  | _, _ => none

def language : Target → Language
  | .interface | .zod => .typescript
  | .typedDict | .model => .python

def mode : Target → Mode
  | .interface | .typedDict => .types
  | .zod | .model => .schemas

def dialect (target : Target) : Dialect :=
  match target.language with
  | .typescript => typescriptDialect
  | .python => pythonDialect

end Target

end RecordTypes
