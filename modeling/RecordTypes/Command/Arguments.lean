/-! Arguments of a command taken apart into options, flags and the other arguments. An option takes
its value from the same argument or from the next one. Letters of short options may share an
argument. After `--` there are no more options. -/

namespace RecordTypes

structure OptionForm where
  name : String
  letter : Option Char
  takesValue : Bool

/-- The settings are in the order given; those of a flag have no value. -/
structure Arguments where
  settings : List (String × Option String)
  others : List String

namespace Arguments

def empty : Arguments := ⟨[], []⟩

def set (a : Arguments) (name : String) (value : Option String) : Arguments :=
  { a with settings := a.settings ++ [(name, value)] }

/-- The value given last. -/
def value? (a : Arguments) (name : String) : Option String :=
  (a.settings.reverse.lookup name).join

def has (a : Arguments) (name : String) : Bool := (a.settings.lookup name).isSome

end Arguments

/-- What an argument settles, and the option that still needs a value. -/
structure Settled where
  settings : List (String × Option String)
  awaited : Option String

def Settled.flag (name : String) : Settled := ⟨[(name, none)], none⟩

def Settled.valued (name value : String) : Settled := ⟨[(name, some value)], none⟩

def Settled.awaiting (name : String) : Settled := ⟨[], some name⟩

def settleName (forms : List OptionForm) (name : String) (value : Option String) : Option Settled :=
  match forms.find? fun form => form.name == name, value with
  | some form, some value => if form.takesValue then some (.valued name value) else none
  | some form, none => some (if form.takesValue then .awaiting name else .flag name)
  | none, _ => none

/-- An option spelled out, with a value after an equals sign or without. -/
def settleLong (forms : List OptionForm) (s : List Char) : Option Settled :=
  let name := String.ofList (s.takeWhile (· != '='))
  match s.dropWhile (· != '=') with
  | _ :: value => settleName forms name (some (String.ofList value))
  | [] => settleName forms name none

def settleLetters (forms : List OptionForm) : List Char → Option Settled
  | [] => some ⟨[], none⟩
  | letter :: rest =>
    match forms.find? fun form => form.letter == some letter with
    | none => none
    | some form =>
      if form.takesValue then
        some (if rest.isEmpty then .awaiting form.name
          else .valued form.name (String.ofList rest))
      else (settleLetters forms rest).map fun settled =>
        { settled with settings := (form.name, none) :: settled.settings }

inductive Argument where
  | other
  | endOfOptions
  | settled (s : Settled)
  | unknown

def Argument.ofSettled : Option Settled → Argument
  | some s => .settled s
  | none => .unknown

def readArgument (forms : List OptionForm) (argument : String) : Argument :=
  match argument.toList with
  | ['-', '-'] => .endOfOptions
  | '-' :: '-' :: rest => .ofSettled (settleLong forms ('-' :: '-' :: rest))
  | '-' :: letter :: rest => .ofSettled (settleLetters forms (letter :: rest))
  | _ => .other

def Arguments.read (forms : List OptionForm) (a : Arguments) : List String → Option Arguments
  | [] => some a
  | argument :: rest =>
    match readArgument forms argument with
    | .other => ({ a with others := a.others ++ [argument] } : Arguments).read forms rest
    | .endOfOptions => some { a with others := a.others ++ rest }
    | .unknown => none
    | .settled s =>
      let a : Arguments := { a with settings := a.settings ++ s.settings }
      match s.awaited, rest with
      | none, rest => a.read forms rest
      | some name, value :: rest => (a.set name (some value)).read forms rest
      | some _, [] => none

def argumentsOf (forms : List OptionForm) (arguments : List String) : Option Arguments :=
  Arguments.empty.read forms arguments

end RecordTypes
