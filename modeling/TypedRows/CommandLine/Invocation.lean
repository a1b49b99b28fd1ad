namespace TypedRows

structure Target where
  language : String
  dialect : String
  deriving DecidableEq, Repr

inductive Command
  | generate (script : String) (target : Target)
  | csv (file : String) (target : Target)
  | batch (directory : String) (pattern : Option String) (target : Target)
  | targets
  deriving DecidableEq, Repr

structure Invocation where
  config : Option String := none
  verbose : Bool := false
  command : Command
  deriving DecidableEq, Repr

namespace CommandLine

structure OptionSpec where
  name : String
  short : Option Char
  -- A flag takes no value.
  isFlag : Bool := false
  -- A path is never empty.
  isPath : Bool := false
  deriving DecidableEq, Repr

def configOption : OptionSpec :=
  { name := "config", short := some 'c', isPath := true }

def verboseOption : OptionSpec :=
  { name := "verbose", short := some 'v', isFlag := true }

-- Options that may also stand before the command.
def commonOptions : List OptionSpec :=
  [configOption, verboseOption]

def targetOptions : List OptionSpec :=
  [{ name := "lang", short := some 'l' }, { name := "rdbms", short := some 'r' }]

-- The options of a command, if there is one of that name.
def optionsOf? (command : String) : Option (List OptionSpec) :=
  match command with
  | "generate" => some ({ name := "ddl", short := none, isPath := true } :: targetOptions)
  | "csv" => some ({ name := "file", short := some 'f', isPath := true } :: targetOptions)
  | "batch" => some
      ({ name := "dir", short := some 'd', isPath := true } ::
        { name := "pattern", short := some 'p' } :: targetOptions)
  | "targets" => some []
  | _ => none

-- Options that were given, with their values; the value of a flag means nothing.
abbrev Given := List (String × String)

-- Gives an option, which may be given once.
def give? (given : Given) (o : OptionSpec) (value : String) : Option Given :=
  if (given.lookup o.name).isSome || (o.isPath && value = "") then none
  else some (given ++ [(o.name, value)])

-- Whether an argument cannot be the value of an option before it.
def isOption (argument : String) : Bool :=
  argument.toList.head? = some '-' && argument ≠ "-"

-- Takes the value of an option from the next argument.
def giveNext? (given : Given) (o : OptionSpec) : List String → Option (Given × List String)
  | value :: rest =>
    if isOption value then none else (give? given o value).map (·, rest)
  | [] => none

def dropEquals : List Char → List Char
  | '=' :: cs => cs
  | cs => cs

-- Reads short names in a row; the first one that takes a value takes what is left.
def shorts? (specs : List OptionSpec) (given : Given) (rest : List String) :
    List Char → Option (Given × List String)
  | [] => some (given, rest)
  | c :: cs =>
    match specs.find? (·.short = some c) with
    | none => none
    | some o =>
      if o.isFlag then (give? given o "").bind fun given => shorts? specs given rest cs
      else if cs.isEmpty then giveNext? given o rest
      else (give? given o (String.ofList (dropEquals cs))).map (·, rest)

-- Reads a long name, which may bring its value after an equals sign.
def long? (specs : List OptionSpec) (given : Given) (rest : List String) (cs : List Char) :
    Option (Given × List String) :=
  let name := String.ofList (cs.takeWhile (· ≠ '='))
  match specs.find? (·.name = name), cs.dropWhile (· ≠ '=') with
  | none, _ => none
  | some o, [] => if o.isFlag then (give? given o "").map (·, rest) else giveNext? given o rest
  | some o, _ :: value =>
    if o.isFlag then none else (give? given o (String.ofList value)).map (·, rest)

-- Reads options up to an argument that is none.
def optionsWithin (specs : List OptionSpec) : (fuel : Nat) → Given → List String →
    Option (Given × List String)
  | _, given, [] => some (given, [])
  | 0, _, _ :: _ => none
  | fuel + 1, given, argument :: rest =>
    let read := match argument.toList with
      | '-' :: '-' :: [] => none
      | '-' :: '-' :: cs => long? specs given rest cs
      | '-' :: c :: cs => shorts? specs given rest (c :: cs)
      | _ => none
    if !isOption argument then some (given, argument :: rest)
    else if argument = "--" then (if rest.isEmpty then some (given, []) else none)
    else read.bind fun (given, rest) => optionsWithin specs fuel given rest

def options? (specs : List OptionSpec) (arguments : List String) : Option (Given × List String) :=
  optionsWithin specs arguments.length [] arguments

def targetOf? (given : Given) : Option Target := do
  return ⟨← given.lookup "lang", ← given.lookup "rdbms"⟩

def commandOf? (name : String) (given : Given) : Option Command := do
  match name with
  | "generate" => return .generate (← given.lookup "ddl") (← targetOf? given)
  | "csv" => return .csv (← given.lookup "file") (← targetOf? given)
  | "batch" => return .batch (← given.lookup "dir") (given.lookup "pattern") (← targetOf? given)
  | "targets" => return .targets
  | _ => none

end CommandLine

open CommandLine in
-- What the arguments ask for. A common option after the command wins over one before it.
def Invocation.ofArguments? (arguments : List String) : Option Invocation := do
  let (before, rest) ← options? commonOptions arguments
  match rest with
  | [] => none
  | name :: rest =>
    let (given, rest) ← options? (commonOptions ++ (← optionsOf? name)) rest
    if !rest.isEmpty then none
    else
      let all := given ++ before
      return {
        config := all.lookup configOption.name
        verbose := (all.lookup verboseOption.name).isSome
        command := ← commandOf? name given }

end TypedRows
