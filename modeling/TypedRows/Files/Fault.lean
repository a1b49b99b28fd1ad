namespace TypedRows

inductive FileFault
  | notFound
  | denied
  | alreadyThere
  | notDirectory
  | isDirectory
  -- Any other fault, by its number.
  | other (code : Nat) (text : String)
  deriving DecidableEq, Repr

namespace FileFault

def code : FileFault → Nat
  | notFound => 2
  | denied => 13
  | alreadyThere => 17
  | notDirectory => 20
  | isDirectory => 21
  | other code _ => code

def text : FileFault → String
  | notFound => "No such file or directory"
  | denied => "Permission denied"
  | alreadyThere => "File exists"
  | notDirectory => "Not a directory"
  | isDirectory => "Is a directory"
  | other _ text => text

def message (f : FileFault) : String :=
  f.text ++ " (os error " ++ toString f.code ++ ")"

end FileFault
end TypedRows
