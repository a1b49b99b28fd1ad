namespace TypedRows

inductive Failure
  | parse (detail : String)
  | typeResolution (detail : String)
  | unsupportedTarget (detail : String)
  | emissionInvariant (detail : String)
  | limitExceeded (detail : String)
  | configuration (detail : String)
  | io (detail : String)
  | archive (detail : String)
  | serialization (detail : String)
  deriving DecidableEq, Repr

namespace Failure

def detail : Failure → String
  | parse d | typeResolution d | unsupportedTarget d | emissionInvariant d | limitExceeded d
  | configuration d | io d | archive d | serialization d => d

def heading : Failure → String
  | parse _ => "Parse error: "
  | typeResolution _ => "Type resolution error: "
  | unsupportedTarget _ => "Unsupported target: "
  | emissionInvariant _ => "Emission invariant violated: "
  | limitExceeded _ => "Limit exceeded: "
  | configuration _ => "Configuration error: "
  | io _ => "IO error: "
  | archive _ => "Archive error: "
  | serialization _ => "Serialization error: "

def message (f : Failure) : String :=
  f.heading ++ f.detail

end Failure
end TypedRows
