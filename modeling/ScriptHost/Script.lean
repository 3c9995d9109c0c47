import ScriptHost.SortedMap
import ScriptHost.Value

/-!
# Scripts

A loaded script has a name, its compiled code and an environment: named values that it hands on to
the scripts that it starts.
-/

namespace ScriptHost

/-- Named values. -/
abbrev Environment := SortedMap String Value

/-- A loaded script. -/
structure Script where
  name : String
  bytecode : List UInt8
  environment : Environment

instance : Inhabited Script := ⟨⟨"", [], ∅⟩⟩

end ScriptHost
