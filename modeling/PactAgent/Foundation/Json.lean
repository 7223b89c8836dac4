import Mathlib

/-! Parsed JSON values with the few operations of a JavaScript program on them:
property access, truthiness and the nullish choice. -/

namespace PactAgent.Foundation

inductive Json where
  | null
  | bool (value : Bool)
  | number (value : ℚ)
  | string (value : String)
  | array (items : List Json)
  | object (fields : List (String × Json))

namespace Json

/-- The own property of an object; every other value has none of the names asked for. -/
def field (name : String) : Json → Option Json
  | .object fields => (fields.find? fun entry => entry.1 == name).map Prod.snd
  | _ => none

/-- `first ?? second` on two properties. -/
def orElse (first second : Option Json) : Option Json :=
  match first with
  | none => second
  | some .null => second
  | some value => some value

def truthy : Option Json → Bool
  | none => false
  | some .null => false
  | some (.bool value) => value
  | some (.number value) => value != 0
  | some (.string value) => value != ""
  | some (.array _) => true
  | some (.object _) => true

end Json

end PactAgent.Foundation
