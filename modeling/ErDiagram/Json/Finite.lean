import ErDiagram.Json.Value

/-!
# Finite values

The numbers of standard JSON are finite. `Json.isFinite` tells whether all numbers of a value are, however
deep they lie.
-/

namespace ErDiagram.Json

mutual

def isFinite : Json → Bool
  | .real x => x.isFinite
  | .arr items => areFinite items
  | .obj fields => fieldsFinite fields
  | _ => true

def areFinite : List Json → Bool
  | [] => true
  | item :: rest => item.isFinite && areFinite rest

def fieldsFinite : Fields → Bool
  | [] => true
  | (_, value) :: rest => value.isFinite && fieldsFinite rest

end

end ErDiagram.Json
