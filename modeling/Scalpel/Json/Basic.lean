/-!
JSON values as a protocol client meets them. Whole numbers have any size and are told apart from
floating-point numbers; the fields of an object keep the order in which they were written, and a
field written again changes its value and keeps its place.
-/

set_option autoImplicit false

namespace Scalpel

inductive Json where
  | null
  | bool (value : Bool)
  | int (value : Int)
  | float (value : Float)
  | str (value : String)
  | arr (items : List Json)
  | obj (fields : List (String × Json))
deriving Inhabited

namespace Json

mutual

/-- Whether two values are the same, with fields in the same order. Floating-point numbers are
compared as numbers. -/
def same : Json → Json → Bool
  | null, null => true
  | bool value, bool other => value == other
  | int value, int other => value == other
  | float value, float other => value == other
  | str value, str other => value == other
  | arr items, arr others => sameItems items others
  | obj fields, obj others => sameFields fields others
  | _, _ => false

def sameItems : List Json → List Json → Bool
  | [], [] => true
  | item :: rest, other :: others => same item other && sameItems rest others
  | _, _ => false

def sameFields : List (String × Json) → List (String × Json) → Bool
  | [], [] => true
  | (name, value) :: rest, (key, other) :: others =>
    name == key && same value other && sameFields rest others
  | _, _ => false

end

instance : BEq Json := ⟨same⟩

@[simp]
theorem beq_str_iff (value : Json) (text : String) :
    (value == str text) = true ↔ value = str text := by
  cases value with
  | str other => simp [BEq.beq, same]
  | _ => simp [BEq.beq, same]

abbrev Fields := List (String × Json)

def Fields.get? (fields : Fields) (name : String) : Option Json :=
  fields.lookup name

def Fields.put : Fields → String → Json → Fields
  | [], name, value => [(name, value)]
  | (key, old) :: rest, name, value =>
    if key = name then (key, value) :: rest else (key, old) :: Fields.put rest name value

def Fields.ofList (pairs : List (String × Json)) : Fields :=
  pairs.foldl (fun fields pair => fields.put pair.1 pair.2) []

def field? : Json → String → Option Json
  | obj fields, name => fields.lookup name
  | _, _ => none

/-- Values that count as present: anything but null, false, zero and what is empty. -/
def isTruthy : Json → Bool
  | null => false
  | bool value => value
  | int value => value != 0
  | float value => value != 0.0
  | str value => !value.isEmpty
  | arr items => !items.isEmpty
  | obj fields => !fields.isEmpty

def isGiven : Json → Bool
  | null => false
  | _ => true

def orElse (value other : Json) : Json :=
  if value.isTruthy then value else other

def ofText? : Option String → Json
  | some text => str text
  | none => null

def ofInt? : Option Int → Json
  | some n => int n
  | none => null

mutual

def mapText (f : String → String) : Json → Json
  | str text => str (f text)
  | arr items => arr (mapItems f items)
  | obj fields => obj (mapFields f fields)
  | leaf => leaf

def mapItems (f : String → String) : List Json → List Json
  | [] => []
  | item :: rest => mapText f item :: mapItems f rest

def mapFields (f : String → String) : List (String × Json) → List (String × Json)
  | [] => []
  | (name, value) :: rest => (f name, mapText f value) :: mapFields f rest

end

mutual

def mapFloat (f : Float → Json) : Json → Json
  | float value => f value
  | arr items => arr (mapFloatItems f items)
  | obj fields => obj (mapFloatFields f fields)
  | leaf => leaf

def mapFloatItems (f : Float → Json) : List Json → List Json
  | [] => []
  | item :: rest => mapFloat f item :: mapFloatItems f rest

def mapFloatFields (f : Float → Json) : List (String × Json) → List (String × Json)
  | [] => []
  | (name, value) :: rest => (name, mapFloat f value) :: mapFloatFields f rest

end

end Json

end Scalpel
