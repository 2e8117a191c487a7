import Scalpel.Json.Access

/-!
Places in a text: a line and a character in it, both counted from zero and of any size, also
negative. Positions are ordered by line first. A range holds every position from its start to its
end, both included; a range whose end lies before its start holds none.
-/

set_option autoImplicit false

namespace Scalpel

/-- A place between two characters of a text. -/
structure Position where
  line : Int
  character : Int
deriving DecidableEq, Repr, Inhabited

namespace Position

def before (a b : Position) : Bool :=
  a.line < b.line || (a.line = b.line && a.character < b.character)

def atOrBefore (a b : Position) : Bool :=
  a.line < b.line || (a.line = b.line && a.character ≤ b.character)

def toJson (p : Position) : Json :=
  .obj [("line", .int p.line), ("character", .int p.character)]

def ofJson (value : Json) : Outcome Position := do
  let line ← (← value.need "line").whole
  let character ← (← value.need "character").whole
  .ok { line, character }

end Position

/-- The part of a text between two positions. -/
structure Range where
  start : Position
  stop : Position
deriving DecidableEq, Repr, Inhabited

namespace Range

def point (line : Int) (character : Int := 0) : Range :=
  { start := { line, character }, stop := { line, character } }

def contains (r : Range) (p : Position) : Bool :=
  r.start.atOrBefore p && p.atOrBefore r.stop

def containsRange (r other : Range) : Bool :=
  r.start.atOrBefore other.start && other.stop.atOrBefore r.stop

def toJson (r : Range) : Json :=
  .obj [("start", r.start.toJson), ("end", r.stop.toJson)]

def ofJson (value : Json) : Outcome Range := do
  let start ← Position.ofJson (← value.need "start")
  let stop ← Position.ofJson (← value.need "end")
  .ok { start, stop }

end Range

end Scalpel
