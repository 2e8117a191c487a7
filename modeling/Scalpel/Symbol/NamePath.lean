import Scalpel.Symbol.Outline

/-!
Patterns that name symbols. A single name matches every symbol of that name. Several names joined by
slashes match the symbols whose name path ends with them. A pattern that begins with a slash matches
the symbols whose whole name path it is.
-/

set_option autoImplicit false

namespace Scalpel

variable [Halves]

/-- A pattern: the names it asks for, and whether they are the whole path. -/
structure NamePath where
  names : List String
  whole : Bool
deriving DecidableEq, Repr

namespace NamePath

def parts (text : String) : List String :=
  (text.toList.splitOn '/').map String.ofList

def ofText (text : String) : NamePath :=
  { names := (parts text).filter fun part => !part.isEmpty
    whole := text.toList.head? = some '/' }

def accepts (p : NamePath) (symbol : Symbol) : Outcome Bool :=
  match p.names, p.whole with
  | [], _ => .ok false
  | [name], false => .ok (symbol.name == .str name)
  | names, whole =>
    match symbol.namePath with
    | .str path =>
      let path := parts path
      .ok (if whole then path = names else names.isSuffixOf path)
    | path => .error (.misuse (.member path "split"))

def first? (p : NamePath) : List Symbol → Outcome (Option Symbol)
  | [] => .ok none
  | symbol :: rest => do
    if ← p.accepts symbol then return some symbol
    p.first? rest

def every (p : NamePath) (symbols : List Symbol) : Outcome (List Symbol) :=
  symbols.filterM p.accepts

end NamePath

/-- The innermost symbol around a position: of nested ranges the inner one, and of symbols with one
range the last. -/
def Symbol.innermost? (symbols : List Symbol) (p : Position) : Option Symbol :=
  symbols.foldl (fun best symbol =>
    if symbol.range.contains p then
      match best with
      | none => some symbol
      | some found => if found.range.containsRange symbol.range then some symbol else best
    else best) none

end Scalpel
