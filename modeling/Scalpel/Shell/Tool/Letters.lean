import Scalpel.Shell.Tool.Basic

/-!
The tool that exchanges bytes: those of one set become those of another, or are left out, and those that
repeat may be squeezed.
-/

set_option autoImplicit false

namespace Scalpel.Shell

open Scalpel

variable [Halves]

def classBytes? (name : String) : Option (List UInt8) :=
  let of (test : Char → Bool) : Option (List UInt8) :=
    some (((List.range 128).filter fun n => test (Char.ofNat n)).map Nat.toUInt8)
  match name with
  | "upper" => of Char.isUpper
  | "lower" => of Char.isLower
  | "alpha" => of Char.isAlpha
  | "digit" => of Char.isDigit
  | "alnum" => of Char.isAlphanum
  | "xdigit" => of fun c => c.isDigit || ('a' ≤ c.toLower && c.toLower ≤ 'f')
  | "punct" => of fun c => '!' ≤ c && c ≤ '~' && !c.isAlphanum
  | "cntrl" => of fun c => c < ' ' || c = '\x7f'
  | "blank" => of fun c => c = ' ' || c = '\t'
  | "space" => of fun c => c = ' ' || ('\t' ≤ c && c ≤ '\r')
  | "print" => of fun c => ' ' ≤ c && c ≤ '~'
  | "graph" => of fun c => '!' ≤ c && c ≤ '~'
  | _ => none

/-- A part of a set: bytes, or a byte that is repeated as often as it takes. -/
inductive SetPart where
  | bytes (bytes : List UInt8)
  | filler (byte : UInt8)

def setByte (text : Bytes) : Option (UInt8 × Bytes) :=
  match text with
  | 92 :: rest =>
    match rest with
    | [] => some (92, [])
    | c :: _ =>
      if 48 ≤ c && c ≤ 55 then
        let (n, _) := octalOf 3 ((rest.take 3).map fun byte => Char.ofNat byte.toNat)
        let size := ((rest.take 3).takeWhile fun byte => 48 ≤ byte && byte ≤ 55).length
        if n < 256 then some (n.toUInt8, rest.drop size)
        else some ((n / 8).toUInt8, rest.drop (size - 1))
      else some (((letterEscape? (Char.ofNat c.toNat)).getD (Char.ofNat c.toNat)).toNat.toUInt8, rest.drop 1)
  | byte :: rest => some (byte, rest)
  | [] => none

def setParts : Nat → Bytes → Except String (List SetPart)
  | 0, _ => .ok []
  | fuel + 1, text =>
    let chars := text.map fun byte => Char.ofNat byte.toNat
    let go (part : SetPart) (rest : Bytes) : Except String (List SetPart) :=
      (setParts fuel rest).map (part :: ·)
    let plain : Except String (List SetPart) :=
      match setByte text with
      | none => .ok []
      | some (first, rest) =>
        match rest with
        | 45 :: more =>
          match setByte more with
          | none => go (.bytes [first]) rest
          | some (last, behind) =>
            if last < first then
              .error ("range-endpoints of '" ++ String.ofList [Char.ofNat first.toNat, '-',
                Char.ofNat last.toNat] ++ "' are in reverse collating sequence order")
            else
              go (.bytes ((List.range (last.toNat + 1 - first.toNat)).map fun i =>
                (first.toNat + i).toUInt8)) behind
        | rest => go (.bytes [first]) rest
    match chars with
    | '[' :: ':' :: rest =>
      let name := rest.takeWhile Char.isAlpha
      match rest.drop name.length with
      | ':' :: ']' :: _ =>
        match classBytes? (String.ofList name) with
        | some bytes => go (.bytes bytes) (text.drop (name.length + 4))
        | none => .error ("invalid character class " ++ inQuotes name)
      | _ => plain
    | '[' :: '=' :: c :: '=' :: ']' :: _ => go (.bytes [c.toNat.toUInt8]) (text.drop 5)
    | '[' :: c :: '*' :: rest =>
      let digits := rest.takeWhile Char.isDigit
      match rest.drop digits.length with
      | ']' :: _ =>
        let count := if digits.head? = some '0' then (octalOf digits.length digits).1
          else (digits? digits).getD 0
        let byte := c.toNat.toUInt8
        go (if count = 0 then .filler byte else .bytes (List.replicate count byte))
          (text.drop (digits.length + 4))
      | _ => plain
    | _ => plain

def SetPart.all (size : Nat) (parts : List SetPart) : List UInt8 :=
  let fixed := (parts.map fun
    | .bytes own => own.length
    | .filler _ => 0).sum
  parts.flatMap fun
    | .bytes own => own
    | .filler byte => List.replicate (size - fixed) byte

structure Transfer where
  first : List UInt8
  second : Option (List UInt8) := none
  deletes : Bool := false
  squeezes : Bool := false

def squeezed (set : List UInt8) (bytes : Bytes) : Bytes :=
  (bytes.splitBy fun a b => a = b && set.contains a).flatMap fun run =>
    if set.contains (run.headD 0) then run.take 1 else run

def Transfer.apply (t : Transfer) (bytes : Bytes) : Bytes :=
  if t.deletes then
    let left := bytes.filter fun byte => !t.first.contains byte
    if t.squeezes then squeezed (t.second.getD []) left else left
  else
    let table : Array UInt8 := (List.range 256).toArray.map Nat.toUInt8
    let table := match t.second with
      | none => table
      | some second =>
        t.first.zipIdx.foldl (fun (table : Array UInt8) ((byte, i) : UInt8 × Nat) =>
          table.setIfInBounds byte.toNat (second.getD i (second.getLastD byte))) table
    let changed := bytes.map fun byte => table.getD byte.toNat byte
    if t.squeezes then squeezed (t.second.getD t.first) changed else changed

def lettersTool : Tool := fun setting words =>
  let options : Options :=
    { plain := "cCdst", names := [("complement", 'c'), ("delete", 'd'), ("squeeze-repeats", 's'),
      ("truncate-set1", 't')] }
  match options.read true ((words.map List.length).sum + words.length + 1) {} words with
  | .error reason => some (setting.misused reason 1)
  | .ok choice =>
    let deletes := choice.has 'd'
    let squeezes := choice.has 's'
    let most := if deletes && !squeezes then 1 else 2
    match choice.operands with
    | [] => some (setting.misused "missing operand" 1)
    | first :: others =>
      if most < others.length + 1 then
        some (setting.misused ("extra operand " ++ inQuotes (others.getD (most - 1) [])) 1)
      else if others.isEmpty && (if deletes then squeezes else !squeezes) then
        let why := if deletes then "Two strings must be given when both deleting and squeezing repeats."
          else "Two strings must be given when translating."
        some (setting.misused ("missing operand after " ++ inQuotes first ++ "\n" ++ why) 1)
      else
        let parts (text : List Char) : Except String (List SetPart) :=
          setParts ((Path.bytesOf text).length + 1) (Path.bytesOf text)
        match parts first, others.mapM parts with
        | .error reason, _ | _, .error reason => some (setting.refuse reason 1)
        | .ok one, .ok others =>
          let one := SetPart.all 0 one
          let one := if choice.has 'c' || choice.has 'C' then
              ((List.range 256).map Nat.toUInt8).filter fun byte => !one.contains byte
            else one
          let second := others.head?.map (SetPart.all one.length)
          let one := if choice.has 't' then one.take (second.getD one).length else one
          if second = some [] && !deletes then
            some (setting.refuse "when not truncating set1, string2 must be non-empty" 1)
          else if !setting.isOver then none
          else
            let t : Transfer := { first := one, second, deletes, squeezes }
            some { output := Path.ofBytes (t.apply setting.input) }

end Scalpel.Shell
