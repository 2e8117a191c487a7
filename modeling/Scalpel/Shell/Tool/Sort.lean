import Scalpel.Shell.Tool.Basic
import Scalpel.Decimal.Numeral

/-!
Tools for lines in order. Lines are compared by keys, which are parts of them, and as a whole where the
keys are the same.
-/

set_option autoImplicit false

namespace Scalpel.Shell

open Scalpel

variable [Halves]

/-! ### Orders -/

def compareBytes : Bytes → Bytes → Ordering
  | [], [] => .eq
  | [], _ :: _ => .lt
  | _ :: _, [] => .gt
  | a :: as, b :: bs => if a = b then compareBytes as bs else if a < b then .lt else .gt

/-- A number at the front of a text: its sign, the digits before the point and the digits behind it, and
what follows it. -/
structure LeadingNumber where
  isNegative : Bool := false
  whole : List Char := []
  part : List Char := []
  rest : List Char := []

def leadingNumber (text : List Char) : LeadingNumber :=
  let text := text.dropWhile fun c => c = ' ' || c = '\t'
  let isNegative := text.head? = some '-'
  let text := if isNegative then text.drop 1 else text
  let whole := text.takeWhile Char.isDigit
  match text.drop whole.length with
  | '.' :: rest =>
    let part := rest.takeWhile Char.isDigit
    { isNegative, whole, part, rest := rest.drop part.length }
  | rest => { isNegative, whole, rest }

def LeadingNumber.scaled (n : LeadingNumber) (places : Nat) : Int :=
  let digits := n.whole ++ n.part ++ List.replicate (places - n.part.length) '0'
  let value : Int := ((digits? digits).getD 0 : Nat)
  if n.isNegative then -value else value

def compareLeading (a b : LeadingNumber) : Ordering :=
  let places := max a.part.length b.part.length
  compare (a.scaled places) (b.scaled places)

def unitRank (n : LeadingNumber) : Int :=
  let units := "KMGTPEZY".toList
  let rank : Nat :=
    match n.rest with
    | 'k' :: _ => 1
    | c :: _ => if units.contains c then units.idxOf c + 1 else 0
    | [] => 0
  if (n.whole ++ n.part).all (· = '0') then 0 else if n.isNegative then -rank else rank

def monthRank (text : List Char) : Nat :=
  let name := ((text.dropWhile fun c => c = ' ' || c = '\t').take 3).map Char.toUpper
  let months := ["JAN", "FEB", "MAR", "APR", "MAY", "JUN", "JUL", "AUG", "SEP", "OCT", "NOV", "DEC"]
  if months.contains (String.ofList name) then months.idxOf (String.ofList name) + 1 else 0

def leadingFloat? (text : List Char) : Option Float :=
  let text := text.dropWhile fun c => c = ' ' || c = '\t'
  (List.range (text.length + 1)).reverse.findSome? fun count =>
    Decimal.float? (String.ofList (text.take count))

def compareFloats (a b : List Char) : Ordering :=
  match leadingFloat? a, leadingFloat? b with
  | none, none => .eq
  | none, some _ => .lt
  | some _, none => .gt
  | some x, some y =>
    if x < y then .lt else if y < x then .gt
    else if x.isNaN && !y.isNaN then .lt else if !x.isNaN && y.isNaN then .gt else .eq

/-- The rank of a character in the name of a version: tildes come before the end, letters before other
marks. -/
def versionRank (c : Char) : Int :=
  if c.isDigit then 0 else if c.isAlpha then c.toNat else if c = '~' then -1 else c.toNat + 256

/-- The order of the names of versions: digits are compared as numbers. Fuel: each step takes a
character. -/
def compareVersions : Nat → List Char → List Char → Ordering
  | 0, _, _ => .eq
  | _, [], [] => .eq
  | fuel + 1, a, b =>
    let isMark (c : Char) : Bool := !c.isDigit
    let marks (text : List Char) : List Int := (text.takeWhile isMark).map versionRank
    let width := max (marks a).length (marks b).length
    let padded (ranks : List Int) : List Int := ranks ++ List.replicate (width - ranks.length) 0
    let number (text : List Char) : Nat :=
      (digits? ((text.dropWhile isMark).takeWhile Char.isDigit)).getD 0
    let rest (text : List Char) : List Char := (text.dropWhile isMark).dropWhile Char.isDigit
    match compare (padded (marks a)) (padded (marks b)) with
    | .eq =>
      match compare (number a) (number b) with
      | .eq => compareVersions fuel (rest a) (rest b)
      | order => order
    | order => order

/-! ### Keys -/

/-- A key of a line: where it begins and ends, and how it is compared. -/
structure SortKey where
  firstField : Nat := 0
  firstChar : Nat := 0
  lastField : Option Nat := none
  lastChar : Nat := 0
  /-- Whether blanks in front do not count, at the beginning and at the end. -/
  skipsFirst : Bool := false
  skipsLast : Bool := false
  options : List Char := []

structure SortOrder where
  divider : Option UInt8 := none
  keys : List SortKey := []
  options : List Char := []

def isBlankByte (byte : UInt8) : Bool :=
  byte = 32 || byte = 9 || byte = 10

/-- What is left of a line behind a number of fields; with `keepsEnd` the divider behind the last of them
stays. -/
def pastFields (divider : Option UInt8) (keepsEnd : Bool) : Nat → Bytes → Bytes
  | 0, line => line
  | count + 1, line =>
    match divider with
    | none => pastFields divider keepsEnd count ((line.dropWhile isBlankByte).dropWhile fun byte => !isBlankByte byte)
    | some divider =>
      let rest := line.dropWhile (· ≠ divider)
      if count = 0 && keepsEnd then rest else pastFields (some divider) keepsEnd count (rest.drop 1)

def SortKey.of (key : SortKey) (divider : Option UInt8) (line : Bytes) : Bytes :=
  let rest := pastFields divider false key.firstField line
  let rest := (if key.skipsFirst then rest.dropWhile isBlankByte else rest).drop key.firstChar
  match key.lastField with
  | none => rest
  | some field =>
    let behind :=
      if key.lastChar = 0 then pastFields divider true (field + 1) line
      else
        let behind := pastFields divider false field line
        (if key.skipsLast then behind.dropWhile isBlankByte else behind).drop key.lastChar
    rest.take (rest.length - behind.length)

def compareKeys (options : List Char) (a b : Bytes) : Ordering :=
  let text (bytes : Bytes) : List Char := Path.ofBytes bytes
  let order :=
    if options.contains 'n' then compareLeading (leadingNumber (text a)) (leadingNumber (text b))
    else if options.contains 'g' then compareFloats (text a) (text b)
    else if options.contains 'h' then
      let a := leadingNumber (text a)
      let b := leadingNumber (text b)
      (compare (unitRank a) (unitRank b)).then (compareLeading a b)
    else if options.contains 'M' then compare (monthRank (text a)) (monthRank (text b))
    else if options.contains 'V' then compareVersions (a.length + b.length + 1) (text a) (text b)
    else
      let isLetter (byte : UInt8) : Bool :=
        (48 ≤ byte && byte ≤ 57) || (65 ≤ byte && byte ≤ 90) || (97 ≤ byte && byte ≤ 122)
      let counts (byte : UInt8) : Bool :=
        (!options.contains 'd' || isLetter byte || isBlankByte byte)
          && (!options.contains 'i' || (32 ≤ byte && byte < 127))
      let folded (bytes : Bytes) : Bytes :=
        let chosen := bytes.filter counts
        if options.contains 'f' then
          chosen.map fun byte => if 97 ≤ byte && byte ≤ 122 then byte - 32 else byte
        else chosen
      compareBytes (folded a) (folded b)
  if options.contains 'r' then order.swap else order

def SortOrder.byKeys (order : SortOrder) (a b : Bytes) : Ordering :=
  order.keys.foldl (fun found key =>
    found.then (compareKeys key.options (key.of order.divider a) (key.of order.divider b))) .eq

/-- The order of two lines: as a whole where their keys do not tell them apart, unless they are to stay
as they are then. -/
def SortOrder.compare (order : SortOrder) (a b : Bytes) : Ordering :=
  let whole := compareBytes a b
  (order.byKeys a b).then
    (if (order.options.contains 's' || order.options.contains 'u') && !order.keys.isEmpty then .eq
    else if order.options.contains 'r' then whole.swap else whole)

def fieldPlace? (text : List Char) : Option (Nat × Option Nat × List Char × List Char) := do
  let field := text.takeWhile Char.isDigit
  let n ← digits? field
  let rest := text.drop field.length
  let (char, rest) ←
    match rest with
    | '.' :: rest =>
      let digits := rest.takeWhile Char.isDigit
      (digits? digits).map fun n => (some n, rest.drop digits.length)
    | rest => some (none, rest)
  let letters := rest.takeWhile fun c => "bdfghiMnRrV".toList.contains c
  return (n, char, letters, rest.drop letters.length)

def sortKey? (text : List Char) : Option SortKey := do
  let (first, char, letters, rest) ← fieldPlace? text
  if first = 0 || char = some 0 then none
  let key : SortKey :=
    { firstField := first - 1, firstChar := char.getD 1 - 1, skipsFirst := letters.contains 'b'
      options := letters }
  match rest with
  | [] => return key
  | ',' :: rest =>
    let (last, char, more, rest) ← fieldPlace? rest
    if last = 0 || !rest.isEmpty then none
    return { key with
      lastField := some (last - 1), lastChar := char.getD 0, skipsLast := more.contains 'b'
      options := letters ++ more }
  | _ => none

def sortOrder? (choice : Choice) : Option SortOrder := do
  let options := choice.options.map (·.1)
  let general := options.filter fun c => "bdfghiMnRrV".toList.contains c
  let keys ← (choice.values 'k').mapM sortKey?
  let keys := keys.map fun key =>
    if !key.options.isEmpty then key
    else
      { key with
        options := general, skipsFirst := general.contains 'b', skipsLast := general.contains 'b' }
  let keys :=
    if keys.isEmpty && general.any (· ≠ 'r') then
      [{ options := general, skipsFirst := general.contains 'b' }]
    else keys
  let divider := (choice.value? 't').map fun text => if text = ['\\', '0'] then 0 else (Path.bytesOf text).headD 0
  return { divider, keys, options }

/-! ### Tools -/

def SortOrder.sort (order : SortOrder) (lines : List Bytes) : List Bytes :=
  let sorted := lines.mergeSort fun a b => order.compare a b ≠ .gt
  if order.options.contains 'u' then
    (sorted.splitBy fun a b => order.compare a b = .eq).map fun run => run.headD []
  else sorted

def sortTool : Tool :=
  let options : Options :=
    { plain := "bcCdfghiMmnRrsuVz", valued := "koStT",
      names := [("numeric-sort", 'n'), ("reverse", 'r'), ("unique", 'u'), ("key", 'k'),
        ("field-separator", 't'), ("output", 'o'), ("stable", 's'), ("ignore-case", 'f'),
        ("ignore-leading-blanks", 'b'), ("dictionary-order", 'd'), ("general-numeric-sort", 'g'),
        ("human-numeric-sort", 'h'), ("month-sort", 'M'), ("version-sort", 'V'), ("merge", 'm'),
        ("check", 'c'), ("ignore-nonprinting", 'i'), ("zero-terminated", 'z')] }
  options.tool 2 fun setting choice =>
    match sortOrder? choice, (choice.value? 't').any fun text => text.length ≠ 1 && text ≠ ['\\', '0'] with
    | _, true =>
      some (setting.refuse ("multi-character tab " ++ inQuotes ((choice.value? 't').getD [])) 2)
    | none, _ =>
      some (setting.refuse ("invalid number at field start: invalid count at start of "
        ++ inQuotes ((choice.value? 'k').getD [])) 2)
    | some order, false => do
      let contents ← setting.contents? choice.operands
      match contents.findSome? fun (file, content) =>
        match content with
        | .error fault => some (file, fault)
        | .ok _ => none with
      | some (file, fault) =>
        let reason := if fault = .isDirectory then "read failed: " else "cannot read: "
        return setting.refuse (reason ++ String.ofList file ++ ": " ++ fault.text) 2
      | none =>
        let mark : UInt8 := if choice.has 'z' then 0 else 10
        let lines := contents.flatMap fun (_, content) => endedBy mark (content.toOption.getD [])
        if choice.has 'c' || choice.has 'C' then
          let isWrong (a b : Bytes) : Bool :=
            order.compare a b = .gt || (choice.has 'u' && order.compare a b = .eq)
          match (lines.zip (lines.drop 1)).zipIdx.find? fun ((a, b), _) => isWrong a b with
          | none => return {}
          | some ((_, line), i) =>
            let file := (contents.headD (['-'], .ok [])).1
            let place := String.ofList file ++ ":" ++ toString (i + 2) ++ ": disorder: "
            return if choice.has 'C' then { code := 1 }
              else setting.refuse (place ++ String.ofList (Path.ofBytes line)) 1
        else
          let output := (order.sort lines).flatMap (· ++ [mark])
          match choice.value? 'o' with
          | some path => return { written := [(path, output, false)] }
          | none => return { output := Path.ofBytes output }

end Scalpel.Shell
