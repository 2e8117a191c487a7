import Scalpel.Shell.Tool.Basic

/-!
The tool that takes columns out of lines.
-/

set_option autoImplicit false

namespace Scalpel.Shell

open Scalpel

variable [Halves]

abbrev Range := Nat × Option Nat

inductive RangeFault where
  | zero
  | decreasing
  | noEnds
  | value (text : List Char)

def rangesOf? (text : List Char) : Except RangeFault (List Range) :=
  (text.splitOnP fun c => c = ',' || c = ' ').mapM fun part =>
    let first := part.takeWhile (· ≠ '-')
    let number? (digits : List Char) : Except RangeFault Nat :=
      match digits? digits with
      | some 0 => .error .zero
      | some n => .ok n
      | none => .error (.value part)
    if first.length = part.length then
      if part.isEmpty then .error .zero else (number? part).map fun n => (n, some n)
    else
      let last := part.drop (first.length + 1)
      if first.isEmpty && last.isEmpty then .error .noEnds
      else do
        let low ← if first.isEmpty then pure 1 else number? first
        let high ← if last.isEmpty then pure none else (number? last).map some
        if high.any (· < low) then .error .decreasing else return (low, high)

def inRanges (ranges : List Range) (n : Nat) : Bool :=
  ranges.any fun (low, high) => low ≤ n && high.all (n ≤ ·)

/-- What is cut out of each line: fields behind a divider, or bytes. -/
structure Cut where
  ranges : List Range
  isOpposite : Bool := false
  isFields : Bool := false
  divider : UInt8 := 9
  /-- What stands between the chosen columns, if not what stood there. -/
  joiner : Option Bytes := none
  /-- Whether lines without a divider are left out. -/
  needsDivider : Bool := false

def Cut.choose {α : Type} (cut : Cut) (items : List α) : List (α × Nat) :=
  items.zipIdx.filter fun (_, i) => inRanges cut.ranges (i + 1) != cut.isOpposite

def Cut.line? (cut : Cut) (line : Bytes) : Option Bytes :=
  if cut.isFields then
    let fields := line.splitOn cut.divider
    if fields.length = 1 then if cut.needsDivider then none else some line
    else some ((cut.joiner.getD [cut.divider]).intercalate ((cut.choose fields).map (·.1)))
  else
    let chosen := cut.choose line
    match cut.joiner with
    | none => some (chosen.map (·.1))
    | some joiner =>
      let starts (n : Nat) : Bool := !cut.isOpposite && cut.ranges.any fun range => range.1 = n + 1
        && !(cut.ranges.any fun (low, high) => low < n + 1 && high.all (n + 1 ≤ ·))
      let groups := chosen.splitBy fun a b => a.2 + 1 = b.2 && !starts b.2
      some (joiner.intercalate (groups.map fun group => group.map (·.1)))

def cutTool : Tool :=
  let options : Options :=
    { plain := "snzC", valued := "bcfdO",
      names := [("bytes", 'b'), ("characters", 'c'), ("fields", 'f'), ("delimiter", 'd'),
        ("only-delimited", 's'), ("complement", 'C'), ("output-delimiter", 'O'),
        ("zero-terminated", 'z')] }
  options.tool 1 fun setting choice =>
    match choice.options.filter fun (letter, _) => letter = 'b' || letter = 'c' || letter = 'f' with
    | [] => some (setting.misused "you must specify a list of bytes, characters, or fields" 1)
    | _ :: _ :: _ => some (setting.misused "only one list may be specified" 1)
    | [(letter, list)] =>
      let isFields := letter = 'f'
      let divider := (choice.value? 'd').getD ['\t']
      match rangesOf? list with
      | .error fault =>
        let reason :=
          match fault with
          | .zero => if isFields then "fields are numbered from 1"
            else "byte/character positions are numbered from 1"
          | .decreasing => "invalid decreasing range"
          | .noEnds => "invalid range with no endpoint: -"
          | .value text => if isFields then "invalid field value " ++ inQuotes text
            else "invalid byte/character position " ++ inQuotes text
        some (setting.misused reason 1)
      | .ok ranges =>
        if 1 < (Path.bytesOf divider).length then
          some (setting.misused "the delimiter must be a single character" 1)
        else if !isFields && choice.has 'd' then
          some (setting.misused "an input delimiter may be specified only when operating on fields" 1)
        else if !isFields && choice.has 's' then
          some (setting.misused
            "suppressing non-delimited lines makes sense\n\tonly when operating on fields" 1)
        else
          let cut : Cut :=
            { ranges, isFields, isOpposite := choice.has 'C'
              divider := (Path.bytesOf divider).headD 0
              joiner := (choice.value? 'O').map Path.bytesOf, needsDivider := choice.has 's' }
          (setting.contents? choice.operands).map fun contents => setting.each contents fun _ bytes =>
            Path.ofBytes (joinedLines ((bareLines bytes).filterMap cut.line?))

end Scalpel.Shell
