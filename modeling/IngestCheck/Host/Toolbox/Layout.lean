import IngestCheck.Host.Toolbox.Basic

namespace IngestCheck.Host.Toolbox

structure Layout where
  numbers : Bool
  numbersFilled : Bool
  squeezes : Bool
  showsEnds : Bool
  showsTabs : Bool
  showsControls : Bool

def Layout.of (g : Given) : Layout where
  numbers := g.has 'n' || g.has 'b'
  numbersFilled := g.has 'b'
  squeezes := g.has 's'
  showsEnds := g.has 'A' || g.has 'e' || g.has 'E'
  showsTabs := g.has 'A' || g.has 't' || g.has 'T'
  showsControls := g.has 'A' || g.has 'e' || g.has 't' || g.has 'v'

/-- How far a layout has come: the number of the last line that has one, and how many lines ended
since the last byte that did not end one. -/
structure LayoutPlace where
  number : Nat := 0
  ends : Option Nat := some 0

namespace Layout

def numeral (n : Nat) : Bytes :=
  let digits := toString n
  String.ofList (List.replicate (6 - digits.length) ' ') ++ digits ++ "\t"

def byte (l : Layout) (b : UInt8) : Bytes :=
  if b = 0x09 then if l.showsTabs then "^I" else [b]
  else if !l.showsControls then [b]
  else
    let low := b % 0x80
    let text : Bytes := if low = 0x7F then "^?" else if low < 0x20 then [byteOf '^', low + 0x40]
      else [low]
    if 0x80 ≤ b then "M-" ++ text else text

def lay (l : Layout) (p : LayoutPlace) : Bytes → Bytes × LayoutPlace
  | [] => ([], p)
  | b :: rest =>
    if b = 0x0A then
      let ends := match p.ends with
        | some n => n + 1
        | none => 0
      if 2 ≤ ends && l.squeezes then lay l { p with ends := some ends } rest
      else
        let hasNumber := decide (0 < ends) && l.numbers && !l.numbersFilled
        let number := if hasNumber then p.number + 1 else p.number
        let more := lay l ⟨number, some ends⟩ rest
        let ending : Bytes := if l.showsEnds then [byteOf '$', b] else [b]
        ((if hasNumber then numeral number else []) ++ ending ++ more.1, more.2)
    else
      let hasNumber := p.ends.isSome && l.numbers
      let number := if hasNumber then p.number + 1 else p.number
      let isReturn := b = 0x0D && l.showsEnds && rest.head? = some 0x0A
      let more := lay l ⟨number, none⟩ rest
      let shown : Bytes := if isReturn then "^M" else l.byte b
      ((if hasNumber then numeral number else []) ++ shown ++ more.1, more.2)

end Layout

end IngestCheck.Host.Toolbox
