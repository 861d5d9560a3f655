import SocketStrategies.Address.Domain.Direction
import SocketStrategies.Address.Domain.Joiner
import SocketStrategies.Address.Domain.Mapping
import SocketStrategies.Address.Punycode
import SocketStrategies.Text.Composition

/-!
# Domain names in ASCII

`toAscii?` brings a domain name into the form in which it is looked up. Its characters are mapped
and composed, dots part it into labels, and a label beyond ASCII is written behind `xn--`. A label
that already has that form must stand for a label that could have been written instead.
-/

namespace SocketStrategies.Domain

structure Label where
  chars : List Char
  ascii : List Char

def isAscii (cs : List Char) : Bool := cs.all (·.toNat < 128)

/-- Whether the characters of a label may stand together. -/
def isLabel (cs : List Char) : Bool := !(cs.head?.any Text.isMark) && joinersFit [] cs

/-- Reads what stands behind `xn--`, 2000 characters at most. -/
def encodedLabel? (cs : List Char) : Option Label := do
  if 2000 < cs.length then none
  else
    let chars ← Punycode.decode? cs
    if !isAscii chars && chars.all isKept && Text.compose chars == chars && isLabel chars then
      some ⟨chars, ['x', 'n', '-', '-'] ++ cs⟩
    else none

/-- Reads a label whose characters are mapped and composed. One beyond ASCII has 1000 characters at
most. -/
def label? (cs : List Char) : Option Label :=
  match cs with
  | 'x' :: 'n' :: '-' :: '-' :: rest => if isAscii rest then encodedLabel? rest else none
  | _ =>
      if isAscii cs then some ⟨cs, cs⟩
      else if cs.length ≤ 1000 && isLabel cs then
        some ⟨cs, ['x', 'n', '-', '-'] ++ Punycode.encode cs⟩
      else none

def toAscii? (cs : List Char) : Option (List Char) := do
  let mapped ← cs.mapM map?
  let labels ← ((Text.compose mapped.flatten).splitOn '.').mapM label?
  if labels.any (fun l => hasRightToLeft l.chars) && !labels.all (fun l => runsOneWay l.chars) then
    none
  else some (['.'].intercalate (labels.map (·.ascii)))

end SocketStrategies.Domain
