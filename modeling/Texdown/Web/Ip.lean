import Texdown.Text.Basic

/-!
# Internet addresses

The written forms of numeric hosts: four octets in decimal, or eight groups of sixteen bits in
hexadecimal, of which one run may be left out and the last two may be written as octets.
-/
namespace Texdown.Web

def isOctet (t : Text) : Bool :=
  !t.isEmpty && t.length ≤ 3 && t.all Text.isDigit && (t.length = 1 || t.head? != some '0')
    && Text.readDigits 10 t ≤ 255

def isIpv4 (t : Text) : Bool :=
  let octets := Text.splitOn '.' t
  octets.length == 4 && octets.all isOctet

def isHextet (t : Text) : Bool := !t.isEmpty && t.length ≤ 4 && t.all Text.isHexDigit

/-- The groups of an address between colons, with octets at the end counted as two groups. -/
def ipv6Groups? (t : Text) : Option (List Text) :=
  let groups := Text.splitOn ':' t
  if groups.length < 3 then none
  else match groups.getLast? with
    | some last =>
      if '.' ∈ last then
        if isIpv4 last then some (groups.dropLast ++ [['0'], ['0']]) else none
      else some groups
    | none => none

/-- Whether groups make up an address: eight of them, or fewer with one run left out. -/
def areIpv6Groups (groups : List Text) : Bool :=
  let inner := (groups.drop 1).dropLast
  let gaps := (inner.filter List.isEmpty).length
  let opens := (groups.head?.map List.isEmpty).getD false
  let closes := (groups.getLast?.map List.isEmpty).getD false
  if 9 < groups.length || 1 < gaps then false
  else if gaps = 1 then
    let front := groups.takeWhile (!List.isEmpty ·)
    let gapFirst := opens && (groups[1]?.map List.isEmpty).getD false
    let gapLast := closes && (groups[groups.length - 2]?.map List.isEmpty).getD false
    let before := if opens then 0 else front.length
    let after := groups.length - before - 1 - (if opens then 1 else 0) - (if closes then 1 else 0)
    (!opens || gapFirst) && (!closes || gapLast) && before + after < 8
      && groups.all fun g => g.isEmpty || isHextet g
  else groups.length == 8 && groups.all isHextet

/-- An address of sixteen octets, perhaps with a zone behind a percent sign. -/
def isIpv6 (t : Text) : Bool :=
  let (address, zone) := match Text.splitFirst? '%' t with
    | some (a, z) => (a, some z)
    | none => (t, none)
  let zoneOk := match zone with
    | some z => !z.isEmpty && !z.contains '%'
    | none => true
  zoneOk && match ipv6Groups? address with
    | some groups => areIpv6Groups groups
    | none => false

/-- A host of a later kind: a version in hexadecimal, a dot, and something. -/
def isLaterHost (t : Text) : Bool :=
  match t with
  | 'v' :: r =>
    match Text.splitFirst? '.' r with
    | some (version, rest) => !version.isEmpty && version.all Text.isHexDigit && !rest.isEmpty
    | none => false
  | _ => false

end Texdown.Web
