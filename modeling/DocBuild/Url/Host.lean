import DocBuild.Text.Basic

/-!
# Addresses in brackets

A host in square brackets is an IPv6 address or an address of a future version, which starts with `v`.
-/

namespace DocBuild.Url

/-- A colon. -/
def colon : CodePoint := CodePoint.ofChar ':'

/-- A point. -/
def point : CodePoint := CodePoint.ofChar '.'

/-- A number up to 255 in decimal digits without a superfluous zero in front. -/
def isOctet (piece : Text) : Bool :=
  !piece.isEmpty && piece.all (·.isDigit) && piece.length ≤ 3 &&
  (piece.length = 1 || piece.head?.any (·.val ≠ 0x30)) && Text.digitsValue piece ≤ 255

/-- Four octets with points between them. -/
def isIpv4 (host : Text) : Bool :=
  let pieces := Text.splitAt point host
  pieces.length = 4 && pieces.all isOctet

/-- One to four hexadecimal digits. -/
def isGroup (piece : Text) : Bool :=
  !piece.isEmpty && piece.length ≤ 4 && piece.all (·.hexValue?.isSome)

/-- The groups of an address, with an IPv4 address at the end standing for two groups. -/
def groups? (address : Text) : Option (List Text) :=
  let pieces := Text.splitAt colon address
  match pieces.reverse with
  | last :: front =>
    if pieces.length < 3 then none
    else if last.contains point then
      if isIpv4 last then some (front.reverse ++ ([("0" : Text), "0"] : List Text)) else none
    else some pieces
  | [] => none

/-- Whether the groups before and after the place of an elision make an address. Only the outermost
group on either side may be empty, and then it is the only one there. -/
def isElided (before after : List Text) : Bool :=
  let side := fun (groups : List Text) (outermost : Option Text) =>
    if outermost = some [] then groups.length = 1 else groups.all isGroup
  let size := fun (groups : List Text) (outermost : Option Text) =>
    if outermost = some [] then 0 else groups.length
  side before before.head? && side after after.getLast? &&
    size before before.head? + size after after.getLast? < 8

/-- Eight groups of hexadecimal digits between colons, of which one run may be elided. A zone may
follow after a percent sign. -/
def isIpv6 (host : Text) : Bool :=
  let percent := CodePoint.ofChar '%'
  let (address, zoned) := match Text.breakAt? percent host with
    | none => (host, true)
    | some (address, zone) => (address, !zone.isEmpty && !zone.contains percent)
  if !zoned || host.contains (CodePoint.ofChar '/') then false
  else
    match groups? address with
    | none => false
    | some groups =>
      let inner := groups.tail.dropLast
      match inner.countP (·.isEmpty) with
      | 0 => groups.length = 8 && groups.all isGroup
      | 1 =>
        let place := 1 + (inner.takeWhile (!·.isEmpty)).length
        groups.length ≤ 9 && isElided (groups.take place) (groups.drop (place + 1))
      | _ => false

/-- An address of a future version: `v`, a hexadecimal version, a point and something more. -/
def isFuture (host : Text) : Bool :=
  match host with
  | ⟨0x76, _⟩ :: rest =>
    let version := rest.takeWhile (·.hexValue?.isSome)
    !version.isEmpty &&
      (match rest.drop version.length with
       | ⟨0x2E, _⟩ :: c :: more => (c :: more).all (·.val ≠ 0x0A)
       | _ => false)
  | _ => false

end DocBuild.Url
