import ResourceSymbols.Number.Literal
import ResourceSymbols.Text.Cut
import ResourceSymbols.Text.Quoted

/-!
# Addresses of hosts

A host may be given by its numeric address: four octets with points between them,
or eight groups of hexadecimal digits with colons between them, of which a run of
zeros may be left out once.  The last two groups may be written as four octets,
and a zone may follow a percent sign.
-/

namespace ResourceSymbols.Web

/-- Whether the text is an octet in decimal, without zeros in front. -/
def isOctet (s : String) : Bool :=
  let cs := s.toList
  let digits := cs.all fun c => decide ('0' ≤ c) && decide (c ≤ '9')
  !cs.isEmpty && digits && decide (cs.length ≤ 3) && (s = "0" || cs.head? ≠ some '0') &&
    decide (Nat.ofDigitChars 10 cs 0 ≤ 255)

/-- Whether the text is an address of four octets. -/
def isAddress4 (s : String) : Bool :=
  let parts := Text.splitText '.' s
  decide (parts.length = 4) && parts.all isOctet

/-- Whether the text is a group of one to four hexadecimal digits. -/
def isGroup (s : String) : Bool :=
  let cs := s.toList
  decide (1 ≤ cs.length) && decide (cs.length ≤ 4) &&
    cs.all fun c => (Number.Literal.digitValue? c).isSome

/-- The groups of an address, its last part in octets taken as two groups. -/
def groups? (s : String) : Option (List String) :=
  let parts := Text.splitText ':' s
  if parts.length < 3 then none
  else
    let last := parts.getLastD ""
    if last.toList.contains '.' then
      if isAddress4 last then some (parts.dropLast ++ ["0", "0"]) else none
    else some parts

/-- The positions of the empty parts between the first and the last. -/
def gaps (parts : List String) : List Nat :=
  (List.range parts.length).filter fun i =>
    decide (0 < i) && decide (i + 1 < parts.length) && parts[i]? = some ""

/-- Whether the parts are eight groups, or fewer around one gap. -/
def areGroups (parts : List String) : Bool :=
  decide (parts.length ≤ 9) &&
    match gaps parts with
    | [] => decide (parts.length = 8) && parts.all isGroup
    | [i] =>
      let front := parts.take i
      let back := parts.drop (i + 1)
      let high := if front.head? = some "" then front.drop 1 else front
      let low := if back.getLast? = some "" then back.dropLast else back
      (front.head? ≠ some "" || high.isEmpty) && (back.getLast? ≠ some "" || low.isEmpty) &&
        decide (high.length + low.length < 8) && high.all isGroup && low.all isGroup
    | _ => false

/-- Whether the text is an address of groups. -/
def isAddress6 (s : String) : Bool :=
  let address :=
    match Text.cutText '%' s with
    | none => some s
    | some (address, zone) =>
      if zone.isEmpty || zone.toList.contains '%' then none else some address
  !s.toList.contains '/' && (address.bind groups?).any areGroups

/-- Whether the text names a version of address that is yet to come: `v`, a
number in hexadecimal digits, a point, and something after it. -/
def isFutureAddress (s : String) : Bool :=
  match s.toList with
  | 'v' :: rest =>
    let digits := rest.takeWhile fun c => (Number.Literal.digitValue? c).isSome
    match rest.dropWhile fun c => (Number.Literal.digitValue? c).isSome with
    | '.' :: c :: cs => !digits.isEmpty && (c :: cs).all (· ≠ '\n')
    | _ => false
  | _ => false

end ResourceSymbols.Web
