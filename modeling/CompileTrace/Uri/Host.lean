import CompileTrace.Text.Digit
import CompileTrace.Text.Quoted

set_option autoImplicit false

/-! # Hosts between brackets

The authority of a URI names a host, with a user in front and a port after it or without. The host
may stand between brackets, where only addresses of version six and of versions yet to come are
allowed. -/

namespace CompileTrace.Uri

/-! ## Addresses -/

/-- Whether a text is a part of an address of version four: a number up to 255 without needless
    zeros. -/
def isOctet (s : Text) : Bool :=
  s.all CodePoint.isDigit && s.length ≤ 3 && (s.length == 1 || s.head? != some (char '0'))
    && (match s.toNat? with | some n => n ≤ 255 | none => false)

/-- Whether a text is an address of version four. -/
def isAddress4 (s : Text) : Bool :=
  let parts := s.fieldsBy (· == char '.')
  parts.length == 4 && parts.all isOctet

/-- Whether a text is a part of an address of version six: up to four hexadecimal digits. -/
def isHextet (s : Text) : Bool :=
  !s.isEmpty && s.length ≤ 4 && s.all (fun c => (hexValue? c).isSome)

/-- The parts of an address of version six between its colons; an address of version four at the
    end stands for two parts. -/
def hextets (s : Text) : Option (List Text) :=
  let parts := s.fieldsBy (· == char ':')
  match parts.getLast? with
  | none => none
  | some last =>
    if parts.length < 3 then none
    else if last.contains '.' then
      if isAddress4 last then some (parts.dropLast ++ [[char '0'], [char '0']]) else none
    else some parts

/-- The parts without the empty one that a double colon leaves at an end of the address. -/
def trimEnds (parts : List Text) : List Text :=
  let afterStart :=
    match parts with
    | [] :: [] :: rest => [] :: rest
    | _ => parts
  match afterStart.reverse with
  | [] :: [] :: rest => ([] :: rest).reverse
  | _ => afterStart

/-- Whether parts make up an address of version six: eight of them, or fewer with one double colon
    that stands for the rest. -/
def areHextets (parts : List Text) : Bool :=
  let inner := (parts.drop 1).dropLast
  if inner.all (fun p => !p.isEmpty) then parts.length == 8 && parts.all isHextet
  else
    let kept := trimEnds parts
    let written := kept.filter (fun p => !p.isEmpty)
    parts.length ≤ 9 && inner.count [] == 1 && kept.count [] == 1 && written.length ≤ 7
      && written.all isHextet

/-- Whether a text is an address of version six, with a scope after a percent sign or without. -/
def isAddress6 (s : Text) : Bool :=
  let (address, scopeOk) : Text × Bool :=
    match s.cutAt? (char '%') with
    | none => (s, true)
    | some (address, scope) => (address, !scope.isEmpty && !scope.contains '%')
  !s.contains '/' && scopeOk
    && (match hextets address with | some parts => areHextets parts | none => false)

/-- Whether a text is a host of a version yet to come: a `v`, hexadecimal digits, a dot and more. -/
def isFutureHost (s : Text) : Bool :=
  match s with
  | char 'v' :: rest =>
    match rest.span (fun c => (hexValue? c).isSome) with
    | (_ :: _, char '.' :: _ :: _) => true
    | _ => false
  | _ => false

/-! ## Faults -/

/-- What is wrong with the host of a URI. -/
inductive HostFault
  | unmatchedBracket
  | badFutureHost
  | address4InBrackets
  | notAnAddress (host : Text)
  | ambiguous (authority : Text)
  deriving DecidableEq, Repr

/-- The fault in words. -/
def HostFault.message : HostFault → Text
  | .unmatchedBracket => "Invalid IPv6 URL"
  | .badFutureHost => "IPvFuture address is invalid"
  | .address4InBrackets => "An IPv4 address cannot be in brackets"
  | .notAnAddress host => host.quoted ++ " does not appear to be an IPv4 or IPv6 address"
  | .ambiguous authority =>
    "netloc '" ++ authority ++ "' contains invalid characters under NFKC normalization"

/-- What is wrong with a host that stands between brackets. -/
def bracketedFault? (host : Text) : Option HostFault :=
  if host.head? = some (char 'v') then
    if isFutureHost host then none else some .badFutureHost
  else if isAddress4 host then some .address4InBrackets
  else if isAddress6 host then none
  else some (.notAnAddress host)

/-- What follows the name of a user in an authority: all that stands after the last at sign. -/
def afterUser (authority : Text) : Text := (authority.reverse.takeWhile (· ≠ char '@')).reverse

/-- The host that an authority with brackets has to have between them. Before the brackets stands
    nothing and after them nothing but a port; if they belong to the name of a user, the host is
    what stands before the port. -/
def bracketedHost (authority : Text) : Except HostFault Text :=
  let place := afterUser authority
  match place.cutAt? (char '[') with
  | none => .ok (place.takeWhile (· ≠ char ':'))
  | some (_ :: _, _) => .error .unmatchedBracket
  | some ([], inner) =>
    match inner.cutAt? (char ']') with
    | none => .ok inner
    | some (host, []) => .ok host
    | some (host, char ':' :: _) => .ok host
    | some _ => .error .unmatchedBracket

/-- What is wrong with the brackets of an authority and what stands between them. -/
def bracketFault? (authority : Text) : Option HostFault :=
  match authority.contains '[', authority.contains ']' with
  | false, false => none
  | true, true =>
    match bracketedHost authority with
    | .error fault => some fault
    | .ok host => bracketedFault? host
  | _, _ => some .unmatchedBracket

/-- Characters that look like the ones which end a host or part it, or like several with one of
    them. -/
def lookalikes : Text :=
  [0x2047, 0x2048, 0x2049, 0x2100, 0x2101, 0x2105, 0x2106, 0x2A74, 0xFE13, 0xFE16, 0xFE55, 0xFE56,
   0xFE5F, 0xFE6B, 0xFF03, 0xFF0F, 0xFF1A, 0xFF1F, 0xFF20].map CodePoint.ofNat

/-- What is wrong with the characters of an authority. -/
def lookalikeFault? (authority : Text) : Option HostFault :=
  if authority.any lookalikes.contains then some (.ambiguous authority) else none

end CompileTrace.Uri
