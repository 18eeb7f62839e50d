import IdentitySync.Url.DomainName
import IdentitySync.Url.Percent

/-!
Hosts of URLs: addresses of both versions, domain names in their ASCII form, and the opaque hosts
of schemes without special rules.
-/
namespace IdentitySync.Url
open Text

inductive UrlError where
  | relative
  | emptyHost
  | badPort
  | badAddress4
  | badAddress6
  | badDomain
  | badDomainCharacter
deriving DecidableEq, Repr

def UrlError.message : UrlError → String
  | .relative => "relative URL without a base"
  | .emptyHost => "empty host"
  | .badPort => "invalid port number"
  | .badAddress4 => "invalid IPv4 address"
  | .badAddress6 => "invalid IPv6 address"
  | .badDomain => "invalid international domain name"
  | .badDomainCharacter => "invalid domain character"

inductive Host where
  | domain (name : String)
  | address4 (n : Nat)
  | address6 (pieces : List Nat)
deriving DecidableEq, Repr

def digitIn? (base : Nat) (c : Char) : Option Nat :=
  (hexValue? c).bind fun d => if d < base then some d else none

def valueIn? (base : Nat) (cs : List Char) : Option Nat :=
  cs.foldl (fun acc c => acc.bind fun n => (digitIn? base c).map fun d => n * base + d) (some 0)

/-- A part of a version 4 address: decimal, octal after a zero, or hexadecimal after `0x`. -/
def addressNumber? (cs : List Char) : Option Nat :=
  match cs with
  | [] => none
  | '0' :: 'x' :: rest => valueIn? 16 rest
  | '0' :: 'X' :: rest => valueIn? 16 rest
  | '0' :: c :: rest => valueIn? 8 (c :: rest)
  | cs => valueIn? 10 cs

def dropEmptyEnd (parts : List (List Char)) : List (List Char) :=
  if parts.getLast? = some [] then parts.dropLast else parts

def endsInNumber (cs : List Char) : Bool :=
  match (dropEmptyEnd (pieces '.' cs)).getLast? with
  | none => false
  | some last =>
    if last.isEmpty then false
    else last.all (fun c => (digitIn? 10 c).isSome) || (addressNumber? last).isSome

def readAddress4 (cs : List Char) : Except UrlError Host :=
  let parts := dropEmptyEnd (pieces '.' cs)
  if 4 < parts.length then .error .badAddress4
  else match parts.mapM addressNumber? with
    | none => .error .badAddress4
    | some numbers =>
      let lead := numbers.dropLast
      let last := numbers.getLast?.getD 0
      if Nat.pow 256 (4 - lead.length) ≤ last ∨ lead.any (fun n => 255 < n) then .error .badAddress4
      else .ok (.address4 (lead.zipIdx.foldl (fun n p => n + p.1 * Nat.pow 256 (3 - p.2)) last))

def embeddedAddress? (cs : List Char) : Option (List Nat) :=
  let parts := pieces '.' cs
  if parts.length ≠ 4 then none
  else (parts.mapM fun p =>
      if p.isEmpty ∨ 3 < p.length ∨ (1 < p.length ∧ p.head? = some '0') then none
      else (valueIn? 10 p).bind fun n => if n < 256 then some n else none).map fun ns =>
    [ns.getD 0 0 * 256 + ns.getD 1 0, ns.getD 2 0 * 256 + ns.getD 3 0]

def address6Pieces? : List (List Char) → Option (List Nat)
  | [] => some []
  | [last] =>
    if last.contains '.' then embeddedAddress? last
    else if last.isEmpty ∨ 4 < last.length then none else (valueIn? 16 last).map fun n => [n]
  | p :: rest =>
    if p.isEmpty ∨ 4 < p.length then none
    else (valueIn? 16 p).bind fun n => (address6Pieces? rest).map (n :: ·)

def splitDoubleColon : List Char → Option (List Char × List Char)
  | ':' :: ':' :: rest => some ([], rest)
  | [] => none
  | c :: rest => (splitDoubleColon rest).map fun p => (c :: p.1, p.2)

def colonParts (cs : List Char) : List (List Char) := if cs.isEmpty then [] else pieces ':' cs

def readAddress6 (cs : List Char) : Except UrlError Host :=
  match splitDoubleColon cs with
  | none =>
    match address6Pieces? (colonParts cs) with
    | some ps => if ps.length = 8 then .ok (.address6 ps) else .error .badAddress6
    | none => .error .badAddress6
  | some (before, after) =>
    if before.contains '.' then .error .badAddress6
    else match address6Pieces? (colonParts before), address6Pieces? (colonParts after) with
      | some a, some b =>
        if a.length + b.length < 8 then
          .ok (.address6 (a ++ List.replicate (8 - a.length - b.length) 0 ++ b))
        else .error .badAddress6
      | _, _ => .error .badAddress6

def bracketed? (cs : List Char) : Option (Option (List Char)) :=
  match cs with
  | '[' :: rest => some (if rest.getLast? = some ']' then some rest.dropLast else none)
  | _ => none

def readDomain (cs : List Char) : Except UrlError Host :=
  match asciiDomain? (decoded cs) with
  | none => .error .badDomain
  | some name =>
    if name.isEmpty then .error .emptyHost
    else if endsInNumber name then readAddress4 name
    else .ok (.domain (String.ofList name))

def readHost (cs : List Char) : Except UrlError Host :=
  match bracketed? cs with
  | some (some inner) => readAddress6 inner
  | some none => .error .badAddress6
  | none => readDomain cs

def deniedInOpaque : List Char :=
  [Char.ofNat 0, '\t', '\n', '\r', ' ', '#', '/', ':', '<', '>', '?', '@', '[', '\\', ']', '^', '|']

/-- The host of a scheme without special rules; it may be empty. -/
def readOpaqueHost (cs : List Char) : Except UrlError Host :=
  match bracketed? cs with
  | some (some inner) => readAddress6 inner
  | some none => .error .badAddress6
  | none =>
    if cs.any deniedInOpaque.contains then .error .badDomainCharacter
    else .ok (.domain (String.ofList (encodeWith [] cs)))

end IdentitySync.Url
