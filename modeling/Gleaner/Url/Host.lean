import Gleaner.Text.Literal
import Gleaner.Text.LowerCase
import Gleaner.Url.Address

/-!
# Hosts of URLs

The host part of a URL: what lies between the user part and the port, in lower case. A text
without a host counts as its own host, so that bare names can be compared with patterns.
-/

set_option autoImplicit false

namespace Gleaner.Url

inductive UrlFault where
  | unbalancedBrackets
  | bracketedFourPart
  | badFutureAddress
  | noAddress (host : String)
  | deceptive (netloc : String)
  deriving DecidableEq, Repr

def UrlFault.message : UrlFault → String
  | .unbalancedBrackets => "Invalid IPv6 URL"
  | .bracketedFourPart => "An IPv4 address cannot be in brackets"
  | .badFutureAddress => "IPvFuture address is invalid"
  | .noAddress host => Text.quoted host ++ " does not appear to be an IPv4 or IPv6 address"
  | .deceptive netloc =>
      "netloc '" ++ netloc ++ "' contains invalid characters under NFKC normalization"

/-- Control characters and blanks that are ignored in front of a URL. -/
private def isLeadingJunk (c : Char) : Bool := c.toNat ≤ 32

private def isInnerJunk (c : Char) : Bool := c = '\t' || c = '\r' || c = '\n'

private def isSchemeChar (c : Char) : Bool :=
  c.isAlphanum || c = '+' || c = '-' || c = '.'

def afterScheme (cs : List Char) : List Char :=
  let scheme := cs.takeWhile (· ≠ ':')
  match cs.drop scheme.length with
  | ':' :: rest =>
      if scheme.head?.any Char.isAlpha && scheme.all isSchemeChar then rest else cs
  | _ => cs

def netloc (cs : List Char) : List Char :=
  match afterScheme ((cs.dropWhile isLeadingJunk).filter fun c => !isInnerJunk c) with
  | '/' :: '/' :: rest => rest.takeWhile fun c => c ≠ '/' && c ≠ '?' && c ≠ '#'
  | _ => []

/-- What follows the last occurrence of a character, or everything. -/
def afterLast (mark : Char) (cs : List Char) : List Char :=
  (cs.reverse.takeWhile (· ≠ mark)).reverse

/-- Characters that look like several, one of which separates the parts of a URL. -/
def deceptiveChars : List Nat :=
  [0x2047, 0x2048, 0x2049, 0x2100, 0x2101, 0x2105, 0x2106, 0x2A74, 0xFE13, 0xFE16, 0xFE55,
    0xFE56, 0xFE5F, 0xFE6B, 0xFF03, 0xFF0F, 0xFF1A, 0xFF1F, 0xFF20]

private def isFutureAddress (cs : List Char) : Bool :=
  let version := (cs.drop 1).takeWhile fun c =>
    c.isDigit || ('a' ≤ c.toLower && c.toLower ≤ 'f')
  match cs.drop (version.length + 1) with
  | '.' :: _ :: _ => !version.isEmpty
  | _ => false

def checkBrackets (loc : List Char) : Except UrlFault Unit :=
  let opened := loc.contains '['
  let closed := loc.contains ']'
  if opened != closed then .error .unbalancedBrackets
  else if !opened then .ok ()
  else
    let host := ((loc.dropWhile (· ≠ '[')).drop 1).takeWhile (· ≠ ']')
    if host.head? = some 'v' then
      if isFutureAddress host then .ok () else .error .badFutureAddress
    else if isFourPart host then .error .bracketedFourPart
    else if isEightPart host then .ok ()
    else .error (.noAddress (String.ofList host))

def hostPart (loc : List Char) : List Char :=
  let hostAndPort := afterLast '@' loc
  if hostAndPort.contains '[' then
    ((hostAndPort.dropWhile (· ≠ '[')).drop 1).takeWhile (· ≠ ']')
  else hostAndPort.takeWhile (· ≠ ':')

/-- A host in lower case; the zone of an address keeps its case. -/
def lowerHost (host : List Char) : List Char :=
  let name := host.takeWhile (· ≠ '%')
  let lowered := name.flatMap fun c =>
    if c = '\u0130' then ['i', '\u0307'] else [Text.lowerCase c]
  lowered ++ host.drop name.length

/-- The host of a URL, or the whole text when it has none. -/
def host (url : String) : Except UrlFault String := do
  let loc := netloc url.toList
  checkBrackets loc
  if loc.any fun c => deceptiveChars.contains c.toNat then
    throw (.deceptive (String.ofList loc))
  let name := lowerHost (hostPart loc)
  return if name.isEmpty then url else String.ofList name

end Gleaner.Url
