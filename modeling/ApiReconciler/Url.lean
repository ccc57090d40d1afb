import ApiReconciler.Digits
import ApiReconciler.Text.CaseMap
import ApiReconciler.Text.Quoted

/-!
# `ApiReconciler.Url` — scheme and authority of a URL

Splitting of URL texts: control characters before the URL and line breaks or tabulators inside it
are ignored, the scheme is what precedes the first colon, and the authority stands between `//` and
the next `/`, `?` or `#`. An address in brackets has to be a version 6 address.

## Contents
- `Url.split`: scheme and authority, or the reason why there are none (`Url.Error`).
- `Url.isVersion4`, `Url.isVersion6`: address literals.
- `Url.hasDisguisedDelimiter`: characters whose compatibility form contains a delimiter.
-/

namespace ApiReconciler.Url

/-- Why a text is not split. -/
inductive Error
  | unbalancedBrackets
  | notAnAddress (host : String)
  | futureAddress
  | version4InBrackets
  | disguisedDelimiter (authority : String)
deriving DecidableEq, Repr

/-- The reason in words. -/
def Error.message : Error → String
  | .unbalancedBrackets => "Invalid IPv6 URL"
  | .notAnAddress host => Text.quoted host ++ " does not appear to be an IPv4 or IPv6 address"
  | .futureAddress => "IPvFuture address is invalid"
  | .version4InBrackets => "An IPv4 address cannot be in brackets"
  | .disguisedDelimiter authority =>
    "netloc '" ++ authority ++ "' contains invalid characters under NFKC normalization"

/-! ## Address literals -/

/-- A decimal number up to 255 without leading zeros. -/
def isOctet (cs : List Char) : Bool :=
  cs ≠ [] && cs.all Digits.isDigit && cs.length ≤ 3 && (cs = ['0'] || cs.head? ≠ some '0') &&
    Digits.ofDecimal cs ≤ 255

/-- Four octets with points between them. -/
def isVersion4 (cs : List Char) : Bool :=
  let parts := cs.splitOn '.'
  parts.length = 4 && parts.all isOctet

/-- One to four hexadecimal digits. -/
def isHextet (cs : List Char) : Bool := cs ≠ [] && cs.length ≤ 4 && cs.all Digits.isHexDigit

/-- Hextets with a colon between them, or parts of an address around `::`. An empty side of `::`
stands for no hextets. -/
def areHextets (parts : List (List Char)) : Bool := parts.all isHextet

/-- The parts of a version 6 address with an address of version 4 at the end written as two
hextets; `none` when that end is no such address. -/
def version6Parts (cs : List Char) : Option (List (List Char)) :=
  let parts := cs.splitOn ':'
  match parts.reverse with
  | last :: before =>
    if parts.length < 3 then none
    else if '.' ∈ last then
      (if isVersion4 last then some (before.reverse ++ [['0'], ['0']]) else none)
    else some parts
  | [] => none

/-- Parts that stand for eight hextets: all of them, or fewer with one gap. Apart from the ends, an
empty part marks the gap; an empty end has to touch it. -/
def areEightHextets (parts : List (List Char)) : Bool :=
  let inner := (parts.drop 1).dropLast
  let before := parts.head?.toList ++ inner.takeWhile (· ≠ [])
  match inner.dropWhile (· ≠ []) with
  | [] => parts.length = 8 && areHextets parts
  | _ :: afterGap =>
    let after := afterGap ++ parts.getLast?.toList
    let high := if before.head? = some [] then before.drop 1 else before
    let low := if after.getLast? = some [] then after.dropLast else after
    parts.length ≤ 9 && (before.head? ≠ some [] || high = []) &&
      (after.getLast? ≠ some [] || low = []) && high.length + low.length ≤ 7 &&
      areHextets high && areHextets low

/-- A version 6 address, with an optional zone after a percent sign. -/
def isVersion6 (cs : List Char) : Bool :=
  let address := cs.takeWhile (· ≠ '%')
  let zone := cs.dropWhile (· ≠ '%')
  (zone = [] || (zone.drop 1 ≠ [] && '%' ∉ zone.drop 1)) && '/' ∉ cs &&
    (version6Parts address).any areEightHextets

/-- A version letter, hexadecimal digits, a point and something more. -/
def isFutureAddress (cs : List Char) : Bool :=
  let digits := (cs.drop 1).takeWhile Digits.isHexDigit
  match (cs.drop 1).dropWhile Digits.isHexDigit with
  | '.' :: rest => digits ≠ [] && rest ≠ []
  | _ => false

/-- What stands between the first opening bracket and the next closing one. -/
def bracketed (cs : List Char) : List Char :=
  ((cs.dropWhile (· ≠ '[')).drop 1).takeWhile (· ≠ ']')

/-- The fault of an authority's brackets and of the address between them, if there is one. -/
def bracketFault (authority : List Char) : Option Error :=
  let opening := authority.contains '['
  let closing := authority.contains ']'
  if opening ≠ closing then some .unbalancedBrackets
  else if opening then
    let host := bracketed authority
    if host.head? = some 'v' then
      (if isFutureAddress host then none else some .futureAddress)
    else if isVersion4 host then some .version4InBrackets
    else if isVersion6 host then none
    else some (.notAnAddress (String.ofList host))
  else none

/-! ## Splitting -/

/-- Characters whose compatibility form contains one of `/`, `?`, `#`, `@` and `:`. -/
def disguised : List Nat :=
  [0x2047, 0x2048, 0x2049, 0x2100, 0x2101, 0x2105, 0x2106, 0x2A74, 0xFE13, 0xFE16, 0xFE55, 0xFE56,
    0xFE5F, 0xFE6B, 0xFF03, 0xFF0F, 0xFF1A, 0xFF1F, 0xFF20]

/-- Whether an authority contains a delimiter in disguise. -/
def hasDisguisedDelimiter (authority : List Char) : Bool :=
  authority.any fun c => disguised.contains c.toNat

/-- The text without control characters and blanks at the front, and without tabulators and line
breaks. -/
def clean (cs : List Char) : List Char :=
  (cs.dropWhile fun c => c.toNat ≤ 0x20).filter fun c => c ≠ '\t' && c ≠ '\r' && c ≠ '\n'

/-- A character of a scheme. -/
def isSchemeChar (c : Char) : Bool :=
  c.isAlpha || Digits.isDigit c || c = '+' || c = '-' || c = '.'

/-- The scheme in lower case, empty when there is none, and the rest. -/
def splitScheme (cs : List Char) : List Char × List Char :=
  let front := cs.takeWhile (· ≠ ':')
  let rest := cs.dropWhile (· ≠ ':')
  if rest ≠ [] ∧ front.head?.any Char.isAlpha ∧ front.all isSchemeChar then
    (front.map Char.toLower, rest.drop 1)
  else ([], cs)

/-- The end of an authority. -/
def endsAuthority (c : Char) : Bool := c = '/' || c = '?' || c = '#'

/-- The authority after `//`, empty when there is none. -/
def authorityOf : List Char → List Char
  | '/' :: '/' :: cs => cs.takeWhile (fun c => !endsAuthority c)
  | _ => []

/-- A URL's scheme and authority. -/
structure Split where
  scheme : String
  authority : String
deriving DecidableEq, Repr

/-- Scheme and authority of a URL text. -/
def split (url : String) : Except Error Split :=
  let (scheme, rest) := splitScheme (clean url.toList)
  let authority := authorityOf rest
  match bracketFault authority with
  | some e => .error e
  | none =>
    if hasDisguisedDelimiter authority then
      .error (.disguisedDelimiter (String.ofList authority))
    else .ok ⟨String.ofList scheme, String.ofList authority⟩

end ApiReconciler.Url
