import JarvisCore.Foundation.Text

/-!
`urlsplit` and `unquote` of `urllib.parse`, on lists of characters. Where the
library raises `ValueError`, the result is `none`.
-/

namespace JarvisCore.Foundation.Url

open JarvisCore.Foundation.Text

/-- What is before the first separator, and what is after it if there is one. -/
def partition (separator : Char) (l : List Char) : List Char × Option (List Char) :=
  match l.dropWhile (· ≠ separator) with
  | [] => (l, none)
  | _ :: after => (l.takeWhile (· ≠ separator), some after)

/-- What is before the last separator if there is one, and what is after it. -/
def rpartition (separator : Char) (l : List Char) : Option (List Char) × List Char :=
  match partition separator l.reverse with
  | (_, none) => (none, l)
  | (after, some before) => (some before.reverse, after.reverse)

section IPAddress

def parseOctet (octet : List Char) : Bool :=
  !octet.isEmpty && octet.all Char.isDigit && octet.length ≤ 3 &&
    (octet = ['0'] || octet.head? ≠ some '0') &&
    octet.foldl (fun n c => 10 * n + (c.toNat - '0'.toNat)) 0 ≤ 255

def isIPv4Address (text : List Char) : Bool :=
  let octets := splitOn '.' text
  octets.length = 4 && octets.all parseOctet

def parseHextet (hextet : List Char) : Bool :=
  !hextet.isEmpty && hextet.all (fun c => (hexValue c).isSome) && hextet.length ≤ 4

/-- The parts of the text, an IPv4 address at the end counting as two. -/
def ipv6Parts (text : List Char) : Option (List (List Char)) :=
  let parts := splitOn ':' text
  if parts.length < 3 then none
  else
    match parts.getLast? with
    | some last =>
        if '.' ∈ last then
          if isIPv4Address last then some (parts.dropLast ++ [['0'], ['0']]) else none
        else some parts
    | none => none

/-- The hextets on one side of `::`, where the empty part at the end of the address
belongs to the colons. -/
def besideSkip (parts : List (List Char)) (outer : Option (List Char)) :
    Option (List (List Char)) :=
  if outer = some [] then if parts.length = 1 then some [] else none else some parts

def readsHextets (parts : List (List Char)) : Bool :=
  let inner := parts.tail.dropLast
  match inner.count [] with
  | 0 => parts.length = 8 && parts.all parseHextet
  | 1 =>
      let skipIndex := 1 + inner.idxOf []
      match besideSkip (parts.take skipIndex) parts.head?,
        besideSkip (parts.drop (skipIndex + 1)) parts.getLast? with
      | some hi, some lo => hi.length + lo.length < 8 && (hi ++ lo).all parseHextet
      | _, _ => false
  | _ => false

def isIPv6Address (text : List Char) : Bool :=
  let (address, scopeId) := partition '%' text
  let scopeAllowed :=
    match scopeId with
    | none => true
    | some scopeId => !scopeId.isEmpty && '%' ∉ scopeId
  '/' ∉ text && scopeAllowed && !address.isEmpty &&
    match ipv6Parts address with
    | some parts => parts.length ≤ 9 && readsHextets parts
    | none => false

end IPAddress

structure SplitResult where
  scheme : List Char
  netloc : List Char
  path : List Char
  query : List Char
  fragment : List Char

/-- The Unicode data behind `str.casefold`, `str.lower` and
`unicodedata.normalize("NFKC", …)`. -/
structure CaseTables where
  casefold : List Char → List Char
  lower : List Char → List Char
  nfkc : List Char → List Char
  casefold_ascii : ∀ l, (∀ c ∈ l, c.toNat < 128) → casefold l = l.map Char.toLower

/-- Tables that know the ASCII letters only. -/
def CaseTables.ascii : CaseTables where
  casefold l := l.map Char.toLower
  lower l := l.map Char.toLower
  nfkc l := l
  casefold_ascii _ _ := rfl

def isSchemeChar (c : Char) : Bool := c.isAlphanum || c = '+' || c = '-' || c = '.'

def splitScheme (url : List Char) : List Char × List Char :=
  match partition ':' url with
  | (first :: rest, some after) =>
      if first.isAlpha && (first :: rest).all isSchemeChar then
        ((first :: rest).map Char.toLower, after)
      else ([], url)
  | _ => ([], url)

def splitNetloc (url : List Char) : List Char × List Char :=
  let inNetloc (c : Char) : Bool := c ≠ '/' && c ≠ '?' && c ≠ '#'
  match url with
  | '/' :: '/' :: rest => (rest.takeWhile inNetloc, rest.dropWhile inNetloc)
  | _ => ([], url)

/-- `_check_bracketed_host`: an address of a future version, or an IPv6 address. -/
def checkBracketedHost (hostname : List Char) : Bool :=
  match hostname with
  | 'v' :: rest =>
      let isHex (c : Char) : Bool := (hexValue c).isSome
      match rest.takeWhile isHex, rest.dropWhile isHex with
      | _ :: _, '.' :: address => !address.isEmpty && address.all (· ≠ '\n')
      | _, _ => false
  | _ => isIPv6Address hostname

def checkBracketedNetloc (netloc : List Char) : Bool :=
  let hostnameAndPort := (rpartition '@' netloc).2
  match partition '[' hostnameAndPort with
  | (beforeBracket, some bracketed) =>
      let (hostname, port) := partition ']' bracketed
      let portAllowed :=
        match port with
        | none | some [] => true
        | some (c :: _) => c = ':'
      beforeBracket.isEmpty && portAllowed && checkBracketedHost hostname
  | (_, none) => checkBracketedHost (partition ':' hostnameAndPort).1

/-- `_checknetloc`: no character of the network location turns into a delimiter. -/
def checkNetloc (tables : CaseTables) (netloc : List Char) : Bool :=
  netloc.all (fun c => c.toNat < 128) ||
    let n := netloc.filter fun c => c ≠ '@' && c ≠ ':' && c ≠ '#' && c ≠ '?'
    let normalized := tables.nfkc n
    n = normalized || ['/', '?', '#', '@', ':'].all fun c => c ∉ normalized

def urlsplit (tables : CaseTables) (url : List Char) : Option SplitResult :=
  let url := (url.dropWhile fun c => c.toNat ≤ 32).filter fun c =>
    c ≠ '\t' && c ≠ '\r' && c ≠ '\n'
  let (scheme, url) := splitScheme url
  let (netloc, url) := splitNetloc url
  let brackets := ('[' ∈ netloc, ']' ∈ netloc)
  if brackets.1 ≠ brackets.2 ∨ brackets.1 ∧ checkBracketedNetloc netloc = false ∨
      checkNetloc tables netloc = false then none
  else
    let (url, fragment) := partition '#' url
    let (path, query) := partition '?' url
    some ⟨scheme, netloc, path, query.getD [], fragment.getD []⟩

def SplitResult.username (parts : SplitResult) : Option (List Char) :=
  (rpartition '@' parts.netloc).1.map fun userinfo => (partition ':' userinfo).1

def SplitResult.password (parts : SplitResult) : Option (List Char) :=
  (rpartition '@' parts.netloc).1.bind fun userinfo => (partition ':' userinfo).2

def SplitResult.hostname (tables : CaseTables) (parts : SplitResult) : Option (List Char) :=
  let hostinfo := (rpartition '@' parts.netloc).2
  let hostname :=
    match partition '[' hostinfo with
    | (_, some bracketed) => (partition ']' bracketed).1
    | (_, none) => (partition ':' hostinfo).1
  if hostname.isEmpty then none
  else
    match partition '%' hostname with
    | (address, some zone) => some (tables.lower address ++ '%' :: zone)
    | (address, none) => some (tables.lower address)

section Unquote

def unquoteToBytes : List Char → List Nat
  | '%' :: a :: b :: rest =>
      match hexValue a, hexValue b with
      | some x, some y => (16 * x + y) :: unquoteToBytes rest
      | _, _ => '%'.toNat :: unquoteToBytes (a :: b :: rest)
  | c :: rest => c.toNat :: unquoteToBytes rest
  | [] => []

def replacementCharacter : Char := '\uFFFD'

/-- A character of UTF-8 that is not complete: the bytes that are still missing, the
value so far and the range of the next byte. -/
structure Incomplete where
  needed : Nat
  value : Nat
  lower : Nat
  upper : Nat

/-- The first byte of a character: what is decoded at once, and what is left open. -/
def firstByte (b : Nat) : List Char × Option Incomplete :=
  if b < 0x80 then ([Char.ofNat b], none)
  else if 0xC2 ≤ b ∧ b ≤ 0xDF then ([], some ⟨1, b - 0xC0, 0x80, 0xBF⟩)
  else if 0xE0 ≤ b ∧ b ≤ 0xEF then
    ([], some ⟨2, b - 0xE0, if b = 0xE0 then 0xA0 else 0x80, if b = 0xED then 0x9F else 0xBF⟩)
  else if 0xF0 ≤ b ∧ b ≤ 0xF4 then
    ([], some ⟨3, b - 0xF0, if b = 0xF0 then 0x90 else 0x80, if b = 0xF4 then 0x8F else 0xBF⟩)
  else ([replacementCharacter], none)

/-- `bytes.decode("utf-8", "replace")`. -/
def decodeUtf8 : Option Incomplete → List Nat → List Char
  | none, [] => []
  | some _, [] => [replacementCharacter]
  | none, b :: rest => (firstByte b).1 ++ decodeUtf8 (firstByte b).2 rest
  | some i, b :: rest =>
      if i.lower ≤ b ∧ b ≤ i.upper then
        let value := 64 * i.value + (b - 0x80)
        if i.needed = 1 then Char.ofNat value :: decodeUtf8 none rest
        else decodeUtf8 (some ⟨i.needed - 1, value, 0x80, 0xBF⟩) rest
      else replacementCharacter :: (firstByte b).1 ++ decodeUtf8 (firstByte b).2 rest

/-- The ASCII runs of the text, the first of them reversed, are decoded one by one. -/
def unquoteRuns : List Char → List Char → List Char
  | run, [] => decodeUtf8 none (unquoteToBytes run.reverse)
  | run, c :: rest =>
      if c.toNat < 128 then unquoteRuns (c :: run) rest
      else decodeUtf8 none (unquoteToBytes run.reverse) ++ c :: unquoteRuns [] rest

def unquote (text : List Char) : List Char :=
  if '%' ∈ text then unquoteRuns [] text else text

example : unquote "caf%C3%A9 %41%F0%9F%zz".toList = "café A\uFFFD%zz".toList := by decide

end Unquote

end JarvisCore.Foundation.Url
