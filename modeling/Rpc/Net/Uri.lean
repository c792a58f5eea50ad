import Rpc.Bytes
import Rpc.Net.Address
import Rpc.Net.Domain.Basic

/-! # Addresses of the form scheme, authority, path

Reads addresses by the rules that web browsers share. Blanks around an address and line ends within
are dropped. The web's own schemes are special: they always have an authority, a backslash counts
as a slash, and the host is a domain or a number. Under any other scheme the host is taken as it
stands, with controls and everything beyond ASCII percent-encoded. Of the user information, the
query and the fragment only their presence is kept.
-/
namespace Rpc.Net

inductive UriFlaw
  | noScheme
  | emptyHost
  | badPort
  | badIpv4
  | badIpv6
  | badHostChar
  | badDomain
  deriving DecidableEq, Repr

def UriFlaw.message : UriFlaw → String
  | noScheme => "relative URL without a base"
  | emptyHost => "empty host"
  | badPort => "invalid port number"
  | badIpv4 => "invalid IPv4 address"
  | badIpv6 => "invalid IPv6 address"
  | badHostChar => "invalid domain character"
  | badDomain => "invalid international domain name"

inductive Uri.Host
  | name (text : String)
  | ip (ip : Ip)
  deriving DecidableEq, Repr

structure Uri where
  scheme : String
  hasUserInfo : Bool
  host : Option Uri.Host
  port : Option UInt16
  path : String
  hasQuery : Bool
  hasFragment : Bool
  deriving DecidableEq, Repr

namespace Uri

/-! ## Characters -/

def isControl (c : Char) : Bool := c.toNat < 0x20

def isBlank (c : Char) : Bool := c.toNat ≤ 0x20

def isBreak (c : Char) : Bool := c = '\t' ∨ c = '\n' ∨ c = '\r'

/-- Drops blanks around a text and line ends and tabs within. -/
def tidy (cs : List Char) : List Char :=
  (((cs.dropWhile isBlank).reverse.dropWhile isBlank).reverse).filter (!isBreak ·)

def percent (c : Char) : List Char :=
  (Bytes.ofText (String.singleton c)).flatMap fun b =>
    ['%', (Bytes.hexDigit (b.toNat / 16)).toUpper, (Bytes.hexDigit (b.toNat % 16)).toUpper]

def mustEncode (c : Char) : Bool := isControl c ∨ 0x7f ≤ c.toNat

def mustEncodeInPath (c : Char) : Bool :=
  mustEncode c ∨ [' ', '"', '#', '<', '>', '?', '`', '\x7b', '\x7d'].contains c

def encode (must : Char → Bool) (cs : List Char) : List Char :=
  cs.flatMap fun c => if must c then percent c else [c]

/-! ## Scheme -/

def isSchemeChar (c : Char) : Bool := c.isAlphanum ∨ c = '+' ∨ c = '-' ∨ c = '.'

/-- The scheme in lower case, and what stands behind its colon. -/
def scheme? (cs : List Char) : Option (String × List Char) :=
  let name := cs.takeWhile isSchemeChar
  match name, cs.drop name.length with
  | c :: _, ':' :: rest =>
    if c.isAlpha then some (String.ofList (name.map Char.toLower), rest) else none
  | _, _ => none

inductive Manner
  /-- One of the web's own schemes. -/
  | special
  /-- The scheme of local files, special too. -/
  | file
  | plain
  deriving DecidableEq, Repr

def manner (scheme : String) : Manner :=
  if ["http", "https", "ws", "wss", "ftp"].contains scheme then .special
  else if scheme = "file" then .file else .plain

/-- Whether the character ends a part of the address. -/
def isSlash (m : Manner) (c : Char) : Bool := c = '/' ∨ (m ≠ .plain ∧ c = '\\')

/-! ## Host -/

def forbidden : List Char :=
  ['\x00', '\t', '\n', '\r', ' ', '#', '/', ':', '<', '>', '?', '@', '[', '\\', ']', '^', '|']

def bracketed? (cs : List Char) : Except UriFlaw Host :=
  if cs.getLast? = some ']' then
    match Ipv6.ofChars? (cs.drop 1).dropLast with
    | some ip => .ok (.ip (.v6 ip))
    | none => .error .badIpv6
  else .error .badIpv6

def plainHost (cs : List Char) : Except UriFlaw Host :=
  if cs.head? = some '[' then bracketed? cs
  else if cs.any forbidden.contains then .error .badHostChar
  else .ok (.name (String.ofList (encode mustEncode cs)))

def percentDecode : Bytes → Bytes
  | 0x25 :: a :: b :: rest =>
    match Text.hexDigit? (Char.ofNat a.toNat), Text.hexDigit? (Char.ofNat b.toNat) with
    | some x, some y => UInt8.ofNat (16 * x + y) :: percentDecode rest
    | _, _ => 0x25 :: percentDecode (a :: b :: rest)
  | x :: rest => x :: percentDecode rest
  | [] => []

/-- The number in a piece of a numeric host: octal behind a zero, hexadecimal behind a zero and
an x. Too large a number is no number. -/
def hostNumber? (cs : List Char) : Option Nat :=
  let octal? := fun c => (Text.decimalDigit? c).filter (· < 8)
  let n := match cs with
    | [] => none
    | '0' :: 'x' :: rest | '0' :: 'X' :: rest => Text.digits? 16 Text.hexDigit? 0 rest
    | '0' :: c :: rest => Text.digits? 8 octal? 0 (c :: rest)
    | cs => Text.digits? 10 Text.decimalDigit? 0 cs
  n.filter (· < 4294967296)

/-- The pieces of a host between dots, without an empty last one. -/
def hostPieces (cs : List Char) : List (List Char) :=
  let ps := Text.pieces '.' cs
  if ps.getLast? = some [] then ps.dropLast else ps

/-- A host whose last piece is a number is meant as an address. -/
def endsInNumber (cs : List Char) : Bool :=
  match (hostPieces cs).getLast? with
  | none => false
  | some p => !p.isEmpty && (p.all Char.isDigit || (hostNumber? p).isSome ||
      (p.take 2).map Char.toLower = ['0', 'x'] && (p.drop 2).all fun c => (Text.hexDigit? c).isSome)

/-- The last piece fills the octets that the pieces before it leave. -/
def numericHost (cs : List Char) : Except UriFlaw Host :=
  match (hostPieces cs).mapM hostNumber? with
  | none => .error .badIpv4
  | some ns =>
    let last := ns.getLastD 0
    let front := ns.dropLast
    if 4 < ns.length ∨ front.any (255 < ·) ∨ Nat.pow 256 (4 - front.length) ≤ last then .error .badIpv4
    else
      let n := front.foldr (fun x acc => acc / 256 + x * 16777216) 0 + last
      .ok (.ip (.v4 ⟨UInt8.ofNat (n / 16777216), UInt8.ofNat (n / 65536), UInt8.ofNat (n / 256),
        UInt8.ofNat n⟩))

def domainHost (cs : List Char) : Except UriFlaw Host :=
  if cs.head? = some '[' then bracketed? cs
  else
    let text := Bytes.text? (percentDecode (Bytes.ofText (String.ofList cs)))
    match text.bind fun s => Domain.read? s.toList with
    | none => .error .badDomain
    | some domain =>
      if domain.isEmpty then .error .emptyHost
      else if endsInNumber domain then numericHost domain
      else .ok (.name (String.ofList domain))

/-- The length of the host: it ends at a slash, and at a colon outside brackets. -/
def hostLength (m : Manner) (inBrackets : Bool) : List Char → Nat
  | [] => 0
  | c :: cs =>
    if isSlash m c ∨ (c = ':' ∧ !inBrackets) then 0
    else hostLength m (if c = '[' then true else if c = ']' then false else inBrackets) cs + 1

/-! ## Authority -/

/-- The length of a text up to and with its last occurrence of a character. -/
def uptoLast (c : Char) (cs : List Char) : Nat :=
  cs.length - (cs.reverse.takeWhile (· ≠ c)).length

/-- Whether there is user information, and what follows it. A lone colon is none. The flag tells
that something follows the given text. -/
def userInfo (m : Manner) (followed : Bool) (cs : List Char) : Except UriFlaw (Bool × List Char) :=
  let n := uptoLast '@' (cs.takeWhile (!isSlash m ·))
  let rest := cs.drop n
  if n = 0 then .ok (false, cs)
  else if n = 1 then
    let cut := match rest with
      | [] => followed
      | c :: _ => isSlash m c
    if cut then .error .emptyHost else .ok (false, rest)
  else .ok (cs.take (n - 1) ≠ [':'], rest)

/-- The port behind a host, and what follows it. -/
def portOf : List Char → Except UriFlaw (Option UInt16 × List Char)
  | ':' :: cs =>
    let digits := cs.takeWhile Char.isDigit
    let rest := cs.drop digits.length
    let ended : Bool := match rest with
      | [] => true
      | c :: _ => c == '/' || c == '\\'
    if digits.isEmpty ∧ ended then .ok (none, rest)
    else
      match Text.decimalBelow? 65536 digits with
      | some n => if ended then .ok (some (UInt16.ofNat n), rest) else .error .badPort
      | none => .error .badPort
  | cs => .ok (none, cs)

/-- An authority and what follows it. -/
structure Authority where
  hasUserInfo : Bool
  host : Option Host
  port : Option UInt16
  rest : List Char

def authority (m : Manner) (followed : Bool) (cs : List Char) : Except UriFlaw Authority := do
  let (user, cs) ← userInfo m followed cs
  let text := cs.take (hostLength m false cs)
  let rest := cs.drop text.length
  if text.isEmpty ∧ (m ≠ .plain ∨ rest.head? = some ':') then throw .emptyHost
  let host ← if m = .plain then plainHost text else domainHost text
  let (port, rest) ← portOf rest
  if text.isEmpty ∧ user then throw .emptyHost
  return ⟨user, if text.isEmpty then none else some host, port, rest⟩

/-! ## Path -/

/-- A letter with a colon or a bar names a drive, alone or in front of a backslash. -/
def isDrive (segment : List Char) : Bool :=
  match segment with
  | c :: s :: rest => c.isAlpha ∧ (s = ':' ∨ s = '|') ∧ (rest = [] ∨ rest.head? = some '\\')
  | _ => false

/-- How many dots a segment stands for, if it is one or two dots. -/
def dots (segment : List Char) : Nat :=
  match segment.map Char.toLower with
  | ['.'] | ['%', '2', 'e'] => 1
  | ['.', '.'] | ['.', '%', '2', 'e'] | ['%', '2', 'e', '.'] | ['%', '2', 'e', '%', '2', 'e'] => 2
  | _ => 0

/-- Joins segments behind a slash. One dot stands for no segment, and two take back the segment
before them unless it names a drive. The finished segments stand in reverse order. -/
def walk (finished : List (List Char)) : List (List Char) → List Char
  | [] => []
  | s :: ss =>
    let text := encode mustEncodeInPath s
    let back := match finished with
      | f :: fs => if isDrive f then f :: fs else fs
      | [] => []
    let kept := if dots text = 1 then finished else if dots text = 2 then back else text :: finished
    match ss with
    | [] =>
      let last := if dots text = 0 then text else []
      let before := if dots text = 0 then finished else kept
      '/' :: before.reverse.flatMap (· ++ ['/']) ++ last
    | ss => walk kept ss

def slashPath (m : Manner) (cs : List Char) : List Char :=
  walk [] (Text.pieces '/' (cs.map fun c => if isSlash m c then '/' else c))

def pathBehind (m : Manner) (cs : List Char) : List Char :=
  match cs with
  | [] => if m = .plain then [] else ['/']
  | c :: rest => if isSlash m c then slashPath m rest else slashPath m cs

/-! ## Whole addresses -/

structure Middle where
  hasUserInfo : Bool
  host : Option Host
  port : Option UInt16
  path : List Char

def behindAuthority (m : Manner) (followed : Bool) (cs : List Char) : Except UriFlaw Middle := do
  let a ← authority m followed cs
  return ⟨a.hasUserInfo, a.host, a.port, pathBehind m a.rest⟩

/-- A file may name a host but neither user nor port. -/
def fileMiddle (cs : List Char) : Except UriFlaw Middle := do
  match cs.span (isSlash .file) with
  | (_ :: _ :: more, rest) =>
    let text := (more ++ rest).takeWhile (!isSlash .file ·)
    let path := pathBehind .file ((more ++ rest).drop text.length)
    if text.isEmpty ∨ isDrive text then return ⟨false, none, none, path⟩
    else return ⟨false, some (← domainHost text), none, path⟩
  | (_, _) => return ⟨false, none, none, pathBehind .file cs⟩

def middle (m : Manner) (followed : Bool) (cs : List Char) : Except UriFlaw Middle :=
  match m, cs with
  | .special, cs => behindAuthority m followed (cs.dropWhile (isSlash m))
  | .file, cs => fileMiddle cs
  | .plain, '/' :: '/' :: cs => behindAuthority m followed cs
  | .plain, '/' :: cs => .ok ⟨false, none, none, slashPath m cs⟩
  | .plain, cs => .ok ⟨false, none, none, encode mustEncode cs⟩

def parse (s : String) : Except UriFlaw Uri :=
  match scheme? (tidy s.toList) with
  | none => .error .noScheme
  | some (scheme, cs) => do
    let bare := cs.takeWhile fun c => c ≠ '?' ∧ c ≠ '#'
    let tail := cs.drop bare.length
    let p ← middle (manner scheme) (!tail.isEmpty) bare
    return ⟨scheme, p.hasUserInfo, p.host, p.port, String.ofList p.path,
      tail.head? = some '?', tail.contains '#'⟩

end Uri

end Rpc.Net
