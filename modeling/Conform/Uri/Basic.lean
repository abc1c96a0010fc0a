import Conform.Address
import Conform.Fault

/-!
References taken apart into scheme, authority, path, parameters, query and fragment, and put
together again. Which parts a scheme has is fixed by lists of schemes.
-/
namespace Conform

structure Uri where
  scheme : List Char := []
  authority : List Char := []
  path : List Char := []
  parameters : List Char := []
  query : List Char := []
  fragment : List Char := []
  deriving DecidableEq, Repr

namespace Uri

/-- Schemes against which relative references are resolved. -/
def relativeSchemes : List String :=
  ["", "ftp", "http", "gopher", "nntp", "imap", "wais", "file", "https", "shttp", "mms",
    "prospero", "rtsp", "rtspu", "sftp", "svn", "svn+ssh", "ws", "wss"]

/-- Schemes whose references name an authority. -/
def authoritySchemes : List String :=
  ["", "ftp", "http", "gopher", "nntp", "telnet", "imap", "wais", "file", "mms", "https", "shttp",
    "snews", "prospero", "rtsp", "rtspu", "rsync", "svn", "svn+ssh", "sftp", "nfs", "git",
    "git+ssh", "ws", "wss"]

/-- Schemes whose last path segment may carry parameters after a semicolon. -/
def parameterSchemes : List String :=
  ["", "ftp", "hdl", "prospero", "http", "imap", "https", "shttp", "rtsp", "rtspu", "sip",
    "sips", "mms", "sftp", "tel"]

def isIn (schemes : List String) (scheme : List Char) : Bool :=
  schemes.contains (String.ofList scheme)

def isSchemeChar (c : Char) : Bool := c.isAlphanum || c == '+' || c == '-' || c == '.'

/-- The text before the first character for which `p` holds, and the text from there on. -/
def upTo (p : Char → Bool) (cs : List Char) : List Char × List Char :=
  (cs.takeWhile (!p ·), cs.dropWhile (!p ·))

/-- A leading scheme and its colon, or the scheme `base` and the whole text. -/
def splitScheme (base cs : List Char) : List Char × List Char :=
  match upTo (· == ':') cs with
  | (c :: scheme, _ :: rest) =>
    if c.isAlpha && scheme.all isSchemeChar then ((c :: scheme).map Char.toLower, rest)
    else (base, cs)
  | _ => (base, cs)

/-- Characters whose compatibility form holds a delimiter. -/
def hiddenDelimiters : List Nat :=
  [0x2047, 0x2048, 0x2049, 0x2100, 0x2101, 0x2105, 0x2106, 0x2a74, 0xfe13, 0xfe16, 0xfe55, 0xfe56,
    0xfe5f, 0xfe6b, 0xff03, 0xff0f, 0xff1a, 0xff1f, 0xff20]

def isFutureHost (cs : List Char) : Bool :=
  let digits := cs.takeWhile Address.isHexDigit
  let rest := cs.dropWhile Address.isHexDigit
  !digits.isEmpty && rest.head? == some '.' && 1 < rest.length && !rest.tail.contains '\n'

def checkBracketed (host : List Char) : Except Fault Unit :=
  match host with
  | 'v' :: r => if isFutureHost r then .ok () else .error (.badValue "IPvFuture address is invalid")
  | _ =>
    if Address.isVersion4 host then .error (.badValue "An IPv4 address cannot be in brackets")
    else if Address.isVersion6 host then .ok ()
    else .error (.badValue (Text.quoted (String.ofList host) ++
      " does not appear to be an IPv4 or IPv6 address"))

/-- The text behind the last occurrence of a character. -/
def afterLast (mark : Char) (cs : List Char) : List Char :=
  (cs.reverse.takeWhile (· != mark)).reverse

/-- Brackets enclose the whole host; only a port may follow. -/
def checkBrackets (host : List Char) : Except Fault Unit :=
  match upTo (· == '[') host with
  | (before, _ :: bracketed) =>
    let (address, rest) := upTo (· == ']') bracketed
    let port := rest.drop 1
    if !before.isEmpty || (!port.isEmpty && port.head? != some ':') then
      .error (.badValue "Invalid IPv6 URL")
    else checkBracketed address
  | (bare, []) => checkBracketed (upTo (· == ':') bare).1

def checkAuthority (cs : List Char) : Except Fault Unit :=
  if cs.contains '[' != cs.contains ']' then .error (.badValue "Invalid IPv6 URL")
  else if cs.contains '[' then checkBrackets (afterLast '@' cs)
  else .ok ()

def checkHidden (cs : List Char) : Except Fault Unit :=
  if cs.any fun c => hiddenDelimiters.contains c.toNat then
    .error (.badValue ("netloc '" ++ String.ofList cs ++
      "' contains invalid characters under NFKC normalization"))
  else .ok ()

def splitAuthority : List Char → List Char × List Char
  | '/' :: '/' :: r => upTo (fun c => c == '/' || c == '?' || c == '#') r
  | cs => ([], cs)

/-- Text that counts: no control characters and spaces in front, no tabs and line ends. -/
def cleaned (cs : List Char) : List Char :=
  (cs.dropWhile fun c => c.toNat ≤ 32).filter fun c => !(c == '\t' || c == '\r' || c == '\n')

/-- The parts of a reference, parameters left in the path. -/
def split (base : List Char) (cs : List Char) : Except Fault Uri := do
  let (scheme, rest) := splitScheme base (cleaned cs)
  let (authority, rest) := splitAuthority rest
  checkAuthority authority
  let (rest, fragment) := upTo (· == '#') rest
  let (path, query) := upTo (· == '?') rest
  checkHidden authority
  return { scheme, authority, path, query := query.drop 1, fragment := fragment.drop 1 }

/-- Parameters start at the first semicolon of the last segment. -/
def splitParameters (path : List Char) : List Char × List Char :=
  let last := (path.reverse.takeWhile (· != '/')).reverse
  let (segment, parameters) := upTo (· == ';') last
  (path.take (path.length - last.length) ++ segment, parameters.drop 1)

def parse (base : List Char) (cs : List Char) : Except Fault Uri := do
  let u ← split base cs
  if isIn parameterSchemes u.scheme then
    let (path, parameters) := splitParameters u.path
    return { u with path, parameters }
  else return u

def after (mark : Char) (part : List Char) : List Char :=
  if part.isEmpty then [] else mark :: part

/-- The text of a reference. Empty parts are left out with their marks. -/
def text (u : Uri) : List Char :=
  let path := u.path ++ after ';' u.parameters
  let bare :=
    if !u.authority.isEmpty || (!u.scheme.isEmpty && isIn authoritySchemes u.scheme &&
        path.take 2 != ['/', '/']) then
      '/' :: '/' :: u.authority ++
        (if !path.isEmpty && path.head? != some '/' then '/' :: path else path)
    else path
  (if u.scheme.isEmpty then bare else u.scheme ++ ':' :: bare) ++ after '?' u.query ++
    after '#' u.fragment

end Uri

end Conform
