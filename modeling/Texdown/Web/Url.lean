import Texdown.Error
import Texdown.Text.Ascii
import Texdown.Text.Case
import Texdown.Text.Percent
import Texdown.Web.Ip

/-!
# URLs

A URL is cut into scheme, authority, path, query and fragment. Nothing is decoded and only the
scheme is brought to lower case. Few texts are refused: unbalanced brackets around a host, a host
between brackets that is no address, and characters in the authority that decompose into
separators.
-/
namespace Texdown.Web

structure Url where
  scheme : Text
  authority : Text
  path : Text
  query : Text
  fragment : Text
  deriving DecidableEq, Repr

namespace Url

def isSchemeChar (c : Char) : Bool := Text.isLetterOrDigit c || c ∈ ['+', '-', '.']

/-- The scheme in front of the first colon, in lower case, and the rest. -/
def splitScheme (t : Text) : Text × Text :=
  match Text.splitFirst? ':' t with
  | some (s, rest) =>
    if (s.head?.map Text.isLetter).getD false && s.all isSchemeChar then (Text.lower s, rest)
    else ([], t)
  | none => ([], t)

/-- The authority behind two slashes, and the rest. -/
def splitAuthority : Text → Text × Text
  | '/' :: '/' :: r =>
    let ends (c : Char) : Bool := c ∈ ['/', '?', '#']
    (r.takeWhile (!ends ·), r.dropWhile (!ends ·))
  | t => ([], t)

/-- What stands in front of a separator, and what stands behind it. -/
def cut (sep : Char) (t : Text) : Text × Text := (Text.splitFirst? sep t).getD (t, [])

/-- The host and the port of an authority, without the user in front. -/
def hostAndPort (authority : Text) : Text :=
  ((Text.splitLast? '@' authority).map (·.2)).getD authority

/-- The host of an authority, without the brackets around it. -/
def hostOf (authority : Text) : Text :=
  let t := hostAndPort authority
  match Text.splitFirst? '[' t with
  | some (_, r) => (cut ']' r).1
  | none => (cut ':' t).1

/-- Checks that a host is an address that may stand between brackets. -/
def checkBracketed (host : Text) : Except Error Unit :=
  if host.head? == some 'v' then
    if isLaterHost host then .ok () else .error (.badValue "IPvFuture address is invalid".toList)
  else if isIpv4 host then .error (.badValue "An IPv4 address cannot be in brackets".toList)
  else if isIpv6 host then .ok ()
  else .error (.badValue (host.quoted ++ " does not appear to be an IPv4 or IPv6 address".toList))

/-- Checks an authority: its brackets, and characters that stand for separators. -/
def checkAuthority (authority : Text) : Except Error Unit := do
  if authority.contains '[' != authority.contains ']' then
    throw (.badValue "Invalid IPv6 URL".toList)
  if authority.contains '[' then checkBracketed (cut ']' (cut '[' authority).2).1
  let hidden (c : Char) : Bool :=
    !Text.isAscii c && (Text.asciiPart c).any (· ∈ ['/', '?', '#', '@', ':'])
  if authority.any hidden then
    throw (.badValue ("netloc '".toList ++ authority
      ++ "' contains invalid characters under NFKC normalization".toList))

/-- The text that is read: without controls and spaces in front, and without tabs and line ends. -/
def readable (t : Text) : Text :=
  (t.dropWhile (·.toNat ≤ 0x20)).filter fun c => !(c ∈ ['\t', '\r', '\n'])

def parts (t : Text) : Url :=
  let (scheme, t) := splitScheme t
  let (authority, t) := splitAuthority t
  let (t, fragment) := cut '#' t
  let (path, query) := cut '?' t
  ⟨scheme, authority, path, query, fragment⟩

def read (t : Text) : Except Error Url := do
  let u := parts (readable t)
  checkAuthority u.authority
  return u

/-- The host, without user and port. -/
def host (u : Url) : Text := hostOf u.authority

/-- The schemes whose paths may end in parameters. -/
def schemesWithParameters : List Text :=
  ["", "ftp", "hdl", "prospero", "http", "imap", "https", "shttp", "rtsp", "rtsps", "rtspu", "sip",
    "sips", "mms", "sftp", "tel"].map String.toList

def barePath (u : Url) : Text :=
  if schemesWithParameters.contains u.scheme && u.path.contains ';' then
    match Text.splitLast? '/' u.path with
    | some (front, last) => front ++ '/' :: (cut ';' last).1
    | none => (cut ';' u.path).1
  else u.path

def isRemote (u : Url) : Bool := u.scheme == "http".toList || u.scheme == "https".toList

end Url

def isRemote (t : Text) : Except Error Bool := Url.isRemote <$> Url.read t

/-- The path of a URL with its percent triplets decoded. -/
def decodedPath (t : Text) : Except Error Text :=
  (fun u => Text.percentDecode u.barePath) <$> Url.read t

end Texdown.Web
