import DocBuild.Url.Percent
import DocBuild.Url.Host
import DocBuild.FilePath
import DocBuild.Text.Quoted

/-!
# Remote addresses

A text is split into scheme, authority and path; what follows a question mark, a number sign or the
parameters of the last path segment is dropped. A text is a remote address if its scheme is `http` or
`https` and its authority is not empty. The file name of an address is the last name of its decoded path.

Splitting refuses an authority with unbalanced brackets, with brackets around something that is no
address or beside the host, or with a character that stands for one of the delimiters in compatibility form.
-/

namespace DocBuild

/-- Why an address cannot be split. -/
inductive UrlError where
  | misplacedBracket
  | badFutureAddress
  | ipv4InBrackets
  | notAnAddress (host : Text)
  | disguisedDelimiter (authority : Text)
deriving DecidableEq

/-- The words for why an address cannot be split. -/
def UrlError.message : UrlError → Text
  | .misplacedBracket => "Invalid IPv6 URL"
  | .badFutureAddress => "IPvFuture address is invalid"
  | .ipv4InBrackets => "An IPv4 address cannot be in brackets"
  | .notAnAddress host => host.quoted ++ " does not appear to be an IPv4 or IPv6 address"
  | .disguisedDelimiter authority =>
    "netloc '" ++ authority ++ "' contains invalid characters under NFKC normalization"

/-- The parts of an address that matter here. -/
structure Url where
  scheme : Text
  authority : Text
  path : Text
deriving DecidableEq

namespace Url

/-- The signs that a scheme may have after its first letter. -/
def isSchemeSign (c : CodePoint) : Bool :=
  c.isLetter || c.isDigit || c.val = 0x2B || c.val = 0x2D || c.val = 0x2E

/-- The characters whose compatibility form contains a slash, a question mark, a number sign, an at sign
or a colon, beyond ASCII. -/
def disguises : List Nat :=
  [0x2047, 0x2048, 0x2049, 0x2100, 0x2101, 0x2105, 0x2106, 0x2A74, 0xFE13, 0xFE16, 0xFE55, 0xFE56,
   0xFE5F, 0xFE6B, 0xFF03, 0xFF0F, 0xFF1A, 0xFF1F, 0xFF20]

/-- The schemes whose last path segment may have parameters. -/
def parameterSchemes : List Text :=
  ["", "ftp", "hdl", "prospero", "http", "imap", "https", "shttp", "rtsp", "rtsps", "rtspu", "sip",
   "sips", "mms", "sftp", "tel"]

/-- The address without control characters and blanks in front and without line ends and tabs. -/
def cleaned (t : Text) : Text :=
  (t.dropWhile (·.val ≤ 0x20)).filter fun c => c.val ≠ 0x09 && c.val ≠ 0x0A && c.val ≠ 0x0D

/-- The scheme in small letters and the rest; without a scheme the text is all rest. -/
def splitScheme (t : Text) : Text × Text :=
  match Text.breakAt? colon t with
  | some (scheme, rest) =>
    if scheme.head?.any (·.isLetter) && scheme.all isSchemeSign then (Text.lowerAscii scheme, rest)
    else ([], t)
  | none => ([], t)

/-- The authority after two slashes and the rest. -/
def splitAuthority (t : Text) : Text × Text :=
  match t with
  | ⟨0x2F, _⟩ :: ⟨0x2F, _⟩ :: rest =>
    let ends := fun (c : CodePoint) => c.val = 0x2F || c.val = 0x3F || c.val = 0x23
    (rest.takeWhile (!ends ·), rest.dropWhile (!ends ·))
  | _ => ([], t)

/-- What is wrong with the host in the brackets of an authority. -/
def checkBracketed (host : Text) : Except UrlError Unit :=
  if host.head?.any (·.val = 0x76) then
    if isFuture host then .ok () else .error .badFutureAddress
  else if isIpv4 host then .error .ipv4InBrackets
  else if isIpv6 host then .ok ()
  else .error (.notAnAddress host)

/-- The bracket before an address. -/
def opening : CodePoint := CodePoint.ofChar '['

/-- The bracket after an address. -/
def closing : CodePoint := CodePoint.ofChar ']'

/-- The part of an authority after the name of a user. -/
def hostAndPort (authority : Text) : Text :=
  (authority.reverse.takeWhile (· ≠ CodePoint.ofChar '@')).reverse

/-- The host of an authority that has brackets. Nothing may stand before them, and only a port after them.
If the brackets belong to the name of the user, the host ends before the port. -/
def bracketedHost (authority : Text) : Except UrlError Text :=
  let address := hostAndPort authority
  match Text.breakAt? opening address with
  | none => .ok (address.takeWhile (· ≠ colon))
  | some (before, inside) =>
    let host := inside.takeWhile (· ≠ closing)
    let after := inside.drop (host.length + 1)
    if !before.isEmpty || after.head?.any (· ≠ colon) then .error .misplacedBracket else .ok host

/-- What is wrong with an authority. -/
def checkAuthority (authority : Text) : Except UrlError Unit := do
  if authority.contains opening != authority.contains closing then .error .misplacedBracket
  if authority.contains opening then checkBracketed (← bracketedHost authority)
  if authority.any (disguises.contains ·.val) then .error (.disguisedDelimiter authority)

/-- The path without the parameters of its last segment. -/
def dropParameters (path : Text) : Text :=
  let lastSegment := (path.reverse.takeWhile (· ≠ FilePath.slash)).reverse
  path.take (path.length - lastSegment.length) ++ lastSegment.takeWhile (·.val ≠ 0x3B)

/-- Splits an address. -/
def split (t : Text) : Except UrlError Url := do
  let (scheme, rest) := splitScheme (cleaned t)
  let (authority, rest) := splitAuthority rest
  checkAuthority authority
  let path := (rest.takeWhile (·.val ≠ 0x23)).takeWhile (·.val ≠ 0x3F)
  .ok ⟨scheme, authority, if parameterSchemes.contains scheme then dropParameters path else path⟩

/-- Whether the address is one that files are fetched from. -/
def isRemote (u : Url) : Bool :=
  (u.scheme = "http" || u.scheme = "https") && !u.authority.isEmpty

/-- The file name of the address. -/
def fileName? (u : Url) : Option Text :=
  let name := (FilePath.ofText (percentDecode u.path)).name
  if name.isEmpty then none else some name

end Url

/-- Whether a text is a remote address. -/
def isUrl (t : Text) : Except UrlError Bool := (Url.split t).map Url.isRemote

/-- The file name in an address. -/
def fileNameOfUrl (t : Text) : Except UrlError (Option Text) := (Url.split t).map Url.fileName?

end DocBuild
