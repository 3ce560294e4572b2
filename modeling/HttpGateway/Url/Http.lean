import HttpGateway.Text.Percent
import HttpGateway.Url.Address
import HttpGateway.Url.Name

/-!
# URLs of web servers

A URL is read leniently: control characters and spaces at its ends, and tabs and line ends inside
it, do not count; a backslash is as good as a slash, and any number of them may stand after the
scheme. What has to be right is the scheme, the host and the port. A host is an address or a
name, whose percent-encoded octets are read and whose characters are folded before either is
looked for. `isHttp` says whether a text is a URL with the scheme `http`.
-/

namespace HttpGateway.Url

/-- Whether a character is a tab or part of a line end. -/
def isTabOrLineEnd (c : Char) : Bool := c == '\t' || c == '\n' || c == '\r'

/-- The characters of a URL that count. -/
def significant (url : List Char) : List Char :=
  (Text.strip isControlOrSpace url).filter (!isTabOrLineEnd ·)

/-- Whether a character is a slash or a backslash. -/
def isSlash (c : Char) : Bool := c == '/' || c == '\\'

/-- Whether a character ends the part of a URL with the host. -/
def endsAuthority (c : Char) : Bool := isSlash c || c == '?' || c == '#'

/-- What follows the scheme `http` and its colon. -/
def afterScheme? (url : List Char) : Option (List Char) :=
  if (url.take 5).map Char.toLower = "http:".toList then some (url.drop 5) else none

/-- The part with the host and the port: after the slashes and the last at sign. -/
def hostAndPort (afterScheme : List Char) : List Char :=
  let authority := (afterScheme.dropWhile isSlash).takeWhile (!endsAuthority ·)
  (authority.reverse.takeWhile (· != '@')).reverse

/-- The host and what follows it: a colon between brackets is part of the host. -/
def splitHost (bracketed : Bool) : List Char → List Char × List Char
  | [] => ([], [])
  | c :: rest =>
    if c = ':' ∧ !bracketed then ([], c :: rest)
    else
      let inside := if c = '[' then true else if c = ']' then false else bracketed
      let (host, after) := splitHost inside rest
      (c :: host, after)

/-- Whether characters are a port, with its colon, or nothing. -/
def isPort : List Char → Bool
  | [] => true
  | ':' :: digits => digits.all Char.isDigit && (numberIn? 10 digits).any (· ≤ 65535)
  | _ => false

/-- Whether a folded host name is not empty and is a name, or an address of the fourth version if
it ends in a number. -/
def isName (name : List Char) : Bool :=
  !name.isEmpty && isHostName name && (!endsInNumber name || isAddress4 name)

/-- Whether characters are a host. -/
def isHost (host : List Char) : Bool :=
  if host.head? = some '[' then
    host.getLast? == some ']' && isAddress6 (host.drop 1).dropLast
  else
    match Text.Utf8.decodeChars? (Text.Percent.decode (Text.Utf8.encodeChars host)) with
    | some name => isName (foldName name)
    | none => false

/-- Whether a text is a URL with the scheme `http`. -/
def isHttp (url : String) : Bool :=
  match afterScheme? (significant url.toList) with
  | none => false
  | some rest =>
    let (host, port) := splitHost false (hostAndPort rest)
    isHost host && isPort port

end HttpGateway.Url
