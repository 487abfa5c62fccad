import DocBuild.Text.Quoted

/-!
# Foreign errors

Errors that come out of the surroundings: a request without an answer, octets that are no text, a value of
a kind with which an operation can do nothing.
-/

namespace DocBuild

/-- The ways in which an HTTP request fails without an answer. The first five are timeouts. -/
inductive RequestTrouble where
  | timeout
  | connectTimeout
  | readTimeout
  | writeTimeout
  | poolTimeout
  | connect
  | read
  | write
  | close
  | remoteProtocol
  | localProtocol
  | unsupportedProtocol
  | proxy
  | tooManyRedirects
  | decoding
  | unspecified
deriving DecidableEq

namespace RequestTrouble

/-- The name under which a trouble is reported. -/
def name : RequestTrouble → Text
  | timeout => "TimeoutException"
  | connectTimeout => "ConnectTimeout"
  | readTimeout => "ReadTimeout"
  | writeTimeout => "WriteTimeout"
  | poolTimeout => "PoolTimeout"
  | connect => "ConnectError"
  | read => "ReadError"
  | write => "WriteError"
  | close => "CloseError"
  | remoteProtocol => "RemoteProtocolError"
  | localProtocol => "LocalProtocolError"
  | unsupportedProtocol => "UnsupportedProtocol"
  | proxy => "ProxyError"
  | tooManyRedirects => "TooManyRedirects"
  | decoding => "DecodingError"
  | unspecified => "RequestError"

/-- Whether the request took too long. -/
def isTimeout : RequestTrouble → Bool
  | timeout | connectTimeout | readTimeout | writeTimeout | poolTimeout => true
  | _ => false

end RequestTrouble

/-- The kinds of foreign errors: those that arise here, and any other one that a caller's function or a transport may
raise. -/
inductive ForeignKind where
  | runtime
  | value
  | key
  | index
  | os
  | type
  | overflow
  | memory
  | recursion
  | undecodable
  | unencodable
  | badText
  | assertion
  | notJson
  | request (trouble : RequestTrouble)
  | badStatus
  | unspecifiedHttp
  | invalidUrl
  | missingOperation
  /-- Any other kind, by its name. It is no failure of an exchange, and says nothing about how deep something nests. -/
  | other (name : Text)
deriving DecidableEq

namespace ForeignKind

/-- The name under which an error of a kind is reported. -/
def name : ForeignKind → Text
  | runtime => "RuntimeError"
  | value => "ValueError"
  | key => "KeyError"
  | index => "IndexError"
  | os => "OSError"
  | type => "TypeError"
  | overflow => "OverflowError"
  | memory => "MemoryError"
  | recursion => "RecursionError"
  | undecodable => "UnicodeDecodeError"
  | unencodable => "UnicodeEncodeError"
  | badText => "UnicodeError"
  | assertion => "AssertionError"
  | notJson => "JSONDecodeError"
  | request trouble => trouble.name
  | badStatus => "HTTPStatusError"
  | unspecifiedHttp => "HTTPError"
  | invalidUrl => "InvalidURL"
  | missingOperation => "AttributeError"
  | other name => name

/-- Whether the error says that an HTTP exchange failed. A malformed address is no exchange. -/
def isHttp : ForeignKind → Bool
  | request _ | badStatus | unspecifiedHttp => true
  | _ => false

end ForeignKind

/-- An error of the surroundings, with its words. -/
structure ForeignError where
  kind : ForeignKind
  text : Text
deriving DecidableEq

namespace ForeignError

/-- A missing key is reported by the quoted key. -/
def missingKey (key : Text) : ForeignError := ⟨.key, key.quoted⟩

/-- Something of the kind `owner` was asked for what it does not offer. -/
def notOffered (owner name : Text) : ForeignError :=
  ⟨.missingOperation, "'" ++ owner ++ "' object has no attribute '" ++ name ++ "'"⟩

/-- Something of the kind `owner` was asked for its items and has none. -/
def notIterable (owner : Text) : ForeignError := ⟨.type, "'" ++ owner ++ "' object is not iterable"⟩

/-- Something of the kind `owner` was called and is no function. -/
def notCallable (owner : Text) : ForeignError := ⟨.type, "'" ++ owner ++ "' object is not callable"⟩

/-- Something of the kind `owner` cannot be a key. -/
def notKey (owner : Text) : ForeignError := ⟨.type, "unhashable type: '" ++ owner ++ "'"⟩

/-- Something of the kind `owner` was to be a whole number. -/
def notWhole (owner : Text) : ForeignError :=
  ⟨.type, "'" ++ owner ++ "' object cannot be interpreted as an integer"⟩

/-- A character by its number, as an error of a text shows it. -/
def escaped (c : CodePoint) : Text :=
  if c.val < 0x100 then "\\x" ++ Text.hex 2 c.val
  else if c.val < 0x10000 then "\\u" ++ Text.hex 4 c.val
  else "\\U" ++ Text.hex 8 c.val

/-- Refuses a text that is not ASCII. The error names the first run of other characters. -/
def requireAscii (t : Text) : Except ForeignError Unit :=
  let isAscii (c : CodePoint) : Bool := c.val < 0x80
  let first := (t.takeWhile isAscii).length
  let where? : Option Text := match (t.drop first).takeWhile (!isAscii ·) with
    | [] => none
    | [c] => some ("character '" ++ escaped c ++ "' in position " ++ Text.ofNat first)
    | run => some ("characters in position " ++ Text.ofNat first ++ "-" ++
        Text.ofNat (first + run.length - 1))
  match where? with
  | none => .ok ()
  | some place => .error ⟨.unencodable, "'ascii' codec can't encode " ++ place ++
      ": ordinal not in range(128)"⟩

end ForeignError

end DocBuild
