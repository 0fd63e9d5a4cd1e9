import RemoteTable.Wire.Error

/-!
What can go wrong between the viewer and its server, and the wording of it.
-/

namespace RemoteTable

/-- Why an address cannot be connected to. -/
inductive AddressError where
  | empty
  | tooLong
  | schemeTooLong
  | badCharacter
  | badAuthority
  | badFormat
  | noHost
  | noEncryption
  | unsupportedScheme
deriving DecidableEq

def AddressError.message : AddressError → String
  | .empty => "HTTP format error: empty string"
  | .tooLong => "HTTP format error: uri too long"
  | .schemeTooLong => "HTTP format error: scheme too long"
  | .badCharacter => "HTTP format error: invalid uri character"
  | .badAuthority => "HTTP format error: invalid authority"
  | .badFormat => "HTTP format error: invalid format"
  | .noHost => "URL error: No host name in the URL"
  | .noEncryption => "URL error: TLS support not compiled in"
  | .unsupportedScheme => "URL error: URL scheme not supported"

/-- What a websocket reports. -/
inductive SocketError where
  | connectionClosed
  | alreadyClosed
  | io (message : String)
  | address (error : AddressError)
deriving DecidableEq

def SocketError.message : SocketError → String
  | .connectionClosed => "Connection closed normally"
  | .alreadyClosed => "Trying to work with closed connection"
  | .io message => "IO error: " ++ message
  | .address error => error.message

inductive ClientError where
  | io (message : String)
  | json (error : Wire.DecodeError)
  | socket (error : SocketError)
  | connectionClosed
  | invalidDirective (value : Int)
deriving DecidableEq

def ClientError.message : ClientError → String
  | .io message => "I/O error: " ++ message
  | .json error => "JSON error: " ++ error.message
  | .socket error => "websocket error: " ++ error.message
  | .connectionClosed => "connection to server closed"
  | .invalidDirective value => "invalid column directive " ++ toString value

end RemoteTable
