/-! The crate's error type. Errors of the transport, TLS and I/O libraries are
kept as the text they display. -/
namespace SingQuic

inductive Error where
  | io (text : String)
  | connection (text : String)
  | connect (text : String)
  | write (text : String)
  | read (text : String)
  | tls (text : String)
  | quicTls (text : String)
  | invalidPrivateKey
  | invalidServerName (name : String)
  | invalidAddress
  | invalidVarInt
  | authenticationFailed (status : UInt16)
  | jlsAuthenticationFailed
  | protocol (text : String)
  | http3 (text : String)
  | congestionControl
  | closed
  deriving DecidableEq, Repr

abbrev Result (α : Type) := Except Error α

end SingQuic
