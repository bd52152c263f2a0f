import Sqlwright.Failure

/-!
# Where a server is found

An `Endpoint` names a server, a database on it, and the user who connects.  A
server without a port of its own is asked at `Endpoint.defaultPort`.

A `Fault` is what a connection reports; only what the server itself reports has
a code.
-/

namespace Sqlwright.Server

/-- How to reach a database on a server. -/
structure Endpoint where
  server : String
  database : String
  user : String
  password : String
  port : Option UInt16
  instanceName : Option String
  /-- Whether the certificate of the server is taken without a check. -/
  trustCertificate : Bool
  deriving DecidableEq

namespace Endpoint

/-- The port of a server that has none of its own. -/
def defaultPort : UInt16 := 1433

/-- A server at the default port, with a certificate that is checked. -/
def ofServer (server database user password : String) : Endpoint :=
  { server := server
    database := database
    user := user
    password := password
    port := none
    instanceName := none
    trustCertificate := false }

/-- The server with the port at which it is asked. -/
def address (endpoint : Endpoint) : String :=
  endpoint.server ++ ":" ++
    toString (endpoint.port.getD defaultPort).toNat

end Endpoint

/-- What a connection reports. -/
inductive Fault where
  /-- An answer that does not follow the protocol. -/
  | protocol (detail : String)
  /-- A text that cannot be decoded. -/
  | encoding (detail : String)
  /-- A value that has no counterpart. -/
  | conversion (detail : String)
  /-- A report of the server itself. -/
  | reported (code : Int64) (message : String)
  deriving DecidableEq

namespace Fault

/-- What is wrong. -/
def message : Fault → String
  | protocol detail => "Protocol error: " ++ detail
  | encoding detail => "Encoding error: " ++ detail
  | conversion detail => "Conversion error: " ++ detail
  | reported _ message => message

/-- The record of a fault; only a fault that the server reports has a code. -/
def native (fault : Fault) : NativeError :=
  match fault with
  | reported code message =>
      { code := some code, sqlState := none, message := message }
  | other => NativeError.ofMessage other.message

end Fault

end Sqlwright.Server
