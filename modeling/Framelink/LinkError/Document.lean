import Framelink.Document.Access
import Framelink.LinkError

/-!
# Errors as documents

How failures and errors are described in documents, and how an error is reported
in one: by its name, its words, and the failure and the details that it carries.
-/

namespace Framelink

/-- The failure that a document describes: a code, or a kind with or without a
text of its own. -/
def Failure.ofDocument (document : Document) : Failure :=
  let kind := (Failure.Kind.ofName? (document.textAt "kind")).getD .other
  if document.has "os" then .system (document.intAt "os")
  else if document.has "msg" then .custom kind (document.textAt "msg")
  else .plain kind

/-- The stage of a name. -/
def LineStage.ofName (name : String) : LineStage :=
  if name = "get" then .get else if name = "set" then .set else .configure

namespace LinkError

/-- The error that a document describes by its name and what the error carries. -/
def ofDocument (document : Document) : LinkError :=
  let failure := Failure.ofDocument (document.field "io")
  let address := document.textAt "addr"
  let path := document.textAt "path"
  match document.textAt "variant" with
  | "HostResolution" => .hostResolution (document.textAt "host")
  | "SocketCreate" => .socketCreate failure
  | "Bind" => .bind address failure
  | "Connect" => .connect address failure
  | "ConnectionTimeout" =>
      let timeout := document.field "timeout"
      .connectionTimeout address (.wrapping (timeout.natAt "secs") (timeout.natAt "nanos"))
  | "UnsupportedBaudRate" => .unsupportedRate (UInt32.ofNat (document.natAt "baud"))
  | "SerialOpen" => .serialOpen path failure
  | "SerialConfig" => .serialConfig path (.ofName (document.textAt "stage")) failure
  | "CrcMismatch" =>
      .checksumMismatch
        ⟨UInt16.ofNat (document.natAt "expected"), UInt16.ofNat (document.natAt "actual")⟩
  | "AlreadyRunning" => .alreadyRunning
  | "NotConnected" => .notConnected
  | "UnknownPeer" => .unknownPeer (document.textAt "peer")
  | _ => .exchange failure

/-- What an error carries besides its failure, where that is reported. -/
def details : LinkError → List (String × Document)
  | .checksumMismatch mismatch =>
      [("expected", .ofNat mismatch.expected.toNat), ("actual", .ofNat mismatch.actual.toNat)]
  | .bind _ failure => [("reason", .text (BindCause.ofFailure failure).name)]
  | .serialConfig _ stage _ => [("stage", .text stage.describe)]
  | _ => []

/-- The report of an error. -/
def toDocument (error : LinkError) : Document :=
  .mapping ([("error", .text error.name), ("message", .text error.message)] ++
    error.failure?.toList.map (fun failure => ("source", .text failure.message)) ++
    error.details)

end LinkError
end Framelink
