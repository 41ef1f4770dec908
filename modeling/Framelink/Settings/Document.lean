import Framelink.Document.Basic
import Framelink.Settings.Basic

/-!
# Settings as documents

Settings are stored as a mapping from field names to values, and read back from
such a mapping or from the sequence of the eight values.  Reading a mapping
visits the names in alphabetical order and stops at the first value that is no
good; names that mean nothing are passed over.  Only then are missing names
reported, in the order of the fields.
-/

namespace Framelink

/-! ## Spans of time -/

namespace Duration

/-- A span as a document. -/
def toDocument (duration : Duration) : Document :=
  .mapping
    [("secs", .integer duration.seconds.toNat), ("nanos", .integer duration.nanoseconds.val)]

/-- The span of so many seconds and nanoseconds, where nanoseconds that make up
whole seconds are carried over. -/
def ofParts (seconds nanoseconds : Nat) : Except DocumentError Duration :=
  let total := seconds + nanoseconds / 1000000000
  if total < UInt64.size then .ok (.wrapping total nanoseconds)
  else .error .durationOverflow

/-- Read a number of seconds. -/
def readSeconds : Document → Except DocumentError Nat := Document.readNatural UInt64.size "u64"

/-- Read a number of nanoseconds, which may make up whole seconds. -/
def readNanoseconds : Document → Except DocumentError Nat := Document.readNatural UInt32.size "u32"

/-- The parts found in a mapping, visited entry by entry. -/
def readEntries :
    (entries : List (String × Document)) → (seconds nanoseconds : Option Nat) →
    Except DocumentError (Option Nat × Option Nat)
  | [], seconds, nanoseconds => .ok (seconds, nanoseconds)
  | (name, value) :: rest, seconds, nanoseconds =>
      if name = "secs" then do readEntries rest (some (← readSeconds value)) nanoseconds
      else if name = "nanos" then do readEntries rest seconds (some (← readNanoseconds value))
      else .error (.unknownField name ["secs", "nanos"])

/-- The span that a document stands for. -/
def ofDocument : Document → Except DocumentError Duration
  | .mapping entries => do
      match ← readEntries (Document.sorted entries) none none with
      | (none, _) => .error (.missingField "secs")
      | (some _, none) => .error (.missingField "nanos")
      | (some seconds, some nanoseconds) => ofParts seconds nanoseconds
  | .sequence [] => .error (.shortSequence 0 "struct Duration")
  | .sequence [seconds] => do
      let _ ← readSeconds seconds
      .error (.shortSequence 1 "struct Duration")
  | .sequence (seconds :: nanoseconds :: rest) => do
      let seconds ← readSeconds seconds
      let nanoseconds ← readNanoseconds nanoseconds
      let duration ← ofParts seconds nanoseconds
      if rest.isEmpty then .ok duration else .error (.longSequence (rest.length + 2))
  | document => .error (document.mistyped "struct Duration")

end Duration

/-! ## Addresses -/

namespace IpAddress

/-- The address that a document stands for: a text that is an address. -/
def ofDocument : Document → Except DocumentError IpAddress
  | .text value =>
      match ofText? value with
      | some address => .ok address
      | none => .error .addressSyntax
  | document => .error (document.mistyped "IP address")

end IpAddress

/-! ## Settings -/

namespace Settings

/-- The fields of settings. -/
inductive Field
  | bindAddress
  | port
  | maxConnections
  | noDelay
  | quickAck
  | pollInterval
  | idleBackoff
  | receiveChunk
  deriving DecidableEq, Repr

namespace Field

/-- The fields in their order. -/
def all : List Field :=
  [.bindAddress, .port, .maxConnections, .noDelay, .quickAck, .pollInterval, .idleBackoff,
    .receiveChunk]

/-- The name that a field is stored under. -/
def name : Field → String
  | .bindAddress => "bind_address"
  | .port => "port"
  | .maxConnections => "max_connections"
  | .noDelay => "nodelay"
  | .quickAck => "quickack"
  | .pollInterval => "poll_interval"
  | .idleBackoff => "idle_backoff"
  | .receiveChunk => "recv_chunk"

/-- The field that is stored under a name. -/
def ofName? (name : String) : Option Field :=
  all.find? fun field => field.name == name

end Field

/-- The value of a field as a document. -/
def get (settings : Settings) : Field → Document
  | .bindAddress => .text settings.bindAddress.text
  | .port => .ofNat settings.port.toNat
  | .maxConnections => .ofNat settings.maxConnections.toNat
  | .noDelay => .boolean settings.noDelay
  | .quickAck => .boolean settings.quickAck
  | .pollInterval => settings.pollInterval.toDocument
  | .idleBackoff => settings.idleBackoff.toDocument
  | .receiveChunk => .ofNat settings.receiveChunk.toNat

/-- The settings with a field set from a document. -/
def set (settings : Settings) (field : Field) (value : Document) :
    Except DocumentError Settings :=
  match field with
  | .bindAddress => do return { settings with bindAddress := ← IpAddress.ofDocument value }
  | .port => do
      return { settings with port := UInt16.ofNat (← value.readNatural UInt16.size "u16") }
  | .maxConnections => do
      return { settings with maxConnections := UInt32.ofNat (← value.readNatural UInt32.size "u32") }
  | .noDelay => do return { settings with noDelay := ← value.readBoolean }
  | .quickAck => do return { settings with quickAck := ← value.readBoolean }
  | .pollInterval => do return { settings with pollInterval := ← Duration.ofDocument value }
  | .idleBackoff => do return { settings with idleBackoff := ← Duration.ofDocument value }
  | .receiveChunk => do
      return { settings with receiveChunk := UInt64.ofNat (← value.readNatural UInt64.size "usize") }

/-- Settings as a document. -/
def toDocument (settings : Settings) : Document :=
  .mapping (Field.all.map fun field => (field.name, settings.get field))

/-- Set the fields that entries name, one after the other. -/
def setEntries (settings : Settings) :
    List (String × Document) → Except DocumentError Settings
  | [] => .ok settings
  | (name, value) :: rest =>
      match Field.ofName? name with
      | some field => do (← settings.set field value).setEntries rest
      | none => settings.setEntries rest

/-- Set fields from as many values; `position` counts the values before them. -/
def setValues (settings : Settings) (position : Nat) :
    List Field → List Document → Except DocumentError Settings
  | [], [] => .ok settings
  | [], rest => .error (.longSequence (position + rest.length))
  | _ :: _, [] => .error (.shortSequence position "struct ServerConfig with 8 elements")
  | field :: fields, value :: values => do
      (← settings.set field value).setValues (position + 1) fields values

/-- The first field, in their order, that no entry names. -/
def missingField? (entries : List (String × Document)) : Option Field :=
  Field.all.find? fun field => (entries.lookup field.name).isNone

/-- The settings that a document stands for. -/
def ofDocument : Document → Except DocumentError Settings
  | .mapping entries => do
      let settings ← standard.setEntries (Document.sorted entries)
      match missingField? entries with
      | some field => .error (.missingField field.name)
      | none => .ok settings
  | .sequence values => standard.setValues 0 Field.all values
  | document => .error (document.mistyped "struct ServerConfig")

end Settings
end Framelink
