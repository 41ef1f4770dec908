import Framelink.Address.Socket
import Framelink.Duration

/-!
# Server settings

What a server is told before it starts: where to listen and how its service
threads behave.
-/

namespace Framelink

/-- The settings of a server. -/
structure Settings where
  /-- The local address to bind; every interface by default. -/
  bindAddress : IpAddress
  /-- The local port; zero lets the system choose. -/
  port : UInt16
  /-- How many connections may wait to be accepted. -/
  maxConnections : UInt32
  /-- Send small segments of accepted connections at once. -/
  noDelay : Bool
  /-- Acknowledge segments of accepted connections at once. -/
  quickAck : Bool
  /-- The bound on each wait for data in a service thread. -/
  pollInterval : Duration
  /-- The pause after a call that found nothing. -/
  idleBackoff : Duration
  /-- The most bytes that a worker takes from a connection at once. -/
  receiveChunk : UInt64
  deriving DecidableEq, Repr

namespace Settings

/-- The settings that nothing was changed about. -/
def standard : Settings where
  bindAddress := .unspecified4
  port := 0
  maxConnections := 10
  noDelay := false
  quickAck := false
  pollInterval := .ofMilliseconds 50
  idleBackoff := .ofMilliseconds 5
  receiveChunk := 1024

/-- The standard settings at a port. -/
def atPort (port : UInt16) : Settings := { standard with port }

/-- The settings with another chunk size; a chunk holds at least one byte. -/
def withReceiveChunk (settings : Settings) (receiveChunk : UInt64) : Settings :=
  { settings with receiveChunk := max receiveChunk 1 }

/-- The socket address to bind. -/
def socketAddress (settings : Settings) : SocketAddress :=
  { ip := settings.bindAddress, port := settings.port }

/-- The bound on a wait for data; no poll interval means no bound. -/
def readTimeout (settings : Settings) : Option Duration :=
  if settings.pollInterval.isZero then none else some settings.pollInterval

/-- Settings in words. -/
def describe (settings : Settings) : String :=
  s!"ServerConfig \x7b bind_address: {settings.bindAddress.text}, port: {settings.port}, " ++
  s!"max_connections: {settings.maxConnections}, nodelay: {settings.noDelay}, " ++
  s!"quickack: {settings.quickAck}, poll_interval: {settings.pollInterval.text}, " ++
  s!"idle_backoff: {settings.idleBackoff.text}, recv_chunk: {settings.receiveChunk} \x7d"

end Settings
end Framelink
