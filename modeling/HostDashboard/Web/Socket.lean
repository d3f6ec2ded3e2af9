/-
**The events of a session over a WebSocket.**

A socket passes on the events that the session emits after it was opened, answers pings, and is closed
by the server when the session goes away. It ends without a word when the client closes it or breaks
the protocol: a control frame of more than 125 octets, another one of more than 65536, or a frame of
an unknown kind.
-/

import HostDashboard.Registry.Basic

namespace HostDashboard.Web

/-- A frame that the server sends. -/
inductive Frame where
  | text (words : String)
  | pong (payload : String)
  | close
  deriving DecidableEq, Repr

/-- A frame that the client sends. -/
inductive ClientFrame where
  | ping (payload : String)
  | pong (payload : String)
  | text (words : String)
  | binary (payload : String)
  | close
  /-- A frame of a kind that the protocol does not know. -/
  | unknown
  deriving DecidableEq, Repr

/-- An open WebSocket. -/
structure Socket where
  id : SessionId
  /-- The events of the session that have been passed on, or were emitted before. -/
  position : Nat
  /-- Everything that the server has sent, oldest first. -/
  sent : List Frame := []
  /-- The server still serves the socket. -/
  isLive : Bool := true
  deriving DecidableEq, Repr

/-- A frame of the server as a record; a close frame as its name. -/
def Frame.toJson : Frame → Json
  | text words => .record [("text", .text words)]
  | pong payload => .record [("pong", .text payload)]
  | close => .text "close"

namespace Socket

/-- The greatest payload of a control frame. -/
def greatestControl : Nat := 125

/-- The greatest payload of another frame. -/
def greatestPayload : Nat := 65536

/-- A socket for what a session emits from now on. -/
def openAt (id : SessionId) (session : Session) : Socket := ⟨id, session.events.length, [], true⟩

/-- Stops serving the socket. -/
def stop (socket : Socket) : Socket := { socket with isLive := false }

/-- Stops serving the socket if a payload is too long. -/
def stopBeyond (socket : Socket) (greatest : Nat) (payload : String) : Socket :=
  if payload.utf8ByteSize ≤ greatest then socket else socket.stop

/-- Takes a frame of the client. -/
def receive (socket : Socket) (frame : ClientFrame) : Socket :=
  if socket.isLive then
    match frame with
    | .ping payload =>
      if payload.utf8ByteSize ≤ greatestControl then
        { socket with sent := socket.sent ++ [.pong payload] }
      else socket.stop
    | .pong payload => socket.stopBeyond greatestControl payload
    | .text words => socket.stopBeyond greatestPayload words
    | .binary payload => socket.stopBeyond greatestPayload payload
    | .close => socket.stop
    | .unknown => socket.stop
  else socket

/-- Passes on what its session has emitted, and closes the socket if the session is gone. -/
def catchUp (socket : Socket) (registry : Registry) : Socket :=
  match socket.isLive, registry.entry? socket.id with
  | true, some entry =>
    let due := (noticesSince socket.position entry.session.events).map fun notice =>
      Frame.text notice.text
    let passed := { socket with
      position := entry.session.events.length
      sent := socket.sent ++ due }
    if entry.isOpen then passed else { passed.stop with sent := passed.sent ++ [.close] }
  | _, _ => socket

end Socket

end HostDashboard.Web
