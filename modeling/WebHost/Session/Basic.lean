/-
Module: WebHost.Session.Basic
Purpose: Frames, sessions and the handlers that serve them.
Main exports:
  Frame, SessionId, SessionInfo, Handler
-/
import WebHost.Address
import WebHost.Text.Utf8

namespace WebHost

open Number Text

/-!
A session is an open connection that speaks one protocol.  The handler of the
protocol serves all its sessions; what it remembers is part of the state of the
application, of some type `σ`.
-/

/-- A message that sessions exchange. -/
inductive Frame where
  | text (text : String)
  | binary (content : Bytes)
deriving Repr, Inhabited, DecidableEq

namespace Frame

/-- The bytes that a frame carries. -/
def payload : Frame → Bytes
  | .text value => encode value
  | .binary content => content

def length (frame : Frame) : Nat := frame.payload.length

def isEmpty (frame : Frame) : Bool := frame.length == 0

end Frame

/-- The number of a session.  Numbers are given out once, from one on. -/
abbrev SessionId := Nat

/-- The text of a session number. -/
def sessionIdText (id : SessionId) : String := "ws-" ++ naturalText id

/-- What a handler knows about a session. -/
structure SessionInfo where
  id : SessionId
  protocol : String
  peer : Option SocketAddress
deriving Repr, Inhabited, DecidableEq

/-- The callbacks of a protocol.  `onRead` answers whether the session goes on;
`onWrite` may hand out a frame for the client. -/
structure Handler (σ : Type) where
  onOpen : SessionInfo → σ → σ
  onRead : SessionInfo → Frame → σ → Bool × σ
  onWrite : SessionInfo → σ → Option Frame × σ
  onClose : SessionInfo → σ → σ

/-- The handler that accepts everything and says nothing. -/
def Handler.silent {σ : Type} : Handler σ :=
  { onOpen := fun _ state => state
    onRead := fun _ _ state => (true, state)
    onWrite := fun _ state => (none, state)
    onClose := fun _ state => state }

end WebHost
