/-
Module: WebHost.Client.Loopback
Purpose: A client that talks to a server in the same program.
Main exports:
  loopbackNetwork, loopbackSocket
-/
import WebHost.Client.Send
import WebHost.Client.Socket
import WebHost.Server.Router

namespace WebHost

/-!
Between a client and a server stands nothing but the form of requests and
replies.  Each call meets the server in the same world.
-/

variable {σ : Type}

/-- The reply of a server as a client sees it. -/
def Reply.received (reply : Reply) : ClientResponse :=
  { status := reply.status
    fields := reply.fields
    content := reply.body }

/-- The network that leads to a server. -/
def loopbackNetwork (router : Router σ) (files : FileSystem) (fresh : FieldValue)
    (world : World σ) : Network := fun outgoing =>
  .ok (router.respond files (outgoing.incoming none) fresh world).1.received

/-- The network by which handshakes reach a server. -/
def loopbackSocket (router : Router σ) (files : FileSystem) (fresh : FieldValue)
    (world : World σ) : SocketNetwork := fun incoming =>
  some (router.respond files incoming fresh world).1

end WebHost
