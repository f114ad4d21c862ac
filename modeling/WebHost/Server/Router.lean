/-
Module: WebHost.Server.Router
Purpose: A started server: every request to its answer, with the common headers.
Main exports:
  Router, Router.paced, Router.ofServer?, Router.standard, Dispatch, Router.dispatch,
  Router.finish, Router.respond
-/
import WebHost.Server.Upgrade
import WebHost.Session.Loop

namespace WebHost

open Number Text

/-!
Every answer is counted once.  Then the headers are added that each answer
carries unless it has them: the server, the allowed origin, the charset, and
the id of the request, which is the client's own or a fresh one.  The length of
the body is announced, unless it already is, and a HEAD request gets no body.
-/

/-- A server that has started. -/
structure Router (σ : Type) where
  server : Server σ
  pollInterval : Nat
  serverName : FieldValue
  charset : FieldValue

/-- A started server with this time between two polls. -/
def Router.paced {σ : Type} (server : Server σ) (interval : Nat) : Router σ :=
  { server := server
    pollInterval := interval
    serverName := .ofTexts [server.config.http.serverName, "websrv"]
    charset := .ofTexts [server.config.http.encoding, "utf-8"] }

/-- Start a server.  There is no router if the time between two polls is too
long to be counted. -/
def Router.ofServer? {σ : Type} (server : Server σ) : Option (Router σ) :=
  (pollInterval? server.config.websocket.pollFrequency).map (Router.paced server)

/-- A server that polls its handlers ten times in a second. -/
def Router.standard {σ : Type} (server : Server σ) : Router σ :=
  .paced server 100000000

/-- An answer before the common headers, the session that it starts, and the
world that it leaves. -/
structure Dispatch (σ : Type) where
  reply : Reply
  session : Option (SessionInfo × Handler σ)
  world : World σ

namespace Router

variable {σ : Type}

/-- Answer a request and count it.  A session that starts is registered. -/
def dispatch (router : Router σ) (files : FileSystem) (incoming : Incoming) (world : World σ) :
    Dispatch σ :=
  let count := fun (reply : Reply) (service : String) (world : World σ) =>
    { world with
      metrics := world.metrics.recordRequest
        { method := incoming.method, status := reply.status.code, service := service } }
  if isUpgradeRequest incoming.fields then
    match router.server.upgrade incoming with
    | .rejected reply =>
        { reply := reply
          session := none
          world := count reply "websocket" world }
    | .accepted reply protocol handler =>
        let info : SessionInfo :=
          { id := world.nextSession
            protocol := protocol
            peer := incoming.peer }
        let counted := count reply "websocket" { world with nextSession := world.nextSession + 1 }
        { reply := reply
          session := some (info, handler)
          world := openSession handler info counted }
  else
    let (reply, service, app) := router.server.answer files incoming world.app
    { reply := reply
      session := none
      world := count reply service { world with app := app } }

/-- Announce the length of the body unless a length is announced, and drop the
body of an answer to HEAD.  An accepted CONNECT has neither. -/
def frame (method : String) (reply : Reply) : Reply :=
  if method = "CONNECT" ∧ 200 ≤ reply.status.code ∧ reply.status.code < 300 then
    { reply with body := [] }
  else
    { reply with
      fields := reply.fields.setIfAbsent .contentLength (.ofNatural reply.body.length)
      body := if method = "HEAD" then [] else reply.body }

/-- Add the common headers. -/
def addCommon (router : Router σ) (requestId : FieldValue) (fields : Fields) : Fields :=
  (((fields.setIfAbsent .server router.serverName).setIfAbsent .allowOrigin
      (.ofTexts ["*"])).setIfAbsent .acceptCharset router.charset).setIfAbsent
        .requestId requestId

/-- The id of a request: the first that the client sent, else a fresh one. -/
def requestId (fields : Fields) (fresh : FieldValue) : FieldValue :=
  (fields.get? .requestId).getD fresh

/-- The answer as it leaves the server. -/
def finish (router : Router σ) (incoming : Incoming) (fresh : FieldValue) (reply : Reply) :
    Reply :=
  let framed := frame incoming.method reply
  { framed with
    fields := router.addCommon (requestId incoming.fields fresh) framed.fields }

/-- Answer a request.  `fresh` is the id it gets unless it has one. -/
def respond (router : Router σ) (files : FileSystem) (incoming : Incoming) (fresh : FieldValue)
    (world : World σ) : Reply × World σ :=
  let outcome := router.dispatch files incoming world
  (router.finish incoming fresh outcome.reply, outcome.world)

end Router

end WebHost
