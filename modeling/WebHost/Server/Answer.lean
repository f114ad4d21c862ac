/-
Module: WebHost.Server.Answer
Purpose: The answers to requests without an upgrade.
Main exports:
  plainReply, typedReply, BodyFault, Server.readContent, Server.answerResource,
  Server.answerUnmatched, Server.answerEntry, Server.answer
-/
import WebHost.Server.Route

namespace WebHost

open Text

/-!
A static file is answered with its bytes and the content type of its extension.
An entry point of POST or PUT runs only if the request declares the length of
its body, within the limit, and the body can be read; other methods run with
empty content.  What nothing matches gets the configured page, or a built-in
one, with status 404.
-/

/-- The page for requests that nothing matches. -/
def defaultNotFoundPage : String :=
  "<html><body><h1>404 file not found</h1></body></html>"

/-- A reply that says why there is no better one. -/
def plainReply (status : Status) (text : String) : Reply :=
  { status := status
    fields := Fields.empty.setValue .contentType "text/plain; charset=utf-8"
    body := encode text }

/-- A reply with a body of some content type; one that is no legal value makes
it an error of the server. -/
def typedReply (status : Status) (contentType : String) (body : Bytes) : Reply :=
  match FieldValue.ofText? contentType with
  | some value =>
      { status := status
        fields := Fields.empty.set .contentType value
        body := body }
  | none => plainReply .internalError "failed to parse header value"

/-- Why the body of a request is not accepted. -/
inductive BodyFault where
  | lengthMissing
  | lengthMalformed
  | tooLarge
  | unreadable
deriving Repr, Inhabited, DecidableEq

def BodyFault.status : BodyFault → Status
  | .lengthMissing => .lengthRequired
  | .lengthMalformed => .badRequest
  | .tooLarge => .contentTooLarge
  | .unreadable => .badRequest

def BodyFault.message : BodyFault → String
  | .lengthMissing => "Content-Length header required"
  | .lengthMalformed => "Content-Length header has no number"
  | .tooLarge => "Request body too large"
  | .unreadable => "Failed to read request body"

/-- The length that a request declares for its body. -/
def declaredLength (fields : Fields) : Except BodyFault Nat :=
  match fields.get? .contentLength with
  | none => .error .lengthMissing
  | some value =>
      match value.text?.bind Fields.readLength? with
      | some length => .ok length
      | none => .error .lengthMalformed

/-- The content that an entry point sees of a request. -/
def readContent (limit : Nat) (method : Method) (incoming : Incoming) :
    Except BodyFault Bytes :=
  if !method.acceptsBody then .ok []
  else
    match declaredLength incoming.fields with
    | .error fault => .error fault
    | .ok declared =>
        if limit < declared then .error .tooLarge
        else if declared = 0 then .ok []
        else
          match incoming.body with
          | some body => if body.length ≤ limit then .ok body else .error .unreadable
          | none => .error .unreadable

namespace Server

variable {σ : Type}

/-- The content type of a file, or of a page with this extension. -/
def contentTypeOf (server : Server σ) (extension : String) : String :=
  Fields.contentTypeText (server.types.get extension) server.config.http.encoding

/-- The answer with a static file. -/
def answerResource (server : Server σ) (files : FileSystem) (location : Location) : Reply :=
  match files.read location.text with
  | .ok content =>
      typedReply .success (server.contentTypeOf (extensionOf location.text)) content
  | .error _ => plainReply .internalError "Failed to read resource"

/-- The configured page for requests that nothing matches: its content and its
extension, if it resolves and can be read. -/
def notFoundPage? (server : Server σ) (files : FileSystem) : Option (Bytes × String) := do
  let root ← server.config.http.rootDirectory
  let page ← server.config.http.notFoundPath
  let location ← resolve? files root page []
  let content ← (files.read location.text).toOption
  some (content, extensionOf location.text)

/-- The answer to a request that nothing matches. -/
def answerUnmatched (server : Server σ) (files : FileSystem) : Reply :=
  match server.notFoundPage? files with
  | some (content, extension) =>
      typedReply .notFound (server.contentTypeOf extension) content
  | none => typedReply .notFound (server.contentTypeOf "html") (encode defaultNotFoundPage)

/-- The request that an entry point sees. -/
def entryRequest (method : Method) (incoming : Incoming) (content : Bytes) : Request :=
  { method := method
    url := incoming.target.path
    arguments := Request.splitQuery incoming.target.query
    clientIp := (incoming.peer.map fun peer => peer.ip.text).getD ""
    content := content }

/-- The response that an entry point of this server starts from. -/
def entryResponse (server : Server σ) : Response :=
  let fields := Response.initial.fields.setValue .server server.config.http.serverName
  { Response.initial with
    fields := fields.setValue .acceptCharset server.config.http.encoding }

/-- The answer of an entry point, and the state it leaves. -/
def answerEntry (server : Server σ) (method : Method) (run : EntryPoint σ)
    (incoming : Incoming) (state : σ) : Reply × σ :=
  match readContent server.config.limits.maxBodySize method incoming with
  | .error fault => (plainReply fault.status fault.message, state)
  | .ok content =>
      let (response, state) :=
        run (entryRequest method incoming content) server.entryResponse state
      (response.reply, state)

/-- The answer for a method that no entry point serves. -/
def answerMethodNotAllowed : Reply :=
  { status := .methodNotAllowed
    fields := Fields.empty.setValue .allow "GET, POST, PUT, DELETE"
    body := [] }

/-- The answer to a request without an upgrade, the name under which it is
counted, and the state it leaves. -/
def answer (server : Server σ) (files : FileSystem) (incoming : Incoming) (state : σ) :
    Reply × String × σ :=
  match server.route files incoming with
  | .methodNotAllowed => (answerMethodNotAllowed, "none", state)
  | .undecodable => (server.answerUnmatched files, "none", state)
  | .resource location => (server.answerResource files location, "static", state)
  | .entry service _ method run =>
      let (reply, state) := server.answerEntry method run incoming state
      (reply, service, state)
  | .unmatched => (server.answerUnmatched files, "none", state)

end Server

end WebHost
