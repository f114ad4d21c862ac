/-
Module: WebHost.Client.Send
Purpose: From a call and its options to the request on the wire, and back.
Main exports:
  Outgoing, ClientResponse, Network, unreachableNetwork, prepare, sendRequest,
  Client.get, Client.post, Client.put, Client.putFile, Client.delete
-/
import WebHost.Client.Options
import WebHost.Client.Request
import WebHost.Digest.Base64
import WebHost.Header.Fields
import WebHost.Json.Reader
import WebHost.Server.Route
import WebHost.Url.Form

namespace WebHost

open Number Text

/-!
A call is checked before anything is sent: authentication, then the URL, then
the name of the user agent.  A header that is not legal is found only after the
files of a form have been read, and a scheme that is not of the web last.  What
answers is a network, which this library does not look into.
-/

/-- A request as a client hands it to a network. -/
structure Outgoing where
  method : Method
  url : Url
  fields : Fields
  body : Bytes
  followRedirects : Bool
deriving Repr, Inhabited

/-- A response as a client sees it. -/
structure ClientResponse where
  status : Status
  fields : Fields
  content : Bytes
deriving Repr, Inhabited, DecidableEq

namespace ClientResponse

def contentType? (response : ClientResponse) : Option String :=
  response.fields.text? .contentType

def text (response : ClientResponse) : String :=
  decodeLossy response.content

def json? (response : ClientResponse) : Option Json :=
  Json.ofBytes? response.content

end ClientResponse

/-- What becomes of a request. -/
abbrev Network := Outgoing → Except HttpFailure ClientResponse

/-- The network on which nobody can be reached. -/
def unreachableNetwork : Network := fun _ => .error .transport

/-- A request under construction; a header that was not legal is remembered. -/
structure Draft where
  outgoing : Outgoing
  broken : Bool
deriving Repr, Inhabited

namespace Draft

/-- Append a header. -/
def addHeader (draft : Draft) (name value : String) : Draft :=
  match draft.outgoing.fields.appendBytes name (encode value) with
  | .ok fields => { draft with outgoing := { draft.outgoing with fields := fields } }
  | .error _ => { draft with broken := true }

def addHeaders (draft : Draft) (headers : List (String × String)) : Draft :=
  headers.foldl (fun current (name, value) => current.addHeader name value) draft

def withBody (draft : Draft) (body : Bytes) : Draft :=
  { draft with outgoing := { draft.outgoing with body := body } }

end Draft

/-- The value of a header that authenticates a user. -/
def basicValue (user password : String) : String :=
  "Basic " ++ base64Text (encode (user ++ ":" ++ password))

/-- The headers that authenticate a call: a user named in the URL comes first. -/
def authHeaders (url : Url) (options : RequestOptions) : List (String × String) :=
  let named := if url.userInfo = "" then [] else
    match cutAt ':' url.userInfo.toList with
    | some (user, password) => [(String.ofList user, String.ofList password)]
    | none => [(url.userInfo, "")]
  let fromUrl := named.filterMap fun (user, password) => do
    let user ← percentDecodeText? user
    let password ← percentDecodeText? password
    some ("authorization", basicValue user password)
  let fromUser := options.basicAuth?.toList.map fun (user, password) =>
    ("authorization", basicValue user password)
  let fromToken := options.bearerToken?.toList.map fun token =>
    ("authorization", "Bearer " ++ token)
  fromUrl ++ fromUser ++ fromToken

/-- A request for a URL with some options, not yet with a body. -/
def prepare (method : Method) (url : String) (options : RequestOptions) :
    Except ClientError Draft := do
  options.checkAuth
  let parsed ← normalizeUrl url
  let agent ← match options.userAgent with
    | none => pure Fields.empty
    | some agent =>
        match FieldValue.ofText? agent with
        | some value => pure (Fields.empty.set .userAgent value)
        | none => throw (.http .builder)
  let target := { parsed with query := appendPairs parsed.query options.parameters }
  let draft : Draft :=
    { outgoing :=
        { method := method
          url := { target with userInfo := "" }
          fields := .empty
          body := []
          followRedirects := options.followRedirects }
      broken := parsed.host = none }
  let filled := draft.addHeaders (authHeaders parsed options ++ options.headers)
  let fields := filled.outgoing.fields
  let withAgent := match agent.get? .userAgent with
    | some value => fields.setIfAbsent .userAgent value
    | none => fields
  return { filled with
    outgoing := { filled.outgoing with
      fields := withAgent.setIfAbsent .accept (.ofTexts ["*/*"]) } }

/-- The network can take a request: its scheme is of the web and its URL is a
request target. -/
def isSendable (url : Url) : Bool :=
  (url.scheme = "http" || url.scheme = "https") &&
    (Target.parse? { url with fragment := none }.text).isSome

/-- Send a request. -/
def execute (network : Network) (draft : Draft) : Except ClientError ClientResponse :=
  if draft.broken ∨ !isSendable draft.outgoing.url then .error (.http .builder)
  else (network draft.outgoing).mapError .http

/-- The mark between the parts of a form. -/
def formBoundary : String := "BOUNDARY"

/-- A part of a form: its header lines and its content. -/
def formPart (name : String) (fileName : Option String) (content : Bytes) : Bytes :=
  let file := (fileName.map fun file => "; filename=\"" ++ file ++ "\"").getD ""
  encode ("--" ++ formBoundary ++ "\r\nContent-Disposition: form-data; name=\"" ++ name ++ "\"" ++
    file ++ "\r\n\r\n") ++ content ++ encode "\r\n"

/-- The content and the default file name of an upload. -/
def readUpload (files : FileSystem) (source : FileSource) :
    Except ClientError (Bytes × Option String) :=
  match source with
  | .data content => .ok (content, none)
  | .path path =>
      match files.read path with
      | .ok content => .ok (content, (pathParts path).getLast?)
      | .error reason => .error (.file reason)

/-- The form that some options describe. -/
def formBody (files : FileSystem) (options : RequestOptions) : Except ClientError Bytes := do
  let fields := options.formFields.flatMap fun (name, value) => formPart name none (encode value)
  let upload ← match options.file with
    | none => pure []
    | some upload => do
        let (content, defaultName) ← readUpload files upload.source
        pure (formPart upload.formName (upload.fileName <|> defaultName) content)
  return fields ++ upload ++ encode ("--" ++ formBoundary ++ "--\r\n")

namespace Client

def get (network : Network) (url : String) (options : RequestOptions) :
    Except ClientError ClientResponse := do
  execute network (← prepare .get url options)

def delete (network : Network) (url : String) (options : RequestOptions) :
    Except ClientError ClientResponse := do
  execute network (← prepare .delete url options)

/-- Post a body, or a form in its place if the options describe one. -/
def post (network : Network) (files : FileSystem) (url : String) (body : Bytes)
    (options : RequestOptions) : Except ClientError ClientResponse := do
  let draft ← prepare .post url options
  if options.hasForm then
    let form ← formBody files options
    let typed := draft.addHeader "content-type" ("multipart/form-data; boundary=" ++ formBoundary)
    execute network (typed.withBody form)
  else
    execute network (draft.withBody body)

def put (network : Network) (url : String) (body : Bytes) (options : RequestOptions) :
    Except ClientError ClientResponse := do
  execute network ((← prepare .put url options).withBody body)

/-- Put the content of a file. -/
def putFile (network : Network) (files : FileSystem) (url path : String)
    (options : RequestOptions) : Except ClientError ClientResponse := do
  let content ← (files.read path).mapError ClientError.file
  put network url content options

end Client

/-- The draft of a call below a base. -/
def ClientRequest.draft (request : ClientRequest) (base : String) (options : RequestOptions) :
    Except ClientError Draft := do
  let draft ← prepare request.method (request.urlUnder base) options
  let typed := match request.contentType? with
    | some contentType => draft.addHeader "content-type" contentType
    | none => draft
  return if request.method.acceptsBody then typed.withBody request.payload.toBytes else typed

/-- Make a call below a base. -/
def sendRequest (network : Network) (request : ClientRequest) (base : String)
    (options : RequestOptions) : Except ClientError ClientResponse := do
  execute network (← request.draft base options)

/-- The request as a server receives it: the path and query of the URL, and a
declared length if there is a body. -/
def Outgoing.incoming (outgoing : Outgoing) (peer : Option SocketAddress) : Incoming :=
  { method := outgoing.method.name
    target :=
      { authority := none
        path := outgoing.url.path
        query := outgoing.url.query }
    fields :=
      if outgoing.body = [] then outgoing.fields
      else outgoing.fields.setContentLength outgoing.body.length
    body := some outgoing.body
    peer := peer
    upgradable := true }

end WebHost
