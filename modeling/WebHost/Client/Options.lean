/-
Module: WebHost.Client.Options
Purpose: Options of a single call, and the errors of clients.
Main exports:
  RequestOptions, FileSource, FileUpload, ClientError, HttpFailure,
  RequestOptions.basicAuth?, RequestOptions.bearerToken?, RequestOptions.checkAuth,
  normalizeUrl
-/
import WebHost.Files.Tree
import WebHost.Method
import WebHost.Url.Basic

namespace WebHost

open Text

/-!
A user with a password, or a token, but not both, authenticates a call; empty
ones do not count.  A URL without a scheme is a URL of the web.
-/

/-- Why no response came over HTTP. -/
inductive HttpFailure where
  | builder
  | transport
  | timeout
  | redirect
deriving Repr, Inhabited, DecidableEq

/-- Why a client did not succeed. -/
inductive ClientError where
  | invalidUrl (url : String)
  | bodyNotAllowed (method : Method)
  | authConflict
  | invalidHeader (value : String)
  | file (reason : FileError)
  | http (failure : HttpFailure)
  | socket
deriving Repr, Inhabited, DecidableEq

/-- The name of this kind of error in reports. -/
def ClientError.kind : ClientError → String
  | .invalidUrl _ => "InvalidUrl"
  | .bodyNotAllowed _ => "BodyNotAllowed"
  | .authConflict => "AuthConflict"
  | .invalidHeader _ => "InvalidHeader"
  | .file reason => "Io:" ++ reason.kind
  | .http .builder => "Http:builder"
  | .http .transport => "Http:transport"
  | .http .timeout => "Http:timeout"
  | .http .redirect => "Http:redirect"
  | .socket => "WebSocket"

/-- The message of an error, where this library words it. -/
def ClientError.message? : ClientError → Option String
  | .invalidUrl url => some ("invalid URL '" ++ url ++ "'")
  | .bodyNotAllowed method => some (method.name ++ " requests cannot carry a body")
  | .authConflict => some "basic auth and bearer token cannot both be set"
  | .invalidHeader value => some ("invalid header value: " ++ value)
  | _ => none

/-- Where the bytes of an upload come from. -/
inductive FileSource where
  | path (path : String)
  | data (content : Bytes)
deriving Repr, Inhabited, DecidableEq

/-- A file sent as one part of a form. -/
structure FileUpload where
  formName : String
  fileName : Option String
  source : FileSource
deriving Repr, Inhabited, DecidableEq

/-- Options of one call.  Parameters, headers and form fields are in the order
of their names. -/
structure RequestOptions where
  verbose : Bool
  followRedirects : Bool
  timeoutMilliseconds : Nat
  verifyCertificates : Bool
  parameters : List (String × String)
  headers : List (String × String)
  user : Option String
  password : Option String
  token : Option String
  userAgent : Option String
  formFields : List (String × String)
  file : Option FileUpload
deriving Repr, DecidableEq

namespace RequestOptions

def standard : RequestOptions :=
  { verbose := false
    followRedirects := false
    timeoutMilliseconds := 10000
    verifyCertificates := false
    parameters := []
    headers := []
    user := none
    password := none
    token := none
    userAgent := none
    formFields := []
    file := none }

instance : Inhabited RequestOptions := ⟨standard⟩

/-- User and password, if neither is empty. -/
def basicAuth? (options : RequestOptions) : Option (String × String) :=
  match options.user, options.password with
  | some user, some password =>
      if user ≠ "" ∧ password ≠ "" then some (user, password) else none
  | _, _ => none

/-- The token, if it is not empty. -/
def bearerToken? (options : RequestOptions) : Option String :=
  options.token.filter (· ≠ "")

/-- At most one way to authenticate. -/
def checkAuth (options : RequestOptions) : Except ClientError Unit :=
  if options.basicAuth?.isSome ∧ options.bearerToken?.isSome then .error .authConflict
  else .ok ()

/-- The call sends a form. -/
def hasForm (options : RequestOptions) : Bool :=
  options.file.isSome || !options.formFields.isEmpty

end RequestOptions

/-- The text with `http://` before it, unless it has a scheme mark. -/
def withScheme (url : String) : String :=
  if (cutAtText [':', '/', '/'] url.toList).isSome then url else "http://" ++ url

/-- The URL that a text writes, `http` being assumed. -/
def normalizeUrl (url : String) : Except ClientError Url :=
  match Url.parse? (withScheme url) with
  | some parsed => .ok parsed
  | none => .error (.invalidUrl url)

end WebHost
