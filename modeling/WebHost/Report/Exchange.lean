/-
Module: WebHost.Report.Exchange
Purpose: Requests and responses as JSON, for diagnostics.
Main exports:
  reportBytes, Fields.report, Request.report, Response.report, Reply.report,
  Frame.report, ClientRequest.report, ClientResponse.report
-/
import WebHost.Client.Send
import WebHost.Response
import WebHost.Session.Basic
import WebHost.Text.Hex

namespace WebHost

open Text

/-!
Bytes are reported as the text that they encode, or as digits if they encode
none.  Header fields are reported in the order of their names; the values of
one name keep their order.
-/

/-- Bytes as a text, or as hexadecimal digits. -/
def reportBytes (bytes : Bytes) : Json :=
  match decode? bytes with
  | some text => .text text
  | none => .record [("hex", .text (hexText bytes))]

/-- Texts as a list. -/
def reportTexts (texts : List String) : Json :=
  .list (texts.map Json.text)

def Fields.report (fields : Fields) : Json :=
  let sorted := fields.entries.mergeSort fun left right => left.1.text ≤ right.1.text
  .list (sorted.map fun (name, value) => .list [.text name.text, reportBytes value.bytes])

def Request.report (request : Request) : Json :=
  .record
    [("type", .text request.method.name),
     ("url", .text request.url),
     ("uri_args", reportTexts request.arguments),
     ("client_ip", .text request.clientIp),
     ("has_content", .bool request.hasContent),
     ("content", reportBytes request.content),
     ("content_str", .text request.contentText),
     ("json", .ofText? (request.contentJson?.map Json.toText))]

def Response.report (response : Response) : Json :=
  .record
    [("status", .natural response.status.code),
     ("headers", response.fields.report),
     ("content", reportBytes response.content)]

def Reply.report (reply : Reply) : Json :=
  .record
    [("status", .natural reply.status.code),
     ("headers", reply.fields.report),
     ("body", reportBytes reply.body)]

def Frame.report : Frame → Json
  | .text value => .record [("text", .text value)]
  | .binary content => .record [("binary", .text (hexText content))]

/-- The members of a report on a call of a client. -/
def ClientRequest.report (request : ClientRequest) : List (String × Json) :=
  [("method", .text request.method.name),
   ("path", .text request.path),
   ("body", .text request.payload.kind),
   ("body_empty", .bool request.payload.isEmpty),
   ("bytes", reportBytes request.payload.toBytes),
   ("body_type", .ofText? request.payload.contentType?),
   ("content_type", .ofText? request.contentType?)]

def ClientResponse.report (response : ClientResponse) : Json :=
  .record
    [("status", .natural response.status.code),
     ("headers", response.fields.report),
     ("content", reportBytes response.content),
     ("content_type", .ofText? response.contentType?),
     ("text", .text response.text),
     ("json", .ofText? (response.json?.map Json.toText))]

end WebHost
