/-
Module: WebHost.Wire
Purpose: Requests and replies as they stand on a connection.
Main exports:
  readRequest?, writeReply
-/
import WebHost.Response
import WebHost.Server.Route
import WebHost.Text.Blank

namespace WebHost

open Number Text

/-!
A request is a line with its method, its target and the version, then a line
for each field, an empty line and a body of the declared length.  A reply has a
line with the version and the status in the place of the first.
-/

/-- The end of a line. -/
def lineEnd : Bytes := [13, 10]

/-- The method and the target that a first line gives. -/
def readRequestLine? (line : Bytes) : Option (String × Target) := do
  let text ← decode? line
  match text.toList.splitOn ' ' with
  | [method, target, version] =>
      if isToken (String.ofList method) ∧ "HTTP/1.".toList.isPrefixOf version then
        (Target.parse? (String.ofList target)).map fun target => (String.ofList method, target)
      else
        none
  | _ => none

/-- The fields with the one that a line gives. -/
def readFieldLine? (fields : Fields) (line : Bytes) : Option Fields :=
  match cutAt (58 : UInt8) line with
  | none => none
  | some (name, value) => do
      let name ← decode? name
      let isSpace := fun (byte : UInt8) => byte == 32 || byte == 9
      (fields.appendBytes name (trimWhile isSpace value)).toOption

/-- The first request on a connection and what follows it. -/
def readRequest? (bytes : Bytes) (peer : Option SocketAddress) : Option (Incoming × Bytes) := do
  let (head, rest) ← cutAtText (lineEnd ++ lineEnd) bytes
  match (head.splitOn 10).map (trimEndWhile (· == 13)) with
  | [] => none
  | first :: others => do
      let (method, target) ← readRequestLine? first
      let fields ← others.foldlM readFieldLine? Fields.empty
      if rest.length < fields.contentLength then none
      else
        some
          ({ method := method
             target := target
             fields := fields
             body := some (rest.take fields.contentLength)
             peer := peer
             upgradable := false },
            rest.drop fields.contentLength)

/-- The line for a field. -/
def writeField (entry : FieldName × FieldValue) : Bytes :=
  encode (entry.1.text ++ ": ") ++ entry.2.bytes ++ lineEnd

/-- The bytes of a reply. -/
def writeReply (reply : Reply) : Bytes :=
  encode ("HTTP/1.1 " ++ naturalText reply.status.code ++ " ") ++ lineEnd ++
    reply.fields.entries.flatMap writeField ++ lineEnd ++ reply.body

end WebHost
