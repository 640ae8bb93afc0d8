import Legible.Path
import Legible.Value.Basic

/-!
# Messages to the server

What the client says to a language server.  `toValue` gives the document of a message, whose fields
stand in a fixed order.
-/

namespace Legible

namespace Client

/-- A message to the server. -/
inductive Outgoing
  /-- The first request: who asks, and the address of the root folder. -/
  | initializeRequest (id processId : Nat) (root : Text)
  | initialized
  | request (id : Nat) (method : Text) (params : Value)
  | notify (method : Text) (params : Value)
  | didOpen (uri language : Text) (version : Nat) (text : Text)
  | didChange (uri : Text) (version : Nat) (text : Text)
  | didClose (uri : Text)
  /-- The answer to a request of the server, whatever it asks for. -/
  | refusal (id : Value) (method : Text)
  | exit

namespace Outgoing

open Value (record literal)

/-- The document of a message with some fields of its own. -/
def message (fs : List (String × Value)) : Value := record (("jsonrpc", literal "2.0") :: fs)

/-- The document of a notification. -/
def notification (method : Text) (params : Value) : Value :=
  message [("method", .str method), ("params", params)]

/-- The number by which a request is refused. -/
def methodNotFound : Int := -32601

/-- The list of the one root folder, null where there is none. -/
def folders (root : Text) : Value :=
  if root.isEmpty then .null
  else .arr [record [("uri", .str root), ("name", .str (Path.baseName (Path.ofUri root)))]]

/-- What the client can do. -/
def abilities : Value :=
  record [("textDocument", record [
    ("publishDiagnostics", record [("relatedInformation", .bool true)]),
    ("synchronization", record [("didSave", .bool false), ("willSave", .bool false)])])]

/-- The parameters of the first request. -/
def initializeParams (processId : Nat) (root : Text) : Value :=
  record [
    ("processId", .int processId),
    ("clientInfo", record [("name", literal "pretty-ts-errors")]),
    ("rootUri", if root.isEmpty then .null else .str root),
    ("workspaceFolders", folders root),
    ("capabilities", abilities)]

/-- The document of a message. -/
def toValue : Outgoing → Value
  | initializeRequest id processId root =>
    message [("id", .int id), ("method", literal "initialize"),
      ("params", initializeParams processId root)]
  | initialized => notification "initialized".toList (.obj [])
  | request id method params =>
    message [("id", .int id), ("method", .str method), ("params", params)]
  | notify method params => notification method params
  | didOpen uri language version text =>
    notification "textDocument/didOpen".toList (record [("textDocument", record [
      ("uri", .str uri), ("languageId", .str language), ("version", .int version),
      ("text", .str text)])])
  | didChange uri version text =>
    notification "textDocument/didChange".toList (record [
      ("textDocument", record [("uri", .str uri), ("version", .int version)]),
      ("contentChanges", .arr [record [("text", .str text)]])])
  | didClose uri =>
    notification "textDocument/didClose".toList
      (record [("textDocument", record [("uri", .str uri)])])
  | refusal id method =>
    message [("id", id), ("error", record [
      ("code", .int methodNotFound),
      ("message", .str ("Unsupported request: ".toList ++ method))])]
  | exit => message [("method", literal "exit")]

end Outgoing

end Client

end Legible
