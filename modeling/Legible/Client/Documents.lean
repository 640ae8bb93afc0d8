import Legible.Client.Basic

/-!
# Documents of the client

The client keeps the server's copies of documents up to date by sending whole texts.  A document
is opened with version one, and every change has the next version.  Opening an open document is a
change of it, and changing a document that is not open opens it.
-/

namespace Legible

/-- A document for the server: its address, its language, and its text. -/
structure Document where
  uri : Text
  language : Text
  text : Text
  deriving DecidableEq, Repr

namespace Client

/-- The language of a document that names none. -/
def usualLanguage : Text := "typescript".toList

/-- The versions with another version of one document. -/
def setVersion (uri : Text) (version : Nat) : List (Text × Nat) → List (Text × Nat)
  | [] => [(uri, version)]
  | (u, v) :: rest =>
    if u = uri then (u, version) :: rest else (u, v) :: setVersion uri version rest

/-- The version of an open document. -/
def version? (c : Client) (uri : Text) : Option Nat := c.session.versions.lookup uri

/-- Gives a document a version. -/
def withVersion (uri : Text) (version : Nat) (c : Client) : Client :=
  c.mapSession fun s => { s with versions := setVersion uri version s.versions }

/-- Opens or changes a document, whichever it needs; documents without an address have version
zero and are not sent. -/
def send (d : Document) (c : Client) : Nat × Client :=
  if d.uri.isEmpty then (0, c)
  else
    match c.version? d.uri with
    | none =>
      let language := if d.language.isEmpty then usualLanguage else d.language
      (1, (c.withVersion d.uri 1).post (.didOpen d.uri language 1 d.text))
    | some v => (v + 1, (c.withVersion d.uri (v + 1)).post (.didChange d.uri (v + 1) d.text))

/-- Closes a document if it is open. -/
def closeDocument (uri : Text) (c : Client) : Client :=
  match c.version? uri with
  | none => c
  | some _ =>
    (c.mapSession fun s => { s with versions := s.versions.filter (·.1 ≠ uri) }).post
      (.didClose uri)

/-- Opens or changes some documents. -/
def sendAll (ds : List Document) (c : Client) : Client := ds.foldl (fun c d => (c.send d).2) c

end Client

end Legible
