import Legible.Diagnostic.Published
import Legible.Message

/-!
# Rewording published diagnostics

The diagnostics that certain servers publish are reworded on their way.  Each item gets the
reworded message, and its data the raw one, so that it is never lost; data that
is no object stays as it is.
-/

namespace Legible.Diagnostic

/-- The method by which servers publish diagnostics. -/
def publishMethod : Text := "textDocument/publishDiagnostics".toList

/-- What rewords published diagnostics, and for which servers. -/
structure Interceptor where
  reworder : Message.Reworder
  serverNames : List Text

namespace Interceptor

/-- The names of servers without blanks around them, each once, and no empty one. -/
def normalNames (names : List Text) : List Text :=
  ((names.map Text.strip).filter (!·.isEmpty)).eraseDups

/-- An interceptor for some servers. -/
def create (reworder : Message.Reworder) (names : List Text) : Interceptor :=
  ⟨reworder, normalNames names⟩

/-- Whether the diagnostics of a server are reworded. -/
def targets (i : Interceptor) (server : Text) : Bool := i.serverNames.contains (Text.strip server)

/-- The data of an item with the raw message. -/
def carry (raw : Text) : Value → Option Value
  | .null => some (.obj [(rawKey, .str raw)])
  | .obj data => some (.obj (Fields.set rawKey (.str raw) data))
  | _ => none

/-- An item with its message reworded. -/
def rewordItem (i : Interceptor) : Value → Value
  | .obj item =>
    let raw := (Fields.getD "message".toList item).displayOrEmpty
    let copy := Fields.set "message".toList (.str (i.reworder.reword raw)) item
    match carry raw (Fields.getD "data".toList item) with
    | some data => .obj (Fields.set "data".toList data copy)
    | none => .obj copy
  | v => v

/-- Published parameters with their diagnostics reworded, if the server is one of those asked
for and there is a list of diagnostics. -/
def publish (i : Interceptor) (server : Text) (params : Value) : Value :=
  if i.targets server then
    match params with
    | .obj fs =>
      match Fields.get? "diagnostics".toList fs with
      | some (.arr items) =>
        .obj (Fields.set "diagnostics".toList (.arr (items.map i.rewordItem)) fs)
      | _ => params
    | _ => params
  else params

/-- The parameters of a notification; only published diagnostics are reworded. -/
def handle (i : Interceptor) (server method : Text) (params : Value) : Value :=
  if method = publishMethod then i.publish server params else params

end Interceptor

end Legible.Diagnostic
