import PerlLint.Session.Form.Client

/-!
# Parameters that are used

Of the messages that the server acts on, here are the forms of the parameters and what is
taken from them.  Each reader first brings the parameters into standard form, so that it
finds every member by its key.
-/

namespace PerlLint.Session

/-! ## Members of standard forms -/

/-- The URI under a key. -/
def uriMember? (v : Json) (key : String) : Option Uri :=
  ((v.get? key).bind Json.toText?).bind fun s => (Uri.parse s).toOption

/-- The URI of the document that parameters name. -/
def documentUri? (v : Json) : Option Uri := (v.get? "textDocument").bind (uriMember? · "uri")

/-- The value under a key, unless it is null. -/
def valueMember? (v : Json) (key : String) : Option Json :=
  (v.get? key).filter (· != .null)

/-- The items of the list under a key. -/
def itemsMember (v : Json) (key : String) : List Json := ((v.get? key).bind Json.toItems?).getD []

/-- The standard form of parameters, if they have the form. -/
def standard? (f : Form) (v : Json) : Option Json := (f.read v).toOption

namespace Form

/-! ## Forms -/

/-- The opening of a document. -/
def opening : Form :=
  let item := plain "TextDocumentItem"
    [needed "uri" .uri, needed "languageId" .text, needed "version" .int32, needed "text" .text]
  plain "DidOpenTextDocumentParams" [needed "textDocument" item]

/-- The saving of a document. -/
def saving : Form :=
  plain "DidSaveTextDocumentParams" [needed "textDocument" document, optional "text" .text]

/-- The closing of a document. -/
def closing : Form := plain "DidCloseTextDocumentParams" [needed "textDocument" document]

/-- New settings. -/
def settings : Form := plain "DidChangeConfigurationParams" [needed "settings" .any]

/-- Changes of files. -/
def fileChanges : Form :=
  plain "DidChangeWatchedFilesParams"
    [needed "changes" (.list (plain "FileEvent" [needed "uri" .uri, needed "type" .int32]))]

/-- The end of the initialization, which says nothing more. -/
def initialized : Form := plain "InitializedParams" []

/-- The start of a session. -/
def start : Form :=
  plain "InitializeParams"
    [optional "processId" .nat32, optional "rootPath" .text, preset "rootUri" .uri,
      optional "initializationOptions" .any, needed "capabilities" capabilities,
      preset "trace" (.name ["off", "messages", "verbose"]),
      optional "workspaceFolders"
        (.list (plain "WorkspaceFolder" [needed "uri" .uri, needed "name" .text])),
      optional "clientInfo"
        (plain "ClientInfo" [needed "name" .text, optional "version" .text]),
      optional "locale" .text]

end Form

/-! ## What is taken from them -/

/-- The document that is opened, and its language. -/
def openParams? (v : Json) : Option (Uri × String) := do
  let item ← (← standard? Form.opening v).get? "textDocument"
  return (← uriMember? item "uri", ← (item.get? "languageId").bind Json.toText?)

/-- The document that is saved. -/
def saveParams? (v : Json) : Option Uri := (standard? Form.saving v).bind documentUri?

/-- The document that is closed. -/
def closeParams? (v : Json) : Option Uri := (standard? Form.closing v).bind documentUri?

/-- The new settings. -/
def settingsParams? (v : Json) : Option Json :=
  (standard? Form.settings v).bind fun v => v.get? "settings"

/-- The files that have changed. -/
def filesParams? (v : Json) : Option (List Uri) :=
  (standard? Form.fileChanges v).map fun v =>
    (itemsMember v "changes").filterMap (uriMember? · "uri")

/-- What a session starts with: the URI of the workspace, and settings. -/
structure StartParams where
  /-- The workspace. -/
  root : Option Uri
  /-- The settings. -/
  options : Option Json

/-- The parameters of the start of a session.  The first directory of the workspace counts
more than the root. -/
def startParams (v : Json) : Except FormError StartParams := do
  let v ← Form.start.read v
  let folder := (itemsMember v "workspaceFolders").head?.bind (uriMember? · "uri")
  return ⟨folder.or (uriMember? v "rootUri"), valueMember? v "initializationOptions"⟩

end PerlLint.Session
