import PerlLint.CommandLine
import PerlLint.Diagnostic
import PerlLint.Server.Settings
import PerlLint.Session.Drive
import PerlLint.Session.Form.Request
import PerlLint.Session.Params

/-!
# The protocol

The client sends requests, which are answered, and notifications, which are not.
What a session does with either depends on its phase.

Before the session has been initialized every other request is refused, and
notifications do nothing.  It can be initialized once.  After the request for the
end every request is refused, and notifications do nothing.  After the exit the
session does not answer at all.

A method that is none is refused in any phase, but if its name begins with `$/` it is
not answered.  A notification that is sent as a request is refused, and does nothing.
Only the exit is carried out also then, and the cancelling of a request is refused in
any phase.  A notification whose parameters are wrong does nothing.
-/

namespace PerlLint.Session

open Host

/-! ## Answers -/

/-- The answer to a request. -/
inductive Answer where
  /-- A result. -/
  | result (v : Json)
  /-- An error, with more about it if there is more. -/
  | error (code : Int) (message : String) (data : Option Json)
  /-- Nothing. -/
  | none
deriving DecidableEq

namespace Answer

/-- The session has not been initialized. -/
def notInitialized : Answer := .error (-32002) "Server not initialized" .none

/-- The request must not come now, or not at all. -/
def invalidRequest : Answer := .error (-32600) "Invalid request" .none

/-- The text is no JSON. -/
def unreadable : Answer := .error (-32700) "Parse error" .none

/-- There is no such method.  If its name says that it may be passed over, this is not
worth an answer. -/
def unknownMethod (method : String) : Answer :=
  if (Text.matchToken? ['$', '/'] method.toList).isSome then .none
  else .error (-32601) "Method not found" (some (.string method))

/-- The method is one of the protocol, but this server does not have it. -/
def missingMethod : Answer := .error (-32601) "Method not found" .none

/-- The parameters are wrong. -/
def invalidParams (message : String) : Answer := .error (-32602) message .none

/-- The parameters are missing. -/
def missingParams : Answer := invalidParams "Missing params field"

end Answer

/-! ## Methods -/

/-- The notifications. -/
def notifications : List String :=
  ["initialized", "exit", "$/cancelRequest", "textDocument/didOpen", "textDocument/didChange",
    "textDocument/willSave", "textDocument/didSave", "textDocument/didClose",
    "workspace/didChangeWorkspaceFolders", "workspace/didCreateFiles",
    "workspace/didRenameFiles", "workspace/didDeleteFiles",
    "workspace/didChangeConfiguration", "workspace/didChangeWatchedFiles"]

/-! ## The start and the end -/

/-- The name under which the server presents itself. -/
def serverName : String := "criticlint-lsp"

/-- What the server can do: it wants to be told about openings, closings and savings,
and not about changes. -/
def startResult : Json :=
  .ofMembers [
    ("capabilities", .ofMembers [("textDocumentSync", .ofMembers [("change", .nat 0),
      ("openClose", .bool true), ("save", .ofMembers [("includeText", .bool false)])])]),
    ("serverInfo", .ofMembers [("name", .string serverName), ("version", .string version)])]

/-- Starts the session. -/
def answerStart (r : Runner) (s : Session) (params : Option Json) : Answer × Session :=
  match params with
  | none => (.missingParams, s)
  | some v =>
      match startParams v with
      | .error e => (.invalidParams e.message, s)
      | .ok p =>
          (.result startResult,
            { s with phase := .ready,
                     server := s.server.startSession s.files r.here p.root p.options })

/-- Prepares for the end. -/
def answerShutdown (s : Session) (params : Option Json) : Answer × Session :=
  let s := { s with phase := .shutDown }
  match params with
  | some v => (.invalidParams ("Unexpected params: " ++ v.toCompactString), s)
  | none => (.result .null, { s with server := s.server.dispose })

/-! ## Requests -/

/-- Answers a request whose method this server does not have. -/
def answerMissing (form : Form) (params : Option Json) : Answer :=
  match params with
  | none => .missingParams
  | some v =>
      match form.read v with
      | .ok _ => .missingMethod
      | .error e => .invalidParams e.message

/-- Answers a request, other than the one that starts the session. -/
def answerOther (s : Session) (method : String) (params : Option Json) : Answer × Session :=
  if method = "shutdown" then s.answerShutdown params
  else
    match Form.requests.lookup method with
    | some form => (answerMissing form params, s)
    | none => (.invalidRequest, s)

/-- Whether a method is one of the protocol. -/
def isMethod (method : String) : Bool :=
  method == "initialize" || method == "shutdown" || notifications.contains method
    || (Form.requests.lookup method).isSome

/-- Answers a request. -/
def request (r : Runner) (s : Session) (method : String) (params : Option Json) :
    Answer × Session :=
  match s.phase with
  | .exited => (.none, s)
  | phase =>
      if !isMethod method then (.unknownMethod method, s)
      else if method = "exit" then (.none, { s with phase := .exited })
      else if method = "$/cancelRequest" then (.invalidRequest, s)
      else if method = "initialize" then
        if phase = .fresh then s.answerStart r params else (.invalidRequest, s)
      else
        match phase with
        | .ready => s.answerOther method params
        | .fresh => (.notInitialized, s)
        | _ => (.invalidRequest, s)

/-! ## Notifications -/

/-- The line for the log at the end of the initialization. -/
def readyText : String := "CriticLint LSP server initialized!"

/-- Opens a document and asks for a lint. -/
def didOpen (s : Session) (u : Uri) (language : String) : Session :=
  { s with server := s.server.openDocument u language }.spawn u (.requested (some language))

/-- Asks for a lint of a document that was saved. -/
def didSave (s : Session) (u : Uri) : Session :=
  s.spawn u (.requested (s.server.language? u))

/-- Closes a document.  The client is still to be told. -/
def beginClose (s : Session) (u : Uri) : Session :=
  { s with server := s.server.closeDocument u }.spawn u (.waiting none)

/-- Closes a document and tells the client. -/
def didClose (r : Runner) (s : Session) (u : Uri) : Session :=
  ((s.beginClose u).finishTask r s.tasks.length).2

/-- Does what a notification asks for, if its parameters are right. -/
def react (r : Runner) (s : Session) (method : String) (v : Json) : Session :=
  let orElse (next : Option Session) : Session := next.getD s
  match method with
  | "initialized" => orElse ((standard? Form.initialized v).map fun _ => s.send (.log readyText))
  | "textDocument/didOpen" => orElse ((openParams? v).map fun p => s.didOpen p.1 p.2)
  | "textDocument/didSave" => orElse ((saveParams? v).map s.didSave)
  | "textDocument/didClose" => orElse ((closeParams? v).map (s.didClose r))
  | "workspace/didChangeConfiguration" =>
      orElse ((settingsParams? v).map fun settings =>
        { s with server := s.server.applySettings s.files r.here settings })
  | "workspace/didChangeWatchedFiles" =>
      orElse ((filesParams? v).map fun changed =>
        { s with server := s.server.filesChanged s.files r.here changed })
  | _ => s

/-- Takes a notification. -/
def notify (r : Runner) (s : Session) (method : String) (params : Option Json) : Session :=
  match s.phase with
  | .exited => s
  | phase =>
      if method = "exit" then { s with phase := .exited }
      else if phase = .ready then
        if method = "shutdown" then { s with phase := .shutDown }
        else
          match params with
          | some v => s.react r method v
          | none => s
      else s

end PerlLint.Session
