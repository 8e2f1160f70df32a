import PerlLint.Json.Reader
import PerlLint.Session.Protocol

/-!
# Sessions over a stream

Over a stream every message is JSON in a *frame*: a header with the number of bytes, an
empty line, and the text.  A request has an `id`, and its answer has the same.  What is
neither a request, a notification nor an answer is itself answered with an error whose
`id` is null.

A message is handled when it comes: what the handler sends is sent at once (`take`).  The
tasks that it leaves behind go on while the server waits, be it for the next message or
for the client to read (`await`).
-/

namespace PerlLint

/-! ## Messages -/

/-- The method and the parameters of a message to the client. -/
def Notice.parts : Notice → String × Json
  | .diagnostics u ds =>
      ("textDocument/publishDiagnostics",
        .ofMembers [("uri", .string u.write),
          ("diagnostics", .array (ds.map Diagnostic.toEditorJson))])
  | .warning text =>
      ("window/showMessage", .ofMembers [("type", .nat 2), ("message", .string text)])
  | .log text =>
      ("window/logMessage", .ofMembers [("type", .nat 3), ("message", .string text)])

namespace Session

/-- The version of the message format. -/
def formatVersion : String := "2.0"

/-- A message with its version. -/
def message (ms : List (String × Json)) : Json :=
  .ofMembers (("jsonrpc", .string formatVersion) :: ms)

/-- The members of an answer. -/
def Answer.members : Answer → Option (List (String × Json))
  | .result v => some [("result", v)]
  | .error code text data =>
      some [("error", .ofMembers ([("code", .int code), ("message", .string text)]
        ++ (data.toList.map fun d => ("data", d))))]
  | .none => Option.none

/-- A message from the client. -/
inductive Incoming where
  /-- A request with its `id`. -/
  | request (id : Json) (method : String) (params : Option Json)
  /-- A notification. -/
  | notification (method : String) (params : Option Json)
  /-- An answer to a request of the server, which makes none. -/
  | answer
  /-- Something else. -/
  | invalid
deriving DecidableEq

/-- The form of an `id`. -/
def idForm : Form := .orNull (.choice "Id" [.int64, .text])

/-- The members of an error in an answer. -/
def errorFields : List (String × Presence × Form) :=
  [Form.needed "code" .int64, Form.needed "message" .text, Form.optional "data" .any]

/-- Whether a value has a form. -/
def hasForm (f : Form) (v : Json) : Bool := (standard? f v).isSome

/-- Whether a value is the error of an answer.  It may not have other members. -/
def isError (v : Json) : Bool :=
  hasForm (.plain "Error" errorFields) v
    && match v with
      | .object ms => ms.all fun m => Form.lists errorFields m.1
      | _ => true

/-- Whether a message is an answer: it has the `id` of a request, and a result or an
error. -/
def isAnswer (v : Json) : Bool :=
  v.get? "jsonrpc" == some (.string formatVersion) && (v.get? "id").any (hasForm idForm)
    && ((v.get? "result").isSome || (v.get? "error").any isError)

/-- The members of a request or notification.  It may be written as an array, too, and
then all but the first may be missing at the end. -/
def requestMembers? : Json → Option Json.Members
  | .object ms => some ms
  | .array vs =>
      if vs.length ≤ 4 then some (["jsonrpc", "method", "params", "id"].zip vs) else none
  | _ => none

/-- Reads a message.  A message without a method is one with the empty method. -/
def Incoming.ofJson (v : Json) : Incoming :=
  if isAnswer v then .answer
  else
    match requestMembers? v with
    | none => .invalid
    | some ms =>
        if ms.get? "jsonrpc" != some (.string formatVersion) then .invalid
        else
          match (ms.get? "method").getD (.string ""), ms.get? "id" with
          | .string method, none => .notification method (ms.get? "params")
          | .string method, some id =>
              if hasForm idForm id then .request id method (ms.get? "params") else .invalid
          | _, _ => .invalid

/-! ## Taking messages -/

/-- The messages that have reached the client since there were `n` of them. -/
def noticesSince (s : Session) (n : Nat) : List Notice := (s.log.take (s.log.length - n)).reverse

/-- The message that carries a notice. -/
def noticeMessage (n : Notice) : Json :=
  let (method, params) := n.parts
  message [("method", .string method), ("params", params)]

/-- The messages that have been sent since there were `n` notices. -/
def messagesSince (s : Session) (n : Nat) : List Json := (s.noticesSince n).map noticeMessage

/-- Takes a message.  Gives what is sent at once, in order. -/
def take (r : Runner) (s : Session) (v : Json) : List Json × Session :=
  let before := s.log.length
  let (answers, s) :=
    match Incoming.ofJson v with
    | .request id method params =>
        let (a, s) := s.request r method params
        (a.members.toList.map fun ms => message (("id", id) :: ms), s)
    | .notification method params => ([], s.notify r method params)
    | .answer => ([], s)
    | .invalid =>
        ((Answer.members .invalidRequest).toList.map fun ms => message (("id", .null) :: ms), s)
  (answers ++ s.messagesSince before, s)

/-- Lets the tasks go on until `n` messages have been sent, or all tasks are over.  Gives what
is sent meanwhile, in order. -/
def await (r : Runner) (s : Session) (n : Nat) : List Json × Session :=
  let before := s.log.length
  let s := s.driveUntil r (fun s => n ≤ s.log.length - before || s.allOver) roundBound
  (s.messagesSince before, s)

/-- Takes a message, and lets all tasks come to their ends.  Gives what is sent then, in
order. -/
def receive (r : Runner) (s : Session) (v : Json) : List Json × Session :=
  let (sent, s) := s.take r v
  let before := s.log.length
  let s := s.settleAll r
  (sent ++ s.messagesSince before, s)

/-- Takes the text of a message.  A text that is no JSON is answered with an error. -/
def receiveText (r : Runner) (s : Session) (text : String) : List Json × Session :=
  match Json.read text.toList with
  | .ok v => s.receive r v
  | .error _ =>
      (Answer.unreadable.members.toList.map fun ms => message (("id", .null) :: ms), s)

mutual

/-- The texts in a value. -/
def texts : Json → List String
  | .string s => [s]
  | .array vs => textsOfItems vs
  | .object ms => textsOfMembers ms
  | _ => []
termination_by structural v => v

/-- The texts in a list of values. -/
def textsOfItems : List Json → List String
  | [] => []
  | v :: vs => texts v ++ textsOfItems vs
termination_by structural vs => vs

/-- The texts in a list of members. -/
def textsOfMembers : List (String × Json) → List String
  | [] => []
  | (_, v) :: ms => texts v ++ textsOfMembers ms
termination_by structural ms => ms

end

/-- The paths of the files and directories that the text of a message names. -/
def pathsNamed (text : String) : List String :=
  match Json.read text.toList with
  | .ok v => (texts v).filterMap fun s => (Uri.parse s).toOption.bind Uri.filePath?
  | .error _ => []

/-- Whether the session takes no more messages. -/
def isExited (s : Session) : Bool := s.phase == .exited

/-! ## Frames -/

/-- The header of a frame for so many bytes. -/
def frameHeader (size : Nat) : String := "Content-Length: " ++ toString size ++ "\r\n\r\n"

/-- A message in its frame. -/
def frame (v : Json) : String :=
  let text := v.toCompactString
  frameHeader text.utf8ByteSize ++ text

/-- The number of bytes that a line of a header announces. -/
def announcedSize? (line : String) : Option Nat :=
  match Text.matchToken? "Content-Length:".toList line.toList with
  | some rest => (Text.wholeInt? (Text.trim rest)).map Int.toNat
  | none => none

end Session

end PerlLint
