import PerlLint.Session.Form.Basic

/-!
# Forms of documents and what is in them

Here are the forms that the parameters of several messages share: places in documents,
diagnostics, commands, edits, and the two tokens by which a request may ask for progress
and for partial results.
-/

namespace PerlLint.Session.Form

/-! ## Places -/

/-- A place between two characters. -/
def position : Form := plain "Position" [needed "line" .nat32, needed "character" .nat32]

/-- A stretch of a document. -/
def range : Form := plain "Range" [needed "start" position, needed "end" position]

/-- A stretch of some document. -/
def location : Form := plain "Location" [needed "uri" .uri, needed "range" range]

/-- A document. -/
def document : Form := plain "TextDocumentIdentifier" [needed "uri" .uri]

/-- A place in some document. -/
def documentPosition : Form :=
  plain "TextDocumentPositionParams" [needed "textDocument" document, needed "position" position]

/-! ## Tokens -/

/-- A number or a text. -/
def numberOrText : Form := .choice "NumberOrString" [.int32, .text]

/-- The token for progress. -/
def progress : Form := plain "WorkDoneProgressParams" [optional "workDoneToken" numberOrText]

/-- The token for partial results. -/
def partialResults : Form :=
  plain "PartialResultParams" [optional "partialResultToken" numberOrText]

/-! ## Texts, commands and diagnostics -/

/-- How a text is marked up. -/
def markupKind : Form := .name ["plaintext", "markdown"]

/-- A text with its markup. -/
def markup : Form := plain "MarkupContent" [needed "kind" markupKind, needed "value" .text]

/-- A text with or without markup. -/
def documentation (title : String) : Form := .choice title [.text, markup]

/-- A command. -/
def command : Form :=
  plain "Command"
    [needed "title" .text, needed "command" .text, optional "arguments" (.list .any)]

/-- A place that has to do with a diagnostic. -/
def relatedInformation : Form :=
  plain "DiagnosticRelatedInformation" [needed "location" location, needed "message" .text]

/-- A diagnostic. -/
def diagnostic : Form :=
  plain "Diagnostic"
    [needed "range" range, optional "severity" .int32, optional "code" numberOrText,
      optional "codeDescription" (plain "CodeDescription" [needed "href" .uri]),
      optional "source" .text, needed "message" .text,
      optional "relatedInformation" (.list relatedInformation),
      optional "tags" (.list .int32), optional "data" .any]

/-! ## Edits -/

/-- A change of one stretch. -/
def textEdit : Form := plain "TextEdit" [needed "range" range, needed "newText" .text]

/-- A change of one stretch with a note. -/
def notedEdit : Form := .record "AnnotatedTextEdit" [needed "annotationId" .text] [textEdit]

/-- Changes of a document. -/
def documentEdit : Form :=
  plain "TextDocumentEdit"
    [needed "textDocument"
        (plain "OptionalVersionedTextDocumentIdentifier"
          [needed "uri" .uri, optional "version" .int32]),
      needed "edits" (.list (.choice "OneOf" [textEdit, notedEdit]))]

/-- A file that is made, renamed or removed. -/
def fileOperation : Form :=
  let overwriting (title : String) : Form :=
    plain title [optional "overwrite" .bool, optional "ignoreIfExists" .bool]
  .tagged "kind"
    [("create", plain "CreateFile"
        [needed "uri" .uri, optional "options" (overwriting "CreateFileOptions"),
          optional "annotationId" .text]),
      ("rename", plain "RenameFile"
        [needed "oldUri" .uri, needed "newUri" .uri,
          optional "options" (overwriting "RenameFileOptions"), optional "annotationId" .text]),
      ("delete", plain "DeleteFile"
        [needed "uri" .uri,
          optional "options"
            (plain "DeleteFileOptions"
              [optional "recursive" .bool, optional "ignoreIfNotExists" .bool,
                optional "annotationId" .text])])]

/-- Changes of the workspace. -/
def workspaceEdit : Form :=
  plain "WorkspaceEdit"
    [preset "changes" (.uriTable (.list textEdit)),
      optional "documentChanges"
        (.choice "DocumentChanges"
          [.list documentEdit,
            .list (.choice "DocumentChangeOperation" [fileOperation, documentEdit])]),
      optional "changeAnnotations"
        (.table
          (plain "ChangeAnnotation"
            [needed "label" .text, optional "needsConfirmation" .bool,
              optional "description" .text]))]

end PerlLint.Session.Form
