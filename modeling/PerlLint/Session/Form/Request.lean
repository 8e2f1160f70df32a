import PerlLint.Session.Form.Document

/-!
# Forms of requests

Most requests of the protocol are answered in the same way, since the server does not have
their methods.  But a request whose parameters are wrong is answered with what is wrong
with them.  `requests` lists the methods with the forms of their parameters.
-/

namespace PerlLint.Session.Form

/-! ## Requests about a document -/

/-- A record with the document that is asked about, and both tokens. -/
def ofDocument (title : String) : Form :=
  .record title [needed "textDocument" document] [progress, partialResults]

/-- A record with the place that is asked about, other members, and other parts. -/
def ofPosition (title : String) (fields : List (String × Presence × Form)) (parts : List Form) :
    Form :=
  .record title fields (documentPosition :: parts)

/-- A question where something is defined. -/
def definition : Form := ofPosition "GotoDefinitionParams" [] [progress, partialResults]

/-- An item of a hierarchy. -/
def hierarchyItem (title : String) (tags : Form) : Form :=
  plain title
    [needed "name" .text, needed "kind" .int32, optional "tags" tags, optional "detail" .text,
      needed "uri" .uri, needed "range" range, needed "selectionRange" range,
      optional "data" .any]

/-- A function that calls or is called. -/
def callItem : Form := hierarchyItem "CallHierarchyItem" (.list .int32)

/-- A type above or below others. -/
def typeItem : Form := hierarchyItem "TypeHierarchyItem" .int32

/-- A record with an item of a hierarchy. -/
def ofItem (title : String) (item : Form) : Form :=
  .record title [needed "item" item] [progress, partialResults]

/-! ## Completions and signatures -/

/-- The context of a completion. -/
def completionContext : Form :=
  plain "CompletionContext" [needed "triggerKind" .int32, optional "triggerCharacter" .text]

/-- A change that replaces a stretch, or only inserts into it. -/
def insertReplaceEdit : Form :=
  plain "InsertReplaceEdit" [needed "newText" .text, needed "insert" range, needed "replace" range]

/-- A completion. -/
def completionItem : Form :=
  plain "CompletionItem"
    [needed "label" .text,
      optional "labelDetails"
        (plain "CompletionItemLabelDetails"
          [optional "detail" .text, optional "description" .text]),
      optional "kind" .int32, optional "detail" .text,
      optional "documentation" (documentation "Documentation"),
      optional "deprecated" .bool, optional "preselect" .bool, optional "sortText" .text,
      optional "filterText" .text, optional "insertText" .text,
      optional "insertTextFormat" .int32, optional "insertTextMode" .int32,
      optional "textEdit" (.choice "CompletionTextEdit" [textEdit, insertReplaceEdit]),
      optional "additionalTextEdits" (.list textEdit), optional "command" command,
      optional "commitCharacters" (.list .text), optional "data" .any,
      optional "tags" (.list .int32)]

/-- A signature of a function. -/
def signature : Form :=
  let parameter := plain "ParameterInformation"
    [needed "label" (.choice "ParameterLabel" [.text, .pair .nat32]),
      optional "documentation" (documentation "Documentation")]
  plain "SignatureInformation"
    [needed "label" .text, optional "documentation" (documentation "Documentation"),
      optional "parameters" (.list parameter), optional "activeParameter" .nat32]

/-- The context of a question for a signature. -/
def signatureContext : Form :=
  plain "SignatureHelpContext"
    [needed "triggerKind" .int32, optional "triggerCharacter" .text, needed "isRetrigger" .bool,
      optional "activeSignatureHelp"
        (plain "SignatureHelp"
          [needed "signatures" (.list signature), optional "activeSignature" .nat32,
            optional "activeParameter" .nat32])]

/-! ## Code -/

/-- A question for actions on code. -/
def codeActionParams : Form :=
  let context := plain "CodeActionContext"
    [needed "diagnostics" (.list diagnostic), optional "only" (.list .text),
      optional "triggerKind" .int32]
  .record "CodeActionParams"
    [needed "textDocument" document, needed "range" range, needed "context" context]
    [progress, partialResults]

/-- An action on code. -/
def codeAction : Form :=
  plain "CodeAction"
    [needed "title" .text, optional "kind" .text, optional "diagnostics" (.list diagnostic),
      optional "edit" workspaceEdit, optional "command" command, optional "isPreferred" .bool,
      optional "disabled" (plain "CodeActionDisabled" [needed "reason" .text]),
      optional "data" .any]

/-- A command that stands in a document. -/
def codeLens : Form :=
  plain "CodeLens" [needed "range" range, optional "command" command, optional "data" .any]

/-- A link in a document. -/
def documentLink : Form :=
  plain "DocumentLink"
    [needed "range" range, optional "target" .uri, optional "tooltip" .text, optional "data" .any]

/-- A note that is shown in a line. -/
def inlayHint : Form :=
  let tooltip (title : String) := optional "tooltip" (documentation title)
  let part := plain "InlayHintLabelPart"
    [needed "value" .text, tooltip "InlayHintLabelPartTooltip", optional "location" location,
      optional "command" command]
  plain "InlayHint"
    [needed "position" position,
      needed "label" (.choice "InlayHintLabel" [.text, .list part]),
      optional "kind" .int32, optional "textEdits" (.list textEdit), tooltip "InlayHintTooltip",
      optional "paddingLeft" .bool, optional "paddingRight" .bool, optional "data" .any]

/-- A question for values that are shown in lines. -/
def inlineValueParams : Form :=
  let context := plain "InlineValueContext"
    [needed "frameId" .int32, needed "stoppedLocation" range]
  .record "InlineValueParams"
    [needed "textDocument" document, needed "range" range, needed "context" context] [progress]

/-! ## Colours and layout -/

/-- A question how a colour may be written. -/
def colorPresentationParams : Form :=
  let color := plain "Color"
    [needed "red" .real, needed "green" .real, needed "blue" .real, needed "alpha" .real]
  .record "ColorPresentationParams"
    [needed "textDocument" document, needed "color" color, needed "range" range]
    [progress, partialResults]

/-- How a document is to be laid out. -/
def layoutOptions : Form :=
  .record "FormattingOptions"
    [needed "tabSize" .nat32, needed "insertSpaces" .bool,
      optional "trimTrailingWhitespace" .bool, optional "insertFinalNewline" .bool,
      optional "trimFinalNewlines" .bool]
    [.table (.choice "FormattingProperty" [.bool, .int32, .text])]

/-! ## The workspace -/

/-- A symbol of the workspace. -/
def workspaceSymbol : Form :=
  plain "WorkspaceSymbol"
    [needed "name" .text, needed "kind" .int32, optional "tags" (.list .int32),
      optional "containerName" .text,
      needed "location"
        (.choice "OneOf" [location, plain "WorkspaceLocation" [needed "uri" .uri]]),
      optional "data" .any]

/-- A record with files. -/
def ofFiles (title fileTitle : String) (keys : List String) : Form :=
  plain title [needed "files" (.list (plain fileTitle (keys.map fun key => needed key .text)))]

/-- A question for the diagnostics of a workspace. -/
def workspaceDiagnosticParams : Form :=
  let previous := plain "PreviousResultId" [needed "uri" .uri, needed "value" .text]
  .record "WorkspaceDiagnosticParams"
    [optional "identifier" .text, needed "previousResultIds" (.list previous)]
    [progress, partialResults]

/-! ## All requests -/

/-- The requests about places in documents. -/
def positionRequests : List (String × Form) :=
  [("textDocument/declaration", definition),
    ("textDocument/definition", definition),
    ("textDocument/typeDefinition", definition),
    ("textDocument/implementation", definition),
    ("textDocument/references",
      ofPosition "ReferenceParams"
        [needed "context" (plain "ReferenceContext" [needed "includeDeclaration" .bool])]
        [progress, partialResults]),
    ("textDocument/prepareCallHierarchy",
      ofPosition "CallHierarchyPrepareParams" [] [progress]),
    ("textDocument/prepareTypeHierarchy",
      ofPosition "TypeHierarchyPrepareParams" [] [progress]),
    ("textDocument/documentHighlight",
      ofPosition "DocumentHighlightParams" [] [progress, partialResults]),
    ("textDocument/hover", ofPosition "HoverParams" [] [progress]),
    ("textDocument/moniker", ofPosition "MonikerParams" [] [progress, partialResults]),
    ("textDocument/completion",
      ofPosition "CompletionParams" [optional "context" completionContext]
        [progress, partialResults]),
    ("textDocument/signatureHelp",
      ofPosition "SignatureHelpParams" [optional "context" signatureContext] [progress]),
    ("textDocument/onTypeFormatting",
      ofPosition "DocumentOnTypeFormattingParams"
        [needed "ch" .text, needed "options" layoutOptions] []),
    ("textDocument/rename",
      ofPosition "RenameParams" [needed "newName" .text] [progress]),
    ("textDocument/prepareRename", documentPosition),
    ("textDocument/linkedEditingRange",
      ofPosition "LinkedEditingRangeParams" [] [progress])]

/-- The requests about whole documents or stretches of them. -/
def documentRequests : List (String × Form) :=
  [("textDocument/willSaveWaitUntil",
      plain "WillSaveTextDocumentParams" [needed "textDocument" document, needed "reason" .int32]),
    ("textDocument/documentLink", ofDocument "DocumentLinkParams"),
    ("textDocument/codeLens", ofDocument "CodeLensParams"),
    ("textDocument/foldingRange", ofDocument "FoldingRangeParams"),
    ("textDocument/documentSymbol", ofDocument "DocumentSymbolParams"),
    ("textDocument/documentColor", ofDocument "DocumentColorParams"),
    ("textDocument/selectionRange",
      .record "SelectionRangeParams"
        [needed "textDocument" document, needed "positions" (.list position)]
        [progress, partialResults]),
    ("textDocument/semanticTokens/full", ofDocument "SemanticTokensParams"),
    ("textDocument/semanticTokens/full/delta",
      .record "SemanticTokensDeltaParams"
        [needed "textDocument" document, needed "previousResultId" .text]
        [progress, partialResults]),
    ("textDocument/semanticTokens/range",
      .record "SemanticTokensRangeParams"
        [needed "textDocument" document, needed "range" range] [progress, partialResults]),
    ("textDocument/inlineValue", inlineValueParams),
    ("textDocument/inlayHint",
      .record "InlayHintParams" [needed "textDocument" document, needed "range" range] [progress]),
    ("textDocument/diagnostic",
      .record "DocumentDiagnosticParams"
        [needed "textDocument" document, optional "identifier" .text,
          optional "previousResultId" .text] [progress, partialResults]),
    ("textDocument/codeAction", codeActionParams),
    ("textDocument/colorPresentation", colorPresentationParams),
    ("textDocument/formatting",
      .record "DocumentFormattingParams"
        [needed "textDocument" document, needed "options" layoutOptions] [progress]),
    ("textDocument/rangeFormatting",
      .record "DocumentRangeFormattingParams"
        [needed "textDocument" document, needed "range" range, needed "options" layoutOptions]
        [progress])]

/-- The requests about what other requests have found. -/
def resultRequests : List (String × Form) :=
  [("callHierarchy/incomingCalls", ofItem "CallHierarchyIncomingCallsParams" callItem),
    ("callHierarchy/outgoingCalls", ofItem "CallHierarchyOutgoingCallsParams" callItem),
    ("typeHierarchy/supertypes", ofItem "TypeHierarchySupertypesParams" typeItem),
    ("typeHierarchy/subtypes", ofItem "TypeHierarchySubtypesParams" typeItem),
    ("documentLink/resolve", documentLink),
    ("codeLens/resolve", codeLens),
    ("inlayHint/resolve", inlayHint),
    ("completionItem/resolve", completionItem),
    ("codeAction/resolve", codeAction),
    ("workspaceSymbol/resolve", workspaceSymbol)]

/-- The requests about the workspace. -/
def workspaceRequests : List (String × Form) :=
  [("workspace/diagnostic", workspaceDiagnosticParams),
    ("workspace/symbol",
      .record "WorkspaceSymbolParams" [needed "query" .text] [partialResults, progress]),
    ("workspace/willCreateFiles", ofFiles "CreateFilesParams" "FileCreate" ["uri"]),
    ("workspace/willRenameFiles",
      ofFiles "RenameFilesParams" "FileRename" ["oldUri", "newUri"]),
    ("workspace/willDeleteFiles", ofFiles "DeleteFilesParams" "FileDelete" ["uri"]),
    ("workspace/executeCommand",
      .record "ExecuteCommandParams"
        [needed "command" .text, ("arguments", .preset, .list .any)] [progress])]

/-- The requests of the protocol that this server does not have, with the forms of their
parameters. -/
def requests : List (String × Form) :=
  positionRequests ++ documentRequests ++ resultRequests ++ workspaceRequests

end PerlLint.Session.Form
