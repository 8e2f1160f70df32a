import PerlLint.Session.Form.Document

/-!
# What a client can do

A client begins a session with a record of what it can do.  Nothing of it is used here,
but it has to have the right form.
-/

namespace PerlLint.Session.Form

/-! ## Building stones -/

/-- A record of truth values that may all be missing. -/
def flags (title : String) (keys : List String) : Form :=
  plain title (keys.map fun key => optional key .bool)

/-- Whether a capability can be registered later. -/
def registration : String × Presence × Form := optional "dynamicRegistration" .bool

/-- A capability of which only the registration is of interest. -/
def registrable : Form := plain "DynamicRegistrationClientCapabilities" [registration]

/-- The properties that are resolved later. -/
def resolvable (title : String) : Form := plain title [needed "properties" (.list .text)]

/-- The tags that are known, or whether there are any. -/
def tagSupport : String × Presence × Form :=
  ("tagSupport", .preset, .orBool (plain "TagSupport" [needed "valueSet" (.list .int32)]))

/-- The kinds of symbols that are known. -/
def symbolKinds : Form := plain "SymbolKindCapability" [optional "valueSet" (.list .int32)]

/-! ## The workspace -/

/-- What the client can do with the workspace. -/
def workspaceCapabilities : Form :=
  plain "WorkspaceClientCapabilities"
    [optional "applyEdit" .bool,
      optional "workspaceEdit"
        (plain "WorkspaceEditClientCapabilities"
          [optional "documentChanges" .bool,
            optional "resourceOperations" (.list (.name ["create", "rename", "delete"])),
            optional "failureHandling"
              (.name ["abort", "transactional", "textOnlyTransactional", "undo"]),
            optional "normalizesLineEndings" .bool,
            optional "changeAnnotationSupport"
              (flags "ChangeAnnotationWorkspaceEditClientCapabilities" ["groupsOnLabel"])]),
      optional "didChangeConfiguration" registrable,
      optional "didChangeWatchedFiles"
        (flags "DidChangeWatchedFilesClientCapabilities"
          ["dynamicRegistration", "relativePatternSupport"]),
      optional "symbol"
        (plain "WorkspaceSymbolClientCapabilities"
          [registration, optional "symbolKind" symbolKinds, tagSupport,
            optional "resolveSupport" (resolvable "WorkspaceSymbolResolveSupportCapability")]),
      optional "executeCommand" registrable,
      optional "workspaceFolders" .bool,
      optional "configuration" .bool,
      optional "semanticTokens"
        (flags "SemanticTokensWorkspaceClientCapabilities" ["refreshSupport"]),
      optional "codeLens" (flags "CodeLensWorkspaceClientCapabilities" ["refreshSupport"]),
      optional "fileOperations"
        (flags "WorkspaceFileOperationsClientCapabilities"
          ["dynamicRegistration", "didCreate", "willCreate", "didRename", "willRename",
            "didDelete", "willDelete"]),
      optional "inlineValue" (flags "InlineValueWorkspaceClientCapabilities" ["refreshSupport"]),
      optional "inlayHint" (flags "InlayHintWorkspaceClientCapabilities" ["refreshSupport"]),
      optional "diagnostic" (flags "DiagnosticWorkspaceClientCapabilities" ["refreshSupport"])]

/-! ## Documents -/

/-- What the client can do with completions. -/
def completionCapabilities : Form :=
  let item := plain "CompletionItemCapability"
    [optional "snippetSupport" .bool, optional "commitCharactersSupport" .bool,
      optional "documentationFormat" (.list markupKind), optional "deprecatedSupport" .bool,
      optional "preselectSupport" .bool, tagSupport, optional "insertReplaceSupport" .bool,
      optional "resolveSupport" (resolvable "CompletionItemCapabilityResolveSupport"),
      optional "insertTextModeSupport"
        (plain "InsertTextModeSupport" [needed "valueSet" (.list .int32)]),
      optional "labelDetailsSupport" .bool]
  plain "CompletionClientCapabilities"
    [registration, optional "completionItem" item,
      optional "completionItemKind"
        (plain "CompletionItemKindCapability" [optional "valueSet" (.list .int32)]),
      optional "contextSupport" .bool, optional "insertTextMode" .int32,
      optional "completionList"
        (plain "CompletionListCapability" [optional "itemDefaults" (.list .text)])]

/-- What the client can do with the signatures of functions. -/
def signatureCapabilities : Form :=
  plain "SignatureHelpClientCapabilities"
    [registration,
      optional "signatureInformation"
        (plain "SignatureInformationSettings"
          [optional "documentationFormat" (.list markupKind),
            optional "parameterInformation"
              (flags "ParameterInformationSettings" ["labelOffsetSupport"]),
            optional "activeParameterSupport" .bool]),
      optional "contextSupport" .bool]

/-- What the client can do with actions on code. -/
def codeActionCapabilities : Form :=
  plain "CodeActionClientCapabilities"
    [registration,
      optional "codeActionLiteralSupport"
        (plain "CodeActionLiteralSupport"
          [needed "codeActionKind"
            (plain "CodeActionKindLiteralSupport" [needed "valueSet" (.list .text)])]),
      optional "isPreferredSupport" .bool, optional "disabledSupport" .bool,
      optional "dataSupport" .bool,
      optional "resolveSupport" (resolvable "CodeActionCapabilityResolveSupport"),
      optional "honorsChangeAnnotations" .bool]

/-- What the client can do with tokens and their meanings. -/
def tokenCapabilities : Form :=
  let full := Form.choice "SemanticTokensFullOptions"
    [.bool, unordered "SemanticTokensFullOptions" [optional "delta" .bool]]
  plain "SemanticTokensClientCapabilities"
    [registration,
      needed "requests"
        (plain "SemanticTokensClientCapabilitiesRequests"
          [optional "range" .bool, optional "full" full]),
      needed "tokenTypes" (.list .text), needed "tokenModifiers" (.list .text),
      needed "formats" (.list .text), optional "overlappingTokenSupport" .bool,
      optional "multilineTokenSupport" .bool, optional "serverCancelSupport" .bool,
      optional "augmentsSyntaxTokens" .bool]

/-- What the client can do with stretches that can be folded. -/
def foldingCapabilities : Form :=
  plain "FoldingRangeClientCapabilities"
    [registration, optional "rangeLimit" .nat32, optional "lineFoldingOnly" .bool,
      optional "foldingRangeKind"
        (plain "FoldingRangeKindCapability"
          [optional "valueSet" (.list (.name ["comment", "imports", "region"]))]),
      optional "foldingRange" (flags "FoldingRangeCapability" ["collapsedText"])]

/-- What the client can do with documents. -/
def documentCapabilities : Form :=
  let goto := flags "GotoCapability" ["dynamicRegistration", "linkSupport"]
  plain "TextDocumentClientCapabilities"
    [optional "synchronization"
        (flags "TextDocumentSyncClientCapabilities"
          ["dynamicRegistration", "willSave", "willSaveWaitUntil", "didSave"]),
      optional "completion" completionCapabilities,
      optional "hover"
        (plain "HoverClientCapabilities"
          [registration, optional "contentFormat" (.list markupKind)]),
      optional "signatureHelp" signatureCapabilities,
      optional "references" registrable,
      optional "documentHighlight" registrable,
      optional "documentSymbol"
        (plain "DocumentSymbolClientCapabilities"
          [registration, optional "symbolKind" symbolKinds,
            optional "hierarchicalDocumentSymbolSupport" .bool, tagSupport]),
      optional "formatting" registrable,
      optional "rangeFormatting" registrable,
      optional "onTypeFormatting" registrable,
      optional "declaration" goto,
      optional "definition" goto,
      optional "typeDefinition" goto,
      optional "implementation" goto,
      optional "codeAction" codeActionCapabilities,
      optional "codeLens" registrable,
      optional "documentLink"
        (flags "DocumentLinkClientCapabilities" ["dynamicRegistration", "tooltipSupport"]),
      optional "colorProvider" registrable,
      optional "rename"
        (plain "RenameClientCapabilities"
          [registration, optional "prepareSupport" .bool,
            optional "prepareSupportDefaultBehavior" .int32,
            optional "honorsChangeAnnotations" .bool]),
      optional "publishDiagnostics"
        (plain "PublishDiagnosticsClientCapabilities"
          [optional "relatedInformation" .bool, tagSupport, optional "versionSupport" .bool,
            optional "codeDescriptionSupport" .bool, optional "dataSupport" .bool]),
      optional "foldingRange" foldingCapabilities,
      optional "selectionRange"
        (plain "SelectionRangeClientCapabilities" [registration]),
      optional "linkedEditingRange" registrable,
      optional "callHierarchy" registrable,
      optional "semanticTokens" tokenCapabilities,
      optional "moniker" registrable,
      optional "typeHierarchy" registrable,
      optional "inlineValue" registrable,
      optional "inlayHint"
        (plain "InlayHintClientCapabilities"
          [registration,
            optional "resolveSupport" (resolvable "InlayHintResolveClientCapabilities")]),
      optional "diagnostic"
        (flags "DiagnosticClientCapabilities" ["dynamicRegistration", "relatedDocumentSupport"])]

/-! ## Windows and the rest -/

/-- What the client can do with its windows. -/
def windowCapabilities : Form :=
  plain "WindowClientCapabilities"
    [optional "workDoneProgress" .bool,
      optional "showMessage"
        (plain "ShowMessageRequestClientCapabilities"
          [optional "messageActionItem"
            (flags "MessageActionItemCapabilities" ["additionalPropertiesSupport"])]),
      optional "showDocument"
        (plain "ShowDocumentClientCapabilities" [needed "support" .bool])]

/-- What else the client can do. -/
def generalCapabilities : Form :=
  plain "GeneralClientCapabilities"
    [optional "regularExpressions"
        (plain "RegularExpressionsClientCapabilities"
          [needed "engine" .text, optional "version" .text]),
      optional "markdown"
        (plain "MarkdownClientCapabilities"
          [needed "parser" .text, optional "version" .text,
            optional "allowedTags" (.list .text)]),
      optional "staleRequestSupport"
        (plain "StaleRequestSupportClientCapabilities"
          [needed "cancel" .bool, needed "retryOnContentModified" (.list .text)]),
      optional "positionEncodings" (.list .text)]

/-- What the client can do. -/
def capabilities : Form :=
  plain "ClientCapabilities"
    [optional "workspace" workspaceCapabilities,
      optional "textDocument" documentCapabilities,
      optional "window" windowCapabilities,
      optional "general" generalCapabilities,
      optional "experimental" .any]

end PerlLint.Session.Form
