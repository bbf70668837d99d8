import TemplateServer.Protocol.Structure.Basic

/-!
What an editor says about itself when it starts a server.
-/

namespace TemplateServer.Protocol.Structure

open Shape

/-! ### Common parts -/

def dynamicPart : Part :=
  allows "dynamicRegistration" flag

def dynamic : Shape :=
  record "DynamicRegistrationClientCapabilities" [dynamicPart]

def refreshing (name : String) : Shape :=
  record name [allows "refreshSupport" flag]

def resolving (name : String) : Shape :=
  record name [needs "properties" (listOf text)]

/-- Which tags are understood. A truth value may stand for all or none. -/
def tagSupport : Shape
  | _, .bool value => .ok (.bool value)
  | standing, value => record "TagSupport" [needs "valueSet" (listOf signed)] standing value

def tagPart : Part :=
  spares "tagSupport" tagSupport

def symbolKinds : Shape :=
  record "SymbolKindCapability" [allows "valueSet" (listOf signed)]

/-! ### Workspaces -/

def workspaceEditing : Shape :=
  record "WorkspaceEditClientCapabilities"
    [allows "documentChanges" flag,
      allows "resourceOperations" (listOf (word ["create", "rename", "delete"])),
      allows "failureHandling" (word ["abort", "transactional", "textOnlyTransactional", "undo"]),
      allows "normalizesLineEndings" flag,
      allows "changeAnnotationSupport"
        (record "ChangeAnnotationWorkspaceEditClientCapabilities"
          [allows "groupsOnLabel" flag])]

def fileWatching : Shape :=
  record "DidChangeWatchedFilesClientCapabilities"
    [dynamicPart, allows "relativePatternSupport" flag]

def workspaceSymbols : Shape :=
  record "WorkspaceSymbolClientCapabilities"
    [dynamicPart, allows "symbolKind" symbolKinds, tagPart,
      allows "resolveSupport" (resolving "WorkspaceSymbolResolveSupportCapability")]

def fileOperations : Shape :=
  record "WorkspaceFileOperationsClientCapabilities"
    [dynamicPart, allows "didCreate" flag, allows "willCreate" flag, allows "didRename" flag,
      allows "willRename" flag, allows "didDelete" flag, allows "willDelete" flag]

def workspace : Shape :=
  record "WorkspaceClientCapabilities"
    [allows "applyEdit" flag, allows "workspaceEdit" workspaceEditing,
      allows "didChangeConfiguration" dynamic, allows "didChangeWatchedFiles" fileWatching,
      allows "symbol" workspaceSymbols, allows "executeCommand" dynamic,
      allows "workspaceFolders" flag, allows "configuration" flag,
      allows "semanticTokens" (refreshing "SemanticTokensWorkspaceClientCapabilities"),
      allows "codeLens" (refreshing "CodeLensWorkspaceClientCapabilities"),
      allows "fileOperations" fileOperations,
      allows "inlineValue" (refreshing "InlineValueWorkspaceClientCapabilities"),
      allows "inlayHint" (refreshing "InlayHintWorkspaceClientCapabilities"),
      allows "diagnostic" (refreshing "DiagnosticWorkspaceClientCapabilities")]

/-! ### Documents -/

def synchronization : Shape :=
  record "TextDocumentSyncClientCapabilities"
    [dynamicPart, allows "willSave" flag, allows "willSaveWaitUntil" flag,
      allows "didSave" flag]

def completionItems : Shape :=
  record "CompletionItemCapability"
    [allows "snippetSupport" flag, allows "commitCharactersSupport" flag,
      allows "documentationFormat" (listOf markupKind), allows "deprecatedSupport" flag,
      allows "preselectSupport" flag, tagPart, allows "insertReplaceSupport" flag,
      allows "resolveSupport" (resolving "CompletionItemCapabilityResolveSupport"),
      allows "insertTextModeSupport"
        (record "InsertTextModeSupport" [needs "valueSet" (listOf signed)]),
      allows "labelDetailsSupport" flag]

def completion : Shape :=
  record "CompletionClientCapabilities"
    [dynamicPart, allows "completionItem" completionItems,
      allows "completionItemKind"
        (record "CompletionItemKindCapability" [allows "valueSet" (listOf signed)]),
      allows "contextSupport" flag, allows "insertTextMode" signed,
      allows "completionList"
        (record "CompletionListCapability" [allows "itemDefaults" (listOf text)])]

def hover : Shape :=
  record "HoverClientCapabilities"
    [dynamicPart, allows "contentFormat" (listOf markupKind)]

def signatureHelp : Shape :=
  record "SignatureHelpClientCapabilities"
    [dynamicPart,
      allows "signatureInformation"
        (record "SignatureInformationSettings"
          [allows "documentationFormat" (listOf markupKind),
            allows "parameterInformation"
              (record "ParameterInformationSettings" [allows "labelOffsetSupport" flag]),
            allows "activeParameterSupport" flag]),
      allows "contextSupport" flag]

def documentSymbols : Shape :=
  record "DocumentSymbolClientCapabilities"
    [dynamicPart, allows "symbolKind" symbolKinds,
      allows "hierarchicalDocumentSymbolSupport" flag, tagPart]

def jumps : Shape :=
  record "GotoCapability" [dynamicPart, allows "linkSupport" flag]

def codeActions : Shape :=
  record "CodeActionClientCapabilities"
    [dynamicPart,
      allows "codeActionLiteralSupport"
        (record "CodeActionLiteralSupport"
          [needs "codeActionKind"
            (record "CodeActionKindLiteralSupport" [needs "valueSet" (listOf text)])]),
      allows "isPreferredSupport" flag, allows "disabledSupport" flag,
      allows "dataSupport" flag,
      allows "resolveSupport" (resolving "CodeActionCapabilityResolveSupport"),
      allows "honorsChangeAnnotations" flag]

def documentLinks : Shape :=
  record "DocumentLinkClientCapabilities" [dynamicPart, allows "tooltipSupport" flag]

def renames : Shape :=
  record "RenameClientCapabilities"
    [dynamicPart, allows "prepareSupport" flag, allows "prepareSupportDefaultBehavior" signed,
      allows "honorsChangeAnnotations" flag]

def publishedDiagnostics : Shape :=
  record "PublishDiagnosticsClientCapabilities"
    [allows "relatedInformation" flag, tagPart, allows "versionSupport" flag,
      allows "codeDescriptionSupport" flag, allows "dataSupport" flag]

def foldingRanges : Shape :=
  record "FoldingRangeClientCapabilities"
    [dynamicPart, allows "rangeLimit" count, allows "lineFoldingOnly" flag,
      allows "foldingRangeKind"
        (record "FoldingRangeKindCapability"
          [allows "valueSet" (listOf (word ["comment", "imports", "region"]))]),
      allows "foldingRange" (record "FoldingRangeCapability" [allows "collapsedText" flag])]

def semanticTokens : Shape :=
  record "SemanticTokensClientCapabilities"
    [dynamicPart,
      needs "requests"
        (record "SemanticTokensClientCapabilitiesRequests"
          [allows "range" flag,
            allows "full"
              (oneOf "SemanticTokensFullOptions"
                [flag, record "Delta" [allows "delta" flag]])]),
      needs "tokenTypes" (listOf text), needs "tokenModifiers" (listOf text),
      needs "formats" (listOf text), allows "overlappingTokenSupport" flag,
      allows "multilineTokenSupport" flag, allows "serverCancelSupport" flag,
      allows "augmentsSyntaxTokens" flag]

def documents : Shape :=
  record "TextDocumentClientCapabilities"
    [allows "synchronization" synchronization, allows "completion" completion,
      allows "hover" hover, allows "signatureHelp" signatureHelp, allows "references" dynamic,
      allows "documentHighlight" dynamic, allows "documentSymbol" documentSymbols,
      allows "formatting" dynamic, allows "rangeFormatting" dynamic,
      allows "onTypeFormatting" dynamic, allows "declaration" jumps,
      allows "definition" jumps, allows "typeDefinition" jumps,
      allows "implementation" jumps, allows "codeAction" codeActions,
      allows "codeLens" dynamic, allows "documentLink" documentLinks,
      allows "colorProvider" dynamic, allows "rename" renames,
      allows "publishDiagnostics" publishedDiagnostics, allows "foldingRange" foldingRanges,
      allows "selectionRange" (record "SelectionRangeClientCapabilities" [dynamicPart]),
      allows "linkedEditingRange" dynamic, allows "callHierarchy" dynamic,
      allows "semanticTokens" semanticTokens, allows "moniker" dynamic,
      allows "typeHierarchy" dynamic, allows "inlineValue" dynamic,
      allows "inlayHint"
        (record "InlayHintClientCapabilities"
          [dynamicPart,
            allows "resolveSupport" (resolving "InlayHintResolveClientCapabilities")]),
      allows "diagnostic"
        (record "DiagnosticClientCapabilities"
          [dynamicPart, allows "relatedDocumentSupport" flag])]

/-! ### The editor -/

def window : Shape :=
  record "WindowClientCapabilities"
    [allows "workDoneProgress" flag,
      allows "showMessage"
        (record "ShowMessageRequestClientCapabilities"
          [allows "messageActionItem"
            (record "MessageActionItemCapabilities"
              [allows "additionalPropertiesSupport" flag])]),
      allows "showDocument" (record "ShowDocumentClientCapabilities" [needs "support" flag])]

def general : Shape :=
  record "GeneralClientCapabilities"
    [allows "regularExpressions"
        (record "RegularExpressionsClientCapabilities"
          [needs "engine" text, allows "version" text]),
      allows "markdown"
        (record "MarkdownClientCapabilities"
          [needs "parser" text, allows "version" text, allows "allowedTags" (listOf text)]),
      allows "staleRequestSupport"
        (record "StaleRequestSupportClientCapabilities"
          [needs "cancel" flag, needs "retryOnContentModified" (listOf text)]),
      allows "positionEncodings" (listOf text)]

def clientCapabilities : Shape :=
  record "ClientCapabilities"
    [allows "workspace" workspace, allows "textDocument" documents, allows "window" window,
      allows "general" general, allows "experimental" anything]

def workspaceFolder : Shape :=
  record "WorkspaceFolder" [needs "uri" uri, needs "name" text]

def initialization : Shape :=
  record "InitializeParams"
    [allows "processId" count, allows "rootPath" text, spares "rootUri" uri,
      allows "initializationOptions" anything, needs "capabilities" clientCapabilities,
      spares "trace" (word ["off", "messages", "verbose"]),
      allows "workspaceFolders" (listOf workspaceFolder),
      allows "clientInfo" (record "ClientInfo" [needs "name" text, allows "version" text]),
      allows "locale" text]

end TemplateServer.Protocol.Structure
