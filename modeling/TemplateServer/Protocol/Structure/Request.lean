import TemplateServer.Protocol.Structure.Edit

/-!
The parameters of requests and notifications.
-/

namespace TemplateServer.Protocol.Structure

open Shape

/-! ### Notifications -/

def opening : Shape :=
  record "DidOpenTextDocumentParams" [needs "textDocument" documentItem]

def changing : Shape :=
  record "DidChangeTextDocumentParams"
    [needs "textDocument" versionedDocument, needs "contentChanges" (listOf contentChange)]

def closing : Shape :=
  record "DidCloseTextDocumentParams" [needs "textDocument" documentIdentifier]

def configuring : Shape :=
  record "DidChangeConfigurationParams" [needs "settings" anything]

/-! ### Questions about places -/

def hovering : Shape :=
  composite "HoverParams" [] [placeParts, progressParts]

def completing : Shape :=
  composite "CompletionParams"
    [allows "context"
      (record "CompletionContext"
        [needs "triggerKind" signed, allows "triggerCharacter" text])]
    [placeParts, progressParts, partialParts]

def atPlace (name : String) : Shape :=
  composite name [] [placeParts, progressParts, partialParts]

def atPlaceOnce (name : String) : Shape :=
  composite name [] [placeParts, progressParts]

def references : Shape :=
  composite "ReferenceParams"
    [needs "context" (record "ReferenceContext" [needs "includeDeclaration" flag])]
    [placeParts, progressParts, partialParts]

def naming : Shape :=
  composite "RenameParams" [needs "newName" text] [placeParts, progressParts]

def namingPlace : Shape :=
  record "TextDocumentPositionParams" placeParts

/-! ### Signatures -/

def parameterInformation : Shape :=
  record "ParameterInformation"
    [needs "label" (oneOf "ParameterLabel" [text, pairOf count]),
      allows "documentation" documentation]

def signatureInformation : Shape :=
  record "SignatureInformation"
    [needs "label" text, allows "documentation" documentation,
      allows "parameters" (listOf parameterInformation), allows "activeParameter" count]

def signatures : Shape :=
  composite "SignatureHelpParams"
    [allows "context"
      (record "SignatureHelpContext"
        [needs "triggerKind" signed, allows "triggerCharacter" text, needs "isRetrigger" flag,
          allows "activeSignatureHelp"
            (record "SignatureHelp"
              [needs "signatures" (listOf signatureInformation),
                allows "activeSignature" count, allows "activeParameter" count])])]
    [placeParts, progressParts]

/-! ### Hierarchies -/

def hierarchyItem (name : String) (tags : Shape) : Shape :=
  record name
    [needs "name" text, needs "kind" signed, allows "tags" tags, allows "detail" text,
      needs "uri" uri, needs "range" range, needs "selectionRange" range,
      allows "data" anything]

def callQuestion (name : String) : Shape :=
  composite name [needs "item" (hierarchyItem "CallHierarchyItem" (listOf signed))]
    [progressParts, partialParts]

def typeQuestion (name : String) : Shape :=
  composite name [needs "item" (hierarchyItem "TypeHierarchyItem" signed)]
    [progressParts, partialParts]

/-! ### Questions about documents -/

def aboutDocument (name : String) (more : List Part) : Shape :=
  composite name (needs "textDocument" documentIdentifier :: more) [progressParts, partialParts]

def aboutDocumentOnce (name : String) (more : List Part) : Shape :=
  composite name (needs "textDocument" documentIdentifier :: more) [progressParts]

def documentLink : Shape :=
  record "DocumentLink"
    [needs "range" range, allows "target" uri, allows "tooltip" text, allows "data" anything]

def codeLens : Shape :=
  record "CodeLens" [needs "range" range, allows "command" command, allows "data" anything]

def inlineValues : Shape :=
  aboutDocumentOnce "InlineValueParams"
    [needs "range" range,
      needs "context"
        (record "InlineValueContext" [needs "frameId" signed, needs "stoppedLocation" range])]

def hintLabelPart : Shape :=
  record "InlayHintLabelPart"
    [needs "value" text, allows "tooltip" (oneOf "InlayHintLabelPartTooltip" [text, markup]),
      allows "location" location, allows "command" command]

def hint : Shape :=
  record "InlayHint"
    [needs "position" position,
      needs "label" (oneOf "InlayHintLabel" [text, listOf hintLabelPart]),
      allows "kind" signed, allows "textEdits" (listOf textEdit),
      allows "tooltip" (oneOf "InlayHintTooltip" [text, markup]), allows "paddingLeft" flag,
      allows "paddingRight" flag, allows "data" anything]

def workspaceReports : Shape :=
  composite "WorkspaceDiagnosticParams"
    [allows "identifier" text,
      needs "previousResultIds"
        (listOf (record "PreviousResultId" [needs "uri" uri, needs "value" text]))]
    [progressParts, partialParts]

def actionQuestion : Shape :=
  aboutDocument "CodeActionParams"
    [needs "range" range,
      needs "context"
        (record "CodeActionContext"
          [needs "diagnostics" (listOf diagnostic), allows "only" (listOf text),
            allows "triggerKind" signed])]

def colorQuestion : Shape :=
  aboutDocument "ColorPresentationParams"
    [needs "color"
        (record "Color"
          [needs "red" single, needs "green" single, needs "blue" single,
            needs "alpha" single]),
      needs "range" range]

def formattingOptions : Shape :=
  extensible "FormattingOptions"
    [needs "tabSize" count, needs "insertSpaces" flag, allows "trimTrailingWhitespace" flag,
      allows "insertFinalNewline" flag, allows "trimFinalNewlines" flag]
    (oneOf "FormattingProperty" [flag, signed, text])

def typedFormatting : Shape :=
  composite "DocumentOnTypeFormattingParams"
    [needs "ch" text, needs "options" formattingOptions] [placeParts]

/-! ### Workspaces -/

def symbolQuestion : Shape :=
  composite "WorkspaceSymbolParams" [needs "query" text] [partialParts, progressParts]

def workspaceSymbol : Shape :=
  record "WorkspaceSymbol"
    [needs "name" text, needs "kind" signed, allows "tags" (listOf signed),
      allows "containerName" text,
      needs "location" (oneOf "OneOf" [location, record "WorkspaceLocation" [needs "uri" uri]]),
      allows "data" anything]

def fileList (name itemName : String) (keys : List String) : Shape :=
  record name [needs "files" (listOf (record itemName (keys.map fun key => needs key text)))]

def commandCall : Shape :=
  composite "ExecuteCommandParams"
    [needs "command" text, defaults "arguments" (listOf anything)] [progressParts]

def saving : Shape :=
  record "WillSaveTextDocumentParams"
    [needs "textDocument" documentIdentifier, needs "reason" signed]

/-! ### Requests that are not offered -/

def unoffered : List (String × Shape) :=
  [("textDocument/declaration", atPlace "GotoDefinitionParams"),
    ("textDocument/definition", atPlace "GotoDefinitionParams"),
    ("textDocument/typeDefinition", atPlace "GotoDefinitionParams"),
    ("textDocument/implementation", atPlace "GotoDefinitionParams"),
    ("textDocument/references", references),
    ("textDocument/prepareCallHierarchy", atPlaceOnce "CallHierarchyPrepareParams"),
    ("callHierarchy/incomingCalls", callQuestion "CallHierarchyIncomingCallsParams"),
    ("callHierarchy/outgoingCalls", callQuestion "CallHierarchyOutgoingCallsParams"),
    ("textDocument/prepareTypeHierarchy", atPlaceOnce "TypeHierarchyPrepareParams"),
    ("typeHierarchy/supertypes", typeQuestion "TypeHierarchySupertypesParams"),
    ("typeHierarchy/subtypes", typeQuestion "TypeHierarchySubtypesParams"),
    ("textDocument/documentHighlight", atPlace "DocumentHighlightParams"),
    ("textDocument/documentLink", aboutDocument "DocumentLinkParams" []),
    ("documentLink/resolve", documentLink),
    ("textDocument/codeLens", aboutDocument "CodeLensParams" []),
    ("codeLens/resolve", codeLens),
    ("textDocument/foldingRange", aboutDocument "FoldingRangeParams" []),
    ("textDocument/selectionRange",
      aboutDocument "SelectionRangeParams" [needs "positions" (listOf position)]),
    ("textDocument/documentSymbol", aboutDocument "DocumentSymbolParams" []),
    ("textDocument/semanticTokens/full", aboutDocument "SemanticTokensParams" []),
    ("textDocument/semanticTokens/full/delta",
      aboutDocument "SemanticTokensDeltaParams" [needs "previousResultId" text]),
    ("textDocument/semanticTokens/range",
      aboutDocument "SemanticTokensRangeParams" [needs "range" range]),
    ("textDocument/inlineValue", inlineValues),
    ("textDocument/inlayHint", aboutDocumentOnce "InlayHintParams" [needs "range" range]),
    ("inlayHint/resolve", hint),
    ("textDocument/moniker", atPlace "MonikerParams"),
    ("textDocument/diagnostic",
      aboutDocument "DocumentDiagnosticParams"
        [allows "identifier" text, allows "previousResultId" text]),
    ("workspace/diagnostic", workspaceReports),
    ("textDocument/signatureHelp", signatures),
    ("textDocument/codeAction", actionQuestion),
    ("codeAction/resolve", codeAction),
    ("textDocument/documentColor", aboutDocument "DocumentColorParams" []),
    ("textDocument/colorPresentation", colorQuestion),
    ("textDocument/formatting",
      aboutDocumentOnce "DocumentFormattingParams" [needs "options" formattingOptions]),
    ("textDocument/rangeFormatting",
      aboutDocumentOnce "DocumentRangeFormattingParams"
        [needs "range" range, needs "options" formattingOptions]),
    ("textDocument/onTypeFormatting", typedFormatting),
    ("textDocument/rename", naming),
    ("textDocument/prepareRename", namingPlace),
    ("textDocument/linkedEditingRange", atPlaceOnce "LinkedEditingRangeParams"),
    ("workspace/symbol", symbolQuestion),
    ("workspaceSymbol/resolve", workspaceSymbol),
    ("workspace/willCreateFiles", fileList "CreateFilesParams" "FileCreate" ["uri"]),
    ("workspace/willRenameFiles", fileList "RenameFilesParams" "FileRename" ["oldUri", "newUri"]),
    ("workspace/willDeleteFiles", fileList "DeleteFilesParams" "FileDelete" ["uri"]),
    ("workspace/executeCommand", commandCall),
    ("textDocument/willSaveWaitUntil", saving)]

end TemplateServer.Protocol.Structure
