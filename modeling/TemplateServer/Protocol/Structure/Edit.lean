import TemplateServer.Protocol.Structure.Basic

/-!
The structures of edits, and of what offers edits: completions and code actions.
-/

namespace TemplateServer.Protocol.Structure

open Shape

/-! ### Edits of one document -/

def textEdit : Shape :=
  record "TextEdit" [needs "range" range, needs "newText" text]

def annotatedEdit : Shape :=
  composite "AnnotatedTextEdit" [needs "annotationId" text]
    [[needs "range" range, needs "newText" text]]

def insertReplaceEdit : Shape :=
  record "InsertReplaceEdit"
    [needs "newText" text, needs "insert" range, needs "replace" range]

def documentEdit : Shape :=
  record "TextDocumentEdit"
    [needs "textDocument"
        (record "OptionalVersionedTextDocumentIdentifier"
          [needs "uri" uri, allows "version" signed]),
      needs "edits" (listOf (oneOf "OneOf" [textEdit, annotatedEdit]))]

/-! ### Edits of a workspace -/

def fileCreation : Shape :=
  record "CreateFile"
    [needs "uri" uri,
      allows "options"
        (record "CreateFileOptions" [allows "overwrite" flag, allows "ignoreIfExists" flag]),
      allows "annotationId" text]

def fileRenaming : Shape :=
  record "RenameFile"
    [needs "oldUri" uri, needs "newUri" uri,
      allows "options"
        (record "RenameFileOptions" [allows "overwrite" flag, allows "ignoreIfExists" flag]),
      allows "annotationId" text]

def fileDeletion : Shape :=
  record "DeleteFile"
    [needs "uri" uri,
      allows "options"
        (record "DeleteFileOptions"
          [allows "recursive" flag, allows "ignoreIfNotExists" flag,
            allows "annotationId" text])]

def fileOperation : Shape :=
  fun standing value =>
    match value.member? "kind" with
    | some (.string "create") => fileCreation standing value
    | some (.string "rename") => fileRenaming standing value
    | some (.string "delete") => fileDeletion standing value
    | some found => word ["create", "rename", "delete"] standing found
    | none => .error (.missing "kind")

def documentChanges : Shape :=
  oneOf "DocumentChanges"
    [listOf documentEdit,
      listOf (oneOf "DocumentChangeOperation" [fileOperation, documentEdit])]

def workspaceEdit : Shape :=
  record "WorkspaceEdit"
    [spares "changes" (mapOf "map" uri (listOf textEdit)),
      allows "documentChanges" documentChanges,
      allows "changeAnnotations"
        (mapOf "a map" text
          (record "ChangeAnnotation"
            [needs "label" text, allows "needsConfirmation" flag, allows "description" text]))]

/-! ### Offers -/

def labelDetails : Shape :=
  record "CompletionItemLabelDetails" [allows "detail" text, allows "description" text]

def completionItem : Shape :=
  record "CompletionItem"
    [needs "label" text, allows "labelDetails" labelDetails, allows "kind" signed,
      allows "detail" text, allows "documentation" documentation, allows "deprecated" flag,
      allows "preselect" flag, allows "sortText" text, allows "filterText" text,
      allows "insertText" text, allows "insertTextFormat" signed,
      allows "insertTextMode" signed,
      allows "textEdit" (oneOf "CompletionTextEdit" [textEdit, insertReplaceEdit]),
      allows "additionalTextEdits" (listOf textEdit), allows "command" command,
      allows "commitCharacters" (listOf text), allows "data" anything,
      allows "tags" (listOf signed)]

def codeAction : Shape :=
  record "CodeAction"
    [needs "title" text, allows "kind" text, allows "diagnostics" (listOf diagnostic),
      allows "edit" workspaceEdit, allows "command" command, allows "isPreferred" flag,
      allows "disabled" (record "CodeActionDisabled" [needs "reason" text]),
      allows "data" anything]

end TemplateServer.Protocol.Structure
