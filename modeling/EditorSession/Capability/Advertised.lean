import EditorSession.Schema

/-!
# What a backend advertises

A backend answers the opening of a session with an object that says what it provides. Of its members
only two matter here, the providers of completions and of definitions, but all those that the
protocol knows of have to be of their kinds. Some kinds are alternatives, and a value that fits none
of them is refused without saying why.
-/

namespace EditorSession.Capability

open Schema (Decoder Member Result)

/-- What a backend says it provides. -/
structure Advertised where
  completion : Bool := false
  definition : Bool := false
  deriving DecidableEq, Repr, Inhabited

namespace Advertised

/-! ### Kinds of values -/

/-- A kind of value of which nothing is kept. -/
def unkept {α : Type} (kind : Decoder α) : Decoder Unit :=
  fun dialect datum => (kind dialect datum).map fun _ => ()

/-- A truth value. -/
def flag : Decoder Unit := unkept Schema.flag

/-- A text. -/
def text : Decoder Unit := unkept Schema.text

/-- A list of values of a kind. -/
def listOf (kind : Decoder Unit) : Decoder Unit := unkept (Schema.listOf kind)

/-- An integer of 32 bits with sign. -/
def smallInteger : Decoder Unit
  | _, .integer value =>
    if -Int.ofNat (Nat.pow 2 31) ≤ value ∧ value < Int.ofNat (Nat.pow 2 31) then .ok ()
    else .error (.wrongType (.integer value) .integer)
  | _, found => .error (.wrongType found .integer)

/-- A value that fits one of several kinds. -/
def oneOf (name : String) (kinds : List (Decoder Unit)) : Decoder Unit :=
  fun dialect datum =>
    if kinds.any fun kind => (kind dialect datum).toOption.isSome then .ok ()
    else .error (.noAlternative name)

/-- A member that an object must have. -/
def needed (name : String) (kind : Decoder Unit) : Member Unit := .of name kind fun _ _ => ()

/-- A member that an object may have. -/
def option (name : String) (kind : Decoder Unit) : Member Unit :=
  needed name (unkept (Schema.optional kind))

/-- Refuses members in which one of some names is missing. -/
def requireAll (names : List String) (members : Members) : Result Unit :=
  match names.find? fun name => (members.find? name).isNone with
  | some name => .error (.missingField name)
  | none => .ok ()

/-- An object with some members, which cannot be given as a list. -/
def described (name : String) (fields : List (Member Unit)) (required : List String := []) :
    Decoder Unit
  | dialect, .record members => do
    Schema.overlayKnown dialect fields members ()
    requireAll required members
  | _, found => .error (.wrongType found (.record name))

/-- An object with some members, or the list of all of them in order. -/
def object (name : String) (fields : List (Member Unit)) (required : List String := []) :
    Decoder Unit
  | dialect, .list items => do
    Schema.Shape.overlayItems dialect fields items ()
    if items.length < fields.length then throw (.tooFew items.length (.fields name fields.length))
    else if fields.length < items.length then throw (.tooMany items.length)
    else return ()
  | dialect, datum => described name fields required dialect datum

/-- The option of a provider to report its progress. -/
def progress : Member Unit := option "workDoneProgress" flag

/-- The object of a provider, which may report its progress. -/
def provider (name : String) (fields : List (Member Unit)) (required : List String := []) :
    Decoder Unit
  | dialect, datum => do
    described name fields required dialect datum
    described name [progress] [] dialect datum

/-- A provider that is switched on by a truth value or described by its options. -/
def switchOr (name : String) (fields : List (Member Unit)) : Decoder Unit :=
  oneOf name [flag, provider name fields]

/-! ### Documents -/

/-- The documents that a provider is for, and the name of its registration. -/
def registration : Decoder Unit :=
  object "StaticTextDocumentRegistrationOptions" [
    option "documentSelector" (listOf (object "DocumentFilter" [
      option "language" text, option "scheme" text, option "pattern" text])),
    option "id" text]

/-- How documents are kept in step: a number, or options. -/
def synchronization : Decoder Unit :=
  oneOf "TextDocumentSyncCapability" [
    smallInteger,
    object "TextDocumentSyncOptions" [
      option "openClose" flag,
      option "change" smallInteger,
      option "willSave" flag,
      option "willSaveWaitUntil" flag,
      option "save" (oneOf "TextDocumentSyncSaveOptions" [
        flag, object "SaveOptions" [option "includeText" flag]])]]

/-- The notebooks that a rule is for: those of a type, of a scheme or of a pattern. -/
def notebook : Decoder Unit :=
  let filter (required : String) : Decoder Unit :=
    let part (name : String) : Member Unit :=
      if name = required then needed name text else option name text
    described "NotebookDocumentFilter" [part "notebook_type", part "scheme", part "pattern"]
      [required]
  oneOf "Notebook" [text,
    oneOf "NotebookDocumentFilter" [filter "notebook_type", filter "scheme", filter "pattern"]]

/-- The cells that a rule is for. -/
def cells : Decoder Unit :=
  listOf (object "NotebookCellSelector" [needed "language" text] ["language"])

/-- How notebooks are kept in step. -/
def notebookSynchronization : Decoder Unit :=
  let selector := needed "notebookSelector" (listOf (oneOf "NotebookSelector" [
    described "NotebookSelector" [needed "notebook" notebook, option "cells" cells] ["notebook"],
    described "NotebookSelector" [option "notebook" notebook, needed "cells" cells] ["cells"]]))
  oneOf "OneOf" [
    object "NotebookDocumentSyncOptions" [selector, option "save" flag] ["notebookSelector"],
    object "NotebookDocumentSyncRegistrationOptions"
      [selector, option "save" flag, option "id" text] ["notebookSelector"]]

/-! ### Providers -/

/-- A provider of completions. -/
def completionProvider : Decoder Unit :=
  provider "CompletionOptions" [
    option "resolveProvider" flag,
    option "triggerCharacters" (listOf text),
    option "allCommitCharacters" (listOf text),
    option "completionItem" (object "CompletionOptionsCompletionItem" [
      option "labelDetailsSupport" flag])]

/-- A provider of help with signatures. -/
def signatureHelp : Decoder Unit :=
  provider "SignatureHelpOptions" [
    option "triggerCharacters" (listOf text), option "retriggerCharacters" (listOf text)]

/-- A provider of formatting while text is typed. -/
def typingFormat : Decoder Unit :=
  object "DocumentOnTypeFormattingOptions" [
    needed "firstTriggerCharacter" text, option "moreTriggerCharacter" (listOf text)]
    ["firstTriggerCharacter"]

/-- A provider that is switched on, has nothing to say, or is for some documents. -/
def switchOrRegistration (name options : String) : Decoder Unit :=
  oneOf name [flag, object options [], registration]

/-- A provider of the meaning of tokens. -/
def semanticTokens : Decoder Unit :=
  oneOf "SemanticTokensServerCapabilities" [
    provider "SemanticTokensOptions" [
      needed "legend" (object "SemanticTokensLegend" [
        needed "tokenTypes" (listOf text), needed "tokenModifiers" (listOf text)]
        ["tokenTypes", "tokenModifiers"]),
      option "range" flag,
      option "full" (oneOf "SemanticTokensFullOptions" [
        flag, described "SemanticTokensFullOptions" [option "delta" flag]])]
      ["legend"]]

/-- A provider of diagnostics that are asked for. -/
def diagnostics : Decoder Unit :=
  oneOf "DiagnosticServerCapabilities" [
    provider "DiagnosticOptions" [
      option "identifier" text,
      needed "interFileDependencies" flag,
      needed "workspaceDiagnostics" flag]
      ["interFileDependencies", "workspaceDiagnostics"]]

/-! ### Workspaces -/

/-- What a pattern of paths is for. -/
inductive PathKind
  | file
  | folder
  deriving DecidableEq, Repr, Inhabited

instance : Vocabulary PathKind where
  all := [.file, .folder]
  name
    | .file => "file"
    | .folder => "folder"

/-- The operations on files that a backend wants to hear of. -/
def fileOperation : Decoder Unit :=
  object "FileOperationRegistrationOptions" [
    needed "filters" (listOf (object "FileOperationFilter" [
      option "scheme" text,
      needed "pattern" (object "FileOperationPattern" [
        needed "glob" text,
        option "matches" (unkept (Schema.keyword PathKind)),
        option "options" (object "FileOperationPatternOptions" [option "ignoreCase" flag])]
        ["glob"])]
      ["pattern"]))]
    ["filters"]

/-- What a backend provides for whole workspaces. -/
def workspace : Decoder Unit :=
  object "WorkspaceServerCapabilities" [
    option "workspaceFolders" (object "WorkspaceFoldersServerCapabilities" [
      option "supported" flag,
      option "changeNotifications" (oneOf "OneOf" [flag, text])]),
    option "fileOperations" (object "WorkspaceFileOperationsServerCapabilities" [
      option "didCreate" fileOperation, option "willCreate" fileOperation,
      option "didRename" fileOperation, option "willRename" fileOperation,
      option "didDelete" fileOperation, option "willDelete" fileOperation])]

/-! ### All members -/

/-- A member of what a backend provides that is looked at and not kept. -/
def member (name : String) (kind : Decoder Unit) : Member Advertised :=
  .of name (Schema.optional kind) fun _ advertised => advertised

/-- A member that is looked at for whether it is there. -/
def kept (name : String) (kind : Decoder Unit) (put : Bool → Advertised → Advertised) :
    Member Advertised :=
  .of name (Schema.optional kind) fun provider => put provider.isSome

/-- The members of what a backend provides, in the order in which a list gives them. -/
def fields : List (Member Advertised) := [
  member "positionEncoding" text,
  member "textDocumentSync" synchronization,
  member "notebookDocumentSync" notebookSynchronization,
  member "selectionRangeProvider" (switchOr "SelectionRangeProviderCapability" []),
  member "hoverProvider" (switchOr "HoverProviderCapability" []),
  kept "completionProvider" completionProvider
    fun completion advertised => { advertised with completion },
  member "signatureHelpProvider" signatureHelp,
  kept "definitionProvider" (switchOr "OneOf" [])
    fun definition advertised => { advertised with definition },
  member "typeDefinitionProvider" (oneOf "TypeDefinitionProviderCapability" [flag, registration]),
  member "implementationProvider" (oneOf "ImplementationProviderCapability" [flag, registration]),
  member "referencesProvider" (switchOr "OneOf" []),
  member "documentHighlightProvider" (switchOr "OneOf" []),
  member "documentSymbolProvider" (switchOr "OneOf" [option "label" text]),
  member "workspaceSymbolProvider" (switchOr "OneOf" [option "resolveProvider" flag]),
  member "codeActionProvider" (switchOr "CodeActionProviderCapability" [
    option "codeActionKinds" (listOf text), option "resolveProvider" flag]),
  member "codeLensProvider" (object "CodeLensOptions" [option "resolveProvider" flag]),
  member "documentFormattingProvider" (switchOr "OneOf" []),
  member "documentRangeFormattingProvider" (switchOr "OneOf" []),
  member "documentOnTypeFormattingProvider" typingFormat,
  member "renameProvider" (switchOr "OneOf" [option "prepareProvider" flag]),
  member "documentLinkProvider"
    (provider "DocumentLinkOptions" [option "resolveProvider" flag]),
  member "colorProvider" (switchOrRegistration "ColorProviderCapability" "ColorProviderOptions"),
  member "foldingRangeProvider"
    (switchOrRegistration "FoldingRangeProviderCapability" "FoldingProviderOptions"),
  member "declarationProvider" (switchOr "DeclarationCapability" []),
  member "executeCommandProvider"
    (provider "ExecuteCommandOptions" [needed "commands" (listOf text)] ["commands"]),
  member "workspace" workspace,
  member "callHierarchyProvider" (switchOr "CallHierarchyServerCapability" []),
  member "semanticTokensProvider" semanticTokens,
  member "monikerProvider" (switchOr "OneOf" []),
  member "linkedEditingRangeProvider" (switchOr "LinkedEditingRangeServerCapabilities" []),
  member "inlineValueProvider" (switchOr "OneOf" []),
  member "inlayHintProvider" (switchOr "OneOf" [option "resolveProvider" flag]),
  member "diagnosticProvider" diagnostics,
  member "experimental" (fun _ _ => .ok ())]

/-- Reads what a backend says it provides: an object, or the list of all members. -/
def decode : Decoder Advertised
  | dialect, .record members => Schema.overlayKnown dialect fields members {}
  | dialect, .list items => do
    let advertised ← Schema.Shape.overlayItems dialect fields items {}
    if items.length < fields.length then
      throw (.tooFew items.length (.fields "ServerCapabilities" fields.length))
    else if fields.length < items.length then throw (.tooMany items.length)
    else return advertised
  | _, found => .error (.wrongType found (.record "ServerCapabilities"))

end Advertised

end EditorSession.Capability
