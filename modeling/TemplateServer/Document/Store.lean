import TemplateServer.Uri.Basic

/-!
The documents that are open in the editor. A document is replaced as a whole when it changes.
-/

namespace TemplateServer

structure Document where
  uri : Uri
  version : Int
  text : String
deriving DecidableEq

inductive ChangeOutcome where
  | updated
  /-- The document was not open, and is now. -/
  | opened
  /-- The change is older than the document and was not made. -/
  | stale
deriving DecidableEq

structure Store where
  documents : List Document
deriving DecidableEq

namespace Store

def empty : Store :=
  ⟨[]⟩

def find? (store : Store) (uri : Uri) : Option Document :=
  store.documents.find? fun document => document.uri = uri

def size (store : Store) : Nat :=
  store.documents.length

/-- Opens a document, and tells whether it was not open before. One that is open stays as it
is. -/
def insertNew (document : Document) (store : Store) : Bool × Store :=
  match store.find? document.uri with
  | some _ => (false, store)
  | none => (true, ⟨store.documents ++ [document]⟩)

def replace (document : Document) (store : Store) : Store :=
  ⟨store.documents.map fun other => if other.uri = document.uri then document else other⟩

def change (document : Document) (store : Store) : ChangeOutcome × Store :=
  match store.find? document.uri with
  | some old =>
    if document.version < old.version then (.stale, store)
    else (.updated, store.replace document)
  | none => (.opened, ⟨store.documents ++ [document]⟩)

def erase (uri : Uri) (store : Store) : Option Document × Store :=
  (store.find? uri, ⟨store.documents.filter fun document => document.uri ≠ uri⟩)

end Store

end TemplateServer
