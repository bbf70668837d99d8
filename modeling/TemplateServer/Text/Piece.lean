import TemplateServer.Text.Size

/-!
Pieces of a document: some of its characters together with the byte offset they start at.
-/

namespace TemplateServer.Text

structure Piece where
  start : Nat
  chars : List Char
deriving DecidableEq

namespace Piece

def stop (piece : Piece) : Nat :=
  piece.start + bytes piece.chars

def text (piece : Piece) : String :=
  String.ofList piece.chars

def takeWhile (piece : Piece) (takes : Char → Bool) : Piece :=
  ⟨piece.start, piece.chars.takeWhile takes⟩

/-- What follows the longest initial part whose characters all satisfy `drops`. -/
def dropWhile (piece : Piece) (drops : Char → Bool) : Piece :=
  ⟨piece.start + bytes (piece.chars.takeWhile drops), piece.chars.dropWhile drops⟩

def drop (piece : Piece) (count : Nat) : Piece :=
  ⟨piece.start + bytes (piece.chars.take count), piece.chars.drop count⟩

end Piece

end TemplateServer.Text
