import TemplateServer.Text.Combining
import TemplateServer.Text.Composite

/-!
The composed normal form of texts: marks stand in the order of their combining classes, and
characters are drawn together where one character stands for two.
-/

namespace TemplateServer.Text

/-! ### Taking apart -/

def takeApart : Nat → Char → List Char
  | 0, c => [c]
  | depth + 1, c =>
    match parts? c with
    | none => [c]
    | some (first, second) => takeApart depth first ++ [second]

def mostParts : Nat :=
  4

/-- Puts a character in front of others, or behind those marks at their front that have a lower
class. -/
def placeMark (c : Char) : List Char → List Char
  | [] => [c]
  | next :: rest =>
    if combiningClass next != 0 && combiningClass next < combiningClass c then
      next :: placeMark c rest
    else
      c :: next :: rest

def apart (text : List Char) : List Char :=
  (text.flatMap (takeApart mostParts)).foldr placeMark []

/-! ### Drawing together -/

/-- The character that stands for a starter and a character behind some marks, the last one of which
stands first. A mark of the same or a higher class comes in between. -/
def joined? (starter : Char) (marks : List Char) (c : Char) : Option Char :=
  match marks with
  | [] => composite? starter c
  | last :: _ => if combiningClass c ≤ combiningClass last then none else composite? starter c

def drawFrom (starter : Char) (marks : List Char) : List Char → List Char
  | [] => starter :: marks.reverse
  | c :: rest =>
    match joined? starter marks c with
    | some composite => drawFrom composite marks rest
    | none =>
      if combiningClass c == 0 then starter :: marks.reverse ++ drawFrom c [] rest
      else drawFrom starter (c :: marks) rest

def drawn : List Char → List Char
  | [] => []
  | c :: rest => if combiningClass c == 0 then drawFrom c [] rest else c :: drawn rest

def normalForm (text : List Char) : List Char :=
  drawn (apart text)

end TemplateServer.Text
