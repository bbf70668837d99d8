import TemplateServer.Uri.Escape

/-!
Paths of addresses. A path is a list of segments; a segment of one dot stands for nothing, and one
of two dots takes back the segment before it, unless that is a drive letter.
-/

namespace TemplateServer.Uri

open Text

def isDot (segment : List Char) : Bool :=
  segment.map Char.toLower ∈ [['.'], ['%', '2', 'e']]

def isDoubleDot (segment : List Char) : Bool :=
  segment.map Char.toLower ∈
    [['.', '.'], ['%', '2', 'e', '.'], ['.', '%', '2', 'e'], ['%', '2', 'e', '%', '2', 'e']]

def isDriveLetter : List Char → Bool
  | [letter, mark] => letter.isAlpha && (mark == ':' || mark == '|')
  | _ => false

def normalDrive (segment : List Char) : List Char :=
  segment.take 1 ++ [':']

def takeBack : List (List Char) → List (List Char)
  | [] => []
  | segment :: rest => if isDriveLetter segment then segment :: rest else rest

/-- A segment as it is kept behind those so far. If drives count, a drive letter at the front gets a
colon. -/
def keptSegment (drives : Bool) (done : List (List Char)) (segment : List Char) : List Char :=
  if drives && done.isEmpty && isDriveLetter segment then normalDrive segment else segment

/-- Resolves segments one by one, where `done` are those so far, last one first. A path that ends
in dots ends in a slash. -/
def resolveDots (drives : Bool) (done : List (List Char)) : List (List Char) → List (List Char)
  | [] => done.reverse
  | segment :: rest =>
    let kept :=
      if isDoubleDot segment then takeBack done
      else if isDot segment then done
      else keptSegment drives done segment :: done
    let closed :=
      if rest.isEmpty && (isDoubleDot segment || isDot segment) then [] :: kept else kept
    resolveDots drives closed rest

/-- The segments of a path. The slash in front of the first one may be missing. -/
def pathSegments (drives : Bool) (separates : Char → Bool) (path : List Char) :
    List (List Char) :=
  let body :=
    match path with
    | [] => []
    | c :: rest => if separates c then rest else c :: rest
  resolveDots drives [] ((splitAt separates body).map (escape inPath))

def joinPath (segments : List (List Char)) : List Char :=
  segments.flatMap ('/' :: ·)

end TemplateServer.Uri
