import Diverge.Glob.Pattern
import Diverge.Text.ByteStrings

/-! Matching of file name patterns as the library runs it, on byte strings: the pattern is cut at
its stars, every piece is put at the first place where it fits, and a star skips bytes. -/
namespace Diverge.Glob.FileNames
open Text Text.ByteStrings

/-- What a pattern asks for at one place. -/
inductive Item
  | bytes (text : Bytes)
  | any
  | cls (negated : Bool) (ranges : List (Char × Char))
  deriving DecidableEq

def separator : UInt8 := 0x2f

/-- The items between the stars; `none` is the bad-pattern error. A byte of no character may stand in
the text of a pattern and not in a class. -/
def chunksFrom : Scan → List (Char × Bytes) → Option (List (List Item))
  | s,[] => if s = .top then some [[]] else none
  | s,(c,text) :: pieces =>
    if s ≠ .top ∧ s ≠ .escaped ∧ text ≠ String.utf8EncodeChar c then none
    else
      match scanChar s c with
      | .more s' => chunksFrom s' pieces
      | .emit .star => (chunksFrom .top pieces).map ([] :: ·)
      | .emit (.one (.char _)) => (chunksFrom .top pieces).map (List.modifyHead (.bytes text :: ·))
      | .emit (.one .any) => (chunksFrom .top pieces).map (List.modifyHead (.any :: ·))
      | .emit (.one (.cls negated ranges)) =>
        (chunksFrom .top pieces).map (List.modifyHead (.cls negated ranges :: ·))
      | .bad => none

def matchChunk : List Item → Bytes → Option Bytes
  | [],name => some name
  | .bytes text :: items,name =>
    if text.isPrefixOf name then matchChunk items (name.drop text.length) else none
  | .any :: items,name =>
    match pieces name with
    | [] => none
    | (_,text) :: _ => if name.head? = some separator then none else matchChunk items (name.drop text.length)
  | .cls negated ranges :: items,name =>
    match pieces name with
    | [] => none
    | (c,text) :: _ => if inRanges ranges c != negated then matchChunk items (name.drop text.length) else none

/-- The places that a star can reach. -/
def afterStar : Bytes → List Bytes
  | [] => [[]]
  | b :: name => (b :: name) :: if b = separator then [] else afterStar name

/-- The chunks after a star, each at the first place where it fits. The last one must reach the end of
the name; if it is empty, the pattern ends in a star. -/
def matchStarred : List (List Item) → Bytes → Bool
  | [],name => name.isEmpty
  | chunk :: chunks,name =>
    if chunk = [] then if chunks = [] then !name.contains separator else matchStarred chunks name
    else
      match (afterStar name).findSome? fun at_ =>
          (matchChunk chunk at_).filter fun rest => rest.isEmpty || !chunks.isEmpty with
      | some rest => matchStarred chunks rest
      | none => false

def matched (pattern name : Bytes) : Bool :=
  match chunksFrom .top (pieces pattern) with
  | none | some [] => false
  | some (first :: chunks) =>
    match (matchChunk first name).filter fun rest => rest.isEmpty || !chunks.isEmpty with
    | some rest => matchStarred chunks rest
    | none => false

example : matched (utf8 "lib_*_[^a-c]?") (utf8 "lib_x_y_dé") = true := by decide +kernel

end Diverge.Glob.FileNames
