import Stencil.Text.Find

set_option autoImplicit false
set_option relaxedAutoImplicit false

/-!
Delimiters that a template may use in place of the usual ones. A source is cut at them into texts and
actions, and put together again with the usual delimiters around the actions.
-/

namespace Stencil.Template

open Stencil.Text

structure Delimiters where
  left : String
  right : String
deriving DecidableEq, Repr

def Delimiters.usual : Delimiters := ⟨"\x7b\x7b", "\x7d\x7d"⟩

/-- A part of a source: a text, or an action without its delimiters. -/
inductive Piece
  | text (s : List Char)
  | action (s : List Char)
deriving DecidableEq, Repr

namespace Delimiter

/-- The texts and actions of a source in turn, or the place in bytes of an action without an end. A delimiter
is the leftmost one there is. `offset` is the place of the source in a larger one. -/
def pieces (left right : List Char) (offset : Nat) (s : List Char) : Except Nat (List Piece) :=
  match _h : Find.cut? left s with
  | none => .ok [.text s]
  | some (before, rest) =>
    match _k : Find.cut? right rest with
    | none => .error (offset + Find.byteLength before)
    | some (inner, rest) =>
      if rest.length < s.length then
        let consumed := Find.byteLength (before ++ left ++ inner ++ right)
        (pieces left right (offset + consumed) rest).map fun ps => .text before :: .action inner :: ps
      else .error offset
termination_by s.length

/-- The action is a tag or a comment: its first and its last character are both the mark. -/
def isMarked (mark : Char) (s : List Char) : Bool :=
  2 ≤ s.length && s.head? == some mark && s.getLast? == some mark

/-- A text that would be taken for the beginning of an action. -/
def looksLikeAction (s : List Char) : Bool :=
  Find.occurs ['\x7b', '\x7b'] s || Find.occurs ['\x7b', '%'] s || Find.occurs ['\x7b', '#'] s
    || s.getLast? == some '\x7b'

/-- A part of a source with the usual delimiters. A text that would be taken for an action is protected. -/
def encode : Piece → List Char
  | .action s =>
    if isMarked '%' s || isMarked '#' s then '\x7b' :: s ++ ['\x7d']
    else ['\x7b', '\x7b'] ++ s ++ ['\x7d', '\x7d']
  | .text s =>
    if looksLikeAction s then "\x7b% raw %\x7d".toList ++ s ++ "\x7b% endraw %\x7d".toList
    else s

/-- The source with the usual delimiters in place of its own, or the place in bytes of an action without an
end. -/
def translate (d : Delimiters) (source : List Char) : Except Nat (List Char) :=
  if d = .usual then .ok source
  else (pieces d.left.toList d.right.toList 0 source).map (·.flatMap encode)

end Delimiter

end Stencil.Template
