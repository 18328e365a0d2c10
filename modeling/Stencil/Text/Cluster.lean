import Stencil.Text.CharRanges
import Stencil.Text.ClusterTable

set_option autoImplicit false
set_option relaxedAutoImplicit false

/-!
Grapheme clusters: what a reader takes for one character.
-/

namespace Stencil.Text.Cluster

open Stencil.Text ClusterTable

/-- A line break or a control character, which never joins another one. -/
def isControl (c : Char) : Bool := c == '\r' || c == '\n' || CharRanges.contains control c

def isLead (c : Char) : Bool := CharRanges.contains [(0x1100, 0x115f), (0xa960, 0xa97c)] c

def isVowel (c : Char) : Bool := CharRanges.contains [(0x1160, 0x11a7), (0xd7b0, 0xd7c6)] c

def isTrail (c : Char) : Bool := CharRanges.contains [(0x11a8, 0x11ff), (0xd7cb, 0xd7fb)] c

def isSyllable (c : Char) : Bool := CharRanges.contains [(0xac00, 0xd7a3)] c

/-- A whole Korean syllable without a trailing consonant. -/
def isOpenSyllable (c : Char) : Bool := isSyllable c && (c.toNat - 0xac00) % 28 == 0

def joinsSyllable (a b : Char) : Bool :=
  isLead a && (isLead b || isVowel b || isSyllable b)
    || (isOpenSyllable a || isVowel a) && (isVowel b || isTrail b)
    || (isSyllable a || isTrail a) && isTrail b

def isRegional (c : Char) : Bool := CharRanges.contains [(0x1f1e6, 0x1f1ff)] c

def joiner : Char := '\u200d'

def isExtending (c : Char) : Bool := c == joiner || CharRanges.contains extend c

/-- What has been read of a cluster: its last character, whether it ends in an unpaired letter of a flag,
and whether it ends in a picture with its extensions, or in such a picture and a joiner. -/
structure Ending where
  last : Char
  unpaired : Bool
  picture : Bool
  joined : Bool

def Ending.first (c : Char) : Ending :=
  ⟨c, isRegional c, CharRanges.contains pictographic c, false⟩

def Ending.takes (e : Ending) (c : Char) : Bool :=
  if e.last == '\r' && c == '\n' then true
  else if isControl e.last || isControl c then false
  else
    joinsSyllable e.last c || isExtending c || CharRanges.contains spacingMark c
      || CharRanges.contains prepend e.last || e.joined && CharRanges.contains pictographic c
      || e.unpaired && isRegional c

def Ending.extend (e : Ending) (c : Char) : Ending where
  last := c
  unpaired := isRegional c && !(e.unpaired && isRegional e.last)
  picture := CharRanges.contains pictographic c || e.picture && isExtending c && c != joiner
  joined := e.picture && c == joiner

/-- The rest of the cluster under way, and the clusters behind it. -/
def split (e : Ending) : List Char → List Char × List (List Char)
  | [] => ([], [])
  | c :: r =>
    if e.takes c then
      let m := split (e.extend c) r
      (c :: m.1, m.2)
    else
      let m := split (Ending.first c) r
      ([], (c :: m.1) :: m.2)

def clusters : List Char → List (List Char)
  | [] => []
  | c :: r => let m := split (Ending.first c) r; (c :: m.1) :: m.2

theorem flatten_split (e : Ending) (s : List Char) : (split e s).1 ++ (split e s).2.flatten = s := by
  induction s generalizing e with
  | nil => rfl
  | cons c r ih =>
    simp only [split]
    split
    · simp [ih]
    · simp [ih]

theorem flatten_clusters (s : List Char) : (clusters s).flatten = s := by
  cases s with
  | nil => rfl
  | cons c r => simp [clusters, flatten_split]

end Stencil.Text.Cluster
