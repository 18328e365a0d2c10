import Mathlib.Logic.ExistsUnique
import Stencil.Proofs.Template.Encoding
import Stencil.Proofs.Text.Utf8
import Stencil.Template.Delimiter

set_option autoImplicit false
set_option relaxedAutoImplicit false

/-!
How a source is divided at its delimiters. Main statement: there is one way to take actions off a source, each from the
first left delimiter of what remains to the first right delimiter behind it. Texts and actions are written in turn with
the usual delimiters, or the place is told where an action begins that does not end; and no character is cut in two.
-/

namespace Stencil.Template

open Stencil.Text Find

/-- An action of a source and the text in front of it. -/
structure Turn where
  text : List Char
  action : List Char

namespace Turn

def written (d : Delimiters) (t : Turn) : List Char := t.text ++ (d.left.toList ++ (t.action ++ d.right.toList))

def pieces (t : Turn) : List Piece := [.text t.text, .action t.action]

end Turn

/-- What is behind the last turn of a source: a text without actions, or a text and an action that does not end. -/
inductive Ending
  | whole (last : List Char)
  | cutOff (text behind : List Char)

def Ending.written (d : Delimiters) : Ending → List Char
  | .whole last => last
  | .cutOff text behind => text ++ (d.left.toList ++ behind)

/-- Turns are taken off a source one after another. An action begins at the first left delimiter of what remains, and
ends at the first right delimiter behind that. -/
inductive Divides (d : Delimiters) : List Char → List Turn → Ending → Prop
  | whole {s : List Char} : ¬d.left.toList <:+: s → Divides d s [] (.whole s)
  | cutOff {s text behind : List Char} :
      IsFirst d.left.toList s text behind → ¬d.right.toList <:+: behind → Divides d s [] (.cutOff text behind)
  | turn {s after rest : List Char} {t : Turn} {ts : List Turn} {e : Ending} :
      IsFirst d.left.toList s t.text after → IsFirst d.right.toList after t.action rest → Divides d rest ts e →
      Divides d s (t :: ts) e

theorem length_lt_of_turn {d : Delimiters} (hleft : d.left ≠ "") {s text after action rest : List Char}
    (hopen : IsFirst d.left.toList s text after) (hclose : IsFirst d.right.toList after action rest) :
    rest.length < s.length := by
  have hpos : 0 < d.left.toList.length := by simpa [List.length_pos_iff] using hleft
  simp only [hopen.eq, hclose.eq, List.length_append]
  omega

namespace Divides

variable {d : Delimiters} {s : List Char} {ts us : List Turn} {e f : Ending}

theorem eq (h : Divides d s ts e) : s = ts.flatMap (Turn.written d) ++ e.written d := by
  induction h with
  | whole _ => rfl
  | cutOff hopen _ => exact hopen.eq
  | turn hopen hclose _ ih => simp [hopen.eq, hclose.eq, Turn.written, ← ih]

/-- What is put behind a source is divided together with what the division of the source leaves. -/
theorem append {r : List Char} (h : Divides d s ts e) (hr : Divides d (e.written d ++ r) us f) :
    Divides d (s ++ r) (ts ++ us) f := by
  induction h with
  | whole _ => exact hr
  | cutOff hopen _ => exact hopen.eq ▸ hr
  | turn hopen hclose _ ih => exact .turn (hopen.append r) (hclose.append r) (ih hr)

theorem isFirst_of_cutOff {text behind : List Char} (h : Divides d s ts (.cutOff text behind)) :
    IsFirst d.left.toList (text ++ (d.left.toList ++ behind)) text behind := by
  generalize he : Ending.cutOff text behind = e at h
  induction h with
  | whole => cases he
  | cutOff hopen _ =>
    cases he
    exact hopen.eq ▸ hopen
  | turn _ _ _ ih => exact ih he

theorem exists_of_left (hleft : d.left ≠ "") (s : List Char) : ∃ ts e, Divides d s ts e := by
  induction hlength : s.length using Nat.strongRecOn generalizing s with
  | ind n ih =>
    cases hopens : cut? d.left.toList s with
    | none => exact ⟨[], _, .whole ((cut?_eq_none_iff _ _).mp hopens)⟩
    | some p =>
      obtain ⟨text, after⟩ := p
      have hopen := (cut?_eq_some_iff _ _ _ _).mp hopens
      cases hcloses : cut? d.right.toList after with
      | none => exact ⟨[], _, .cutOff hopen ((cut?_eq_none_iff _ _).mp hcloses)⟩
      | some p =>
        obtain ⟨action, rest⟩ := p
        have hclose := (cut?_eq_some_iff _ _ _ _).mp hcloses
        obtain ⟨ts, e, h⟩ := ih rest.length (hlength ▸ length_lt_of_turn hleft hopen hclose) rest rfl
        exact ⟨⟨text, action⟩ :: ts, e, .turn hopen hclose h⟩

theorem unique (h : Divides d s ts e) (h' : Divides d s us f) : ts = us ∧ e = f := by
  induction h generalizing us with
  | whole hnone =>
    cases h' with
    | whole => exact ⟨rfl, rfl⟩
    | cutOff hopen _ => exact absurd (hopen.isInfix) hnone
    | turn hopen _ _ => exact absurd (hopen.isInfix) hnone
  | cutOff hopen hnone =>
    cases h' with
    | whole habsent => exact absurd (hopen.isInfix) habsent
    | cutOff hopen' _ =>
      obtain ⟨rfl, rfl⟩ := hopen.unique hopen'
      exact ⟨rfl, rfl⟩
    | turn hopen' hclose _ =>
      obtain ⟨-, rfl⟩ := hopen.unique hopen'
      exact absurd (hclose.isInfix) hnone
  | @turn s after rest t ts e hopen hclose _ ih =>
    cases h' with
    | whole habsent => exact absurd (hopen.isInfix) habsent
    | cutOff hopen' hnone =>
      obtain ⟨-, rfl⟩ := hopen.unique hopen'
      exact absurd (hclose.isInfix) hnone
    | @turn _ _ _ u us _ hopen' hclose' hrest =>
      obtain ⟨htext, rfl⟩ := hopen.unique hopen'
      obtain ⟨haction, rfl⟩ := hclose.unique hclose'
      obtain ⟨rfl, rfl⟩ := ih hrest
      obtain ⟨text, action⟩ := t
      obtain ⟨text', action'⟩ := u
      cases htext
      cases haction
      exact ⟨rfl, rfl⟩

end Divides

namespace Delimiter

/-- Texts and actions are written one after another, with a text at the end. -/
inductive Writes : List Turn → List Char → List Char → Prop
  | last {last out : List Char} : WritesText last out → Writes [] last out
  | turn {t : Turn} {ts : List Turn} {last text action out : List Char} :
      WritesText t.text text → WritesAction t.action action → Writes ts last out →
      Writes (t :: ts) last (text ++ (action ++ out))

theorem encode_turns_eq_iff {ts : List Turn} {last out : List Char} :
    (ts.flatMap Turn.pieces ++ [Piece.text last]).flatMap encode = out ↔ Writes ts last out := by
  induction ts generalizing out with
  | nil =>
    rw [List.flatMap_nil, List.nil_append, List.flatMap_singleton, encode_text_eq_iff]
    constructor
    · exact .last
    · rintro ⟨h⟩
      exact h
  | cons t ts ih =>
    have hcons : ((t :: ts).flatMap Turn.pieces ++ [Piece.text last]).flatMap encode =
        encode (.text t.text) ++
          (encode (.action t.action) ++ (ts.flatMap Turn.pieces ++ [Piece.text last]).flatMap encode) := by
      simp [Turn.pieces]
    rw [hcons]
    constructor
    · rintro rfl
      exact .turn (encode_text_eq_iff.mp rfl) (encode_action_eq_iff.mp rfl) (ih.mp rfl)
    · rintro (_ | ⟨htext, haction, hrest⟩)
      rw [encode_text_eq_iff.mpr htext, encode_action_eq_iff.mpr haction, ih.mpr hrest]

variable {d : Delimiters} {s : List Char} {ts : List Turn}

theorem pieces_of_turn (hleft : d.left ≠ "") {after rest : List Char} {t : Turn}
    (hopen : IsFirst d.left.toList s t.text after) (hclose : IsFirst d.right.toList after t.action rest)
    (offset : Nat) :
    pieces d.left.toList d.right.toList offset s =
      (pieces d.left.toList d.right.toList (offset + byteLength (t.written d)) rest).map (t.pieces ++ ·) := by
  have hopens := (cut?_eq_some_iff _ _ _ _).mpr hopen
  have hcloses := (cut?_eq_some_iff _ _ _ _).mpr hclose
  rw [pieces]
  split
  · next hnone => cases hopens.symm.trans hnone
  · next hsome =>
    cases hopens.symm.trans hsome
    split
    · next hnone => cases hcloses.symm.trans hnone
    · next hsome =>
      cases hcloses.symm.trans hsome
      simp [length_lt_of_turn hleft hopen hclose, Turn.written, Turn.pieces]

theorem pieces_of_divides (hleft : d.left ≠ "") {e : Ending} (h : Divides d s ts e) (offset : Nat) :
    pieces d.left.toList d.right.toList offset s =
      match e with
      | .whole last => .ok (ts.flatMap Turn.pieces ++ [.text last])
      | .cutOff text _ => .error (offset + byteLength (ts.flatMap (Turn.written d) ++ text)) := by
  induction h generalizing offset with
  | whole habsent =>
    rw [pieces]
    split
    · rfl
    · next hsome => cases ((cut?_eq_none_iff _ _).mpr habsent).symm.trans hsome
  | cutOff hopen hnone =>
    rw [pieces]
    split
    · next habsent => cases ((cut?_eq_some_iff _ _ _ _).mpr hopen).symm.trans habsent
    · next hsome =>
      cases ((cut?_eq_some_iff _ _ _ _).mpr hopen).symm.trans hsome
      split
      · rfl
      · next hsome => cases ((cut?_eq_none_iff _ _).mpr hnone).symm.trans hsome
  | @turn _ _ _ _ _ e hopen hclose _ ih =>
    rw [pieces_of_turn hleft hopen hclose, ih]
    cases e with
    | whole last => rfl
    | cutOff text behind => simp [Except.map, Nat.add_assoc]

/-- There is one way to divide a source by delimiters of its own. If it is divided to its end, the result is what is
written for its texts and actions in turn; if an action does not end, its place in bytes is told. The bytes of a
delimiter begin and end among those of the source only where characters do. -/
theorem source_divides_in_one_way {d : Delimiters} (hd : d ≠ .usual) (hleft : d.left ≠ "") (hright : d.right ≠ "")
    (source : String) :
    (∃! x : List Turn × Ending, Divides d source.toList x.1 x.2) ∧
    (∀ ts last, Divides d source.toList ts (.whole last) →
      source.toList = ts.flatMap (Turn.written d) ++ last ∧
        (∃ out, translate d source.toList = .ok out) ∧
        ∀ out, translate d source.toList = .ok out ↔ Writes ts last out) ∧
    (∀ ts text behind, Divides d source.toList ts (.cutOff text behind) →
      ∃ a b : String, source = a ++ (d.left ++ b) ∧ a.toList = ts.flatMap (Turn.written d) ++ text ∧
        b.toList = behind ∧ translate d source.toList = .error a.utf8ByteSize) ∧
    ∀ delimiter ∈ [d.left, d.right], ∀ x y, Utf8.encode source = x ++ (Utf8.encode delimiter ++ y) →
      String.Pos.Raw.IsValid source ⟨x.length⟩ ∧
        String.Pos.Raw.IsValid source ⟨x.length + delimiter.utf8ByteSize⟩ := by
  refine ⟨?_, fun ts last h => ⟨h.eq, ?_⟩, fun ts text behind h => ?_, fun delimiter hmem x y h => ?_⟩
  · obtain ⟨ts, e, h⟩ := Divides.exists_of_left hleft source.toList
    refine ⟨(ts, e), h, fun x hx => ?_⟩
    obtain ⟨hts, he⟩ := hx.unique h
    exact Prod.ext hts he
  · have hresult : translate d source.toList = .ok ((ts.flatMap Turn.pieces ++ [Piece.text last]).flatMap encode) := by
      rw [translate, if_neg hd, pieces_of_divides hleft h]
      rfl
    refine ⟨⟨_, hresult⟩, fun out => ?_⟩
    rw [hresult, Except.ok.injEq, encode_turns_eq_iff]
  · refine ⟨String.ofList (ts.flatMap (Turn.written d) ++ text), String.ofList behind, ?_, by simp, by simp, ?_⟩
    · exact String.toList_injective (by simpa [Ending.written] using h.eq)
    · rw [translate, if_neg hd, pieces_of_divides hleft h, Utf8.utf8ByteSize_ofList]
      simp [Except.map]
  · have hne : delimiter ≠ "" := by
      rcases List.mem_pair.mp hmem with rfl | rfl
      · exact hleft
      · exact hright
    obtain ⟨a, b, rfl, rfl, rfl⟩ := Utf8.exists_of_encode_eq hne h
    constructor
    · exact String.Pos.Raw.isValid_iff_exists_append.mpr ⟨a, _, rfl, rfl⟩
    · refine String.Pos.Raw.isValid_iff_exists_append.mpr ⟨a ++ delimiter, b, (String.append_assoc ..).symm, ?_⟩
      exact String.Pos.Raw.ext (String.utf8ByteSize_append ..).symm

/-- One delimiter is the beginning of the other, and the texts hold characters of two bytes. The first source is divided
to its end, with an expression, a text to guard, a tag, and a brace behind it; in the second an action does not end. -/
theorem sources_between_angles :
    let d : Delimiters := ⟨"<", "<<"⟩
    let whole := "é< x <<\x7b\x7bü<%- if -%<<\x7b"
    let cut := "é< x <<ü< y"
    (d ≠ .usual ∧ d.left ≠ "" ∧ d.right ≠ "") ∧
    Divides d whole.toList [⟨['é'], " x ".toList⟩, ⟨"\x7b\x7bü".toList, "%- if -%".toList⟩] (.whole ['\x7b']) ∧
    translate d whole.toList = .ok ("é".toList ++ ("\x7b\x7b x \x7d\x7d".toList ++
      ("\x7b% raw %\x7d\x7b\x7bü\x7b% endraw %\x7d".toList ++ ("\x7b%- if -%\x7d".toList ++
        "\x7b% raw %\x7d\x7b\x7b% endraw %\x7d".toList)))) ∧
    Divides d cut.toList [⟨['é'], " x ".toList⟩] (.cutOff ['ü'] " y".toList) ∧
    translate d cut.toList = .error 10 := by
  intro d whole cut
  have hexpression : IsFirst d.left.toList whole.toList ['é'] " x <<\x7b\x7bü<%- if -%<<\x7b".toList :=
    isFirst_of_cut? (by decide)
  have hguarded : IsFirst d.right.toList " x <<\x7b\x7bü<%- if -%<<\x7b".toList " x ".toList
      "\x7b\x7bü<%- if -%<<\x7b".toList := isFirst_of_cut? (by decide)
  have htag : IsFirst d.left.toList "\x7b\x7bü<%- if -%<<\x7b".toList "\x7b\x7bü".toList "%- if -%<<\x7b".toList :=
    isFirst_of_cut? (by decide)
  have hlast : IsFirst d.right.toList "%- if -%<<\x7b".toList "%- if -%".toList ['\x7b'] :=
    isFirst_of_cut? (by decide)
  have hwhole : Divides d whole.toList [⟨['é'], " x ".toList⟩, ⟨"\x7b\x7bü".toList, "%- if -%".toList⟩]
      (.whole ['\x7b']) := .turn hexpression hguarded (.turn htag hlast (.whole (by decide)))
  have hopen : IsFirst d.left.toList cut.toList ['é'] " x <<ü< y".toList := isFirst_of_cut? (by decide)
  have hclose : IsFirst d.right.toList " x <<ü< y".toList " x ".toList "ü< y".toList := isFirst_of_cut? (by decide)
  have hagain : IsFirst d.left.toList "ü< y".toList ['ü'] " y".toList := isFirst_of_cut? (by decide)
  have hcut : Divides d cut.toList [⟨['é'], " x ".toList⟩] (.cutOff ['ü'] " y".toList) :=
    .turn hopen hclose (.cutOff hagain (by decide))
  refine ⟨⟨by decide, by decide, by decide⟩, hwhole, ?_, hcut, ?_⟩
  · obtain ⟨-, hends, -⟩ := source_divides_in_one_way (d := d) (by decide) (by decide) (by decide) whole
    obtain ⟨-, -, hwrites⟩ := hends _ _ hwhole
    have hrest : Writes [⟨"\x7b\x7bü".toList, "%- if -%".toList⟩] ['\x7b'] _ :=
      .turn (.guarded (by decide)) (.marked (by decide)) (.last (.guarded (by decide)))
    exact (hwrites _).mpr (.turn (.plain (by decide)) (.expression (by decide)) hrest)
  · obtain ⟨-, -, hends, -⟩ := source_divides_in_one_way (d := d) (by decide) (by decide) (by decide) cut
    obtain ⟨a, b, -, ha, -, h⟩ := hends _ _ _ hcut
    obtain rfl : a = "é< x <<ü" := String.toList_injective (ha.trans (by decide))
    exact h

end Delimiter

end Stencil.Template
