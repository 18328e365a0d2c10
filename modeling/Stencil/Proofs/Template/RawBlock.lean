import Stencil.Proofs.Template.Division
import Stencil.Proofs.Template.Verbatim

set_option autoImplicit false
set_option relaxedAutoImplicit false

/-!
Raw texts in a source with delimiters of its own. Main statement: what stands between the tags of a raw text is divided
into texts and actions like anything else and comes out with the usual delimiters around its actions. So a raw text
without actions is its own text only where it needs no protection; where it would be taken for an action, the text is
protected twice and there is no template.
-/

namespace Stencil.Template

open Stencil.Text Find NodeParser Stencil.Template.Parser

/-- The tag that ends a raw text, as a source with delimiters of its own has it. -/
def rawEnd (d : Delimiters) : List Char := d.left.toList ++ ("% endraw %".toList ++ d.right.toList)

/-- A raw text between its tags, as a source with delimiters of its own has it. -/
def rawBlock (d : Delimiters) (body : List Char) : List Char :=
  d.left.toList ++ ("% raw %".toList ++ (d.right.toList ++ (body ++ rawEnd d)))

/-- The right delimiter stands first behind the tags of a raw text, not within them. -/
structure SparesTags (d : Delimiters) : Prop where
  raw : IsFreshBehind d.right.toList "% raw %".toList
  endraw : IsFreshBehind d.right.toList "% endraw %".toList

/-- Turns and the text behind them, written with the usual delimiters. -/
def encoded (ts : List Turn) (last : List Char) : List Char :=
  (ts.flatMap Turn.pieces ++ [Piece.text last]).flatMap Delimiter.encode

theorem encoded_nil (last : List Char) : encoded [] last = Delimiter.encode (.text last) := by simp [encoded]

theorem encoded_concat (ts : List Turn) (t : Turn) :
    encoded (ts ++ [t]) [] = encoded ts t.text ++ Delimiter.encode (.action t.action) := by
  have hempty : Delimiter.encode (.text []) = [] := rfl
  simp [encoded, Turn.pieces, hempty]

section Division

variable {d : Delimiters} {body : List Char} {ts : List Turn}

theorem Divides.rawBlock (htags : SparesTags d) {e : Ending} (h : Divides d (body ++ rawEnd d) ts e) :
    Divides d (rawBlock d body) (⟨[], "% raw %".toList⟩ :: ts) e :=
  .turn ⟨rfl, fun _ _ _ => Nat.zero_le _⟩ (htags.raw.isFirst (body ++ rawEnd d)) h

theorem Divides.nil (hleft : d.left ≠ "") : Divides d [] [] (.whole []) :=
  .whole (by simpa using hleft)

theorem Divides.rawBlock_of_whole (hleft : d.left ≠ "") (htags : SparesTags d) {last : List Char}
    (h : Divides d body ts (.whole last)) (hlast : IsFreshBehind d.left.toList last) :
    Divides d (Template.rawBlock d body) (⟨[], "% raw %".toList⟩ :: (ts ++ [⟨last, "% endraw %".toList⟩]))
      (.whole []) :=
  .rawBlock htags (h.append (.turn (hlast.isFirst _) htags.endraw (.nil hleft)))

theorem Divides.rawBlock_of_cutOff (hleft : d.left ≠ "") (htags : SparesTags d) {text behind : List Char}
    (h : Divides d body ts (.cutOff text behind))
    (hbehind : IsFreshBehind d.right.toList (behind ++ (d.left.toList ++ "% endraw %".toList))) :
    Divides d (Template.rawBlock d body)
      (⟨[], "% raw %".toList⟩ :: (ts ++ [⟨text, behind ++ (d.left.toList ++ "% endraw %".toList)⟩])) (.whole []) := by
  have hclose : IsFirst d.right.toList (behind ++ rawEnd d) (behind ++ (d.left.toList ++ "% endraw %".toList)) [] := by
    simpa [rawEnd] using hbehind.isFirst []
  exact .rawBlock htags (h.append (.turn (h.isFirst_of_cutOff.append _) hclose (.nil hleft)))

theorem translate_of_rawBlock (hd : d ≠ .usual) (hleft : d.left ≠ "")
    (h : Divides d (rawBlock d body) (⟨[], "% raw %".toList⟩ :: ts) (.whole [])) :
    Delimiter.translate d (rawBlock d body) = .ok ("\x7b% raw %\x7d".toList ++ encoded ts []) := by
  rw [translate_of_pieces hd (Delimiter.pieces_of_divides hleft h 0)]
  rfl

end Division

/-! ### Templates of raw texts -/

theorem read?_of_unended (name : String) {s : List Char} (hs : ¬HoldsTag "endraw" s) :
    Program.read? name ("\x7b% raw %\x7d".toList ++ s) = none := by
  have hitem : ∀ x n, item x (n + 1) ("\x7b% raw %\x7d".toList ++ s) = none := by
    intro x n
    have hopening : opening ("\x7b% raw %\x7d".toList ++ s) = some (false, " raw %\x7d".toList ++ s) := rfl
    have hstart := wordTag_append isTag_raw ⟨'r', _, rfl, by decide, by decide⟩ s
    rw [item_of_opening x n hopening (by simp [words, literal, Find.after?, isLayout])]
    simp only [raw, bind_apply, hstart, Option.bind_some, rawRest_eq_none hs, Option.bind_none]
  have hmany := fun x n => many_of_none (hitem x n)
  unfold item at hmany
  have hparts : parts? ("\x7b% raw %\x7d".toList ++ s) = none := by
    simp only [parts?, hmany]
    rfl
  rw [Program.read?, hparts]
  rfl

theorem HoldsTag.of_append {word : String} (hword : '\x7b' ∉ word.toList) {w s : List Char} (hw : '\x7b' ∉ w)
    (h : HoldsTag word (w ++ s)) : HoldsTag word s := by
  induction w with
  | nil => exact h
  | cons c w ih =>
    obtain ⟨e, tag, htag, hwithin⟩ := h
    -- a tag begins with a brace, and there is none in front
    rcases List.infix_cons_iff.mp hwithin with ⟨r, hr⟩ | hwithin
    · obtain ⟨v, rfl, -⟩ := htag.exists_eq_cons hword
      obtain rfl : '\x7b' = c := (List.cons.inj hr).1
      exact absurd List.mem_cons_self hw
    · exact ih (fun hmem => hw (List.mem_cons_of_mem c hmem)) ⟨e, tag, htag, hwithin⟩

theorem not_holdsTag_endraw_of_raw {s : List Char} (hs : ¬HoldsTag "endraw" s) :
    ¬HoldsTag "endraw" ("\x7b% raw %\x7d".toList ++ s) := by
  rintro ⟨e, tag, htag, hwithin⟩
  rcases List.infix_cons_iff.mp hwithin with ⟨r, hr⟩ | hwithin
  · have hread := wordTag_append htag ⟨'e', _, rfl, by decide, by decide⟩ r
    have hopening : opening (tag ++ r) = some (false, " raw %\x7d".toList ++ s) := by
      rw [hr]
      rfl
    have hendraw : literal "endraw" ((" raw %\x7d".toList ++ s).dropWhile isLayout) = none := rfl
    simp only [wordTag, map_apply, tag_of_opening hopening, hendraw, Option.bind_none, Option.map_none,
      reduceCtorEq] at hread
  · exact hs (HoldsTag.of_append (w := "% raw %\x7d".toList) (by decide) (by decide) ⟨e, tag, htag, hwithin⟩)

theorem compile_of_read?_eq_none (name : String) {source : String} {d : Delimiters} {w : List Char}
    (htranslate : Delimiter.translate d source.toList = .ok w) (hread : Program.read? name w = none) :
    compile name source d = .error (.compile name) := by
  rw [compile, htranslate]
  simp only [hread]

section Blocks

variable (name : String) {d : Delimiters} {body : List Char} {ts : List Turn}

theorem exists_compile_of_rawBlock (hd : d ≠ .usual) (hleft : d.left ≠ "") (htags : SparesTags d) {last : List Char}
    (h : Divides d body ts (.whole last)) (hlast : IsFreshBehind d.left.toList last)
    (hends : ¬HoldsTag "endraw" (encoded ts last)) :
    ∃ p, compile name (String.ofList (rawBlock d body)) d = .ok p ∧
      ∀ {σ : Type} (w : World σ) (state : σ), render w p state = (.ok (String.ofList (encoded ts last)), state) := by
  have hpieces := Delimiter.pieces_of_divides hleft (h.rawBlock_of_whole hleft htags hlast) 0
  refine exists_compile_of_reads name hd (by rw [String.toList_ofList]; exact hpieces) fun n => ?_
  have hwritten : ((⟨[], "% raw %".toList⟩ :: (ts ++ [⟨last, "% endraw %".toList⟩]) : List Turn).flatMap Turn.pieces ++
      [Piece.text []]).flatMap Delimiter.encode =
        "\x7b% raw %\x7d".toList ++ (encoded ts last ++ "\x7b% endraw %\x7d".toList) :=
    congrArg ("\x7b% raw %\x7d".toList ++ ·) (encoded_concat ts ⟨last, "% endraw %".toList⟩)
  rw [hwritten]
  refine ⟨[.raw plain (encoded ts last) plain], by simpa using WritesAll.cons (.raw (encoded ts last)) .nil, ?_⟩
  refine ReadsAs.of_item ?_ (by simp)
  simpa using item_raw _ n hends isTag_endraw []

theorem compile_of_protected (hd : d ≠ .usual) (hleft : d.left ≠ "") (htags : SparesTags d)
    (hbody : IsFreshBehind d.left.toList body) (hlooks : Delimiter.looksLikeAction body = true)
    (hends : ¬HoldsTag "endraw" body) :
    compile name (String.ofList (rawBlock d body)) d = .error (.compile name) := by
  have habsent := hbody.not_isInfix (by simpa using hleft)
  have htranslate := translate_of_rawBlock hd hleft ((Divides.whole habsent).rawBlock_of_whole hleft htags hbody)
  refine compile_of_read?_eq_none name (by rw [String.toList_ofList]; exact htranslate) ?_
  -- the tag behind the protected body ends a raw text a second time
  have hencoded : encoded ([] ++ [⟨body, "% endraw %".toList⟩]) [] =
      ("\x7b% raw %\x7d".toList ++ body) ++ ("\x7b% endraw %\x7d".toList ++ ([] ++ "\x7b% endraw %\x7d".toList)) := by
    have htext : Delimiter.encode (.text body) =
        "\x7b% raw %\x7d".toList ++ body ++ "\x7b% endraw %\x7d".toList := by
      rw [Delimiter.encode, if_pos hlooks]
    have htag : Delimiter.encode (.action "% endraw %".toList) = "\x7b% endraw %\x7d".toList := rfl
    rw [encoded_concat, encoded_nil, htext, htag, List.nil_append, List.append_assoc, List.append_assoc]
  rw [hencoded]
  exact read?_of_endraw name (not_holdsTag_endraw_of_raw hends) isTag_endraw rfl

theorem compile_of_cutOff (hd : d ≠ .usual) (hleft : d.left ≠ "") (htags : SparesTags d) {text behind : List Char}
    (h : Divides d body ts (.cutOff text behind))
    (hbehind : IsFreshBehind d.right.toList (behind ++ (d.left.toList ++ "% endraw %".toList)))
    (hends : ¬HoldsTag "endraw" (encoded (ts ++ [⟨text, behind ++ (d.left.toList ++ "% endraw %".toList)⟩]) [])) :
    compile name (String.ofList (rawBlock d body)) d = .error (.compile name) := by
  have htranslate := translate_of_rawBlock hd hleft (h.rawBlock_of_cutOff hleft htags hbehind)
  exact compile_of_read?_eq_none name (by rw [String.toList_ofList]; exact htranslate) (read?_of_unended name hends)

/-- With delimiters of its own, a source has no raw texts that are left alone. A body that is divided to its end comes
out with the usual delimiters around its actions. So a body without actions comes out as it is where it would not be
taken for an action, and makes no template where it would be. An action of the body that does not end takes the tag
that ends the raw text, and there is no template either. -/
theorem raw_text_is_translated (hd : d ≠ .usual) (hleft : d.left ≠ "") (htags : SparesTags d) (body : List Char) :
    (∀ ts last, Divides d body ts (.whole last) → IsFreshBehind d.left.toList last →
      ¬HoldsTag "endraw" (encoded ts last) → ∃ p, compile name (String.ofList (rawBlock d body)) d = .ok p ∧
        ∀ {σ : Type} (w : World σ) (state : σ), render w p state = (.ok (String.ofList (encoded ts last)), state)) ∧
    (IsFreshBehind d.left.toList body → Delimiter.looksLikeAction body = false →
      ∃ p, compile name (String.ofList (rawBlock d body)) d = .ok p ∧
        ∀ {σ : Type} (w : World σ) (state : σ), render w p state = (.ok (String.ofList body), state)) ∧
    (IsFreshBehind d.left.toList body → Delimiter.looksLikeAction body = true → ¬HoldsTag "endraw" body →
      compile name (String.ofList (rawBlock d body)) d = .error (.compile name)) ∧
    ∀ ts text behind, Divides d body ts (.cutOff text behind) →
      IsFreshBehind d.right.toList (behind ++ (d.left.toList ++ "% endraw %".toList)) →
      ¬HoldsTag "endraw" (encoded (ts ++ [⟨text, behind ++ (d.left.toList ++ "% endraw %".toList)⟩]) []) →
        compile name (String.ofList (rawBlock d body)) d = .error (.compile name) := by
  refine ⟨fun ts last => exists_compile_of_rawBlock name hd hleft htags, fun hbody hlooks => ?_,
    compile_of_protected name hd hleft htags, fun ts text behind => compile_of_cutOff name hd hleft htags⟩
  have hwhole : Divides d body [] (.whole body) := .whole (hbody.not_isInfix (by simpa using hleft))
  have hencoded : encoded [] body = body := by simp [encoded_nil, Delimiter.encode, hlooks]
  have hends : ¬HoldsTag "endraw" (encoded [] body) := by
    rw [hencoded]
    intro h
    rw [looksLikeAction_of_holdsTag h] at hlooks
    cases hlooks
  simpa only [hencoded] using exists_compile_of_rawBlock name hd hleft htags hwhole hbody hends

theorem raw_texts_between_brackets :
    (brackets ≠ .usual ∧ brackets.left ≠ "" ∧ SparesTags brackets) ∧
    (∃ p, compile "t" "[[% raw %]]a [[ x ]] b[[% endraw %]]" brackets = .ok p ∧
      ∀ {σ : Type} (w : World σ) (state : σ), render w p state = (.ok "a \x7b\x7b x \x7d\x7d b", state)) ∧
    (∃ p, compile "t" "[[% raw %]]a ]] b[[% endraw %]]" brackets = .ok p ∧
      ∀ {σ : Type} (w : World σ) (state : σ), render w p state = (.ok "a ]] b", state)) ∧
    compile "t" "[[% raw %]]\x7b\x7bx\x7d\x7d[[% endraw %]]" brackets = .error (.compile "t") ∧
    compile "t" "[[% raw %]]a [[ x[[% endraw %]]" brackets = .error (.compile "t") := by
  have htags : SparesTags brackets := ⟨by decide, by decide⟩
  have hall := raw_text_is_translated "t" (d := brackets) (by decide) (by decide) htags
  have hopen : IsFirst brackets.left.toList "a [[ x ]] b".toList "a ".toList " x ]] b".toList :=
    (cut?_eq_some_iff _ _ _ _).mp (by decide)
  have hclose : IsFirst brackets.right.toList " x ]] b".toList " x ".toList " b".toList :=
    (cut?_eq_some_iff _ _ _ _).mp (by decide)
  have hcut : IsFirst brackets.left.toList "a [[ x".toList "a ".toList " x".toList :=
    (cut?_eq_some_iff _ _ _ _).mp (by decide)
  refine ⟨⟨by decide, by decide, htags⟩, ?_, ?_, ?_, ?_⟩
  · exact (hall "a [[ x ]] b".toList).1 [⟨"a ".toList, " x ".toList⟩] " b".toList
      (.turn hopen hclose (.whole (by decide))) (by decide) (not_holdsTag_of_absent (by decide))
  · exact (hall "a ]] b".toList).2.1 (by decide) (by decide)
  · exact (hall "\x7b\x7bx\x7d\x7d".toList).2.2.1 (by decide) (by decide) (not_holdsTag_of_absent (by decide))
  · refine (hall "a [[ x".toList).2.2.2 [] "a ".toList " x".toList (.cutOff hcut (by decide)) (by decide) ?_
    exact fun h => absurd h.isInfix (by decide)

/-- Not every raw text makes a template, let alone one that writes it. -/
theorem raw_text_need_not_compile :
    ¬∀ (name : String) (d : Delimiters) (body : List Char), d.left ≠ "" → d.right ≠ "" → d ≠ .usual →
      ¬rawEnd d <:+: body → ¬HoldsTag "endraw" body →
        ∃ p, compile name (String.ofList (rawBlock d body)) d = .ok p ∧
          ∀ {σ : Type} (w : World σ) (state : σ), render w p state = (.ok (String.ofList body), state) := by
  intro h
  have hends : ¬HoldsTag "endraw" "\x7b\x7bx\x7d\x7d".toList := not_holdsTag_of_absent (by decide)
  obtain ⟨p, hcompile, -⟩ :=
    h "t" brackets "\x7b\x7bx\x7d\x7d".toList (by decide) (by decide) (by decide) (by decide) hends
  rw [compile_of_protected "t" (by decide) (by decide) ⟨by decide, by decide⟩ (by decide) (by decide) hends] at hcompile
  cases hcompile

end Blocks

end Stencil.Template
