import Stencil.Proofs.Template.Encoding
import Stencil.Proofs.Template.FixedText
import Stencil.Proofs.Template.Output

set_option autoImplicit false
set_option relaxedAutoImplicit false

/-!
Texts that come out of a template as they stand in it, when it has delimiters of its own. Main statements: a source
without actions is its own text, and so are texts between quotations, as long as no text holds a tag that ends a raw
text.
-/

namespace Stencil.Template

open Stencil.Text Stencil.Template.Parser

def quotation (s : List Char) : List Char := ' ' :: '"' :: (s ++ ['"', ' '])

namespace NodeParser

theorem isQuotation_quotation {s : List Char} (h : '"' ∉ s) : IsQuotation plain s (quotation s) :=
  ⟨'"', [' '], [' '], by simp [ExprParser.marks], h, by simp [isLayout], by simp [isLayout], rfl⟩

/-! ### Where a text ends -/

theorem looksLikeAction_eq_false_iff (s : List Char) :
    Delimiter.looksLikeAction s = false ↔
      (∀ c ∈ ['\x7b', '%', '#'], ¬['\x7b', c] <:+: s) ∧ s.getLast? ≠ some '\x7b' := by
  rw [← Bool.not_eq_true, Delimiter.looksLikeAction_eq_true_iff, Delimiter.Misleads, ← List.getLast?_eq_some_iff]
  simp

theorem looksLikeAction_cons {c : Char} {s : List Char} (h : Delimiter.looksLikeAction (c :: s) = false) :
    Delimiter.looksLikeAction s = false := by
  obtain ⟨hbraces, hlast⟩ := (looksLikeAction_eq_false_iff _).mp h
  refine (looksLikeAction_eq_false_iff s).mpr ⟨fun d hd h => hbraces d hd (List.infix_cons h), fun h => hlast ?_⟩
  cases s with
  | nil => cases h
  | cons d s => simpa [List.getLast?_cons] using h

theorem looksLikeAction_of_holdsTag {word : String} {s : List Char} (h : HoldsTag word s) :
    Delimiter.looksLikeAction s = true := by
  by_contra hlooks
  obtain ⟨hbraces, -⟩ := (looksLikeAction_eq_false_iff _).mp (Bool.eq_false_iff.mpr hlooks)
  exact hbraces '%' (by simp) h.isInfix

theorem not_atTag_append {s : List Char} (hne : s ≠ []) (h : Delimiter.looksLikeAction s = false) (r : List Char) :
    atTag (s ++ r) = false := by
  obtain ⟨hbraces, hlast⟩ := (looksLikeAction_eq_false_iff _).mp h
  cases s with
  | nil => exact absurd rfl hne
  | cons c s =>
    by_cases hc : c = '\x7b'
    · subst hc
      cases s with
      | nil => exact absurd rfl hlast
      | cons d s =>
        have hd := fun hd => hbraces d hd (List.prefix_append _ s).isInfix
        simpa [atTag, and_assoc] using hd
    · rw [List.cons_append]
      unfold atTag
      split
      · next heq => exact absurd (List.cons.inj heq).1 hc
      · rfl

theorem textBefore_append {s r : List Char} (hs : Delimiter.looksLikeAction s = false)
    (hr : r = [] ∨ atTag r = true) : textBefore (s ++ r) = (s, r) := by
  induction s with
  | nil =>
    rcases hr with rfl | hr
    · rfl
    · cases r with
      | nil => cases hr
      | cons c r => simp [textBefore, hr]
  | cons c s ih =>
    have htag := not_atTag_append (List.cons_ne_nil c s) hs r
    rw [List.cons_append] at htag ⊢
    rw [textBefore, htag, ih (looksLikeAction_cons hs)]
    rfl

theorem atTag_append {s : List Char} (h : atTag s = true) (r : List Char) : atTag (s ++ r) = true := by
  unfold atTag at h
  split at h
  · exact h
  · cases h

theorem literal_of_not_atTag {w : String} (hw : atTag w.toList = true) {s : List Char} (hs : atTag s = false) :
    literal w s = none := by
  rw [literal, Option.map_eq_none_iff, Option.eq_none_iff_forall_ne_some]
  intro r h
  rw [(Find.after?_eq_some_iff _ _ _).mp h, atTag_append hw] at hs
  cases hs

/-! ### Parts at the top of a template -/

def item (x : Exprs) (depth : Nat) : Parser Node := part x depth .page <|> definition x depth

variable (x : Exprs) (depth : Nat)

/-- The words that begin the tags of parts, that of a raw text apart. -/
def words : List String := ["include", "set", "set_global", "for", "if", "filter", "block", "macro"]

theorem item_of_opening {s r : List Char} {left : Bool} (h : opening s = some (left, r))
    (hwords : ∀ w ∈ words, literal w (r.dropWhile isLayout) = none) : item x (depth + 1) s = raw s := by
  have hs := of_opening h
  have hout : outputOf x.value s = none := by
    have hdash : literal "\x7b\x7b-" s = none := by rw [hs]; rfl
    have hplain : literal "\x7b\x7b" s = none := by rw [hs]; rfl
    simp only [outputOf, word, bind_apply, orElse_apply, hdash, hplain, Option.bind_none, Option.none_or]
  have hcomment : comment s = none := by
    have hdash : literal "\x7b#-" s = none := by rw [hs]; rfl
    have hplain : literal "\x7b#" s = none := by rw [hs]; rfl
    simp only [comment, word, bind_apply, orElse_apply, hdash, hplain, Option.bind_none, Option.none_or]
  have htext : text s = none := by rw [hs]; rfl
  simp only [words, List.forall_mem_cons] at hwords
  obtain ⟨hinclude, hset, hglobal, hfor, hif, hfilter, hblock, hmacro, -⟩ := hwords
  simp only [item, part, inclusion, assignment, loopTag, definition, definitionTag, orElse_apply, bind_apply,
    tag_of_opening h, hinclude, hset, hglobal, hfor, hif, hfilter, hblock, hmacro, hout, hcomment, htext, reduceCtorEq,
    if_false, decide_true, Bool.true_or, if_true, List.append_nil, List.cons_append, List.nil_append, oneOf_cons,
    oneOf_nil, Option.bind_none, Option.none_or, Option.or_none]

theorem item_of_not_opening {s : List Char} (h : opening s = none) :
    item x (depth + 1) s =
      ((outputOf x.value s).map fun m => (.output m.1.1 m.1.2, m.2)).or ((comment s).or (text s)) := by
  simp only [item, part, inclusion, assignment, loopTag, raw, wordTag, definition, definitionTag, orElse_apply,
    bind_apply, map_apply, tag_of_not_opening h, reduceCtorEq, if_false, decide_true, Bool.true_or, if_true,
    List.append_nil, List.cons_append, List.nil_append, oneOf_cons, oneOf_nil, Option.bind_none, Option.none_or,
    Option.or_none, Option.map_eq_bind]
  rfl

theorem item_of_not_atTag {s : List Char} (h : atTag s = false) : item x (depth + 1) s = text s := by
  have hliteral : ∀ w ∈ ["\x7b%-", "\x7b%", "\x7b\x7b-", "\x7b\x7b", "\x7b#-", "\x7b#"], literal w s = none :=
    fun w hw => literal_of_not_atTag (by revert w; decide) h
  simp only [List.forall_mem_cons] at hliteral
  obtain ⟨htagDash, htag, houtDash, hout, hcommentDash, hcomment, -⟩ := hliteral
  have hopening : opening s = none := by
    simp only [opening, word, bind_apply, orElse_apply, htagDash, htag, Option.bind_none, Option.none_or]
  rw [item_of_not_opening x depth hopening]
  simp only [outputOf, comment, word, bind_apply, orElse_apply, houtDash, hout, hcommentDash, hcomment,
    Option.bind_none, Option.map_none, Option.none_or]

theorem item_text {s r : List Char} (hne : s ≠ []) (hs : Delimiter.looksLikeAction s = false)
    (hr : r = [] ∨ atTag r = true) : item x (depth + 1) (s ++ r) = some (.text s, r) := by
  rw [item_of_not_atTag x depth (not_atTag_append hne hs r), text, textBefore_append hs hr]
  cases s with
  | nil => exact absurd rfl hne
  | cons c s => rfl

theorem isTag_raw : IsTag "raw" plain "\x7b% raw %\x7d".toList :=
  ⟨[' '], [' '], by simp [isLayout], by simp [isLayout], rfl⟩

theorem isTag_endraw : IsTag "endraw" plain "\x7b% endraw %\x7d".toList :=
  ⟨[' '], [' '], by simp [isLayout], by simp [isLayout], rfl⟩

theorem item_raw {s tag : List Char} {e : Edges} (hs : ¬HoldsTag "endraw" s) (htag : IsTag "endraw" e tag)
    (r : List Char) : item x (depth + 1) ("\x7b% raw %\x7d".toList ++ (s ++ (tag ++ r))) = some (.raw plain s e, r) := by
  have hopening : opening ("\x7b% raw %\x7d".toList ++ (s ++ (tag ++ r))) =
      some (false, " raw %\x7d".toList ++ (s ++ (tag ++ r))) :=
    rfl
  have hstart := wordTag_append isTag_raw ⟨'r', _, rfl, by decide, by decide⟩ (s ++ (tag ++ r))
  have hrest := rawRest_append hs htag r
  rw [item_of_opening x depth hopening (by simp [words, literal, Find.after?, isLayout])]
  simp only [raw, bind_apply, pure_apply, hstart, Option.bind_some]
  exact congrArg (Option.bind · _) hrest

theorem item_endraw (r : List Char) : item x (depth + 1) ("\x7b% endraw %\x7d".toList ++ r) = none := by
  have hopening : opening ("\x7b% endraw %\x7d".toList ++ r) = some (false, " endraw %\x7d".toList ++ r) :=
    rfl
  have hraw : literal "raw" ((" endraw %\x7d".toList ++ r).dropWhile isLayout) = none := rfl
  rw [item_of_opening x depth hopening (by simp [words, literal, Find.after?, isLayout])]
  simp only [raw, wordTag, bind_apply, map_apply, tag_of_opening hopening, hraw, Option.bind_none, Option.map_none]

theorem item_output {e : Edges} {s action : List Char} (h : IsQuotation e s action) (n : Nat) (r : List Char) :
    item (Exprs.of (ExprParser.level (n + 1))) (depth + 1)
      ("\x7b\x7b".toList ++ (action ++ ("\x7d\x7d".toList ++ r))) =
        some (.output e (Operand.text (String.ofList s)).toExpr, r) := by
  rw [item_of_not_opening _ depth rfl, h.outputOf_eq]
  rfl

/-! ### What is read as parts that write a fixed text -/

/-- The written text is read as the parts, in front of the given rest. -/
def ReadsAs (written : List Char) (ns : List Node) (r : List Char) : Prop :=
  many (item x depth) (written ++ r) = (many (item x depth) r).map fun m => (ns ++ m.1, m.2)

/-- The written text is read as parts that write the text, in front of the given rest. -/
def Reads (written s : List Char) (r : List Char) : Prop :=
  ∃ ns, WritesAll ns s ∧ many (item x depth) (written ++ r) = (many (item x depth) r).map fun m => (ns ++ m.1, m.2)

def textParts (s : List Char) : List Node :=
  if s = [] then [] else if Delimiter.looksLikeAction s then [.raw plain s plain] else [.text s]

variable {x depth}

theorem ReadsAs.nil (r : List Char) : ReadsAs x depth [] [] r := by simp [ReadsAs]

theorem ReadsAs.append {w w' r : List Char} {ns ms : List Node} (h : ReadsAs x depth w ns (w' ++ r))
    (h' : ReadsAs x depth w' ms r) : ReadsAs x depth (w ++ w') (ns ++ ms) r := by
  rw [ReadsAs] at h h' ⊢
  rw [List.append_assoc, h, h', Option.map_map]
  simp [Function.comp_def]

theorem ReadsAs.of_item {w r : List Char} {n : Node} (hitem : item x depth (w ++ r) = some (n, r)) (hw : w ≠ []) :
    ReadsAs x depth w [n] r := by
  rw [ReadsAs, many_of_some hitem (by simpa [List.length_pos_iff] using hw)]
  rfl

theorem readsAs_text {s : List Char} (hs : ¬HoldsTag "endraw" s) {r : List Char} (hr : r = [] ∨ atTag r = true) :
    ReadsAs x (depth + 1) (Delimiter.encode (.text s)) (textParts s) r := by
  rw [Delimiter.encode, textParts]
  split
  · next hlooks =>
    have hne : s ≠ [] := by
      rintro rfl
      cases hlooks
    rw [if_neg hne]
    refine .of_item ?_ (by simp)
    rw [List.append_assoc, List.append_assoc]
    exact item_raw x depth hs isTag_endraw r
  · next hlooks =>
    rcases eq_or_ne s [] with rfl | hne
    · exact .nil r
    · rw [if_neg hne]
      exact .of_item (item_text x depth hne (by simpa using hlooks) hr) hne

theorem readsAs_quotation {e : Edges} {s action : List Char} (h : IsQuotation e s action) (n : Nat) (r : List Char) :
    ReadsAs (Exprs.of (ExprParser.level (n + 1))) (depth + 1) (Delimiter.encode (.action action))
      [.output e (Operand.text (String.ofList s)).toExpr] r := by
  rw [h.encode_eq]
  refine .of_item ?_ (by simp)
  rw [List.append_assoc, List.append_assoc]
  exact item_output depth h n r

theorem writesAll_textParts (s : List Char) : WritesAll (textParts s) s := by
  have hone {n : Node} (h : Writes n s) : WritesAll [n] s := List.append_nil s ▸ .cons h .nil
  rw [textParts]
  split
  · next hs => exact hs ▸ .nil
  · next hs =>
    split
    · exact hone (.raw s)
    · exact hone (.text hs)

theorem Reads.nil (r : List Char) : Reads x depth [] [] r := ⟨[], .nil, ReadsAs.nil r⟩

theorem Reads.append {w w' s s' r : List Char} (h : Reads x depth w s (w' ++ r)) (h' : Reads x depth w' s' r) :
    Reads x depth (w ++ w') (s ++ s') r := by
  obtain ⟨ns, hns, hread⟩ := h
  obtain ⟨ms, hms, hread'⟩ := h'
  exact ⟨ns ++ ms, hns.append hms, ReadsAs.append hread hread'⟩

theorem reads_text {s : List Char} (hs : ¬HoldsTag "endraw" s) {r : List Char} (hr : r = [] ∨ atTag r = true) :
    Reads x (depth + 1) (Delimiter.encode (.text s)) s r :=
  ⟨textParts s, writesAll_textParts s, readsAs_text hs hr⟩

theorem reads_quotation {s : List Char} (hs : '"' ∉ s) (n : Nat) (r : List Char) :
    Reads (Exprs.of (ExprParser.level (n + 1))) (depth + 1) (Delimiter.encode (.action (quotation s))) s r :=
  ⟨_, by simpa using WritesAll.cons (.output s) .nil, readsAs_quotation (isQuotation_quotation hs) n r⟩

/-- Quotations in turn with the texts behind them, as pieces of a source. -/
def quotations (parts : List (List Char × List Char)) : List Piece :=
  parts.flatMap fun q => [.action (quotation q.1), .text q.2]

theorem atTag_encode_action (s r : List Char) : atTag (Delimiter.encode (.action s) ++ r) = true := by
  have hmarked {mark : Char} (h : Delimiter.isMarked mark s = true) : ∃ t, s = mark :: t := by
    rw [Delimiter.isMarked, Bool.and_eq_true, Bool.and_eq_true] at h
    exact ⟨_, List.eq_cons_of_mem_head? (by simpa using h.1.2)⟩
  rw [Delimiter.encode]
  split
  · next h =>
    rcases Bool.or_eq_true _ _ ▸ h with h | h <;> obtain ⟨t, rfl⟩ := hmarked h <;> simp [atTag]
  · simp [atTag]

theorem atTag_quotations (parts : List (List Char × List Char)) (r : List Char) (hr : r = [] ∨ atTag r = true) :
    (quotations parts).flatMap Delimiter.encode ++ r = [] ∨
      atTag ((quotations parts).flatMap Delimiter.encode ++ r) = true := by
  cases parts with
  | nil => exact hr
  | cons q parts => exact .inr (by simp [quotations, atTag_encode_action])

theorem reads_quotations {parts : List (List Char × List Char)} (hquotes : ∀ q ∈ parts, '"' ∉ q.1)
    (htexts : ∀ q ∈ parts, ¬HoldsTag "endraw" q.2) (n : Nat) :
    Reads (Exprs.of (ExprParser.level (n + 1))) (depth + 1) ((quotations parts).flatMap Delimiter.encode)
      (parts.flatMap fun q => q.1 ++ q.2) [] := by
  induction parts with
  | nil => exact .nil []
  | cons q parts ih =>
    have hrest := ih (fun p hp => hquotes p (List.mem_cons_of_mem q hp)) fun p hp => htexts p (List.mem_cons_of_mem q hp)
    have hall := ((reads_quotation (hquotes q List.mem_cons_self) n _).append
      (reads_text (htexts q List.mem_cons_self) (atTag_quotations parts [] (.inl rfl)))).append hrest
    simpa [quotations] using hall

/-- What is read up to the end as parts is a template of them, if they write a text once blanks are removed. -/
theorem exists_read?_of_readsAs (name : String) {w s : List Char}
    (h : ∀ n, ∃ ns, ReadsAs (Exprs.of (ExprParser.level (n + 1))) (n + 1) w ns [] ∧
      PutsAll (trimBody false false ns) s) :
    ∃ p, Program.read? name w = some p ∧ PutsAll p.body s := by
  obtain ⟨ns, hread, hputs⟩ := h w.length
  have hend : many (item (Exprs.of (ExprParser.level (w.length + 1))) (w.length + 1)) [] = some ([], []) :=
    many_of_none (item_of_not_atTag _ _ rfl)
  have hparts : parts? w = some ns := by
    rw [ReadsAs, List.append_nil, hend, Option.map_some, List.append_nil] at hread
    unfold item at hread
    simp only [parts?, hread]
  refine ⟨⟨name, trimBody false false ns, [], []⟩, ?_, hputs⟩
  simp [Program.read?, hparts, hputs.definitionsOf_eq, hputs.blocksOf_eq, namesDiffer]

end NodeParser

/-! ### Whole templates -/

open NodeParser

theorem translate_of_pieces {d : Delimiters} (hd : d ≠ .usual) {source : List Char} {ps : List Piece}
    (h : Delimiter.pieces d.left.toList d.right.toList 0 source = .ok ps) :
    Delimiter.translate d source = .ok (ps.flatMap Delimiter.encode) := by
  rw [Delimiter.translate, if_neg hd, h]
  rfl

theorem pieces_of_absent {left s : List Char} (h : ¬left <:+: s) (right : List Char) (offset : Nat) :
    Delimiter.pieces left right offset s = .ok [.text s] := by
  rw [Delimiter.pieces]
  split
  · rfl
  · next hcut =>
    rw [(Find.cut?_eq_none_iff left s).mpr h] at hcut
    cases hcut

/-- What is read up to the end as parts makes a template that writes in every world what they write once blanks are
removed. -/
theorem exists_compile_of_readsAs (name : String) {source : String} {d : Delimiters} (hd : d ≠ .usual)
    {ps : List Piece} {s : List Char}
    (hpieces : Delimiter.pieces d.left.toList d.right.toList 0 source.toList = .ok ps)
    (hreads : ∀ n, ∃ ns, ReadsAs (Exprs.of (ExprParser.level (n + 1))) (n + 1) (ps.flatMap Delimiter.encode) ns [] ∧
      PutsAll (trimBody false false ns) s) :
    ∃ p, compile name source d = .ok p ∧
      ∀ {σ : Type} (w : World σ) (state : σ), render w p state = (.ok (String.ofList s), state) := by
  obtain ⟨p, hread, hp⟩ := exists_read?_of_readsAs name hreads
  refine ⟨p, ?_, fun w state => hp.render_eq w state⟩
  rw [compile, translate_of_pieces hd hpieces]
  simp only [hread]

/-- What is read up to the end as parts that write a text makes a template that writes it in every world. -/
theorem exists_compile_of_reads (name : String) {source : String} {d : Delimiters} (hd : d ≠ .usual) {ps : List Piece}
    {s : List Char} (hpieces : Delimiter.pieces d.left.toList d.right.toList 0 source.toList = .ok ps)
    (hreads : ∀ n, Reads (Exprs.of (ExprParser.level (n + 1))) (n + 1) (ps.flatMap Delimiter.encode) s []) :
    ∃ p, compile name source d = .ok p ∧
      ∀ {σ : Type} (w : World σ) (state : σ), render w p state = (.ok (String.ofList s), state) := by
  refine exists_compile_of_readsAs name hd hpieces fun n => ?_
  obtain ⟨ns, hns, hread⟩ := hreads n
  refine ⟨ns, hread, ?_⟩
  rw [hns.trimBody_eq]
  exact hns.putsAll

theorem read?_of_endraw (name : String) {e : Edges} {s tag t : List Char} (hs : ¬HoldsTag "endraw" s)
    (htag : IsTag "endraw" e tag) (ht : Delimiter.looksLikeAction t = false) :
    Program.read? name ("\x7b% raw %\x7d".toList ++ (s ++ (tag ++ (t ++ "\x7b% endraw %\x7d".toList)))) = none := by
  have hread : ∀ x n, many (item x (n + 1)) (t ++ "\x7b% endraw %\x7d".toList) =
      some (if t = [] then [] else [.text t], "\x7b% endraw %\x7d".toList) := by
    intro x n
    have hend : many (item x (n + 1)) "\x7b% endraw %\x7d".toList = some ([], "\x7b% endraw %\x7d".toList) :=
      many_of_none (item_endraw x n [])
    rcases eq_or_ne t [] with rfl | hne
    · exact hend
    · rw [many_of_some (item_text x n hne ht (.inr rfl)) (by simpa [List.length_pos_iff] using hne), hend]
      simp [hne]
  have hraw := fun x n => many_of_some (item_raw x n hs htag (t ++ "\x7b% endraw %\x7d".toList)) (by simp; omega)
  simp only [hread] at hraw
  unfold item at hraw
  have hparts : parts? ("\x7b% raw %\x7d".toList ++ (s ++ (tag ++ (t ++ "\x7b% endraw %\x7d".toList)))) = none := by
    simp only [parts?, hraw]
    rfl
  rw [Program.read?, hparts]
  rfl

theorem compile_of_endraw (name : String) {source : String} {d : Delimiters} (hd : d ≠ .usual)
    (hleft : ¬d.left.toList <:+: source.toList) {e : Edges} {s tag t : List Char}
    (hsource : source.toList = s ++ (tag ++ t)) (hs : ¬HoldsTag "endraw" s) (htag : IsTag "endraw" e tag)
    (ht : Delimiter.looksLikeAction t = false) : compile name source d = .error (.compile name) := by
  have hlooks : Delimiter.looksLikeAction source.toList = true :=
    looksLikeAction_of_holdsTag ⟨e, tag, htag, s, t, by rw [hsource, List.append_assoc]⟩
  have htranslate := translate_of_pieces hd (pieces_of_absent hleft d.right.toList 0)
  have hencode : [Piece.text source.toList].flatMap Delimiter.encode =
      "\x7b% raw %\x7d".toList ++ (s ++ (tag ++ (t ++ "\x7b% endraw %\x7d".toList))) := by
    rw [List.flatMap_singleton, Delimiter.encode, if_pos hlooks, hsource]
    simp only [List.append_assoc]
  rw [compile, htranslate, hencode]
  simp only [read?_of_endraw name hs htag ht]

/-- A source without actions is its own text, whatever braces it holds, unless it holds a tag that ends a raw text.
Where no action begins behind the first such tag, there is no template. -/
theorem actionless_source_is_verbatim_up_to_endraw (name source : String) {d : Delimiters} (hd : d ≠ .usual)
    (hleft : ¬d.left.toList <:+: source.toList) :
    (¬HoldsTag "endraw" source.toList → ∃ p, compile name source d = .ok p ∧
      ∀ {σ : Type} (w : World σ) (state : σ), render w p state = (.ok source, state)) ∧
    ∀ e s tag t, source.toList = s ++ (tag ++ t) → ¬HoldsTag "endraw" s → IsTag "endraw" e tag →
      Delimiter.looksLikeAction t = false → compile name source d = .error (.compile name) := by
  refine ⟨fun hsource => ?_, fun e s tag t => compile_of_endraw name hd hleft⟩
  have hpieces := pieces_of_absent hleft d.right.toList 0
  obtain ⟨p, hcompile, hrender⟩ := exists_compile_of_reads name hd hpieces fun n => by
    rw [List.flatMap_singleton]
    exact reads_text hsource (.inl rfl)
  exact ⟨p, hcompile, fun w state => by simpa using hrender w state⟩

def brackets : Delimiters := ⟨"[[", "]]"⟩

theorem braces_without_actions_are_verbatim :
    (brackets ≠ .usual ∧ ¬brackets.left.toList <:+: "\x7b\x7bport\x7d\x7d \x7b% if %\x7d \x7b# \x7b".toList ∧
      ∃ p, compile "t" "\x7b\x7bport\x7d\x7d \x7b% if %\x7d \x7b# \x7b" brackets = .ok p ∧
        ∀ {σ : Type} (w : World σ) (state : σ),
          render w p state = (.ok "\x7b\x7bport\x7d\x7d \x7b% if %\x7d \x7b# \x7b", state)) ∧
    compile "t" "\x7b\x7b \x7b% endraw %\x7d \x7d" brackets = .error (.compile "t") := by
  refine ⟨⟨by decide, by decide, ?_⟩, ?_⟩
  · exact (actionless_source_is_verbatim_up_to_endraw "t" _ (by decide) (by decide)).1
      (not_holdsTag_of_absent (by decide))
  · exact (actionless_source_is_verbatim_up_to_endraw "t" _ (by decide) (by decide)).2 plain "\x7b\x7b ".toList
      "\x7b% endraw %\x7d".toList " \x7d".toList rfl (not_holdsTag_of_absent (by decide)) isTag_endraw (by decide)

/-- Not every source without actions makes a template, let alone one that writes it. -/
theorem actionless_source_need_not_compile :
    ¬∀ (name source : String) (d : Delimiters), d.left ≠ "" → d.right ≠ "" → d ≠ .usual →
      ¬d.left.toList <:+: source.toList →
        ∃ p, compile name source d = .ok p ∧
          ∀ {σ : Type} (w : World σ) (state : σ), render w p state = (.ok source, state) := by
  intro h
  obtain ⟨p, hcompile, -⟩ :=
    h "t" "\x7b\x7b \x7b% endraw %\x7d" brackets (by decide) (by decide) (by decide) (by decide)
  rw [compile_of_endraw "t" (by decide) (by decide) (s := "\x7b\x7b ".toList) (t := []) rfl
    (not_holdsTag_of_absent (by decide)) isTag_endraw (by decide)] at hcompile
  cases hcompile

/-- Texts and quotations between delimiters other than the usual ones come out as they are, whatever braces the texts
hold, begin with or end with, unless a text holds a tag that ends a raw text. -/
theorem texts_and_quotations_are_verbatim (name source : String) {d : Delimiters} (hd : d ≠ .usual) {t : List Char}
    {parts : List (List Char × List Char)}
    (hpieces : Delimiter.pieces d.left.toList d.right.toList 0 source.toList = .ok (.text t :: quotations parts))
    (hquotes : ∀ q ∈ parts, '"' ∉ q.1) (htexts : ∀ u ∈ t :: parts.map Prod.snd, ¬HoldsTag "endraw" u) :
    ∃ p, compile name source d = .ok p ∧ ∀ {σ : Type} (w : World σ) (state : σ),
      render w p state = (.ok (String.ofList (t ++ parts.flatMap fun q => q.1 ++ q.2)), state) := by
  refine exists_compile_of_reads name hd hpieces fun n => ?_
  rw [List.flatMap_cons]
  exact (reads_text (htexts t List.mem_cons_self) (atTag_quotations parts [] (.inl rfl))).append
    (reads_quotations hquotes (fun q hq => htexts q.2 (List.mem_cons_of_mem t (List.mem_map_of_mem hq))) n)

theorem quotations_between_braces_are_verbatim :
    Delimiter.pieces brackets.left.toList brackets.right.toList 0
        "\x7b[[ \"\x7b%\" ]]% if %\x7d[[ \"x\" ]]\x7b".toList =
      .ok (.text ['\x7b'] :: quotations [("\x7b%".toList, "% if %\x7d".toList), (['x'], ['\x7b'])]) ∧
    ∃ p, compile "t" "\x7b[[ \"\x7b%\" ]]% if %\x7d[[ \"x\" ]]\x7b" brackets = .ok p ∧
      ∀ {σ : Type} (w : World σ) (state : σ), render w p state = (.ok "\x7b\x7b%% if %\x7dx\x7b", state) := by
  have hpieces : Delimiter.pieces brackets.left.toList brackets.right.toList 0
      "\x7b[[ \"\x7b%\" ]]% if %\x7d[[ \"x\" ]]\x7b".toList =
        .ok (.text ['\x7b'] :: quotations [("\x7b%".toList, "% if %\x7d".toList), (['x'], ['\x7b'])]) := by
    simp [brackets, Delimiter.pieces, Find.cut?, Find.after?, quotations, quotation, Except.map]
  refine ⟨hpieces, ?_⟩
  exact texts_and_quotations_are_verbatim "t" _ (by decide) hpieces (by decide) fun u hu =>
    not_holdsTag_of_absent (by revert u; decide)

end Stencil.Template
