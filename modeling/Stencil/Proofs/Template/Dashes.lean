import Stencil.Proofs.Template.Verbatim

set_option autoImplicit false
set_option relaxedAutoImplicit false

/-!
The dashes of actions that say texts, between delimiters of their own. Main statement: a dash removes the blanks of the
text next to it, unless that text is protected because an action seems to begin in it. A protected text keeps its
blanks.
-/

namespace Stencil.Template

open Stencil.Text NodeParser

/-- An action that says a text between quotation marks, and the text behind it. -/
structure Saying where
  edges : Edges
  said : List Char
  action : List Char
  behind : List Char
  written : IsQuotation edges said action

/-- A text between actions, and whether the blanks at its ends are to go. -/
structure Stretch where
  atStart : Bool
  atEnd : Bool
  text : List Char

/-- What is left of a text if every dash removes the blanks next to it. -/
def Stretch.bare (t : Stretch) : List Char := trimmed t.atStart t.atEnd t.text

/-- What is left of a text if only those in which no action seems to begin lose blanks. -/
def Stretch.spared (t : Stretch) : List Char := if Delimiter.looksLikeAction t.text then t.text else t.bare

namespace Saying

def pieces (q : Saying) : List Piece := [.action q.action, .text q.behind]

/-- The first text and those behind the sayings. `atStart` says whether there is a dash in front of the first. -/
def stretches (atStart : Bool) (t : List Char) : List Saying → List Stretch
  | [] => [⟨atStart, false, t⟩]
  | q :: qs => ⟨atStart, q.edges.left, t⟩ :: stretches q.edges.right q.behind qs

/-- What is said and what is left of the texts, in turn. -/
def woven (left : Stretch → List Char) (atStart : Bool) (t : List Char) : List Saying → List Char
  | [] => left ⟨atStart, false, t⟩
  | q :: qs => left ⟨atStart, q.edges.left, t⟩ ++ (q.said ++ woven left q.edges.right q.behind qs)

def nodes (q : Saying) : List Node := .output q.edges (Operand.text (String.ofList q.said)).toExpr :: textParts q.behind

end Saying

/-! ### What is left of a text -/

theorem length_trimmed_le (atStart atEnd : Bool) (s : List Char) : (trimmed atStart atEnd s).length ≤ s.length := by
  have hstart (s : List Char) : (Blank.trimStart s).length ≤ s.length := (List.dropWhile_sublist _).length_le
  have hend (s : List Char) : (Blank.trimEnd s).length ≤ s.length := by
    rw [Blank.trimEnd, List.length_reverse]
    exact (hstart s.reverse).trans_eq List.length_reverse
  cases atStart with
  | false =>
    cases atEnd with
    | false => exact Nat.le_refl _
    | true => exact hend s
  | true =>
    cases atEnd with
    | false => exact hstart s
    | true => exact (hend _).trans (hstart s)

theorem Stretch.length_bare_le (t : Stretch) : t.bare.length ≤ t.spared.length := by
  rw [spared]
  split
  · exact length_trimmed_le _ _ _
  · exact Nat.le_refl _

theorem Stretch.spared_eq_bare_iff (t : Stretch) :
    t.spared = t.bare ↔ (Delimiter.looksLikeAction t.text = true → t.bare = t.text) := by
  rw [spared]
  split
  · next h => simp [h, eq_comm]
  · next h => simp [h]

namespace Saying

variable {f g : Stretch → List Char}

theorem length_woven_le (h : ∀ t, (f t).length ≤ (g t).length) (atStart : Bool) (t : List Char) (qs : List Saying) :
    (woven f atStart t qs).length ≤ (woven g atStart t qs).length := by
  induction qs generalizing atStart t with
  | nil => exact h _
  | cons q qs ih =>
    have hhead := h ⟨atStart, q.edges.left, t⟩
    have htail := ih q.edges.right q.behind
    simp only [woven, List.length_append]
    omega

/-- Where one way of leaving a text keeps no less of any than another, they come out the same only if they leave the
same of each. -/
theorem woven_eq_iff (h : ∀ t, (f t).length ≤ (g t).length) (atStart : Bool) (t : List Char) (qs : List Saying) :
    woven g atStart t qs = woven f atStart t qs ↔ ∀ u ∈ stretches atStart t qs, g u = f u := by
  induction qs generalizing atStart t with
  | nil => simp [woven, stretches]
  | cons q qs ih =>
    simp only [woven, stretches, List.forall_mem_cons, ← ih]
    constructor
    · intro heq
      -- neither the head nor the rest keeps less, so both have the same length
      have hlength := congrArg List.length heq
      have hhead := h ⟨atStart, q.edges.left, t⟩
      have htail := length_woven_le h q.edges.right q.behind qs
      simp only [List.length_append] at hlength
      obtain ⟨hfirst, hrest⟩ := List.append_inj heq (by omega)
      exact ⟨hfirst, List.append_cancel_left hrest⟩
    · rintro ⟨hfirst, hrest⟩
      rw [hfirst, hrest]

end Saying

/-! ### How the parts lose their blanks -/

theorem trimBody_text (atStart : Bool) {t : List Char} {ns : List Node} {s : List Char}
    (h : PutsAll (trimBody false false ns) s) :
    PutsAll (trimBody atStart false (.text t :: ns)) (trimmed atStart (nextTrims false ns) t ++ s) := by
  rw [trimBody]
  split
  · next hnone =>
    rw [hnone]
    exact h
  · next hsome =>
    rw [hsome]
    exact .cons (.text _) h

/-- What is put for a text in front of parts that put the same whether or not a dash stands in front of them. -/
theorem trimBody_textParts (atStart : Bool) (t : List Char) {ns : List Node} {s : List Char}
    (h : ∀ a, PutsAll (trimBody a false ns) s) :
    PutsAll (trimBody atStart false (textParts t ++ ns))
      ((⟨atStart, nextTrims false ns, t⟩ : Stretch).spared ++ s) := by
  rw [textParts, Stretch.spared]
  by_cases hempty : t = []
  · subst hempty
    have hbare : (⟨atStart, nextTrims false ns, []⟩ : Stretch).bare = [] := by
      have hle := length_trimmed_le atStart (nextTrims false ns) []
      exact List.eq_nil_of_length_eq_zero (Nat.le_zero.mp hle)
    have hlooks : Delimiter.looksLikeAction [] = false := rfl
    rw [hbare, hlooks, if_pos rfl]
    exact h atStart
  · rw [if_neg hempty]
    by_cases hlooks : Delimiter.looksLikeAction t = true
    · rw [if_pos hlooks, if_pos hlooks]
      -- a raw text begins and ends with tags that have no dashes
      exact .cons (.raw plain t plain) (h false)
    · rw [if_neg hlooks, if_neg hlooks]
      exact trimBody_text atStart (h false)

namespace Saying

theorem trimBody_nodes (qs : List Saying) (t : List Char) (atStart : Bool) :
    PutsAll (trimBody atStart false (textParts t ++ qs.flatMap nodes)) (woven Stretch.spared atStart t qs) := by
  induction qs generalizing t atStart with
  | nil =>
    have hnone (a : Bool) : PutsAll (trimBody a false []) [] := .nil
    simpa [woven, nextTrims] using trimBody_textParts atStart t hnone
  | cons q qs ih =>
    have hnodes (a : Bool) : PutsAll (trimBody a false (q.nodes ++ qs.flatMap nodes))
        (q.said ++ woven Stretch.spared q.edges.right q.behind qs) :=
      .cons (.output q.edges q.said) (ih q.behind q.edges.right)
    exact trimBody_textParts atStart t hnodes

/-! ### How sayings are read -/

theorem atTag_pieces (qs : List Saying) (r : List Char) (hr : r = [] ∨ atTag r = true) :
    (qs.flatMap pieces).flatMap Delimiter.encode ++ r = [] ∨
      atTag ((qs.flatMap pieces).flatMap Delimiter.encode ++ r) = true := by
  cases qs with
  | nil => exact hr
  | cons q qs => exact .inr (by simp [pieces, atTag_encode_action])

variable {depth : Nat}

theorem readsAs_pieces {qs : List Saying} (htexts : ∀ q ∈ qs, ¬HoldsTag "endraw" q.behind) (n : Nat) :
    ReadsAs (Exprs.of (ExprParser.level (n + 1))) (depth + 1) ((qs.flatMap pieces).flatMap Delimiter.encode)
      (qs.flatMap nodes) [] := by
  induction qs with
  | nil => exact .nil []
  | cons q qs ih =>
    have hrest := ih fun p hp => htexts p (List.mem_cons_of_mem q hp)
    have hall := ((readsAs_quotation q.written n _).append
      (readsAs_text (htexts q List.mem_cons_self) (atTag_pieces qs [] (.inl rfl)))).append hrest
    simpa [pieces, nodes] using hall

/-- Sayings between delimiters other than the usual ones make a template that writes in every world what is said and
what is spared of the texts. -/
theorem exists_compile (name : String) {source : String} {d : Delimiters} (hd : d ≠ .usual) {t : List Char}
    {qs : List Saying}
    (hpieces : Delimiter.pieces d.left.toList d.right.toList 0 source.toList = .ok (.text t :: qs.flatMap pieces))
    (htexts : ∀ u ∈ t :: qs.map behind, ¬HoldsTag "endraw" u) :
    ∃ p, compile name source d = .ok p ∧ ∀ {σ : Type} (w : World σ) (state : σ),
      render w p state = (.ok (String.ofList (woven Stretch.spared false t qs)), state) := by
  refine exists_compile_of_readsAs name hd hpieces fun n => ⟨textParts t ++ qs.flatMap nodes, ?_, ?_⟩
  · rw [List.flatMap_cons]
    exact (readsAs_text (htexts t List.mem_cons_self) (atTag_pieces qs [] (.inl rfl))).append
      (readsAs_pieces (fun q hq => htexts q.behind (List.mem_cons_of_mem t (List.mem_map_of_mem hq))) n)
  · exact trimBody_nodes qs t false

/-- An action that says a text between double quotes and blanks. -/
def between (e : Edges) (s behind : List Char) (h : '"' ∉ s) : Saying :=
  ⟨e, s, dash e.left ++ quotation s ++ dash e.right, behind, '"', [' '], [' '], by simp [ExprParser.marks], h,
    by simp [Parser.isLayout], by simp [Parser.isLayout], by simp [quotation]⟩

/-- What comes out of sayings between delimiters other than the usual ones: the dashes remove the blanks of the texts
next to them, but not of a text in which an action seems to begin. So every dash removes its blanks if and only if
there are none next to it in the texts of that kind. -/
theorem dashes_spare_protected_texts (name source : String) {d : Delimiters} (hd : d ≠ .usual) {t : List Char}
    {qs : List Saying}
    (hpieces : Delimiter.pieces d.left.toList d.right.toList 0 source.toList = .ok (.text t :: qs.flatMap pieces))
    (htexts : ∀ u ∈ t :: qs.map behind, ¬HoldsTag "endraw" u) :
    (∃ p, compile name source d = .ok p ∧ ∀ {σ : Type} (w : World σ) (state : σ),
      render w p state = (.ok (String.ofList (woven Stretch.spared false t qs)), state)) ∧
    (woven Stretch.spared false t qs = woven Stretch.bare false t qs ↔
      ∀ u ∈ stretches false t qs, Delimiter.looksLikeAction u.text = true → u.bare = u.text) := by
  refine ⟨exists_compile name hd hpieces htexts, ?_⟩
  rw [woven_eq_iff Stretch.length_bare_le]
  simp only [Stretch.spared_eq_bare_iff]

/-- Two texts that are said with a text in braces between them, and dashes towards it. -/
def aroundBraces : List Saying :=
  [between ⟨false, true⟩ ['a'] " {{x}} ".toList (by decide), between ⟨true, false⟩ ['b'] [] (by decide)]

theorem pieces_aroundBraces :
    Delimiter.pieces brackets.left.toList brackets.right.toList 0
      "[[ \"a\" -]] {{x}} [[- \"b\" ]]".toList = .ok (.text [] :: aroundBraces.flatMap pieces) := by
  simp [brackets, Delimiter.pieces, Find.cut?, Find.after?, aroundBraces, between, pieces, quotation, dash, Except.map]

theorem dashes_leave_blanks_around_braces :
    (brackets ≠ .usual ∧
      Delimiter.pieces brackets.left.toList brackets.right.toList 0
        "[[ \"a\" -]] {{x}} [[- \"b\" ]]".toList = .ok (.text [] :: aroundBraces.flatMap pieces) ∧
      ∀ u ∈ [] :: aroundBraces.map behind, ¬HoldsTag "endraw" u) ∧
    (∃ p, compile "t" "[[ \"a\" -]] {{x}} [[- \"b\" ]]" brackets = .ok p ∧
      ∀ {σ : Type} (w : World σ) (state : σ), render w p state = (.ok "a {{x}} b", state)) := by
  have htexts : ∀ u ∈ [] :: aroundBraces.map behind, ¬HoldsTag "endraw" u := fun u hu =>
    not_holdsTag_of_absent (by revert u; decide)
  refine ⟨⟨by decide, pieces_aroundBraces, htexts⟩, ?_⟩
  exact (dashes_spare_protected_texts "t" _ (by decide) pieces_aroundBraces htexts).1

/-- Dashes do not remove all the blanks next to them. -/
theorem dashes_need_not_remove_blanks :
    ¬∀ (name source : String) (d : Delimiters) (t : List Char) (qs : List Saying), d.left ≠ "" → d.right ≠ "" →
      d ≠ .usual →
      Delimiter.pieces d.left.toList d.right.toList 0 source.toList = .ok (.text t :: qs.flatMap pieces) →
      (∀ u ∈ t :: qs.map behind, ¬HoldsTag "endraw" u) →
        ∃ p, compile name source d = .ok p ∧ ∀ {σ : Type} (w : World σ) (state : σ),
          render w p state = (.ok (String.ofList (woven Stretch.bare false t qs)), state) := by
  intro h
  have htexts : ∀ u ∈ [] :: aroundBraces.map behind, ¬HoldsTag "endraw" u := fun u hu =>
    not_holdsTag_of_absent (by revert u; decide)
  obtain ⟨p, hcompile, hrender⟩ := exists_compile "t" (by decide) pieces_aroundBraces htexts
  obtain ⟨p', hcompile', hrender'⟩ :=
    h "t" _ brackets [] aroundBraces (by decide) (by decide) (by decide) pieces_aroundBraces htexts
  obtain rfl : p = p' := Except.ok.inj (hcompile.symm.trans hcompile')
  let w : World Unit := ⟨⟨fun _ state => (.error .connection, state)⟩, [], 0⟩
  have heq := (hrender w ()).symm.trans (hrender' w ())
  have htext : woven Stretch.spared false [] aroundBraces = woven Stretch.bare false [] aroundBraces :=
    String.ofList_injective (by simpa using heq)
  revert htext
  decide

end Saying

end Stencil.Template
