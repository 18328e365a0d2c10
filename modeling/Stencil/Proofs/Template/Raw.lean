import Stencil.Proofs.Template.Parser
import Stencil.Proofs.Text.Find
import Stencil.Template.NodeParser

set_option autoImplicit false
set_option relaxedAutoImplicit false

/-!
Tags that say a word, and the texts that such tags enclose. Main statement: a text without a tag that ends it is read
as a whole up to the tag behind it, whatever the text holds besides and whatever it ends with; and without a tag behind
it, it is not read.
-/

namespace Stencil.Template.NodeParser

open Stencil.Text Stencil.Template.Parser

def dash (b : Bool) : List Char := if b then ['-'] else []

/-- A tag that says a word, as it is written: blanks may stand around the word, and a dash at both ends. -/
def IsTag (word : String) (e : Edges) (tag : List Char) : Prop :=
  ∃ before after, (∀ c ∈ before, isLayout c) ∧ (∀ c ∈ after, isLayout c) ∧
    tag = '\x7b' :: '%' :: (dash e.left ++ (before ++ (word.toList ++ (after ++ (dash e.right ++ ['%', '\x7d'])))))

def HoldsTag (word : String) (s : List Char) : Prop := ∃ e tag, IsTag word e tag ∧ tag <:+: s

theorem of_opening {s r : List Char} {left : Bool} (h : opening s = some (left, r)) :
    s = '\x7b' :: '%' :: (dash left ++ r) := by
  simp only [opening, word, literal, orElse_apply, bind_apply, pure_apply, Option.or_eq_some_iff,
    Option.bind_eq_some_iff, Option.map_eq_some_iff] at h
  rcases h with ⟨_, ⟨_, h, rfl⟩, heq⟩ | ⟨-, _, ⟨_, h, rfl⟩, heq⟩
  · cases heq
    exact (Find.after?_eq_some_iff _ _ _).mp h
  · cases heq
    exact (Find.after?_eq_some_iff _ _ _).mp h

theorem opening_append {left : Bool} {r : List Char} (h : left = false → r.head? ≠ some '-') :
    opening ('\x7b' :: '%' :: (dash left ++ r)) = some (left, r) := by
  cases left with
  | true => simp [opening, word, literal, Find.after?, dash]
  | false =>
    cases r with
    | nil => simp [opening, word, literal, Find.after?, dash]
    | cons c r =>
      have hc : c ≠ '-' := by simpa using h rfl
      simp [opening, word, literal, Find.after?, dash, hc.symm]

theorem of_closing {s r : List Char} {right : Bool} (h : closing s = some (right, r)) :
    s = dash right ++ '%' :: '\x7d' :: r := by
  simp only [closing, word, literal, orElse_apply, bind_apply, pure_apply, Option.or_eq_some_iff,
    Option.bind_eq_some_iff, Option.map_eq_some_iff] at h
  rcases h with ⟨_, ⟨_, h, rfl⟩, heq⟩ | ⟨-, _, ⟨_, h, rfl⟩, heq⟩
  · cases heq
    exact (Find.after?_eq_some_iff "-%\x7d".toList _ _).mp h
  · cases heq
    exact (Find.after?_eq_some_iff "%\x7d".toList _ _).mp h

theorem closing_append (right : Bool) (r : List Char) :
    closing (dash right ++ '%' :: '\x7d' :: r) = some (right, r) := by
  cases right <;> simp [closing, word, literal, Find.after?, dash]

theorem tag_of_opening {α : Type} {p : Parser α} {s r : List Char} {left : Bool} (h : opening s = some (left, r)) :
    tag p s = (p (r.dropWhile isLayout)).bind fun m =>
      (closing (m.2.dropWhile isLayout)).map fun c => ((⟨left, c.1⟩, m.1), c.2) := by
  simp only [tag, bind_apply, pure_apply, skip_apply, h, Option.bind_some, Option.map_eq_bind]
  rfl

theorem tag_of_not_opening {α : Type} {p : Parser α} {s : List Char} (h : opening s = none) : tag p s = none := by
  simp only [tag, bind_apply, h, Option.bind_none]

theorem of_wordTag {word : String} {e : Edges} {s r : List Char} (h : wordTag word s = some (e, r)) :
    ∃ tag, IsTag word e tag ∧ s = tag ++ r := by
  simp only [wordTag, tag, map_apply, bind_apply, skip_apply, pure_apply, literal, Option.bind_some,
    Option.map_eq_some_iff, Option.bind_eq_some_iff, Option.some.injEq] at h
  obtain ⟨-, ⟨⟨left, s₁⟩, hleft, -, ⟨s₂, hword, rfl⟩, ⟨right, s₃⟩, hright, rfl⟩, heq⟩ := h
  obtain ⟨rfl, rfl⟩ := Prod.mk.injEq .. ▸ heq
  refine ⟨_, ⟨s₁.takeWhile isLayout, s₂.takeWhile isLayout, ?_, ?_, rfl⟩, ?_⟩
  · exact fun c hc => List.all_eq_true.mp List.all_takeWhile c hc
  · exact fun c hc => List.all_eq_true.mp List.all_takeWhile c hc
  · have h₁ : s₁.dropWhile isLayout = word.toList ++ s₂ := (Find.after?_eq_some_iff _ _ _).mp hword
    have h₂ : s₂.dropWhile isLayout = dash right ++ '%' :: '\x7d' :: s₃ := of_closing hright
    calc
      s = '\x7b' :: '%' :: (dash left ++ s₁) := of_opening hleft
      _ = '\x7b' :: '%' :: (dash left ++ (s₁.takeWhile isLayout ++ (word.toList ++ s₂))) := by
        rw [← h₁, List.takeWhile_append_dropWhile]
      _ = '\x7b' :: '%' :: (dash left ++ (s₁.takeWhile isLayout ++
            (word.toList ++ (s₂.takeWhile isLayout ++ (dash right ++ '%' :: '\x7d' :: s₃))))) := by
        rw [← h₂, List.takeWhile_append_dropWhile]
      _ = _ := by simp

/-- Every tag that says the word is read as one, if the word is not taken for a dash or for blanks. -/
theorem wordTag_append {word : String} {e : Edges} {tag : List Char} (h : IsTag word e tag)
    (hword : ∃ c w, word.toList = c :: w ∧ c ≠ '-' ∧ ¬isLayout c) (r : List Char) :
    wordTag word (tag ++ r) = some (e, r) := by
  obtain ⟨before, after, hbefore, hafter, rfl⟩ := h
  obtain ⟨c, w, hw, hc, hl⟩ := hword
  have hend : (dash e.right ++ '%' :: '\x7d' :: r).dropWhile isLayout = dash e.right ++ '%' :: '\x7d' :: r := by
    cases e.right <;> simp [dash, isLayout]
  have hafter' : (after ++ (dash e.right ++ '%' :: '\x7d' :: r)).dropWhile isLayout =
      dash e.right ++ '%' :: '\x7d' :: r := by
    rw [List.dropWhile_append_of_pos hafter, hend]
  have hbefore' : ∀ x, (before ++ (word.toList ++ x)).dropWhile isLayout = word.toList ++ x := fun x => by
    rw [List.dropWhile_append_of_pos hbefore, hw, List.cons_append, List.dropWhile_cons_of_neg hl]
  have hopening : ∀ x, opening ('\x7b' :: '%' :: (dash e.left ++ (before ++ (word.toList ++ x)))) =
      some (e.left, before ++ (word.toList ++ x)) := by
    intro x
    refine opening_append fun _ => ?_
    cases before with
    | nil => simpa [hw] using hc
    | cons b before =>
      rintro h
      obtain rfl : b = '-' := by simpa using h
      exact absurd (hbefore '-' (by simp)) (by decide)
  simp only [List.cons_append, List.append_assoc, List.nil_append, wordTag, tag, map_apply, bind_apply, skip_apply,
    pure_apply, literal, Find.after?_append, Option.map_some, Option.bind_some, hopening, hbefore', hafter',
    closing_append]

theorem IsTag.exists_eq_cons {word : String} {e : Edges} {tag : List Char} (h : IsTag word e tag)
    (hword : '\x7b' ∉ word.toList) : ∃ w, tag = '\x7b' :: w ∧ '\x7b' ∉ w := by
  obtain ⟨before, after, hbefore, hafter, rfl⟩ := h
  have hlayout : ¬isLayout '\x7b' := by decide
  have hdash : ∀ b, '\x7b' ∉ dash b := by decide
  refine ⟨_, rfl, ?_⟩
  simp only [List.mem_cons, List.mem_append, hword, hdash, mt (hbefore _) hlayout, mt (hafter _) hlayout]
  decide

theorem IsTag.isPrefix_of_append_eq {word : String} {e : Edges} {s w r tag r' : List Char} (htag : IsTag word e tag)
    (hword : '\x7b' ∉ word.toList) (hs : s ≠ []) (h : s ++ ('\x7b' :: w ++ r) = tag ++ r') : tag <+: s := by
  obtain ⟨w', rfl, hw'⟩ := htag.exists_eq_cons hword
  rcases List.append_eq_append_iff.mp h with ⟨a, ha, hr⟩ | ⟨a, ha, -⟩
  · cases a with
    | nil => exact ⟨[], by simpa using ha⟩
    | cons b a =>
      obtain rfl : '\x7b' = b := (List.cons.inj hr).1
      obtain ⟨c, s, rfl⟩ := List.exists_cons_of_ne_nil hs
      obtain ⟨-, rfl⟩ := List.cons.inj ha
      simp at hw'
  · exact ⟨a, ha.symm⟩

theorem not_holdsTag_of_absent {word : String} {s : List Char} (h : ¬word.toList <:+: s) : ¬HoldsTag word s := by
  rintro ⟨e, tag, ⟨before, after, -, -, rfl⟩, hwithin⟩
  refine h (.trans ?_ hwithin)
  exact ⟨'\x7b' :: '%' :: (dash e.left ++ before), after ++ (dash e.right ++ ['%', '\x7d']), by simp⟩

theorem HoldsTag.isInfix {word : String} {s : List Char} (h : HoldsTag word s) : ['\x7b', '%'] <:+: s := by
  obtain ⟨e, tag, ⟨before, after, -, -, rfl⟩, hwithin⟩ := h
  exact .trans (List.prefix_append ['\x7b', '%'] _).isInfix hwithin

theorem rawRest_append {s tag : List Char} {e : Edges} (hs : ¬HoldsTag "endraw" s) (htag : IsTag "endraw" e tag)
    (r : List Char) : rawRest (s ++ (tag ++ r)) = some ((s, e), r) := by
  have hread : wordTag "endraw" (tag ++ r) = some (e, r) :=
    wordTag_append htag ⟨'e', _, rfl, by decide, by decide⟩ r
  obtain ⟨w, rfl, hw⟩ := htag.exists_eq_cons (by decide)
  induction s with
  | nil =>
    rw [List.cons_append] at hread
    simp [rawRest, hread]
  | cons c s ih =>
    -- a tag that began in the text would end in it
    have hnone : wordTag "endraw" (c :: s ++ ('\x7b' :: w ++ r)) = none := by
      cases h : wordTag "endraw" (c :: s ++ ('\x7b' :: w ++ r)) with
      | none => rfl
      | some m =>
        obtain ⟨tag', htag', heq⟩ := of_wordTag h
        exact absurd ⟨m.1, tag', htag', (htag'.isPrefix_of_append_eq (by decide) (by simp) heq).isInfix⟩ hs
    have hrest : ¬HoldsTag "endraw" s := by
      rintro ⟨e', tag', htag', hwithin⟩
      exact hs ⟨e', tag', htag', List.infix_cons hwithin⟩
    rw [List.cons_append] at hnone ⊢
    simp only [rawRest, hnone, ih hrest, Option.map_some]

theorem rawRest_eq_none {s : List Char} (h : ¬HoldsTag "endraw" s) : rawRest s = none := by
  induction s with
  | nil => rfl
  | cons c s ih =>
    have hnone : wordTag "endraw" (c :: s) = none := by
      rw [Option.eq_none_iff_forall_ne_some]
      rintro ⟨e, r⟩ hread
      obtain ⟨tag, htag, heq⟩ := of_wordTag hread
      exact h ⟨e, tag, htag, heq ▸ (List.prefix_append tag r).isInfix⟩
    have hrest : ¬HoldsTag "endraw" s := by
      rintro ⟨e, tag, htag, hwithin⟩
      exact h ⟨e, tag, htag, List.infix_cons hwithin⟩
    simp only [rawRest, hnone, ih hrest, Option.map_none]

end Stencil.Template.NodeParser
