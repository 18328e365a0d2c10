import Mathlib.Data.List.Basic
import Stencil.Template.Resource

set_option autoImplicit false
set_option relaxedAutoImplicit false

/-!
What the key of a question tells. The kind can be read off it, since no name of a kind holds a parenthesis; the
namespace cannot, since nothing keeps a comma out of it. Main statements: two keys are equal exactly if the
kinds and the texts between the parentheses are, and questions that templates ask are then the same if no
namespace holds a comma.
-/

namespace Stencil.Cluster

private theorem append_cons_cancel {α : Type} {x : α} {a c b d : List α} (ha : x ∉ a) (hc : x ∉ c)
    (h : a ++ x :: b = c ++ x :: d) : a = c ∧ b = d := by
  induction a generalizing c with
  | nil =>
    cases c with
    | nil => exact ⟨rfl, (List.cons.inj h).2⟩
    | cons y c => exact absurd (List.mem_cons.mpr (.inl (List.cons.inj h).1)) hc
  | cons y a ih =>
    cases c with
    | nil => exact absurd (List.mem_cons.mpr (.inl (List.cons.inj h).1.symm)) ha
    | cons z c =>
      obtain ⟨rfl, htail⟩ := List.cons.inj h
      obtain ⟨rfl, hbd⟩ := ih (fun hm => ha (List.mem_cons_of_mem y hm))
        (fun hm => hc (List.mem_cons_of_mem y hm)) htail
      exact ⟨rfl, hbd⟩

theorem Kind.name_injective : Function.Injective Kind.name := by
  intro k l h
  have hname : Kind.ofName? k.name = Kind.ofName? l.name := congrArg Kind.ofName? h
  rw [Kind.ofName?_name, Kind.ofName?_name] at hname
  exact Option.some.inj hname

theorem Kind.parenthesis_notMem_name (k : Kind) : '(' ∉ k.name.toList := by
  cases k <;> decide

namespace Query

/-- The text between the parentheses of a key. -/
def inner (q : Query) : String :=
  match q.ns? with
  | some ns => ns ++ "," ++ q.selector
  | none => q.selector

theorem toList_key (q : Query) :
    q.key.toList = q.kind.name.toList ++ '(' :: (q.inner.toList ++ [')']) := by
  rw [key, inner]
  cases q.ns? with
  | some ns => simp
  | none => simp

theorem key_eq_iff (q r : Query) : q.key = r.key ↔ q.kind = r.kind ∧ q.inner = r.inner := by
  rw [← String.toList_inj, toList_key, toList_key]
  constructor
  · intro h
    obtain ⟨hname, hrest⟩ :=
      append_cons_cancel q.kind.parenthesis_notMem_name r.kind.parenthesis_notMem_name h
    exact ⟨Kind.name_injective (String.toList_inj.mp hname),
      String.toList_inj.mp (List.append_cancel_right hrest)⟩
  · rintro ⟨hkind, hinner⟩
    rw [hkind, hinner]

def IsAskable (q : Query) : Prop := ∃ kind args, Template.queryFor kind args = .ok q

def IsPlain (q : Query) : Prop := ∀ ns, q.ns? = some ns → ',' ∉ ns.toList

theorem IsAskable.ns?_isSome_iff {q : Query} (h : q.IsAskable) :
    q.ns?.isSome ↔ q.kind.scope = .namespaced := by
  obtain ⟨kind, args, h⟩ := h
  rw [Template.queryFor] at h
  split at h
  · cases h
  · split at h
    · cases h
    · cases h
      dsimp only [Query.of]
      cases kind.scope <;> simp

theorem IsAskable.eq_of_inner_eq {q r : Query} (hq : q.IsAskable) (hr : r.IsAskable) (hqplain : q.IsPlain)
    (hrplain : r.IsPlain) (hkind : q.kind = r.kind) (hinner : q.inner = r.inner) : q = r := by
  have hsome : q.ns?.isSome ↔ r.ns?.isSome := by
    rw [hq.ns?_isSome_iff, hr.ns?_isSome_iff, hkind]
  obtain ⟨k, n, s⟩ := q
  obtain ⟨l, m, t⟩ := r
  obtain rfl : k = l := hkind
  cases n with
  | none =>
    cases m with
    | none => exact congrArg (Query.mk k none) hinner
    | some b => exact absurd (hsome.mpr rfl) Bool.false_ne_true
  | some a =>
    cases m with
    | none => exact absurd (hsome.mp rfl) Bool.false_ne_true
    | some b =>
      have htexts : a.toList ++ ',' :: s.toList = b.toList ++ ',' :: t.toList := by
        have hlists : (a ++ "," ++ s).toList = (b ++ "," ++ t).toList := congrArg String.toList hinner
        simpa using hlists
      obtain ⟨hns, hselector⟩ := append_cons_cancel (hqplain a rfl) (hrplain b rfl) htexts
      rw [String.toList_inj.mp hns, String.toList_inj.mp hselector]

end Query

end Stencil.Cluster
