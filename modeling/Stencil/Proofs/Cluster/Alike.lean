import Stencil.Cluster.Memo

set_option autoImplicit false
set_option relaxedAutoImplicit false

/-!
States of a client that cannot be told apart by its answers. Main statement: if a client gives the same answers in
two states, so does one that remembers the same in front of it.
-/

namespace Stencil.Cluster

namespace Client

variable {σ : Type}

def replies (c : Client σ) : List Query → σ → List (Except Failure ObjectList)
  | [], _ => []
  | q :: qs, s => (c.list q s).1 :: replies c qs (c.list q s).2

/-- Whatever is asked from now on, the client gives the same answers in both states. -/
def Alike (c : Client σ) (s t : σ) : Prop := ∀ qs, c.replies qs s = c.replies qs t

variable {c : Client σ} {s t : σ}

theorem Alike.refl (c : Client σ) (s : σ) : c.Alike s s := fun _ => rfl

theorem Alike.answer_eq (h : c.Alike s t) (q : Query) : (c.list q s).1 = (c.list q t).1 :=
  List.head_eq_of_cons_eq (h [q])

theorem Alike.list (h : c.Alike s t) (q : Query) : c.Alike (c.list q s).2 (c.list q t).2 := fun qs =>
  List.tail_eq_of_cons_eq (h (q :: qs))

theorem alike_of_related {R : σ → σ → Prop}
    (hR : ∀ q s t, R s t → (c.list q s).1 = (c.list q t).1 ∧ R (c.list q s).2 (c.list q t).2) (h : R s t) :
    c.Alike s t := by
  intro qs
  induction qs generalizing s t with
  | nil => rfl
  | cons q qs ih =>
    obtain ⟨hanswer, hnext⟩ := hR q s t h
    rw [replies, replies, hanswer, ih hnext]

end Client

/-- What a client is asked through a memory, it is asked alike in states in which it answers alike. -/
theorem Memo.alike_client {σ : Type} {c : Client σ} {s t : σ} (h : c.Alike s t) (m : Memo) :
    (Memo.client c).Alike (m, s) (m, t) := by
  refine Client.alike_of_related (R := fun a b => a.1 = b.1 ∧ c.Alike a.2 b.2) ?_ ⟨rfl, h⟩
  rintro q ⟨m, s⟩ ⟨_, t⟩ ⟨rfl, h⟩
  have hanswer := h.answer_eq q
  have hnext := h.list q
  dsimp only [Memo.client, Memo.list]
  cases (m.enter q.key).get? q.key with
  | some l => exact ⟨rfl, rfl, h⟩
  | none =>
    cases hs : c.list q s with
    | mk answer s' =>
      cases ht : c.list q t with
      | mk answer' t' =>
        rw [hs, ht] at hanswer hnext
        obtain rfl : answer = answer' := hanswer
        cases answer with
        | ok l => exact ⟨rfl, rfl, hnext⟩
        | error f => exact ⟨rfl, rfl, hnext⟩

end Stencil.Cluster
