import Stencil.Cluster.Memo
import Stencil.Proofs.Table

set_option autoImplicit false
set_option relaxedAutoImplicit false

/-!
What a lookup does to a memory. A cell that is made or already there changes no answer, and filling one changes
the answer under its key only. Main statements: a lookup is one of three things, and the answers that are kept
are as many as the keys under which there is one.
-/

namespace Stencil.Cluster.Memo

open Stencil.Table

theorem get?_enter (m : Memo) (key k : String) : (m.enter key).get? k = m.get? k := by
  rw [enter]
  split
  · rfl
  · next h =>
    change (((key, none) :: m.cells).lookup k).join = (m.cells.lookup k).join
    by_cases hk : k = key
    · subst hk
      have hn : m.cells.lookup k = none := by
        rw [List.lookup_eq_none_iff]
        intro c hc
        have hne : c.1 ≠ k := fun he => h (by simpa [hasCell] using ⟨c.2, he ▸ hc⟩)
        simpa using hne.symm
      rw [hn, List.lookup_cons_self]
      rfl
    · rw [lookup_cons_ne none m.cells hk]

theorem hasCell_enter (m : Memo) (key : String) : (m.enter key).hasCell key = true := by
  rw [enter]
  split
  · next h => exact h
  · simp [hasCell]

theorem get?_fill_self {m : Memo} {key : String} (h : m.hasCell key = true) (l : ObjectList) :
    (m.fill key l).get? key = some l := by
  have hsome : (m.cells.lookup key).isSome := by
    rw [List.lookup_isSome_iff]
    simpa [hasCell] using h
  obtain ⟨cell, hcell⟩ := Option.isSome_iff_exists.mp hsome
  rw [get?, fill, lookup_replace_self, hcell]
  rfl

theorem get?_fill_ne (m : Memo) {key k : String} (h : k ≠ key) (l : ObjectList) :
    (m.fill key l).get? k = m.get? k := by
  rw [get?, fill, lookup_replace_ne _ _ h, get?]

/-- What a lookup comes to: an answer that is kept, one that the client gives and that is kept from then on, or
a failure of the client, which leaves no trace in what is kept. -/
inductive Lookup {σ : Type} (c : Client σ) (q : Query) (m : Memo) (s : σ) :
    Except Failure ObjectList × Memo × σ → Prop
  | hit {l : ObjectList} {n : Memo} :
      m.get? q.key = some l → n.get? = m.get? → Lookup c q m s (.ok l, n, s)
  | fetched {l : ObjectList} {n : Memo} {t : σ} :
      m.get? q.key = none → c.list q s = (.ok l, t) → n.get? = Function.update m.get? q.key (some l) →
      Lookup c q m s (.ok l, n, t)
  | failed {f : Failure} {n : Memo} {t : σ} :
      m.get? q.key = none → c.list q s = (.error f, t) → n.get? = m.get? →
      Lookup c q m s (.error f, n, t)

theorem lookup_list {σ : Type} (c : Client σ) (q : Query) (m : Memo) (s : σ) :
    Lookup c q m s (list c q (m, s)) := by
  have henter : (m.enter q.key).get? = m.get? := funext (get?_enter m q.key)
  rw [list]
  cases hget : (m.enter q.key).get? q.key with
  | some l => exact .hit ((congrFun henter q.key).symm.trans hget) henter
  | none =>
    have hnone : m.get? q.key = none := (congrFun henter q.key).symm.trans hget
    dsimp only
    cases hlist : c.list q s with
    | mk answer t =>
      cases answer with
      | ok l =>
        refine .fetched hnone hlist (funext fun k => ?_)
        by_cases hk : k = q.key
        · subst hk
          rw [Function.update_self]
          exact get?_fill_self (hasCell_enter m q.key) l
        · rw [Function.update_of_ne hk, get?_fill_ne _ hk, get?_enter]
      | error f => exact .failed hnone hlist henter

def keys (m : Memo) : List String := (m.cells.filter fun c => c.2.isSome).map Prod.fst

theorem keys_nodup (m : Memo) : m.keys.Nodup :=
  m.nodup.sublist (List.filter_sublist.map Prod.fst)

theorem mem_keys_iff (m : Memo) (key : String) : key ∈ m.keys ↔ (m.get? key).isSome := by
  have hmem (l : ObjectList) : m.get? key = some l ↔ (key, some l) ∈ m.cells := by
    rw [get?, Option.join_eq_some_iff]
    exact lookup_eq_some_iff_mem m.nodup key (some l)
  rw [Option.isSome_iff_exists, keys]
  constructor
  · intro h
    obtain ⟨⟨k, cell⟩, hc, rfl⟩ := List.mem_map.mp h
    obtain ⟨hcells, hsome⟩ := List.mem_filter.mp hc
    obtain ⟨l, rfl⟩ := Option.isSome_iff_exists.mp hsome
    exact ⟨l, (hmem l).mpr hcells⟩
  · rintro ⟨l, hl⟩
    exact List.mem_map.mpr ⟨(key, some l), List.mem_filter.mpr ⟨(hmem l).mp hl, rfl⟩, rfl⟩

theorem size_eq_length_keys (m : Memo) : m.size = m.keys.length := by
  rw [keys, List.length_map, size, List.countP_eq_length_filter]

end Stencil.Cluster.Memo
