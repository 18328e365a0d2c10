import Stencil.Proofs.Cluster.Sharing
import Stencil.Proofs.Cluster.Memo

set_option autoImplicit false
set_option relaxedAutoImplicit false

/-!
A lookup among shared cells that nobody interrupts. Main statement: where no lookup is asking the client, one that
runs from its beginning to its end gets the answer of a lookup in the `Memo` that the cells make up, and leaves the
cells of the `Memo` that is left then.
-/

namespace Stencil.Cluster

def SharedCell.content : SharedCell → Cell
  | .idle | .busy => none
  | .filled d => some d.list

namespace Sharing

open Stencil.Table

variable {x y z : Sharing} {e : SharingEvent} {events : List SharingEvent} {m : Memo} {t c : Nat} {q : Query}

def Shows (x : Sharing) (m : Memo) : Prop :=
  ∀ key, ((x.table.lookup key).bind fun c => x.cells[c]?.map SharedCell.content) = m.cells.lookup key

def IsQuiet (x : Sharing) : Prop := ∀ c : Nat, x.cells[c]? ≠ some .busy

theorem run?_cons_of_move (h : Move x e y) (hrun : y.run? events = some z) : x.run? (e :: events) = some z := by
  rw [run?, List.foldlM_cons, step?_of_move h]
  exact hrun

theorem run?_of_move (h : Move x e y) : x.run? [e] = some y := run?_cons_of_move h rfl

theorem Shows.get? (h : x.Shows m) {key : String} {cell : SharedCell} (hc : x.table.lookup key = some c)
    (hcell : x.cells[c]? = some cell) : m.get? key = cell.content := by
  rw [Memo.get?, ← h key, hc, Option.bind_some, hcell]
  rfl

theorem Shows.hasCell (h : x.Shows m) (hx : x.Consistent) (key : String) :
    m.hasCell key = (x.table.lookup key).isSome := by
  have hmem : m.hasCell key = (m.cells.lookup key).isSome := by
    rw [Bool.eq_iff_iff, List.lookup_isSome_iff]
    simp [Memo.hasCell]
  rw [hmem, ← h key]
  cases hc : x.table.lookup key with
  | none => rfl
  | some c =>
    rw [Option.bind_some, Option.isSome_map, Option.isSome_some]
    exact List.getElem?_eq_getElem (hx.tabled key c hc) ▸ rfl

theorem exists_run_obtain (hx : x.Consistent) (hshow : x.Shows m) (hquiet : x.IsQuiet)
    (hl : x.lookups[t]? = some ⟨q, .searching⟩) :
    ∃ events y c, x.run? events = some y ∧ y.lookups[t]? = some ⟨q, .waiting c⟩ ∧
      y.table.lookup q.key = some c ∧ y.Shows (m.enter q.key) ∧ y.IsQuiet := by
  have hlt := (List.getElem?_eq_some_iff.mp hl).1
  cases hc : x.table.lookup q.key with
  | some c =>
    have henter : m.enter q.key = m := dif_pos (by rw [hshow.hasCell hx, hc]; rfl)
    refine ⟨[.finds t], _, c, run?_of_move (.finds hl hc), List.getElem?_set_self hlt, hc, ?_, hquiet⟩
    rw [henter]
    exact hshow
  | none =>
    have hentered : (m.enter q.key).cells = (q.key, none) :: m.cells := by
      rw [Memo.enter, dif_neg (by simp [hshow.hasCell hx, hc])]
    have hmissed : (x.lookups.set t ⟨q, .lacking⟩)[t]? = some ⟨q, .lacking⟩ := List.getElem?_set_self hlt
    refine ⟨[.misses t, .enters t], _, x.cells.length,
      run?_cons_of_move (.misses hl hc) (run?_of_move (.entersNew hmissed hc)),
      List.getElem?_set_self (by rwa [List.length_set]), List.lookup_cons_self, fun key => ?shows, fun c hbusy => ?quiet⟩
    case shows =>
      change (((q.key, x.cells.length) :: x.table).lookup key).bind _ = _
      rw [hentered]
      by_cases hkey : key = q.key
      · subst hkey
        simp [SharedCell.content]
      · rw [lookup_cons_ne _ _ hkey, lookup_cons_ne _ _ hkey, ← hshow key]
        cases hold : x.table.lookup key with
        | none => rfl
        | some c => simp [List.getElem?_append_left (hx.tabled key c hold)]
    case quiet =>
      have hold := hquiet c
      grind

theorem Keyed.lookup_setCell (hk : x.Keyed) (hx : x.Consistent) {key : String} (hc : x.table.lookup key = some c)
    (cell : SharedCell) (k : String) :
    ((x.table.lookup k).bind fun b => (x.cells.set c cell)[b]?.map SharedCell.content) =
      if k = key then some cell.content
      else (x.table.lookup k).bind fun b => x.cells[b]?.map SharedCell.content := by
  split
  · next h =>
    subst h
    rw [hc, Option.bind_some, List.getElem?_set_self (hx.tabled k c hc), Option.map_some]
  · next h =>
    cases hb : x.table.lookup k with
    | none => rfl
    | some b =>
      have hne : c ≠ b := fun hcb => h (hk.tabled k key b hb (hcb ▸ hc))
      rw [Option.bind_some, Option.bind_some, List.getElem?_set_ne hne]

theorem Shows.fill (h : x.Shows m) (hk : x.Keyed) (hx : x.Consistent) {key : String}
    (hc : x.table.lookup key = some c) (d : Delivery) (lookups : List Lookup) (moves : Nat) :
    Shows ⟨lookups, x.cells.set c (.filled d), x.table, moves⟩ (m.fill key d.list) := by
  intro k
  change ((x.table.lookup k).bind fun b => (x.cells.set c (.filled d))[b]?.map SharedCell.content) = _
  rw [hk.lookup_setCell hx hc, Memo.fill]
  split
  · next hkey =>
    subst hkey
    rw [lookup_replace_self, ← h k, hc, Option.bind_some, List.getElem?_eq_getElem (hx.tabled k c hc)]
    rfl
  · next hkey => rw [lookup_replace_ne _ _ hkey, h k]

theorem Shows.clear (h : x.Shows m) (hk : x.Keyed) (hx : x.Consistent) {key : String}
    (hc : x.table.lookup key = some c) (hidle : x.cells[c]? = some .idle) (lookups : List Lookup) (moves : Nat) :
    Shows ⟨lookups, x.cells.set c .idle, x.table, moves⟩ m := by
  intro k
  change ((x.table.lookup k).bind fun b => (x.cells.set c .idle)[b]?.map SharedCell.content) = _
  rw [hk.lookup_setCell hx hc, h k]
  split
  · next hkey =>
    subst hkey
    rw [← h k, hc, Option.bind_some, hidle]
    rfl
  · rfl

theorem IsQuiet.set (h : x.IsQuiet) (c : Nat) {cell : SharedCell} (hcell : cell ≠ .busy) (lookups : List Lookup)
    (table : List (String × Nat)) (moves : Nat) : IsQuiet ⟨lookups, x.cells.set c cell, table, moves⟩ := by
  intro b hb
  have hquiet := h b
  grind

theorem exists_run_filling (hl : x.lookups[t]? = some ⟨q, .waiting c⟩) (hc : x.cells[c]? = some .idle)
    (l : ObjectList) :
    ∃ lookups moves, x.run? [.starts t, .succeeds t l, .returns t] =
        some ⟨lookups, x.cells.set c (.filled ⟨l, x.moves⟩), x.table, moves⟩ ∧
      lookups[t]? = some ⟨q, .returned c (.ok ⟨l, x.moves⟩)⟩ := by
  have ht := (List.getElem?_eq_some_iff.mp hl).1
  have hlt := (List.getElem?_eq_some_iff.mp hc).1
  refine ⟨x.lookups.set t ⟨q, .returned c (.ok ⟨l, x.moves⟩)⟩, x.moves + 3, ?_, List.getElem?_set_self ht⟩
  simp [run?, step?, act?, advance, setCell, hl, hc, List.getElem?_set_self ht, List.getElem?_set_self hlt]

theorem exists_run_refused (hl : x.lookups[t]? = some ⟨q, .waiting c⟩) (hc : x.cells[c]? = some .idle)
    (f : Failure) :
    ∃ lookups moves, x.run? [.starts t, .fails t f, .returns t] =
        some ⟨lookups, x.cells.set c .idle, x.table, moves⟩ ∧
      lookups[t]? = some ⟨q, .returned c (.error f)⟩ := by
  have ht := (List.getElem?_eq_some_iff.mp hl).1
  refine ⟨x.lookups.set t ⟨q, .returned c (.error f)⟩, x.moves + 3, ?_, List.getElem?_set_self ht⟩
  simp [run?, step?, act?, advance, setCell, hl, hc, List.getElem?_set_self ht]

/-- A lookup that nobody interrupts answers as a lookup in the memory that the cells make up, and leaves the cells of
the memory that is left then. -/
theorem exists_run_list {σ : Type} (client : Client σ) (s : σ) (hx : x.Consistent) (hk : x.Keyed) (hshow : x.Shows m)
    (hquiet : x.IsQuiet) (hl : x.lookups[t]? = some ⟨q, .searching⟩) :
    ∃ events y c answer, x.run? events = some y ∧ y.lookups[t]? = some ⟨q, .returned c answer⟩ ∧
      answer.map Delivery.list = (Memo.list client q (m, s)).1 ∧ y.Shows (Memo.list client q (m, s)).2.1 ∧
      y.IsQuiet := by
  obtain ⟨before, y, c, hrun, hy, hc, hshown, hstill⟩ := exists_run_obtain hx hshow hquiet hl
  have hcons := hx.run hrun
  have hkeyed := hk.run hx hrun
  have hbehind {after : List SharingEvent} {z : Sharing} (h : y.run? after = some z) :
      x.run? (before ++ after) = some z := Run.append_eq_some_iff.mpr ⟨y, hrun, h⟩
  obtain ⟨cell, hcell⟩ : ∃ cell, y.cells[c]? = some cell := ⟨_, List.getElem?_eq_getElem (hcons.tabled _ c hc)⟩
  have hget := hshown.get? hc hcell
  cases cell with
  | busy => exact absurd hcell (hstill c)
  | filled d =>
    have hlist : Memo.list client q (m, s) = (.ok d.list, m.enter q.key, s) := by
      simp only [Memo.list, hget, SharedCell.content]
    have ht := (List.getElem?_eq_some_iff.mp hy).1
    rw [hlist]
    exact ⟨_, _, c, .ok d, hbehind (run?_of_move (.returnsKept hy hcell)), List.getElem?_set_self ht, rfl, hshown,
      hstill⟩
  | idle =>
    cases hanswer : client.list q s with
    | mk answer s' =>
      cases answer with
      | ok l =>
        have hlist : Memo.list client q (m, s) = (.ok l, (m.enter q.key).fill q.key l, s') := by
          simp only [Memo.list, hget, SharedCell.content, hanswer]
        obtain ⟨lookups, moves, hfill, hreturned⟩ := exists_run_filling hy hcell l
        have hfilled := hstill.set c (by simp : SharedCell.filled ⟨l, y.moves⟩ ≠ .busy) lookups y.table moves
        rw [hlist]
        exact ⟨_, _, c, .ok ⟨l, y.moves⟩, hbehind hfill, hreturned, rfl,
          hshown.fill hkeyed hcons hc ⟨l, y.moves⟩ lookups moves, hfilled⟩
      | error f =>
        have hlist : Memo.list client q (m, s) = (.error f, m.enter q.key, s') := by
          simp only [Memo.list, hget, SharedCell.content, hanswer]
        obtain ⟨lookups, moves, hrefused, hreturned⟩ := exists_run_refused hy hcell f
        have hcleared := hstill.set c (by simp : SharedCell.idle ≠ .busy) lookups y.table moves
        rw [hlist]
        exact ⟨_, _, c, .error f, hbehind hrefused, hreturned, rfl, hshown.clear hkeyed hcons hc hcell lookups moves,
          hcleared⟩

end Sharing

end Stencil.Cluster
