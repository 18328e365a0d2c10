import Mathlib.Data.List.TakeWhile
import Stencil.Cluster.Server
import Stencil.Proofs.Text.Find
import Stencil.Proofs.Text.Percent

set_option autoImplicit false
set_option relaxedAutoImplicit false

/-!
What a question is as a request. Main statement: if the namespace holds only what may stand in a path and the text is
not too long for an address, the request names the path of the objects, and the server is told the selector as it is.
-/

namespace Stencil.Cluster

open Stencil.Text

namespace Query

def FitsPath (q : Query) : Prop := ∀ n, q.ns? = some n → n.toList.all Address.isPathChar = true

theorem fitsPath_of_none {q : Query} (h : q.ns? = none) : q.FitsPath := by
  intro n hn
  cases h.symm.trans hn

def FitsAddress (q : Query) : Prop := Find.byteLength (Request.addressOf q) ≤ Address.limit

instance (q : Query) : Decidable q.FitsAddress := Nat.decLe _ _

def parameters (q : Query) : List (String × String) :=
  if q.selector = "" then [] else [(Request.selectorName, q.selector)]

end Query

namespace Address

variable {path query : List Char}

theorem takeWhile_fragment (hpath : path.all isPathChar = true) (hquery : '#' ∉ query) :
    (path ++ '?' :: query).takeWhile (· ≠ '#') = path ++ '?' :: query := by
  rw [List.takeWhile_eq_self_iff]
  intro c hc
  rcases List.mem_append.mp hc with hc | hc
  · have hchar := List.all_eq_true.mp hpath c hc
    exact decide_eq_true fun h => by
      subst h
      cases hchar
  · rcases List.mem_cons.mp hc with rfl | hc
    · rfl
    · exact decide_eq_true fun h => hquery (h ▸ hc)

theorem pathAndQuery?_append (hpath : path.all isPathChar = true) (hquery : query.all isQueryChar = true) :
    pathAndQuery? (path ++ '?' :: query) = some (path, some query) := by
  have hmark : ∀ c ∈ path, decide (c ≠ '?') = true := by
    intro c hc
    have hchar := List.all_eq_true.mp hpath c hc
    exact decide_eq_true fun h => by
      subst h
      cases hchar
  have hfragment : '#' ∉ query := by
    intro hc
    cases List.all_eq_true.mp hquery '#' hc
  rw [pathAndQuery?, takeWhile_fragment hpath hfragment, List.takeWhile_append_of_pos hmark,
    List.dropWhile_append_of_pos hmark]
  simp [hpath, hquery]

end Address

namespace Request

theorem isPathChar_pathOf {q : Query} (h : q.FitsPath) : (pathOf q.kind q.ns?).toList.all Address.isPathChar = true := by
  have hname : q.kind.name.toList.all Address.isPathChar = true := by cases q.kind <;> decide
  have hall : ("/api/v1/" ++ q.kind.name).toList.all Address.isPathChar = true := by
    rw [String.toList_append, List.all_append, hname, Bool.and_true]
    decide
  unfold pathOf
  split
  · next n _ hn =>
    split
    · exact hall
    · simp only [String.toList_append, List.all_append, hname, h n hn, Bool.and_true]
      decide
  · exact hall

theorem head?_addressOf (q : Query) : (addressOf q).head? = some '/' := by
  have hhead : ∀ s : String, ("/api/v1/" ++ s).toList.head? = some '/' := fun s => by
    rw [String.toList_append]
    rfl
  have hhead' : ∀ s : String, ("/api/v1/namespaces/" ++ s).toList.head? = some '/' := fun s => by
    rw [String.toList_append]
    rfl
  have hpath : (pathOf q.kind q.ns?).toList.head? = some '/' := by
    unfold pathOf
    split
    · split
      · exact hhead _
      · rw [String.append_assoc, String.append_assoc]
        exact hhead' _
    · exact hhead _
  rw [addressOf, List.head?_append, hpath]
  rfl

theorem parse?_addressOf {q : Query} (h : q.FitsAddress) :
    Address.parse? (addressOf q) = (Address.pathAndQuery? (addressOf q)).map fun m => ⟨none, [], m.1, m.2⟩ := by
  have hhead := head?_addressOf q
  have hne : addressOf q ≠ [] := by
    intro hnil
    rw [hnil] at hhead
    cases hhead
  have hstar : addressOf q ≠ ['*'] := by
    intro hstar
    rw [hstar] at hhead
    cases hhead
  have hlong : ¬Address.limit < Find.byteLength (addressOf q) := Nat.not_lt.mpr h
  rw [Address.parse?, if_neg (by simp [hne, hlong]), if_neg hstar, if_pos hhead]

theorem all_selector (s : String) : (Percent.escape s).all (fun c => Address.isQueryChar c && c != '&') = true :=
  Percent.all_escape (by decide +kernel) s

theorem parametersOf_nil : parametersOf [] = [] := by
  rw [parametersOf, Find.splitBy_singleton]
  rfl

theorem parametersOf_selector (s : String) :
    parametersOf ('&' :: selectorName.toList ++ '=' :: Percent.escape s) = [(selectorName, s)] := by
  have hsplit : '&' ∉ selectorName.toList ++ '=' :: Percent.escape s := by
    have hname : selectorName.toList.all (· != '&') = true := by decide +kernel
    intro hc
    rcases List.mem_append.mp hc with hc | hc
    · cases List.all_eq_true.mp hname '&' hc
    · rcases List.mem_cons.mp hc with hc | hc
      · cases hc
      · cases List.all_eq_true.mp (all_selector s) '&' hc
  have hname : selectorName.toList.all (fun c => decide (c ≠ '=')) = true := by decide +kernel
  have hunescape : Percent.unescape selectorName.toList = selectorName := by decide +kernel
  have hpieces : Find.splitBy ['&'] ('&' :: selectorName.toList ++ '=' :: Percent.escape s) =
      [[], selectorName.toList ++ '=' :: Percent.escape s] := by
    have hfront := List.splitOn_append_cons_self_of_not_mem (a := '&') List.not_mem_nil
      (selectorName.toList ++ '=' :: Percent.escape s)
    rw [Find.splitBy_singleton, List.cons_append]
    exact hfront.trans (congrArg _ (List.splitOn_eq_singleton hsplit))
  have hparameter : parameterOf (selectorName.toList ++ '=' :: Percent.escape s) = (selectorName, s) := by
    rw [parameterOf, List.takeWhile_append_of_pos (List.all_eq_true.mp hname),
      List.dropWhile_append_of_pos (List.all_eq_true.mp hname)]
    simp [hunescape, Percent.unescape_escape]
  rw [parametersOf, hpieces]
  simpa using hparameter

theorem ofQuery?_eq_some {q : Query} (hpath : q.FitsPath) (haddress : q.FitsAddress) :
    ofQuery? q = some ⟨pathOf q.kind q.ns?, q.parameters⟩ := by
  have hchars := isPathChar_pathOf hpath
  rw [ofQuery?, parse?_addressOf haddress, addressOf, Query.parameters]
  split
  · rw [Address.pathAndQuery?_append hchars rfl]
    simp [parametersOf_nil]
  · have hquery : ('&' :: selectorName.toList ++ '=' :: Percent.escape q.selector).all Address.isQueryChar = true := by
      have hfront : ('&' :: selectorName.toList).all Address.isQueryChar = true := by decide +kernel
      have hback : (Percent.escape q.selector).all Address.isQueryChar = true := by
        rw [List.all_eq_true]
        exact fun c hc => (Bool.and_eq_true_iff.mp (List.all_eq_true.mp (all_selector q.selector) c hc)).1
      rw [List.all_append, hfront, List.all_cons, hback]
      rfl
    rw [Address.pathAndQuery?_append hchars hquery, Option.map_some, Option.map_some, Option.getD_some,
      parametersOf_selector, String.ofList_toList]

end Request

end Stencil.Cluster
