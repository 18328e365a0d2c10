import Stencil.Proofs.Cluster.Order
import Stencil.Proofs.Cluster.Request

set_option autoImplicit false
set_option relaxedAutoImplicit false

/-!
The two ways in which a client answers. Main statement: a server that selects objects itself and a mirror of all of them
come to the same list, in whatever order each of them has the objects, for every question that can be sent; and a
selector that cannot be read is refused before anything is sent or started.
-/

namespace Stencil.Cluster

open Stencil.Label

/-- A server holds these objects of a kind. Asked for all of them, or for those in a namespace, it replies in any order
with the ones whose labels meet the selector that it is told. -/
def Server.Holds (server : Server) (kind : Kind) (held : List Object) : Prop :=
  ∀ (ns? : Option String) (parameters : List (String × String)) (s : Selector),
    (kind.scope = .cluster → ns? = none) →
    Selector.parse ((parameters.lookup Request.selectorName).getD "") = .ok s →
    ∃ objects, (server ⟨Request.pathOf kind ns?, parameters⟩).objects? kind = some objects ∧
      objects.Perm (ObjectList.select ⟨kind, held⟩ ns? s).items

namespace Remote

/-- The mirror of a kind holds these objects, in any order, or it is about to take them over from the server. -/
def Mirrors (r : Remote) (kind : Kind) (held : List Object) : Prop :=
  (∃ objects, r.mirrors.lookup kind = some (.synced objects) ∧ objects.Perm held) ∨
    r.mirrors.lookup kind = none ∧ r.stopped = false ∧ r.server.Holds kind held

variable {q : Query} {s : Selector} {held objects : List Object} {r : Remote}

theorem ask_of_refused {e : SelectorError} (h : Selector.parse q.selector = .error e) (r : Remote) :
    ask q r = (.done (.error (.invalidSelector q.selector e)), r) := by
  rw [ask, Query.parseSelector, h]
  rfl

theorem ask_of_parsed (h : Selector.parse q.selector = .ok s) (r : Remote) :
    ask q r = match r.mode with
      | .direct => askServer q r
      | .cached => askMirror q s r := by
  rw [ask, Query.parseSelector, h]
  rfl

theorem lookup_parameters (q : Query) : (q.parameters.lookup Request.selectorName).getD "" = q.selector := by
  rw [Query.parameters]
  split
  · next h => exact h.symm
  · simp

theorem sort_select_of_perm (hd : Distinct held) (ns? : Option String) (s : Selector)
    (h : objects.Perm (ObjectList.select ⟨q.kind, held⟩ ns? s).items) :
    (ObjectList.mk q.kind objects).sort = (ObjectList.select ⟨q.kind, held⟩ ns? s).sort := by
  have hsame := ((hd.filter _).sort_eq h.symm).symm
  rw [ObjectList.sort, hsame]
  rfl

theorem fromMirror_of_perm (hd : Distinct held) (h : objects.Perm held) :
    fromMirror q s objects = (ObjectList.select ⟨q.kind, held⟩ q.ns? s).sort :=
  sort_select_of_perm hd q.ns? s (h.filter _)

theorem fromReply_of_objects {reply : Reply} (h : reply.objects? q.kind = some objects) :
    fromReply q reply = .done (.ok (ObjectList.mk q.kind objects).sort) := by
  cases reply with
  | pending => cases h
  | answered status body =>
    have hcame : Reply.answered status body ≠ .pending := by
      intro hp
      cases hp
    rw [fromReply, h]
    exact hcame

theorem askServer_of_holds (hscope : q.kind.scope = .cluster → q.ns? = none) (hd : Distinct held)
    (hserver : r.server.Holds q.kind held) (hs : Selector.parse q.selector = .ok s) (hpath : q.FitsPath)
    (haddress : q.FitsAddress) :
    (askServer q r).1 = .done (.ok (ObjectList.select ⟨q.kind, held⟩ q.ns? s).sort) := by
  have htold : Selector.parse ((q.parameters.lookup Request.selectorName).getD "") = .ok s := by
    rw [lookup_parameters]
    exact hs
  obtain ⟨objects, hreply, hperm⟩ := hserver q.ns? q.parameters s hscope htold
  rw [askServer, Request.ofQuery?_eq_some hpath haddress]
  dsimp only [send]
  rw [fromReply_of_objects hreply, sort_select_of_perm hd q.ns? s hperm]

theorem parse_empty : Selector.parse "" = .ok ⟨"", []⟩ := by
  with_unfolding_all rfl

theorem select_all (kind : Kind) (held : List Object) : (ObjectList.select ⟨kind, held⟩ none ⟨"", []⟩).items = held := by
  rw [ObjectList.select, List.filter_eq_self]
  exact fun _ _ => rfl

theorem lookup_startMirror (hd : Distinct held) {kind : Kind} (hserver : r.server.Holds kind held) :
    ∃ objects, (startMirror kind r).mirrors.lookup kind = some (.synced objects) ∧ objects.Perm held := by
  obtain ⟨objects, hreply, hperm⟩ := hserver none [] ⟨"", []⟩ (fun _ => rfl) parse_empty
  rw [select_all] at hperm
  have hdistinct : Distinct ([] ++ objects) := hd.perm hperm.symm
  have hall : objects.foldl (fun xs o => (Change.applied o).act xs) [] = objects := foldl_applied hdistinct
  refine ⟨objects, ?_, hperm⟩
  rw [startMirror]
  dsimp only [send, Request.all]
  rw [hreply]
  dsimp only
  rw [hall]
  exact List.lookup_cons_self

theorem askMirror_of_mirrors (hd : Distinct held) (h : r.Mirrors q.kind held) :
    (askMirror q s r).1 = .done (.ok (ObjectList.select ⟨q.kind, held⟩ q.ns? s).sort) := by
  rcases h with ⟨objects, hmirror, hperm⟩ | ⟨hnone, hgoing, hserver⟩
  · rw [askMirror, hmirror]
    dsimp only
    rw [fromMirror_of_perm hd hperm]
  · obtain ⟨objects, hmirror, hperm⟩ := lookup_startMirror hd hserver
    rw [askMirror, hnone, hgoing]
    dsimp only
    rw [if_neg Bool.false_ne_true, hmirror]
    dsimp only
    rw [fromMirror_of_perm hd hperm]

/-- A server and a mirror hold the same objects, no two of which have the same name and namespace. A client that asks the
server and one that asks the mirror then answer alike: they refuse a selector that cannot be read, and do nothing; and to
a question that can be sent they give the list of the objects in the namespace whose labels meet the selector, in order.
-/
theorem direct_and_cached_answer_alike {q : Query} {held : List Object} {direct cached : Remote}
    (hscope : q.kind.scope = .cluster → q.ns? = none) (hd : Distinct held)
    (hdirect : direct.mode = .direct) (hserver : direct.server.Holds q.kind held)
    (hcached : cached.mode = .cached) (hmirror : cached.Mirrors q.kind held) :
    (∀ e, Selector.parse q.selector = .error e →
      ask q direct = (.done (.error (.invalidSelector q.selector e)), direct) ∧
      ask q cached = (.done (.error (.invalidSelector q.selector e)), cached)) ∧
    (∀ s, Selector.parse q.selector = .ok s → q.FitsPath → q.FitsAddress →
      ∃ list, (ask q direct).1 = .done (.ok list) ∧ (ask q cached).1 = .done (.ok list) ∧ list.kind = q.kind ∧
        list.items.Perm (held.filter fun o => inNamespace q.ns? o && s.holds (labelsOf o)) ∧
        list.items.Pairwise fun a b => objectLe a b = true) := by
  refine ⟨fun e he => ⟨ask_of_refused he direct, ask_of_refused he cached⟩, fun s hs hpath haddress => ?_⟩
  refine ⟨(ObjectList.select ⟨q.kind, held⟩ q.ns? s).sort, ?_, ?_, rfl, ?_, ?_⟩
  · rw [ask_of_parsed hs, hdirect]
    exact askServer_of_holds hscope hd hserver hs hpath haddress
  · rw [ask_of_parsed hs, hcached]
    exact askMirror_of_mirrors hd hmirror
  · exact List.mergeSort_perm _ objectLe
  · exact pairwise_sort _

/-- The server has two nodes in another order than the mirror. -/
theorem nodes_in_zone_answered_alike :
    let all : Reply := .answered 200 ("\x7b\"items\":" ++
      "[\x7b\"metadata\":\x7b\"labels\":\x7b\"zone\":\"x\"\x7d,\"name\":\"b\"\x7d\x7d," ++
      "\x7b\"metadata\":\x7b\"labels\":\x7b\"zone\":\"x\"\x7d,\"name\":\"a\"\x7d\x7d]\x7d")
    let nothing : Reply := .answered 200 "\x7b\"items\":[]\x7d"
    let server : Server := fun r =>
      match Selector.parse ((r.parameters.lookup Request.selectorName).getD "") with
      | .ok s => if s.holds [("zone", "x")] then all else nothing
      | .error _ => .answered 400 ""
    let q := Query.of .nodes none "zone=x"
    ∃ nodes list, all.objects? .nodes = some nodes ∧ nodes.map name? = [some "b", some "a"] ∧
      (ask q (start .direct server)).1 = .done (.ok list) ∧
      (ask q ⟨.cached, server, [(.nodes, .synced nodes.reverse)], [], false⟩).1 = .done (.ok list) ∧
      list.items.Perm nodes := by
  intro all nothing server q
  have hall : (all.objects? .nodes).map (fun os => (os.map identity, os.map labelsOf)) =
      some ([(some "b", none), (some "a", none)], [[("zone", "x")], [("zone", "x")]]) := by
    decide +kernel
  obtain ⟨nodes, hnodes, hfacts⟩ := Option.map_eq_some_iff.mp hall
  obtain ⟨hidentities, hlabels⟩ := Prod.mk.inj hfacts
  have hd : Distinct nodes := by
    rw [Distinct, hidentities]
    decide
  -- the nodes have the same labels, so that a selector is met by both of them or by none
  have hmeets : ∀ s : Selector, (ObjectList.select ⟨.nodes, nodes⟩ none s).items =
      if s.holds [("zone", "x")] then nodes else [] := by
    intro s
    have hsame : ∀ o ∈ nodes, labelsOf o = [("zone", "x")] := by
      intro o ho
      have hmem : labelsOf o ∈ nodes.map labelsOf := List.mem_map_of_mem ho
      simpa [hlabels] using hmem
    have hfilter : nodes.filter (fun o => inNamespace none o && s.holds (labelsOf o)) =
        nodes.filter fun _ => s.holds [("zone", "x")] :=
      List.filter_congr fun o ho => by rw [hsame o ho, inNamespace, Bool.true_and]
    rw [ObjectList.select, hfilter]
    cases s.holds [("zone", "x")] <;> simp
  have hserver : server.Holds .nodes nodes := by
    intro ns? parameters s hscope hs
    obtain rfl : ns? = none := hscope rfl
    rw [hmeets]
    simp only [server, hs]
    cases s.holds [("zone", "x")] with
    | true => exact ⟨nodes, hnodes, .refl _⟩
    | false => exact ⟨[], by with_unfolding_all rfl, .nil⟩
  have hmirror : Mirrors ⟨.cached, server, [(.nodes, .synced nodes.reverse)], [], false⟩ .nodes nodes :=
    .inl ⟨nodes.reverse, rfl, nodes.reverse_perm⟩
  have hmet : (match Selector.parse q.selector with
      | .ok s => s.holds [("zone", "x")]
      | .error _ => false) = true := by
    decide +kernel
  obtain ⟨-, hanswers⟩ := direct_and_cached_answer_alike (q := q) (fun _ => rfl) hd
    (rfl : (start .direct server).mode = .direct) hserver rfl hmirror
  have hnames : nodes.map name? = [some "b", some "a"] := by
    have h := congrArg (List.map Prod.fst) hidentities
    rwa [List.map_map] at h
  split at hmet
  · next s hs =>
    obtain ⟨list, hlist, hlist', -, hitems, -⟩ := hanswers s hs (Query.fitsPath_of_none rfl) (by decide +kernel)
    exact ⟨nodes, list, hnodes, hnames, hlist, hlist', hitems.trans (.of_eq ((hmeets s).trans (if_pos hmet)))⟩
  · cases hmet

/-- A namespace with a blank in its name cannot be sent. The mirror answers that nothing is there. -/
theorem blank_in_namespace_is_not_sent :
    let server : Server := fun _ => .answered 200 "\x7b\"items\":[]\x7d"
    let q := Query.of .pods (some "a b") ""
    server.Holds .pods [] ∧ (ask q (start .direct server)).1 = .done (.error (.request .pods)) ∧
      (ask q (start .cached server)).1 = .done (.ok (.empty .pods)) := by
  intro server q
  have hserver : server.Holds .pods [] := fun _ _ _ _ _ => ⟨[], by with_unfolding_all rfl, .nil⟩
  have hq : q = ⟨.pods, some "a b", ""⟩ := by decide +kernel
  have hsent : Request.ofQuery? ⟨.pods, some "a b", ""⟩ = none := by decide +kernel
  have hmirror : (start .cached server).Mirrors .pods [] := .inr ⟨rfl, rfl, hserver⟩
  have hask := ask_of_parsed (q := ⟨.pods, some "a b", ""⟩) parse_empty
  rw [hq]
  refine ⟨hserver, ?_, ?_⟩
  · rw [hask]
    dsimp only [start]
    rw [askServer, hsent]
  · have hnothing : Distinct [] := List.nodup_nil
    have hall := askMirror_of_mirrors (q := ⟨.pods, some "a b", ""⟩) (s := ⟨"", []⟩) hnothing hmirror
    have hmode : (start .cached server).mode = .cached := rfl
    rw [hask, hmode]
    exact hall.trans (by simp [ObjectList.select, ObjectList.sort, ObjectList.empty])

end Remote

end Stencil.Cluster
