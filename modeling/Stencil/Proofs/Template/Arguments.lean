import Mathlib.Data.List.Nodup
import Stencil.Proofs.Table
import Stencil.Proofs.Text.Blank
import Stencil.Template.Function

set_option autoImplicit false
set_option relaxedAutoImplicit false

/-!
What the named arguments of a call ask for. Of the arguments that are written under one name the last is kept, so no
name occurs twice; the order of the others is any. Main statements: a call is a question exactly if there are not too many
arguments and the kind takes each of them, and every other call fails with a fault that is there; the order does not
matter, but for the choice between the faults of two arguments.
-/

namespace Stencil.Template

open Stencil.Json Stencil.Cluster Stencil.Text

variable {kind : Kind} {args args' : Arguments} {m m' : String × Value} {f f' : ResourceFault} {q : Query}

def HasArgument (kind : Kind) (name : String) : Prop :=
  name = "selector" ∨ name = "namespace" ∧ kind.scope = .namespaced

structure Takes (kind : Kind) (m : String × Value) : Prop where
  named : HasArgument kind m.1
  text : ∃ t, m.2 = .str t

/-- A fault names an argument and what is wrong with it. -/
inductive IsFaultOf (kind : Kind) (m : String × Value) : ResourceFault → Prop
  | unexpected (hname : ¬HasArgument kind m.1) : IsFaultOf kind m (.unexpectedArgument kind m.1)
  | invalid (hname : HasArgument kind m.1) (hvalue : ∀ t, m.2 ≠ .str t) :
      IsFaultOf kind m (.invalidArgument kind m.1)

structure Asks (kind : Kind) (args : Arguments) (q : Query) : Prop where
  kind_eq : q.kind = kind
  selector : ∀ t, ("selector", .str t) ∈ args → Blank.Trims t.toList q.selector.toList
  no_selector : "selector" ∉ args.map Prod.fst → q.selector = ""
  ns : kind.scope = .namespaced → ∀ t, ("namespace", .str t) ∈ args → q.ns? = some t
  no_ns : kind.scope = .namespaced → "namespace" ∉ args.map Prod.fst → q.ns? = some "default"
  whole_cluster : kind.scope = .cluster → q.ns? = none

theorem contains_acceptedArguments_iff (kind : Kind) (name : String) :
    (acceptedArguments kind).contains name = true ↔ HasArgument kind name := by
  rw [acceptedArguments, HasArgument]
  cases kind.scope <;> simp

theorem isNone_str?_iff (v : Value) : v.str?.isNone = true ↔ ∀ t, v ≠ .str t := by
  cases v <;> simp [Value.str?]

theorem argumentLimit_eq (kind : Kind) : argumentLimit kind = if kind.scope = .namespaced then 2 else 1 := by
  rw [argumentLimit]
  cases kind.scope <;> rfl

namespace IsFaultOf

theorem not_takes (h : IsFaultOf kind m f) : ¬Takes kind m := by
  intro htakes
  cases h with
  | unexpected hname => exact hname htakes.named
  | invalid _ hvalue => exact htakes.text.elim hvalue

theorem unique (h : IsFaultOf kind m f) (h' : IsFaultOf kind m f') : f = f' := by
  cases h with
  | unexpected hname =>
    cases h' with
    | unexpected => rfl
    | invalid hname' => exact absurd hname' hname
  | invalid hname =>
    cases h' with
    | unexpected hname' => exact absurd hname hname'
    | invalid => rfl

theorem ne (h : IsFaultOf kind m f) (h' : IsFaultOf kind m' f') (hne : m.1 ≠ m'.1) : f ≠ f' := by
  cases h <;> cases h' <;> simp [hne]

end IsFaultOf

theorem argumentFault?_cons (kind : Kind) (m : String × Value) (rest : Arguments) :
    (∃ f, IsFaultOf kind m f ∧ argumentFault? kind (m :: rest) = some f) ∨
      (Takes kind m ∧ argumentFault? kind (m :: rest) = argumentFault? kind rest) := by
  obtain ⟨name, v⟩ := m
  rw [argumentFault?]
  by_cases hname : HasArgument kind name
  · have haccepted := (contains_acceptedArguments_iff kind name).mpr hname
    by_cases hvalue : ∀ t, v ≠ .str t
    · have hnone := (isNone_str?_iff v).mpr hvalue
      exact .inl ⟨_, .invalid hname hvalue, by simp only [haccepted, hnone]; rfl⟩
    · have hsome : v.str?.isNone = false := by
        rw [← Bool.not_eq_true, isNone_str?_iff]
        exact hvalue
      push Not at hvalue
      exact .inr ⟨⟨hname, hvalue⟩, by simp only [haccepted, hsome]; rfl⟩
  · have haccepted : (acceptedArguments kind).contains name = false := by
      rw [← Bool.not_eq_true, contains_acceptedArguments_iff]
      exact hname
    exact .inl ⟨_, .unexpected hname, by simp only [haccepted]; rfl⟩

theorem argumentFault?_eq_none_iff (kind : Kind) (args : Arguments) :
    argumentFault? kind args = none ↔ ∀ m ∈ args, Takes kind m := by
  induction args with
  | nil => simp [argumentFault?]
  | cons m rest ih =>
    rw [List.forall_mem_cons]
    rcases argumentFault?_cons kind m rest with ⟨f, hf, heq⟩ | ⟨htakes, heq⟩
    · simp [heq, hf.not_takes]
    · rw [heq, ih]
      exact ⟨fun h => ⟨htakes, h⟩, And.right⟩

theorem exists_of_argumentFault? (h : argumentFault? kind args = some f) :
    ∃ before m after, args = before ++ m :: after ∧ (∀ b ∈ before, Takes kind b) ∧ IsFaultOf kind m f := by
  induction args with
  | nil => cases h
  | cons m rest ih =>
    rcases argumentFault?_cons kind m rest with ⟨g, hg, heq⟩ | ⟨htakes, heq⟩
    · rw [heq] at h
      obtain rfl := Option.some.inj h
      exact ⟨[], m, rest, rfl, by simp, hg⟩
    · rw [heq] at h
      obtain ⟨before, m', after, rfl, hbefore, hfault⟩ := ih h
      refine ⟨m :: before, m', after, rfl, ?_, hfault⟩
      rw [List.forall_mem_cons]
      exact ⟨htakes, hbefore⟩

def given? (args : Arguments) (name : String) : Option String := (args.lookup name).bind Value.str?

theorem given?_eq_some_iff (hdistinct : (args.map Prod.fst).Nodup) (name t : String) :
    given? args name = some t ↔ (name, .str t) ∈ args := by
  rw [given?, Option.bind_eq_some_iff]
  constructor
  · rintro ⟨v, hlookup, hv⟩
    have hmem := (Table.lookup_eq_some_iff_mem hdistinct name v).mp hlookup
    cases v <;> cases hv
    exact hmem
  · intro hmem
    exact ⟨.str t, (Table.lookup_eq_some_iff_mem hdistinct name _).mpr hmem, rfl⟩

theorem given?_eq_none_of_notMem {name : String} (h : name ∉ args.map Prod.fst) : given? args name = none := by
  have hlookup : args.lookup name = none := by
    rw [List.lookup_eq_none_iff]
    intro m hm
    have hne : name ≠ m.1 := fun heq => h (heq ▸ List.mem_map_of_mem hm)
    simpa using hne
  rw [given?, hlookup]
  rfl

theorem given?_eq_of_perm (hperm : args.Perm args') (hdistinct : (args.map Prod.fst).Nodup) (name : String) :
    given? args name = given? args' name := by
  have hdistinct' : (args'.map Prod.fst).Nodup := (hperm.map Prod.fst).nodup_iff.mp hdistinct
  ext t
  rw [given?_eq_some_iff hdistinct, given?_eq_some_iff hdistinct', hperm.mem_iff]

theorem queryFor_eq_ok (hfew : args.length ≤ argumentLimit kind) (htaken : ∀ m ∈ args, Takes kind m) :
    queryFor kind args = .ok (Query.of kind (given? args "namespace") ((given? args "selector").getD "")) := by
  rw [queryFor, if_neg (by omega), (argumentFault?_eq_none_iff kind args).mpr htaken]
  rfl

theorem queryFor_of_fault (hfew : args.length ≤ argumentLimit kind) (h : argumentFault? kind args = some f) :
    queryFor kind args = .error f := by
  rw [queryFor, if_neg (by omega), h]

theorem queryFor_of_many (hmany : argumentLimit kind < args.length) :
    queryFor kind args = .error (.tooManyArguments kind args.length) := by
  rw [queryFor, if_pos hmany]

theorem asks_of (hdistinct : (args.map Prod.fst).Nodup) :
    Asks kind args (Query.of kind (given? args "namespace") ((given? args "selector").getD "")) where
  kind_eq := rfl
  selector t ht := by
    rw [(given?_eq_some_iff hdistinct "selector" t).mpr ht]
    simpa [Query.of] using Blank.trims_trim t.toList
  no_selector h := by
    rw [given?_eq_none_of_notMem h]
    rfl
  ns hscope t ht := by
    rw [(given?_eq_some_iff hdistinct "namespace" t).mpr ht]
    simp [Query.of, hscope]
  no_ns hscope h := by
    rw [given?_eq_none_of_notMem h]
    simp [Query.of, hscope, defaultNamespace]
  whole_cluster hscope := by simp [Query.of, hscope]

/-- A call is a question exactly if there are not too many arguments and the kind takes each of them; the question is
what they ask for. Too many arguments are a fault whatever they are, and any other fault is that of an argument. -/
theorem queryFor_spec (kind : Kind) (args : Arguments) (hdistinct : (args.map Prod.fst).Nodup) :
    let limit := if kind.scope = .namespaced then 2 else 1
    ((∃ q, queryFor kind args = .ok q) ↔ args.length ≤ limit ∧ ∀ m ∈ args, Takes kind m) ∧
      (∀ q, queryFor kind args = .ok q → Asks kind args q) ∧
      (limit < args.length → queryFor kind args = .error (.tooManyArguments kind args.length)) ∧
      (args.length ≤ limit → ∀ f, queryFor kind args = .error f → ∃ m ∈ args, IsFaultOf kind m f) := by
  intro limit
  have hlimit : argumentLimit kind = limit := argumentLimit_eq kind
  rw [← hlimit]
  by_cases hmany : argumentLimit kind < args.length
  · have hresult := queryFor_of_many hmany
    refine ⟨?_, ?_, fun _ => hresult, fun hfew => by omega⟩
    · simp only [hresult, reduceCtorEq, exists_false, false_iff, not_and]
      omega
    · simp [hresult]
  have hfew : args.length ≤ argumentLimit kind := by omega
  cases hfault : argumentFault? kind args with
  | none =>
    have htaken := (argumentFault?_eq_none_iff kind args).mp hfault
    have hresult := queryFor_eq_ok hfew htaken
    refine ⟨⟨fun _ => ⟨hfew, htaken⟩, fun _ => ⟨_, hresult⟩⟩, ?_, fun h => absurd h hmany, ?_⟩
    · intro q hq
      rw [hresult] at hq
      cases hq
      exact asks_of hdistinct
    · simp [hresult]
  | some f =>
    have hresult := queryFor_of_fault hfew hfault
    obtain ⟨before, m, after, heq, -, hm⟩ := exists_of_argumentFault? hfault
    have hmem : m ∈ args := by simp [heq]
    refine ⟨?_, ?_, fun h => absurd h hmany, ?_⟩
    · simp only [hresult, reduceCtorEq, exists_false, false_iff, not_and]
      exact fun _ htaken => hm.not_takes (htaken m hmem)
    · simp [hresult]
    · intro _ g hg
      rw [hresult] at hg
      cases hg
      exact ⟨m, hmem, hm⟩

theorem queryFor_spec_pods :
    Asks .pods [("namespace", .str "a b"), ("selector", .str "\tapp = web ")] ⟨.pods, some "a b", "app = web"⟩ ∧
      (∀ q, queryFor .nodes [("namespace", .str "a b")] ≠ .ok q) ∧
      queryFor .nodes [("namespace", .str "a b"), ("selector", .str "")] = .error (.tooManyArguments .nodes 2) := by
  refine ⟨(queryFor_spec .pods _ (by decide)).2.1 _ (by decide +kernel), ?_,
    (queryFor_spec .nodes _ (by decide)).2.2.1 (by decide)⟩
  intro q hq
  have htakes := ((queryFor_spec .nodes _ (by decide)).1.mp ⟨q, hq⟩).2 ("namespace", .str "a b") (by simp)
  exact absurd htakes.named (by simp [HasArgument, Kind.scope])

/-- Two arguments that a kind does not take, in both orders. -/
structure Contested (kind : Kind) (args args' : Arguments) (m m' : String × Value) : Prop where
  scope : kind.scope = .namespaced
  order : args = [m, m']
  order' : args' = [m', m]
  fault : ¬Takes kind m
  fault' : ¬Takes kind m'

theorem eq_pair_of_first {before after : Arguments} (hlength : args.length ≤ 2) (h : args = before ++ m :: after)
    (hbefore : ∀ b ∈ before, Takes kind b) (hmem : m' ∈ args) (hne : m' ≠ m) (hm' : ¬Takes kind m') :
    args = [m, m'] := by
  have hafter : m' ∈ after := by
    rw [h, List.mem_append, List.mem_cons] at hmem
    rcases hmem with hmem | hmem | hmem
    · exact absurd (hbefore m' hmem) hm'
    · exact absurd hmem hne
    · exact hmem
  have hpos : 0 < after.length := List.length_pos_of_mem hafter
  rw [h, List.length_append, List.length_cons] at hlength
  obtain rfl : before = [] := List.length_eq_zero_iff.mp (by omega)
  obtain ⟨b, rfl⟩ : ∃ b, after = [b] := List.length_eq_one_iff.mp (by omega)
  rw [h, List.mem_singleton.mp hafter]
  rfl

/-- Where the first faults of a call in two orders are those of two arguments, the call has no others. -/
theorem contested_of_first (hperm : args.Perm args') (hfew : args.length ≤ argumentLimit kind)
    (h : argumentFault? kind args = some f) (h' : argumentFault? kind args' = some f') (hne : f ≠ f') :
    ∃ m m', Contested kind args args' m m' := by
  obtain ⟨before, m, after, heq, hbefore, hm⟩ := exists_of_argumentFault? h
  obtain ⟨before', m', after', heq', hbefore', hm'⟩ := exists_of_argumentFault? h'
  have hother : m ≠ m' := by
    rintro rfl
    exact hne (hm.unique hm')
  have hmem : m ∈ args := by simp [heq]
  have hmem' : m' ∈ args := hperm.mem_iff.mpr (by simp [heq'])
  have hlength : args.length ≤ 2 := by
    rw [argumentLimit_eq] at hfew
    split at hfew <;> omega
  have horder := eq_pair_of_first hlength heq hbefore hmem' hother.symm hm'.not_takes
  have horder' := eq_pair_of_first (hperm.length_eq ▸ hlength) heq' hbefore' (hperm.mem_iff.mp hmem) hother
    hm.not_takes
  have hscope : kind.scope = .namespaced := by
    rw [argumentLimit_eq, horder, List.length_cons, List.length_singleton] at hfew
    by_contra hscope
    rw [if_neg hscope] at hfew
    omega
  exact ⟨m, m', hscope, horder, horder', hm.not_takes, hm'.not_takes⟩

theorem queryFor_eq_of_perm (hdistinct : (args.map Prod.fst).Nodup) (hperm : args.Perm args')
    (hcontested : ¬∃ m m', Contested kind args args' m m') : queryFor kind args = queryFor kind args' := by
  have hlength := hperm.length_eq
  by_cases hmany : argumentLimit kind < args.length
  · rw [queryFor_of_many hmany, queryFor_of_many (hlength ▸ hmany), hlength]
  have hfew : args.length ≤ argumentLimit kind := by omega
  have hfew' : args'.length ≤ argumentLimit kind := hlength ▸ hfew
  -- the faults are of the same arguments in both orders, so one order has a first fault if the other one has
  have hnone : argumentFault? kind args = none ↔ argumentFault? kind args' = none := by
    simp only [argumentFault?_eq_none_iff, hperm.mem_iff]
  cases hfault : argumentFault? kind args with
  | none =>
    have htaken := (argumentFault?_eq_none_iff kind args).mp hfault
    have htaken' := (argumentFault?_eq_none_iff kind args').mp (hnone.mp hfault)
    rw [queryFor_eq_ok hfew htaken, queryFor_eq_ok hfew' htaken', given?_eq_of_perm hperm hdistinct,
      given?_eq_of_perm hperm hdistinct]
  | some f =>
    obtain ⟨f', hfault'⟩ : ∃ f', argumentFault? kind args' = some f' := by
      rw [← Option.isSome_iff_exists, ← Option.ne_none_iff_isSome, ne_eq, ← hnone, hfault]
      simp
    rw [queryFor_of_fault hfew hfault, queryFor_of_fault hfew' hfault']
    by_contra hne
    exact hcontested (contested_of_first hperm hfew hfault hfault' fun heq => hne (congrArg _ heq))

theorem Function.find?_name {σ : Type} (w : World σ) (kind : Kind) :
    find? w kind.name = some fun args => resource w.client kind (w.order.arrange args) := by
  unfold find?
  rw [Kind.ofName?_name]

/-- In two worlds that differ in the order of arguments, a call comes to the same, unless there are two arguments and the
kind takes neither. -/
theorem Function.call_eq_of_order {σ : Type} {w w' : World σ} (hclient : w.client = w'.client)
    (hdistinct : (args.map Prod.fst).Nodup)
    (hcontested : ¬∃ m m', Contested kind (w.order.arrange args) (w'.order.arrange args) m m') (s : σ) :
    (find? w kind.name).map (fun f => f args s) = (find? w' kind.name).map fun f => f args s := by
  have hperm : (w.order.arrange args).Perm args := w.order.perm args
  have hperm' : (w'.order.arrange args).Perm args := w'.order.perm args
  have hdistinct' : ((w.order.arrange args).map Prod.fst).Nodup := (hperm.map Prod.fst).nodup_iff.mpr hdistinct
  have hquery := queryFor_eq_of_perm hdistinct' (hperm.trans hperm'.symm) hcontested
  simp only [find?_name, Option.map_some, resource, hquery, hclient]

end Stencil.Template
