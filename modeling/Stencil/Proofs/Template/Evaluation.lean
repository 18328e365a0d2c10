import Stencil.Proofs.Cluster.Alike
import Stencil.Template.Evaluation

set_option autoImplicit false
set_option relaxedAutoImplicit false

/-!
What an evaluation takes from the cluster. Each way of putting computations together keeps that nothing but the
answers of the client is used. Main statement: in states in which the client answers alike, an expression comes to
the same value or fault, and leaves such states.
-/

namespace Stencil.Template

open Stencil.Json Stencil.Cluster Stencil.Decimal

variable {σ : Type}

/-- Runs with the same variables, in states in which a client answers alike. -/
structure Run.Alike (c : Client σ) (r r' : Run σ) : Prop where
  scope : r.scope = r'.scope
  world : c.Alike r.world r'.world

/-- A function gives the same in states in which a client answers alike, and leaves such states. -/
def Function.ByAnswers (c : Client σ) (f : Function σ) : Prop :=
  ∀ args s t, c.Alike s t → (f args s).1 = (f args t).1 ∧ c.Alike (f args s).2 (f args t).2

theorem Function.byAnswers_resource (c : Client σ) (kind : Kind) : ByAnswers c (resource c kind) := by
  intro args s t h
  rw [resource, resource]
  cases queryFor kind args with
  | error e => exact ⟨rfl, h⟩
  | ok q =>
    have hanswer := h.answer_eq q
    have hnext := h.list q
    dsimp only
    cases hs : c.list q s with
    | mk answer s' =>
      cases ht : c.list q t with
      | mk answer' t' =>
        rw [hs, ht] at hanswer hnext
        obtain rfl : answer = answer' := hanswer
        cases answer <;> exact ⟨rfl, hnext⟩

theorem Function.byAnswers_of_find? {w : World σ} {name : String} {f : Function σ}
    (h : find? w name = some f) : ByAnswers w.client f := by
  unfold find? at h
  cases hkind : Kind.ofName? name with
  | some kind =>
    rw [hkind] at h
    cases h
    exact fun args => byAnswers_resource w.client kind (w.order.arrange args)
  | none =>
    rw [hkind] at h
    obtain ⟨g, -, rfl⟩ := Option.map_eq_some_iff.mp h
    exact fun _ _ _ hst => ⟨rfl, hst⟩

/-- From runs that are alike, a computation comes to the same result and to runs that are alike. -/
def Evaluation.ByAnswers {α : Type} (c : Client σ) (m : Eval σ α) : Prop :=
  ∀ r r', Run.Alike c r r' →
    (m.run.run r).1 = (m.run.run r').1 ∧ Run.Alike c (m.run.run r).2 (m.run.run r').2

def Setting.ByAnswers (x : Setting σ) : Prop :=
  ∀ body, Evaluation.ByAnswers x.world.client (x.elsewhere body)

namespace Evaluation

theorem run_bind {α β : Type} (m : Eval σ α) (k : α → Eval σ β) (r : Run σ) :
    (m >>= k).run.run r =
      match m.run.run r with
      | (.ok a, r) => (k a).run.run r
      | (.error e, r) => (.error e, r) := by
  rw [ExceptT.run_bind, StateT.run_bind]
  obtain ⟨result, s⟩ := m.run.run r
  cases result <;> rfl

theorem run_tryCatch {α : Type} (m : Eval σ α) (k : Fault → Eval σ α) (r : Run σ) :
    (tryCatch m k).run.run r =
      match m.run.run r with
      | (.ok a, r) => (.ok a, r)
      | (.error e, r) => (k e).run.run r := by
  rw [ExceptT.run_tryCatch, StateT.run_bind]
  obtain ⟨result, s⟩ := m.run.run r
  cases result <;> rfl

theorem run_ofExcept {α : Type} (x : Except Fault α) (r : Run σ) :
    (ofExcept x : Eval σ α).run.run r = (x, r) := by
  cases x <;> rfl

namespace ByAnswers

section Combinators

variable {c : Client σ} {α β : Type}

theorem pure (a : α) : ByAnswers c (Pure.pure a : Eval σ α) := fun _ _ h => ⟨rfl, h⟩

theorem throw (e : Fault) : ByAnswers c (MonadExcept.throw e : Eval σ α) := fun _ _ h => ⟨rfl, h⟩

theorem ofExcept (x : Except Fault α) : ByAnswers c (Evaluation.ofExcept x : Eval σ α) := by
  cases x with
  | ok a => exact pure a
  | error e => exact throw e

theorem bind {m : Eval σ α} {k : α → Eval σ β} (hm : ByAnswers c m) (hk : ∀ a, ByAnswers c (k a)) :
    ByAnswers c (m >>= k) := by
  intro r r' h
  obtain ⟨hresult, hruns⟩ := hm r r' h
  rw [run_bind, run_bind]
  generalize m.run.run r = x at hresult hruns ⊢
  generalize m.run.run r' = x' at hresult hruns ⊢
  obtain ⟨result, s⟩ := x
  obtain ⟨result', s'⟩ := x'
  obtain rfl : result = result' := hresult
  cases result with
  | ok a => exact hk a s s' hruns
  | error e => exact ⟨rfl, hruns⟩

theorem tryCatch {m : Eval σ α} {k : Fault → Eval σ α} (hm : ByAnswers c m) (hk : ∀ e, ByAnswers c (k e)) :
    ByAnswers c (MonadExcept.tryCatch m k) := by
  intro r r' h
  obtain ⟨hresult, hruns⟩ := hm r r' h
  rw [run_tryCatch, run_tryCatch]
  generalize m.run.run r = x at hresult hruns ⊢
  generalize m.run.run r' = x' at hresult hruns ⊢
  obtain ⟨result, s⟩ := x
  obtain ⟨result', s'⟩ := x'
  obtain rfl : result = result' := hresult
  cases result with
  | ok a => exact ⟨rfl, hruns⟩
  | error e => exact hk e s s' hruns

theorem map {m : Eval σ α} (f : α → β) (hm : ByAnswers c m) : ByAnswers c (f <$> m) := by
  rw [map_eq_pure_bind]
  exact hm.bind fun a => pure (f a)

theorem look {k : Run σ → Eval σ α} (hk : ∀ r r', r.scope = r'.scope → k r = k r')
    (h : ∀ r, ByAnswers c (k r)) : ByAnswers c (get >>= k) := by
  intro r r' hr
  have hrun (r : Run σ) : (get >>= k).run.run r = (k r).run.run r := rfl
  rw [hrun, hrun, ← hk r r' hr.scope]
  exact h r r r' hr

theorem rescope (f : Scope → Scope) :
    ByAnswers c (modify fun r => { r with scope := f r.scope } : Eval σ Unit) := fun _ _ hr =>
  ⟨rfl, congrArg f hr.scope, hr.world⟩

theorem lookup (p : Place) : ByAnswers c (Evaluation.lookup p : Eval σ (Option Value)) :=
  look (fun _ _ h => by rw [h]) fun _ => pure _

theorem within (callee : Callee) (name : String) {m : Eval σ α} (hm : ByAnswers c m) :
    ByAnswers c (Evaluation.within callee name m) :=
  hm.tryCatch fun _ => throw _

theorem inArithmetic {m : Eval σ α} (hm : ByAnswers c m) : ByAnswers c (Evaluation.inArithmetic m) :=
  hm.tryCatch fun _ => throw _

theorem inFrame (f : Frame) {body : Eval σ Output} (h : ByAnswers c body) :
    ByAnswers c (Evaluation.inFrame f body) := by
  refine look (fun _ _ h => by rw [h]) fun outer => ?_
  refine (rescope (f :: ·)).bind fun _ => ?_
  refine h.bind fun out => ?_
  exact (rescope fun s => s.drop (s.length - outer.scope.length)).bind fun _ => pure out

end Combinators

section Values

variable {c : Client σ} {base fallback : Eval σ Value} {filtered : Value → Eval σ Value}

theorem numberOf (v : Value) : ByAnswers c (Evaluation.numberOf v : Eval σ (Option Number)) := by
  unfold Evaluation.numberOf
  split
  · exact pure _
  · exact throw _

theorem calculate (op : Arithmetic) (a b : Option Number) :
    ByAnswers c (Evaluation.calculate op a b : Eval σ (Option Number)) := by
  unfold Evaluation.calculate
  split
  · exact ofExcept _
  · exact pure _

theorem settle (o : Operand) (filters : List Call) (negated : Bool) (hbase : ByAnswers c base)
    (hfallback : ByAnswers c fallback) (hfiltered : ∀ v, ByAnswers c (filtered v)) :
    ByAnswers c (Evaluation.settle o filters negated base fallback filtered) := by
  unfold Evaluation.settle
  split
  · refine (lookup _).bind fun v? => ?_
    cases v? with
    | some v =>
      dsimp only
      split
      · exact hfallback.bind fun v => (hfiltered v).map _
      · exact (pure v).bind fun v => (hfiltered v).map _
    | none =>
      dsimp only
      split
      · exact hfallback.bind fun v => (hfiltered v).map _
      · split
        · exact pure _
        · exact throw _
  · exact hbase.bind fun v => (hfiltered _).map _
  · exact hbase.bind fun v => (hfiltered _).map _

theorem settleTruth (o : Operand) (negated : Bool) {value : Eval σ Value} {operand : Eval σ Bool}
    (hvalue : ByAnswers c value) (hoperand : ByAnswers c operand) :
    ByAnswers c (Evaluation.settleTruth o negated value operand) := by
  unfold Evaluation.settleTruth
  split
  · refine (hvalue.tryCatch fun _ => pure _).bind fun v => ?_
    exact (pure _).bind fun b => pure _
  · exact (hvalue.map _).bind fun b => pure _
  · exact hoperand.bind fun b => pure _

theorem settleNumber (filters : List Call) {value : Eval σ Value} {operand : Eval σ (Option Number)}
    (hvalue : ByAnswers c value) (hoperand : ByAnswers c operand) :
    ByAnswers c (Evaluation.settleNumber filters value operand) := by
  unfold Evaluation.settleNumber
  split
  · exact hoperand
  · exact hvalue.bind fun v => numberOf v

theorem order (op : Logic) (a b : Option Number) : ByAnswers c (Evaluation.order op a b : Eval σ Bool) := by
  unfold Evaluation.order
  split
  · exact pure _
  · exact throw _

theorem isIn (item container : Value) : ByAnswers c (Evaluation.isIn item container : Eval σ Bool) := by
  unfold Evaluation.isIn
  split
  · exact pure _
  · exact pure _
  · exact pure _
  · exact throw _

theorem joinable (v : Value) : ByAnswers c (Evaluation.joinable v : Eval σ String) := by
  unfold Evaluation.joinable
  split
  · exact pure _
  · exact pure _
  · exact throw _

theorem resultTruth (name : String) (v : Value) : ByAnswers c (Evaluation.resultTruth name v : Eval σ Bool) := by
  unfold Evaluation.resultTruth
  split
  · exact pure _
  · exact throw _

theorem closed (out : Output) : ByAnswers c (Evaluation.closed out : Eval σ String) := by
  unfold Evaluation.closed
  split
  · exact pure _
  · exact throw _

end Values

section Calls

variable {c : Client σ}

/-- A computation may put a question to the client, and takes from its state nothing but the answer. -/
theorem ask {f : Function σ} (hf : Function.ByAnswers c f) (args : Arguments) :
    ByAnswers c (do
      let run ← get
      let (result, world) := f args run.world
      set { run with world := world }
      Evaluation.ofExcept result) := by
  intro r r' hr
  have hrun (r : Run σ) : (do
      let run ← get
      let (result, world) := f args run.world
      set { run with world := world }
      Evaluation.ofExcept result : Eval σ Value).run.run r =
        ((f args r.world).1, { r with world := (f args r.world).2 }) := by
    change (Evaluation.ofExcept (f args r.world).1 : Eval σ Value).run.run _ = _
    rw [run_ofExcept]
  obtain ⟨hresult, hworld⟩ := hf args r.world r'.world hr.world
  rw [hrun, hrun]
  exact ⟨hresult, hr.scope, hworld⟩

theorem callFunction (x : Setting σ) (name : String) {args : Eval σ Arguments}
    (hargs : ByAnswers x.world.client args) : ByAnswers x.world.client (Evaluation.callFunction x name args) := by
  unfold Evaluation.callFunction
  split
  · exact throw _
  · next f hf => exact within _ _ (hargs.bind fun args => ask (Function.byAnswers_of_find? hf) args)

theorem callFilter (name : String) (v : Value) {args : Eval σ Arguments} (hargs : ByAnswers c args) :
    ByAnswers c (Evaluation.callFilter name args v) := by
  unfold Evaluation.callFilter
  split
  · exact throw _
  · exact within _ _ (hargs.bind fun args => ofExcept _)

theorem callTest (name : String) (p : Place) {args : Eval σ (List Value)} (hargs : ByAnswers c args) :
    ByAnswers c (Evaluation.callTest name p args) := by
  unfold Evaluation.callTest
  split
  · exact throw _
  · refine (within _ _ hargs).bind fun args => ?_
    exact (lookup p).bind fun v => within _ _ (ofExcept _)

theorem bindParameters (name : String) (args : Arguments) (ps : List Parameter) :
    ByAnswers c (Evaluation.bindParameters name args ps : Eval σ Arguments) := by
  induction ps with
  | nil => exact pure _
  | cons p ps ih =>
    unfold Evaluation.bindParameters
    dsimp only
    split
    · exact (pure _).bind fun v => ih.bind fun rest => pure _
    · exact (pure _).bind fun v => ih.bind fun rest => pure _
    · exact (throw _).bind fun v => ih.bind fun rest => pure _

theorem expand {x : Setting σ} (hx : x.ByAnswers) (library name : String)
    {args : (String → Bool) → Eval σ Arguments} (hargs : ∀ wanted, ByAnswers x.world.client (args wanted)) :
    ByAnswers x.world.client (Evaluation.expand x library name args) := by
  unfold Evaluation.expand
  dsimp only
  split
  · exact throw _
  · next d _ =>
    refine (hargs _).bind fun args => ?_
    refine (bindParameters name args d.parameters).bind fun bound => ?_
    refine (inFrame _ ?_).bind fun out => pure _
    exact (hx d.body).bind fun out => (closed out).bind fun text => pure _

theorem condition (op : Logic) {lhs rhs : Side σ} (hlvalue : ByAnswers c lhs.value)
    (hltruth : ByAnswers c lhs.truth) (hlnumber : ByAnswers c lhs.number) (hrvalue : ByAnswers c rhs.value)
    (hrtruth : ByAnswers c rhs.truth) (hrnumber : ByAnswers c rhs.number) :
    ByAnswers c (Evaluation.condition op lhs rhs) := by
  unfold Evaluation.condition
  split
  · refine hltruth.bind fun b => ?_
    split
    · exact hrtruth
    · exact pure _
  · refine hltruth.bind fun b => ?_
    split
    · exact pure _
    · exact hrtruth
  · exact hlvalue.bind fun a => hrvalue.bind fun b => pure _
  · exact hlvalue.bind fun a => hrvalue.bind fun b => pure _
  · exact hlnumber.bind fun a => hrnumber.bind fun b => order op a b

end Calls

section Expressions

variable {x : Setting σ}

mutual

theorem value (hx : x.ByAnswers) : ∀ e, ByAnswers x.world.client (Evaluation.value x e)
  | .mk o filters negated => by
    rw [Evaluation.value]
    exact settle o filters negated (operandValue hx o) (fallback hx filters) (filtered hx filters)

theorem truth (hx : x.ByAnswers) : ∀ e, ByAnswers x.world.client (Evaluation.truth x e)
  | .mk o filters negated => by
    rw [Evaluation.truth]
    have hvalue := settle o filters negated (operandValue hx o) (fallback hx filters) (filtered hx filters)
    exact settleTruth o negated hvalue (operandTruth hx o)

theorem number (hx : x.ByAnswers) : ∀ e, ByAnswers x.world.client (Evaluation.number x e)
  | .mk o filters negated => by
    rw [Evaluation.number]
    have hvalue := settle o filters negated (operandValue hx o) (fallback hx filters) (filtered hx filters)
    exact settleNumber filters hvalue (operandNumber hx o)

theorem operandValue (hx : x.ByAnswers) : ∀ o, ByAnswers x.world.client (Evaluation.operandValue x o)
  | .text _ | .int _ | .float _ | .bool _ | .place _ => by
    rw [Evaluation.operandValue]
    exact pure _
  | .arithmetic op lhs rhs => by
    rw [Evaluation.operandValue]
    refine inArithmetic ?_
    exact (number hx lhs).bind fun a => (number hx rhs).bind fun b => (calculate op a b).map _
  | .logic op lhs rhs => by
    rw [Evaluation.operandValue]
    exact (condition op (value hx lhs) (truth hx lhs) (number hx lhs) (value hx rhs) (truth hx rhs)
      (number hx rhs)).map _
  | .test p name args _ => by
    rw [Evaluation.operandValue]
    exact (callTest name p (values hx args)).bind fun b => pure _
  | .member item container _ => by
    rw [Evaluation.operandValue]
    refine (value hx item).bind fun a => (value hx container).bind fun b => ?_
    exact (isIn a b).bind fun b => pure _
  | .array items => by
    rw [Evaluation.operandValue]
    exact (values hx items).map _
  | .joined parts => by
    rw [Evaluation.operandValue]
    exact (joinedText hx parts).bind fun s => pure _
  | .call f => by
    rw [Evaluation.operandValue]
    exact call hx f
  | .expand library name args => by
    rw [Evaluation.operandValue]
    exact (expand hx library name fun wanted => arguments hx wanted args).bind fun s => pure _

theorem operandTruth (hx : x.ByAnswers) : ∀ o, ByAnswers x.world.client (Evaluation.operandTruth x o)
  | .text _ | .int _ | .float _ | .bool _ | .place _ | .joined _ => by
    rw [Evaluation.operandTruth]
    exact pure _
  | .arithmetic op lhs rhs => by
    rw [Evaluation.operandTruth]
    exact (number hx lhs).bind fun a => (number hx rhs).bind fun b => (calculate op a b).map _
  | .logic op lhs rhs => by
    rw [Evaluation.operandTruth]
    exact condition op (value hx lhs) (truth hx lhs) (number hx lhs) (value hx rhs) (truth hx rhs) (number hx rhs)
  | .test p name args _ => by
    rw [Evaluation.operandTruth]
    exact (callTest name p (values hx args)).bind fun b => pure _
  | .member item container _ => by
    rw [Evaluation.operandTruth]
    refine (value hx item).bind fun a => (value hx container).bind fun b => ?_
    exact (isIn a b).bind fun b => pure _
  | .array items => by
    rw [Evaluation.operandTruth]
    exact (values hx items).bind fun vs => pure _
  | .call f => by
    rw [Evaluation.operandTruth]
    exact (call hx f).bind fun v => resultTruth _ v
  | .expand library name args => by
    rw [Evaluation.operandTruth]
    exact (expand hx library name fun wanted => arguments hx wanted args).bind fun s => pure _

theorem operandNumber (hx : x.ByAnswers) : ∀ o, ByAnswers x.world.client (Evaluation.operandNumber x o)
  | .int _ | .float _ => by
    rw [Evaluation.operandNumber]
    exact pure _
  | .place p => by
    rw [Evaluation.operandNumber]
    refine (lookup p).bind fun v? => ?_
    cases v? with
    | some v => exact numberOf v
    | none => exact throw _
  | .arithmetic op lhs rhs => by
    rw [Evaluation.operandNumber]
    exact (number hx lhs).bind fun a => (number hx rhs).bind fun b => calculate op a b
  | .call f => by
    rw [Evaluation.operandNumber]
    exact (call hx f).bind fun v => numberOf v
  | .text _ | .bool _ | .logic _ _ _ | .test _ _ _ _ | .member _ _ _ | .array _ | .joined _ | .expand _ _ _ => by
    simp only [Evaluation.operandNumber]
    exact throw _

theorem call (hx : x.ByAnswers) : ∀ f, ByAnswers x.world.client (Evaluation.call x f)
  | .mk name args => by
    rw [Evaluation.call]
    exact callFunction x name (arguments hx _ args)

theorem values (hx : x.ByAnswers) : ∀ es, ByAnswers x.world.client (Evaluation.values x es)
  | [] => by
    rw [Evaluation.values]
    exact pure _
  | e :: r => by
    rw [Evaluation.values]
    exact (value hx e).bind fun v => (values hx r).bind fun vs => pure _

theorem argument (hx : x.ByAnswers) : ∀ a, ByAnswers x.world.client (Evaluation.argument x a)
  | .mk name e => by
    rw [Evaluation.argument]
    exact (value hx e).bind fun v => pure _

theorem arguments (hx : x.ByAnswers) (wanted : String → Bool) :
    ∀ args, ByAnswers x.world.client (Evaluation.arguments x wanted args)
  | [] => by
    rw [Evaluation.arguments]
    exact pure _
  | a :: r => by
    rw [Evaluation.arguments]
    dsimp only
    split
    · exact ((argument hx a).map _).bind fun first => (arguments hx wanted r).bind fun others => pure _
    · exact (pure _).bind fun first => (arguments hx wanted r).bind fun others => pure _

theorem part (hx : x.ByAnswers) : ∀ o, ByAnswers x.world.client (Evaluation.part x o)
  | .text _ | .int _ | .float _ => by
    rw [Evaluation.part]
    exact pure _
  | .place p => by
    rw [Evaluation.part]
    refine (lookup p).bind fun v? => ?_
    cases v? with
    | some v => exact joinable v
    | none => exact throw _
  | .call f => by
    rw [Evaluation.part]
    exact (call hx f).bind fun v => joinable v
  | .bool _ | .arithmetic _ _ _ | .logic _ _ _ | .test _ _ _ _ | .member _ _ _ | .array _ | .joined _
  | .expand _ _ _ => by
    simp only [Evaluation.part]
    exact throw _

theorem joinedText (hx : x.ByAnswers) : ∀ os, ByAnswers x.world.client (Evaluation.joinedText x os)
  | [] => by
    rw [Evaluation.joinedText]
    exact pure _
  | o :: r => by
    rw [Evaluation.joinedText]
    exact (part hx o).bind fun s => (joinedText hx r).bind fun rest => pure _

theorem fallback (hx : x.ByAnswers) : ∀ fs, ByAnswers x.world.client (Evaluation.fallback x fs)
  | [] => by
    rw [Evaluation.fallback]
    exact throw _
  | f :: _ => by
    rw [Evaluation.fallback]
    exact ownFallback hx f

theorem ownFallback (hx : x.ByAnswers) : ∀ f, ByAnswers x.world.client (Evaluation.ownFallback x f)
  | .mk name args => by
    rw [Evaluation.ownFallback]
    refine (arguments hx _ args).bind fun found => ?_
    split
    · exact pure _
    · exact throw _

theorem afterFilter (hx : x.ByAnswers) (v : Value) : ∀ f, ByAnswers x.world.client (Evaluation.afterFilter x v f)
  | .mk name args => by
    rw [Evaluation.afterFilter]
    split
    · exact pure _
    · exact callFilter name v (arguments hx _ args)

theorem filtered (hx : x.ByAnswers) : ∀ fs v, ByAnswers x.world.client (Evaluation.filtered x fs v)
  | [], v => by
    rw [Evaluation.filtered]
    exact pure _
  | f :: r, v => by
    rw [Evaluation.filtered]
    exact (afterFilter hx v f).bind fun v => filtered hx r v

end

end Expressions

end ByAnswers

end Evaluation

end Stencil.Template
