import Stencil.Proofs.Label.Lexemes

set_option autoImplicit false
set_option relaxedAutoImplicit false

/-!
What may come next while a selector is read. Each token that is expected leads to the next expectation; the readers go
from one to the other, and refuse where the next token is not expected, or where the end is not. Main statement: tokens
begin a selector exactly if they can be followed from expectation to expectation.
-/

namespace Stencil.Label

open Stencil.Text Stencil.Decimal

/-- What comes next: a requirement, the key of one that is absent, what is said about a key, a value to compare with, a
bound, the beginning of a value set, one of its members, what separates it from the next, or a comma before the next
requirement. -/
inductive Expectation
  | requirement
  | absentKey
  | condition
  | value
  | bound
  | opening
  | member
  | separator
  | comma
deriving DecidableEq, Repr

namespace Expectation

/-- What is expected behind a token, if the token itself is. -/
def next? : Expectation → Token → Option Expectation
  | .requirement, .bang => some .absentKey
  | .requirement, .word w => if keyError? w = none then some .condition else none
  | .absentKey, .word w => if keyError? w = none then some .comma else none
  | .condition, .comma => some .requirement
  | .condition, .eq => some .value
  | .condition, .doubleEq => some .value
  | .condition, .notEq => some .value
  | .condition, .gt => some .bound
  | .condition, .lt => some .bound
  | .condition, .word w => if w = "in".toList ∨ w = "notin".toList then some .opening else none
  | .value, .comma => some .requirement
  | .value, .word w => if valueError? w = none then some .comma else none
  | .bound, .word w => if (signed64? w).isSome then some .comma else none
  | .opening, .opening => some .member
  | .member, .comma => some .member
  | .member, .closing => some .comma
  | .member, .word w => if valueError? w = none then some .separator else none
  | .separator, .comma => some .member
  | .separator, .closing => some .comma
  | .comma, .comma => some .requirement
  | _, _ => none

/-- What is expected behind several tokens, if each of them is when it comes. -/
def after? (x : Expectation) (ts : List Token) : Option Expectation := ts.foldlM next? x

def mayEnd : Expectation → Bool
  | .condition | .value | .comma => true
  | _ => false

def completion : Expectation → List Token
  | .requirement | .absentKey => [.word ['a']]
  | .condition | .value | .comma => []
  | .bound => [.word ['0']]
  | .opening => [.opening, .closing]
  | .member | .separator => [.closing]

variable {x y : Expectation}

@[simp] theorem after?_nil (x : Expectation) : x.after? [] = some x := rfl

@[simp] theorem after?_cons (x : Expectation) (t : Token) (ts : List Token) :
    x.after? (t :: ts) = (x.next? t).bind (·.after? ts) := List.foldlM_cons

theorem after?_append (x : Expectation) (ts us : List Token) :
    x.after? (ts ++ us) = (x.after? ts).bind (·.after? us) := List.foldlM_append

theorem exists_after?_completion (x : Expectation) : ∃ y, x.after? x.completion = some y ∧ y.mayEnd := by
  have hmet : (x.after? x.completion).any mayEnd := by cases x <;> decide
  obtain ⟨y, hy, hend⟩ := (Option.any_eq_true _ _).mp hmet
  exact ⟨y, hy, hend⟩

theorem isWhole_completion (x : Expectation) : ∀ t ∈ x.completion, t.IsWhole := by
  cases x <;> simp [completion, Token.IsWhole] <;> decide

end Expectation

variable {α : Type} {ending : Nat} {x y : Expectation} {used ts : Tokens}

/-! ### Where reading halts -/

/-- The error is raised behind the token that is to blame. -/
def Refusal.isLate : Refusal → Bool
  | .name (.value _) | .notInteger _ | .integerExpected | .openingExpected | .separatorExpected => true
  | _ => false

/-- Reading halts at the first token that is not expected, or at the end if nothing may end there. The error stands
where that token does, or where the next one does if it is raised behind it. -/
inductive Halts (ending : Nat) (x : Expectation) : Tokens → SelectorError → Prop
  | atEnd {ts y e} (leads : x.after? (kinds ts) = some y) (unfinished : y.mayEnd = false)
      (position : e.position = ending) : Halts ending x ts e
  | atToken {ts y t p r e} (leads : x.after? (kinds ts) = some y) (unmet : y.next? t = none)
      (position : e.position = if e.reason.isLate then offsetOf ending r else p) : Halts ending x (ts ++ (t, p) :: r) e

/-- A requirement is complete: a comma has to come, or nothing more is said of a key or a value. -/
def Completes (y : Expectation) (r : Tokens) : Prop := y = .comma ∨ (y = .condition ∨ y = .value) ∧ Stops r

/-- What a reader does from an expectation on: it reads tokens that lead to an end, or halts. -/
def Follows (ending : Nat) (x : Expectation) (ends : Expectation → Tokens → Prop) (ts : Tokens) :
    Except SelectorError (α × Tokens) → Prop
  | .ok (_, r) => ∃ used y, ts = used ++ r ∧ x.after? (kinds used) = some y ∧ ends y r
  | .error e => Halts ending x ts e

theorem after?_kinds_append (h : x.after? (kinds used) = some y) (ts : Tokens) :
    x.after? (kinds (used ++ ts)) = y.after? (kinds ts) := by
  rw [kinds, List.map_append, Expectation.after?_append]
  exact congrArg (Option.bind · _) h

theorem after?_kinds_singleton {t : Token} (p : Nat) (h : x.next? t = some y) : x.after? (kinds [(t, p)]) = some y := by
  simp [kinds, h]

theorem Halts.prepend {e : SelectorError} (hused : x.after? (kinds used) = some y) (h : Halts ending y ts e) :
    Halts ending x (used ++ ts) e := by
  cases h with
  | atEnd hleads hunfinished hposition =>
    exact .atEnd ((after?_kinds_append hused _).trans hleads) hunfinished hposition
  | atToken hleads hunmet hposition =>
    rw [← List.append_assoc]
    exact .atToken ((after?_kinds_append hused _).trans hleads) hunmet hposition

variable {ends : Expectation → Tokens → Prop} {result : Except SelectorError (α × Tokens)}

theorem Follows.prepend (hused : x.after? (kinds used) = some y) (h : Follows ending y ends ts result) :
    Follows ending x ends (used ++ ts) result := by
  cases result with
  | error e => exact Halts.prepend hused h
  | ok v =>
    obtain ⟨used', z, rfl, hleads, hends⟩ := h
    exact ⟨used ++ used', z, (List.append_assoc _ _ _).symm, (after?_kinds_append hused _).trans hleads, hends⟩

theorem Follows.cons {t : Token} {p : Nat} (ht : x.next? t = some y) (h : Follows ending y ends ts result) :
    Follows ending x ends ((t, p) :: ts) result :=
  h.prepend (after?_kinds_singleton p ht)

theorem Follows.map {β : Type} (f : α → β) (h : Follows ending x ends ts result) :
    Follows ending x ends ts (result.map fun v => (f v.1, v.2)) := by
  cases result <;> exact h

theorem Follows.mono {ends' : Expectation → Tokens → Prop} (hends : ∀ z r, ends z r → ends' z r)
    (h : Follows ending x ends ts result) : Follows ending x ends' ts result := by
  cases result with
  | error e => exact h
  | ok v =>
    obtain ⟨used, z, hts, hleads, hz⟩ := h
    exact ⟨used, z, hts, hleads, hends z _ hz⟩

def Unmet (x : Expectation) : Tokens → Prop
  | [] => x.mayEnd = false
  | (t, _) :: _ => x.next? t = none

theorem unmet_of_head (hend : x.mayEnd = false) (h : ∀ t p r, ts = (t, p) :: r → x.next? t = none) : Unmet x ts := by
  cases ts with
  | nil => exact hend
  | cons u r => exact h u.1 u.2 r rfl

theorem Halts.atFirst {t : Token} {p : Nat} {r : Tokens} {e : SelectorError} (unmet : x.next? t = none)
    (position : e.position = if e.reason.isLate then offsetOf ending r else p) : Halts ending x ((t, p) :: r) e :=
  @Halts.atToken ending x [] x t p r e rfl unmet position

theorem follows_refuse {reason : Refusal} (h : Unmet x ts) (hlate : reason.isLate = false) :
    Follows (α := α) ending x ends ts (refuse ending ts reason) := by
  cases ts with
  | nil => exact .atEnd rfl h rfl
  | cons u r => exact .atFirst h (by simp [hlate, offsetOf])

theorem follows_refuse_tail {reason : Refusal} (h : Unmet x ts) (hlate : reason.isLate) :
    Follows (α := α) ending x ends ts (refuse ending ts.tail reason) := by
  cases ts with
  | nil => exact .atEnd rfl h rfl
  | cons u r => exact .atFirst h (by simp [hlate])

/-! ### The readers -/

theorem isLate_of_keyError? {w : List Char} {e : NameError} (h : keyError? w = some e) :
    (Refusal.name e).isLate = false := by
  unfold keyError? at h
  split at h
  · split at h <;> cases h
    rfl
  · split at h
    · cases h
      rfl
    · split at h <;> cases h
      rfl

theorem isLate_of_valueError? {w : List Char} {e : NameError} (h : valueError? w = some e) :
    (Refusal.name e).isLate := by
  unfold valueError? at h
  split at h
  · cases h
  · cases h
    rfl

theorem follows_readKey (hx : x.mayEnd = false)
    (hword : ∀ w, x.next? (.word w) = if keyError? w = none then some y else none)
    (hsign : ∀ t ∈ (kinds ts).head?, ¬t.IsWord → x.next? t = none) :
    Follows ending x (fun z _ => z = y) ts (readKey ending ts) := by
  unfold readKey
  split
  · next w p r =>
    split
    · next hw => exact ⟨[(.word w, p)], y, rfl, after?_kinds_singleton p ((hword w).trans (if_pos hw)), rfl⟩
    · next e he =>
      have hunmet : Unmet x ((.word w, p) :: r) := by simp [Unmet, hword, he]
      exact follows_refuse hunmet (isLate_of_keyError? he)
  · next hts =>
    refine follows_refuse (unmet_of_head hx fun t p r ht => ?_) rfl
    have hhead : t ∈ (kinds ts).head? := by
      rw [ht]
      rfl
    refine hsign t hhead fun hword => ?_
    cases t with
    | word w => exact hts w p r ht
    | _ => exact hword

theorem follows_readValue (ts : Tokens) : Follows ending .value Completes ts (readValue ending ts) := by
  unfold readValue
  split
  · exact ⟨[], .value, rfl, rfl, .inr ⟨.inr rfl, by simp [Stops]⟩⟩
  · exact ⟨[], .value, rfl, rfl, .inr ⟨.inr rfl, by simp [Stops]⟩⟩
  · next w p r =>
    split
    · next hw => exact ⟨[(.word w, p)], .comma, rfl, after?_kinds_singleton p (if_pos hw), .inl rfl⟩
    · next e he =>
      have hunmet : Unmet .value ((.word w, p) :: r) := if_neg (by simp [he])
      exact follows_refuse_tail hunmet (isLate_of_valueError? he)
  · next t p r hcomma hword =>
    refine follows_refuse ?_ rfl
    cases t with
    | comma => exact (hcomma rfl).elim
    | word w => exact (hword w rfl).elim
    | _ => rfl

theorem follows_readInteger (ts : Tokens) : Follows ending .bound Completes ts (readInteger ending ts) := by
  unfold readInteger
  split
  · next w p r =>
    split
    · next hw => exact ⟨[(.word w, p)], .comma, rfl, after?_kinds_singleton p (if_pos (by simp [hw])), .inl rfl⟩
    · next hw =>
      have hunmet : Unmet .bound ((.word w, p) :: r) := if_neg (by simp [hw])
      exact follows_refuse_tail hunmet rfl
  · next hword =>
    refine follows_refuse_tail (unmet_of_head rfl fun t p r ht => ?_) rfl
    cases t with
    | word w => exact absurd ht (hword w p r)
    | _ => rfl

theorem follows_readMembers (ts : Tokens) : Follows ending .member Completes ts (readMembers ending ts) := by
  fun_induction readMembers ending ts with
  | case1 p r => exact ⟨[(.closing, p)], .comma, rfl, rfl, .inl rfl⟩
  | case2 p r ih => exact (ih.map _).cons rfl
  | case3 w p r e he =>
    have hunmet : Unmet .member ((.word w, p) :: r) := if_neg (by simp [he])
    exact follows_refuse_tail hunmet (isLate_of_valueError? he)
  | case4 w p hw q r ih =>
    have hseparator : Expectation.member.next? (.word w) = some .separator := if_pos hw
    exact ((ih.map _).cons (x := .separator) rfl).cons hseparator
  | case5 w p hw q r =>
    have hseparator : Expectation.member.next? (.word w) = some .separator := if_pos hw
    have hclosing := (after?_kinds_append (after?_kinds_singleton p hseparator) [(.closing, q)]).trans rfl
    exact ⟨[(.word w, p)] ++ [(.closing, q)], .comma, rfl, hclosing, .inl rfl⟩
  | case6 w p hw r hcomma hclosing =>
    have hseparator : Expectation.member.next? (.word w) = some .separator := if_pos hw
    refine (follows_refuse_tail (unmet_of_head rfl fun t q r' ht => ?_) rfl).cons hseparator
    cases t with
    | comma => exact absurd ht (hcomma q r')
    | closing => exact absurd ht (hclosing q r')
    | _ => rfl
  | case7 ts hclosing hcomma hword =>
    refine follows_refuse (unmet_of_head rfl fun t p r ht => ?_) rfl
    cases t with
    | closing => exact absurd ht (hclosing p r)
    | comma => exact absurd ht (hcomma p r)
    | word w => exact absurd ht (hword w p r)
    | _ => rfl

theorem follows_readSet (ts : Tokens) : Follows ending .opening Completes ts (readSet ending ts) := by
  unfold readSet
  split
  · exact (follows_readMembers _).cons rfl
  · next hopening =>
    refine follows_refuse_tail (unmet_of_head rfl fun t p r ht => ?_) rfl
    cases t with
    | opening => exact absurd ht (hopening p r)
    | _ => rfl

theorem follows_readCondition (key : String) (ts : Tokens) :
    Follows ending .condition Completes ts (readCondition key ending ts) := by
  unfold readCondition
  split
  · exact ⟨[], .condition, rfl, rfl, .inr ⟨.inl rfl, by simp [Stops]⟩⟩
  · next t p r =>
    split
    · exact ⟨[], .condition, rfl, rfl, .inr ⟨.inl rfl, by simp [Stops]⟩⟩
    · exact ((follows_readValue r).map _).cons rfl
    · exact ((follows_readValue r).map _).cons rfl
    · exact ((follows_readValue r).map _).cons rfl
    · exact ((follows_readInteger r).map _).cons rfl
    · exact ((follows_readInteger r).map _).cons rfl
    · next w =>
      split
      · next hin => exact ((follows_readSet r).map _).cons (if_pos (.inl hin))
      · next hin =>
        split
        · next hnotin => exact ((follows_readSet r).map _).cons (if_pos (.inr hnotin))
        · next hnotin =>
          have hunmet : Unmet .condition ((.word w, p) :: r) := if_neg (not_or.mpr ⟨hin, hnotin⟩)
          exact follows_refuse hunmet rfl
    · have hunmet : Unmet .condition ((t, p) :: r) := by
        cases t <;> first | rfl | simp_all
      exact follows_refuse hunmet rfl

theorem follows_readRequirement (ending : Nat) (ts : Tokens) :
    Follows ending .requirement Completes ts (readRequirement ending ts) := by
  unfold readRequirement
  split
  · next p r =>
    have hkey : Follows ending .absentKey (fun z _ => z = .comma) r (readKey ending r) := by
      refine follows_readKey rfl (fun _ => rfl) fun t _ ht => ?_
      cases t <;> first | rfl | exact absurd trivial ht
    have hends : Follows ending .absentKey Completes r (readKey ending r) := hkey.mono fun _ _ hz => .inl hz
    exact (hends.map fun k => Requirement.mk k .absent).cons rfl
  · next hbang =>
    have hkey : Follows ending .requirement (fun z _ => z = .condition) ts (readKey ending ts) := by
      refine follows_readKey rfl (fun _ => rfl) fun t h ht => ?_
      rcases ts with - | ⟨⟨u, p⟩, r⟩
      · cases h
      · obtain rfl : u = t := Option.some.inj h
        cases u <;> first | rfl | exact absurd trivial ht | exact absurd rfl (hbang p r)
    split
    · next e he =>
      rw [he] at hkey
      exact hkey
    · next key r hread =>
      rw [hread] at hkey
      obtain ⟨used, y, rfl, hleads, rfl⟩ := hkey
      exact ((follows_readCondition key r).map _).prepend hleads

theorem Completes.mayEnd {r : Tokens} (h : Completes y r) : y.mayEnd := by
  rcases h with rfl | ⟨rfl | rfl, -⟩ <;> rfl

theorem Completes.next?_comma {r : Tokens} (h : Completes y r) : y.next? .comma = some .requirement := by
  rcases h with rfl | ⟨rfl | rfl, -⟩ <;> rfl

theorem Completes.next?_eq_none {t : Token} {p : Nat} {r : Tokens} (h : Completes y ((t, p) :: r)) (ht : t ≠ .comma) :
    y.next? t = none := by
  rcases h with rfl | ⟨-, hstops⟩
  · cases t <;> first | rfl | exact absurd rfl ht
  · exact absurd (hstops _ rfl) ht

/-- What reading requirements does: it reads all tokens up to an end, or halts. -/
def FollowsAll (ending : Nat) (ts : Tokens) : Except SelectorError (List Requirement) → Prop
  | .ok _ => ∃ y, Expectation.requirement.after? (kinds ts) = some y ∧ y.mayEnd
  | .error e => Halts ending .requirement ts e

theorem followsAll_readRequirements (ending : Nat) {n : Nat} (hne : ts ≠ []) (hn : ts.length ≤ n) :
    FollowsAll ending ts (readRequirements ending n ts) := by
  fun_induction readRequirements ending n ts with
  | case1 ts => exact absurd (List.length_eq_zero_iff.mp (Nat.le_zero.mp hn)) hne
  | case2 n ts e he =>
    have hread := he ▸ follows_readRequirement ending ts
    exact hread
  | case3 n ts q hq =>
    obtain ⟨used, y, rfl, hleads, hends⟩ := hq ▸ follows_readRequirement ending ts
    exact ⟨y, by rwa [List.append_nil], hends.mayEnd⟩
  | case4 n ts q p hq =>
    obtain ⟨used, y, rfl, hleads, hends⟩ := hq ▸ follows_readRequirement ending ts
    have hcomma : y.after? (kinds [(.comma, p)]) = some .requirement := after?_kinds_singleton p hends.next?_comma
    exact Halts.prepend hleads (.atEnd hcomma rfl rfl)
  | case5 n ts q p r hr hq ih =>
    obtain ⟨used, y, rfl, hleads, hends⟩ := hq ▸ follows_readRequirement ending ts
    have hlength : r.length ≤ n := by
      simp only [List.length_append, List.length_cons] at hn
      omega
    have hcomma : Expectation.requirement.after? (kinds (used ++ [(.comma, p)])) = some .requirement := by
      rw [after?_kinds_append hleads]
      exact after?_kinds_singleton p hends.next?_comma
    have hrest := ih hr hlength
    rw [List.append_cons]
    cases hqs : readRequirements ending n r with
    | error e =>
      rw [hqs] at hrest
      exact Halts.prepend hcomma hrest
    | ok qs =>
      rw [hqs] at hrest
      obtain ⟨z, hz, hend⟩ := hrest
      exact ⟨z, (after?_kinds_append hcomma r).trans hz, hend⟩
  | case6 n ts q t p r _ hcomma hq =>
    obtain ⟨used, y, rfl, hleads, hends⟩ := hq ▸ follows_readRequirement ending ts
    exact .atToken hleads (hends.next?_eq_none hcomma) rfl

/-! ### What begins a selector -/

theorem halts_of_requirementsOf {e : SelectorError} (h : requirementsOf ts = .error e) :
    Halts (endingOf ts) .requirement ts e := by
  unfold requirementsOf at h
  cases ts with
  | nil => cases h
  | cons t ts =>
    have hall := followsAll_readRequirements (endingOf (t :: ts)) (List.cons_ne_nil t ts) le_rfl
    rw [if_neg (by simp)] at h
    rwa [h] at hall

theorem exists_after?_of_requirementsOf {qs : List Requirement} (h : requirementsOf ts = .ok qs) :
    ∃ y, Expectation.requirement.after? (kinds ts) = some y := by
  unfold requirementsOf at h
  cases ts with
  | nil => exact ⟨.requirement, rfl⟩
  | cons t ts =>
    have hall := followsAll_readRequirements (endingOf (t :: ts)) (List.cons_ne_nil t ts) le_rfl
    rw [if_neg (by simp)] at h
    rw [h] at hall
    obtain ⟨y, hy, -⟩ := hall
    exact ⟨y, hy⟩

theorem Halts.mayEnd_eq_false {e : SelectorError} (h : Halts ending x ts e) (hy : x.after? (kinds ts) = some y) :
    y.mayEnd = false := by
  cases h with
  | atEnd hleads hunfinished _ =>
    obtain rfl := Option.some.inj (hleads.symm.trans hy)
    exact hunfinished
  | atToken hleads hunmet _ =>
    rw [after?_kinds_append hleads] at hy
    simp [kinds, hunmet] at hy

theorem exists_requirementsOf (h : Expectation.requirement.after? (kinds ts) = some y) (hend : y.mayEnd) :
    ∃ qs, requirementsOf ts = .ok qs := by
  cases hread : requirementsOf ts with
  | ok qs => exact ⟨qs, rfl⟩
  | error e =>
    have hunfinished := (halts_of_requirementsOf hread).mayEnd_eq_false h
    rw [hend] at hunfinished
    cases hunfinished

theorem parse_eq_error_iff (s : String) (e : SelectorError) :
    Selector.parse s = .error e ↔ requirementsOf (tokens s.toList) = .error e := by
  rw [Selector.parse]
  cases requirementsOf (tokens s.toList) <;> simp [Except.map]

theorem exists_parse_iff (s : String) :
    (∃ selector, Selector.parse s = .ok selector) ↔ ∃ qs, requirementsOf (tokens s.toList) = .ok qs := by
  rw [Selector.parse]
  cases requirementsOf (tokens s.toList) <;> simp [Except.map]

/-- Tokens that a selector begins with: those of some text that is read as one. -/
def BeginsSelector (ts : List Token) : Prop :=
  ∃ s selector, Selector.parse s = .ok selector ∧ ts <+: kinds (tokens s.toList)

theorem beginsSelector_iff {ts : List Token} (hwhole : ∀ t ∈ ts, t.IsWhole) :
    BeginsSelector ts ↔ ∃ y, Expectation.requirement.after? ts = some y := by
  constructor
  · rintro ⟨s, selector, hparse, rest, hrest⟩
    obtain ⟨qs, hqs⟩ := (exists_parse_iff s).mp ⟨selector, hparse⟩
    obtain ⟨z, hz⟩ := exists_after?_of_requirementsOf hqs
    rw [← hrest, Expectation.after?_append] at hz
    obtain ⟨y, hy, -⟩ := Option.bind_eq_some_iff.mp hz
    exact ⟨y, hy⟩
  · rintro ⟨y, hy⟩
    -- what is expected next is written behind the tokens
    have hall : ∀ t ∈ ts ++ y.completion, t.IsWhole :=
      List.forall_mem_append.mpr ⟨hwhole, y.isWhole_completion⟩
    have hkinds := kinds_tokens_spaced hall
    obtain ⟨z, hz, hend⟩ := y.exists_after?_completion
    have hleads : Expectation.requirement.after? (kinds (tokens (spaced (ts ++ y.completion)))) = some z := by
      rw [hkinds, Expectation.after?_append, hy]
      exact hz
    have hread := exists_requirementsOf hleads hend
    rw [← String.toList_ofList (l := spaced _), ← exists_parse_iff] at hread
    obtain ⟨selector, hparse⟩ := hread
    refine ⟨_, selector, hparse, ?_⟩
    rw [String.toList_ofList, hkinds]
    exact List.prefix_append _ _

end Stencil.Label
