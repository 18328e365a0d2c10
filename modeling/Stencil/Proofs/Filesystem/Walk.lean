import Stencil.Proofs.Filesystem.Places

set_option autoImplicit false
set_option relaxedAutoImplicit false

/-!
How a path is followed, as a relation: one rule for each name and one for the end. Main statements: the
relation holds exactly for what following gives; a walk only looks at entries that are there, so it stays
as it is when others come or go; a walk to a free place reaches a file that is made there; a walk that does not
follow the link that it ends at reaches what takes the place of that link, and a walk to a file never follows
it; and a walk to one file does not see what takes the place of another.
-/

namespace Stencil.Filesystem

/-- A name that stands for an entry of a directory and is not too long. -/
structure IsName (n : String) : Prop where
  ne_dot : n ≠ "."
  ne_dots : n ≠ ".."
  short : n.utf8ByteSize ≤ nameLimit

def baseOf (target : String) (here : Place) : Place := if Path.isAbsolute target then [] else here

/-- The ways in which names are followed. Each rule but the ends leaves a directory. -/
inductive Walk (t : Tree) (last : Bool) : Nat → Place → Bool → List String → Found → Prop
  | arrive {links : Nat} {here : Place} {d : Bool} {e : Entry} :
      t.get? here = some e → (d = true → e = .directory) → Walk t last links here d [] (.entry here e)
  | stay {links : Nat} {here : Place} {d : Bool} {n : String} {rest : List String} {f : Found} :
      t.get? here = some .directory → n = "." → Walk t last links here d rest f →
      Walk t last links here d (n :: rest) f
  | rise {links : Nat} {here : Place} {d : Bool} {n : String} {rest : List String} {f : Found} :
      t.get? here = some .directory → n = ".." → Walk t last links here.dropLast d rest f →
      Walk t last links here d (n :: rest) f
  | free {links : Nat} {here : Place} {d : Bool} {n : String} :
      t.get? here = some .directory → IsName n → t.get? (here ++ [n]) = none →
      Walk t last links here d [n] (.free (here ++ [n]) d)
  | link {links : Nat} {here : Place} {n target : String} :
      t.get? here = some .directory → IsName n → t.get? (here ++ [n]) = some (.link target) →
      last = false → Walk t last links here false [n] (.entry (here ++ [n]) (.link target))
  | jump {links : Nat} {here : Place} {d : Bool} {n target : String} {rest : List String} {f : Found} :
      t.get? here = some .directory → IsName n → t.get? (here ++ [n]) = some (.link target) →
      (rest ≠ [] ∨ last = true ∨ d = true) →
      Walk t last links (baseOf target here) (d || rest.isEmpty && endsInSlash target)
        (namesOf target ++ rest) f →
      Walk t last (links + 1) here d (n :: rest) f
  | enter {links : Nat} {here : Place} {d : Bool} {n : String} {e : Entry} {rest : List String} {f : Found} :
      t.get? here = some .directory → IsName n → t.get? (here ++ [n]) = some e →
      (∀ target, e ≠ .link target) → Walk t last links (here ++ [n]) d rest f →
      Walk t last links here d (n :: rest) f

/-- Following the names, one follows the link at a place. The rules are those of a walk. -/
inductive Follows (t : Tree) (last : Bool) : Nat → Place → Bool → List String → Place → Prop
  | here {links : Nat} {here : Place} {d : Bool} {n target : String} {rest : List String} :
      t.get? here = some .directory → IsName n → t.get? (here ++ [n]) = some (.link target) →
      (rest ≠ [] ∨ last = true ∨ d = true) → Follows t last (links + 1) here d (n :: rest) (here ++ [n])
  | stay {links : Nat} {here : Place} {d : Bool} {n : String} {rest : List String} {q : Place} :
      t.get? here = some .directory → n = "." → Follows t last links here d rest q →
      Follows t last links here d (n :: rest) q
  | rise {links : Nat} {here : Place} {d : Bool} {n : String} {rest : List String} {q : Place} :
      t.get? here = some .directory → n = ".." → Follows t last links here.dropLast d rest q →
      Follows t last links here d (n :: rest) q
  | jump {links : Nat} {here : Place} {d : Bool} {n target : String} {rest : List String} {q : Place} :
      t.get? here = some .directory → IsName n → t.get? (here ++ [n]) = some (.link target) →
      (rest ≠ [] ∨ last = true ∨ d = true) →
      Follows t last links (baseOf target here) (d || rest.isEmpty && endsInSlash target)
        (namesOf target ++ rest) q →
      Follows t last (links + 1) here d (n :: rest) q
  | enter {links : Nat} {here : Place} {d : Bool} {n : String} {e : Entry} {rest : List String} {q : Place} :
      t.get? here = some .directory → IsName n → t.get? (here ++ [n]) = some e →
      (∀ target, e ≠ .link target) → Follows t last links (here ++ [n]) d rest q →
      Follows t last links here d (n :: rest) q

section Correspondence

variable {t : Tree} {last d : Bool} {links : Nat} {here : Place} {names : List String} {f : Found}

theorem walk_of_followNames {jump : Place → Bool → List String → Except IoError Found}
    (h : followNames t last jump here d names = .ok f)
    (hjump : ∀ {here d names}, jump here d names = .ok f →
      ∃ k, links = k + 1 ∧ Walk t last k here d names f) : Walk t last links here d names f := by
  fun_induction followNames t last jump here d names with
  | case1 here he =>
    cases h
    exact .arrive he fun _ => rfl
  | case3 here e _ he hd =>
    cases h
    exact .arrive he fun hd' => absurd hd' hd
  | case6 here rest hh ih => exact .stay (not_not.mp hh) rfl (ih h)
  | case7 here rest hh _ ih => exact .rise (not_not.mp hh) rfl (ih h)
  | case9 here n rest hh h1 h2 h3 next hn hr =>
    cases h
    obtain rfl := List.isEmpty_iff.mp hr
    exact .free (not_not.mp hh) ⟨h1, h2, Nat.not_lt.mp h3⟩ hn
  | case11 here n rest hh h1 h2 h3 next target hn hr =>
    cases h
    simp only [Bool.and_eq_true, Bool.not_eq_true', List.isEmpty_iff] at hr
    obtain ⟨⟨rfl, hl⟩, rfl⟩ := hr
    exact .link (not_not.mp hh) ⟨h1, h2, Nat.not_lt.mp h3⟩ hn hl
  | case12 here n rest hh h1 h2 h3 next target hn hr =>
    obtain ⟨k, rfl, hw⟩ := hjump h
    refine .jump (not_not.mp hh) ⟨h1, h2, Nat.not_lt.mp h3⟩ hn ?_ hw
    by_contra hc
    simp_all
  | case13 here n rest hh h1 h2 h3 next e hl hn ih =>
    exact .enter (not_not.mp hh) ⟨h1, h2, Nat.not_lt.mp h3⟩ hn (fun target he => hl target he) (ih h)
  | _ => cases h

theorem walk_of_follow (h : follow t last links here d names = .ok f) : Walk t last links here d names f := by
  induction links generalizing here d names with
  | zero =>
    rw [follow] at h
    exact walk_of_followNames h nofun
  | succ links ih =>
    rw [follow] at h
    exact walk_of_followNames h fun hj => ⟨links, rfl, ih hj⟩

/-! ### One name at a time, where what is here is a directory -/

variable {n : String} {rest : List String}

attribute [local simp] follow followNames

theorem follow_dot (hh : t.get? here = some .directory) :
    follow t last links here d ("." :: rest) = follow t last links here d rest := by
  cases links <;> simp [hh]

theorem follow_dots (hh : t.get? here = some .directory) :
    follow t last links here d (".." :: rest) = follow t last links here.dropLast d rest := by
  cases links <;> simp [hh]

theorem follow_long (hh : t.get? here = some .directory) (hdot : n ≠ ".") (hdots : n ≠ "..")
    (hlong : nameLimit < n.utf8ByteSize) : follow t last links here d (n :: rest) = .error .invalidFilename := by
  cases links <;> simp [hh, hdot, hdots, hlong]

theorem follow_free (hh : t.get? here = some .directory) (hn : IsName n) (he : t.get? (here ++ [n]) = none) :
    follow t last links here d [n] = .ok (.free (here ++ [n]) d) := by
  cases links <;> simp [hh, hn.ne_dot, hn.ne_dots, Nat.not_lt.mpr hn.short, he]

theorem follow_link {target : String} (hh : t.get? here = some .directory) (hn : IsName n)
    (he : t.get? (here ++ [n]) = some (.link target)) :
    follow t false links here false [n] = .ok (.entry (here ++ [n]) (.link target)) := by
  cases links <;> simp [hh, hn.ne_dot, hn.ne_dots, Nat.not_lt.mpr hn.short, he]

theorem follow_jump {target : String} (hh : t.get? here = some .directory) (hn : IsName n)
    (he : t.get? (here ++ [n]) = some (.link target)) (hc : rest ≠ [] ∨ last = true ∨ d = true) :
    follow t last (links + 1) here d (n :: rest) =
      follow t last links (baseOf target here) (d || rest.isEmpty && endsInSlash target) (namesOf target ++ rest) := by
  have hr : (rest.isEmpty && !last && !d) = false := by
    rcases hc with hc | hc | hc <;> simp [hc]
  simp [hh, hn.ne_dot, hn.ne_dots, Nat.not_lt.mpr hn.short, he, hr, baseOf]

theorem follow_enter {e : Entry} (hh : t.get? here = some .directory) (hn : IsName n)
    (he : t.get? (here ++ [n]) = some e) (hl : ∀ target, e ≠ .link target) :
    follow t last links here d (n :: rest) = follow t last links (here ++ [n]) d rest := by
  have hstep : ∀ jump, followNames t last jump here d (n :: rest) =
      followNames t last jump (here ++ [n]) d rest := by
    intro jump
    simp only [followNames, hh, hn.ne_dot, hn.ne_dots, Nat.not_lt.mpr hn.short, he]
    cases e with
    | link target => exact absurd rfl (hl target)
    | directory => simp
    | file mode content => simp
    | sink => simp
  cases links <;> simp only [follow, hstep]

theorem follow_nil {e : Entry} (he : t.get? here = some e) (hd : d = true → e = .directory) :
    follow t last links here d [] = .ok (.entry here e) := by
  have hend : ∀ jump, followNames t last jump here d [] = .ok (.entry here e) := by
    intro jump
    rw [followNames]
    split
    · next h => cases he.symm.trans h; rfl
    · next e hne h =>
      cases he.symm.trans h
      rw [if_neg fun h => hne (hd h)]
    · next h => cases he.symm.trans h
  cases links <;> exact hend _

theorem Walk.follow_eq (h : Walk t last links here d names f) :
    follow t last links here d names = .ok f := by
  induction h with
  | arrive he hd => exact follow_nil he hd
  | stay hh hn _ ih => rw [hn, follow_dot hh, ih]
  | rise hh hn _ ih => rw [hn, follow_dots hh, ih]
  | free hh hn he => exact follow_free hh hn he
  | @link links here n target hh hn he hl =>
    subst hl
    exact follow_link hh hn he
  | jump hh hn he hc _ ih => rw [follow_jump hh hn he hc, ih]
  | enter hh hn he hl _ ih => rw [follow_enter hh hn he hl, ih]

theorem follow_eq_ok_iff : follow t last links here d names = .ok f ↔ Walk t last links here d names f :=
  ⟨walk_of_follow, Walk.follow_eq⟩

theorem Walk.unique {g : Found} (h : Walk t last links here d names f)
    (h' : Walk t last links here d names g) : f = g :=
  Except.ok.inj (h.follow_eq.symm.trans h'.follow_eq)

end Correspondence

/-- A file, or something that takes everything: no directory, and no link. -/
def Entry.IsPlain (e : Entry) : Prop := e ≠ .directory ∧ ∀ target, e ≠ .link target

theorem Entry.isPlain_file (mode : Nat) (content : List UInt8) : (Entry.file mode content).IsPlain :=
  ⟨nofun, nofun⟩

def Found.In (t : Tree) : Found → Prop
  | .entry p e => t.get? p = some e
  | .free p _ => t.get? p = none

namespace Walk

variable {t t' : Tree} {last d : Bool} {links : Nat} {here : Place} {n : String} {names rest : List String}
  {f : Found}

theorem found_in (h : Walk t last links here d names f) : f.In t := by
  induction h with
  | arrive he _ => exact he
  | free _ _ he => exact he
  | link _ _ he _ => exact he
  | stay _ _ _ ih => exact ih
  | rise _ _ _ ih => exact ih
  | jump _ _ _ _ _ ih => exact ih
  | enter _ _ _ _ _ ih => exact ih

theorem get?_here (h : Walk t last links here d (n :: rest) f) : t.get? here = some .directory := by
  cases h <;> assumption

theorem of_dot (hn : n = ".") (h : Walk t last links here d (n :: rest) f) :
    Walk t last links here d rest f := by
  subst hn
  cases h with
  | stay _ _ h => exact h
  | rise _ hn _ => exact absurd hn (by decide)
  | free _ hn _ => exact absurd rfl hn.ne_dot
  | link _ hn _ _ => exact absurd rfl hn.ne_dot
  | jump _ hn _ _ _ => exact absurd rfl hn.ne_dot
  | enter _ hn _ _ _ => exact absurd rfl hn.ne_dot

theorem of_dots (hn : n = "..") (h : Walk t last links here d (n :: rest) f) :
    Walk t last links here.dropLast d rest f := by
  subst hn
  cases h with
  | stay _ hn _ => exact absurd hn (by decide)
  | rise _ _ h => exact h
  | free _ hn _ => exact absurd rfl hn.ne_dots
  | link _ hn _ _ => exact absurd rfl hn.ne_dots
  | jump _ hn _ _ _ => exact absurd rfl hn.ne_dots
  | enter _ hn _ _ _ => exact absurd rfl hn.ne_dots

theorem of_enter {e : Entry} (hn : IsName n) (he : t.get? (here ++ [n]) = some e)
    (hl : ∀ target, e ≠ .link target) (h : Walk t last links here d (n :: rest) f) :
    Walk t last links (here ++ [n]) d rest f := by
  cases h with
  | stay _ hd _ => exact absurd hd hn.ne_dot
  | rise _ hd _ => exact absurd hd hn.ne_dots
  | free _ _ hf => cases he.symm.trans hf
  | link _ _ ht _ => exact absurd (Option.some.inj (he.symm.trans ht)) (hl _)
  | jump _ _ ht _ _ => exact absurd (Option.some.inj (he.symm.trans ht)) (hl _)
  | enter _ _ _ _ h => exact h

theorem of_jump {target : String} (hn : IsName n) (ht : t.get? (here ++ [n]) = some (.link target))
    (hc : rest ≠ [] ∨ last = true ∨ d = true) (h : Walk t last links here d (n :: rest) f) :
    ∃ k, links = k + 1 ∧ Walk t last k (baseOf target here) (d || rest.isEmpty && endsInSlash target)
      (namesOf target ++ rest) f := by
  cases h with
  | stay _ hd _ => exact absurd hd hn.ne_dot
  | rise _ hd _ => exact absurd hd hn.ne_dots
  | free _ _ hf => cases ht.symm.trans hf
  | link _ _ _ hl => simp [hl] at hc
  | jump _ _ ht' _ h =>
    cases ht.symm.trans ht'
    exact ⟨_, rfl, h⟩
  | enter _ _ ht' hl _ => exact absurd (Option.some.inj (ht'.symm.trans ht)) (hl _)

theorem eq_directory {p : Place} {e : Entry} (h : Walk t last links here true names (.entry p e)) :
    e = .directory := by
  generalize hd : true = d at h
  generalize hf : Found.entry p e = f at h
  induction h with
  | arrive _ he =>
    cases hf
    exact he hd.symm
  | free => cases hf
  | link => cases hd
  | stay _ _ _ ih => exact ih hd hf
  | rise _ _ _ ih => exact ih hd hf
  | jump _ _ _ _ _ ih => exact ih (by simp [← hd]) hf
  | enter _ _ _ _ _ ih => exact ih hd hf

theorem mono (hk : ∀ p e, t.get? p = some e → t'.get? p = some e) {p : Place} {e : Entry}
    (h : Walk t last links here d names (.entry p e)) : Walk t' last links here d names (.entry p e) := by
  generalize hf : Found.entry p e = f at h
  induction h with
  | arrive he hd => exact .arrive (hk _ _ he) hd
  | free => cases hf
  | link hh hn he hl => exact .link (hk _ _ hh) hn (hk _ _ he) hl
  | stay hh hn _ ih => exact .stay (hk _ _ hh) hn (ih hf)
  | rise hh hn _ ih => exact .rise (hk _ _ hh) hn (ih hf)
  | jump hh hn he hc _ ih => exact .jump (hk _ _ hh) hn (hk _ _ he) hc (ih hf)
  | enter hh hn he hl _ ih => exact .enter (hk _ _ hh) hn (hk _ _ he) hl (ih hf)

/-- A walk to a free place reaches the entry that is made there, also when links at the end are then
followed. -/
theorem created (hk : ∀ p e, t.get? p = some e → t'.get? p = some e) {p : Place} {e : Entry}
    (he : t'.get? p = some e) (hl : ∀ target, e ≠ .link target) {last' : Bool} (hlast : last = true → last' = true)
    (h : Walk t last links here d names (.free p false)) :
    Walk t' last' links here d names (.entry p e) := by
  generalize hf : Found.free p false = f at h
  induction h with
  | arrive => cases hf
  | link => cases hf
  | free hh hn _ =>
    cases hf
    exact .enter (hk _ _ hh) hn he hl (.arrive he nofun)
  | stay hh hn _ ih => exact .stay (hk _ _ hh) hn (ih hf)
  | rise hh hn _ ih => exact .rise (hk _ _ hh) hn (ih hf)
  | jump hh hn ht hc _ ih => exact .jump (hk _ _ hh) hn (hk _ _ ht) (hc.imp_right (.imp_left hlast)) (ih hf)
  | enter hh hn ht hne _ ih => exact .enter (hk _ _ hh) hn (hk _ _ ht) hne (ih hf)

/-- Names that lead to something else than a directory lead nowhere when more names follow, however many
links may be followed. -/
theorem blocked {p : Place} {e : Entry} (he : e ≠ .directory)
    (h : Walk t true links here d names (.entry p e)) {l : Nat} (hr : rest ≠ [])
    {d' : Bool} : ¬Walk t last l here d' (names ++ rest) f := by
  generalize hf : Found.entry p e = g at h
  induction h generalizing l d' with
  | arrive hh _ =>
    cases hf
    obtain ⟨n, r, rfl⟩ := List.exists_cons_of_ne_nil hr
    intro h'
    exact he (Option.some.inj (hh.symm.trans h'.get?_here))
  | free => cases hf
  | link _ _ _ hlast => cases hlast
  | stay _ hn _ ih => exact fun h' => ih hf (h'.of_dot hn)
  | rise _ hn _ ih => exact fun h' => ih hf (h'.of_dots hn)
  | jump _ hn ht _ _ ih =>
    intro h'
    rw [List.cons_append] at h'
    obtain ⟨k, rfl, hw⟩ := h'.of_jump hn ht (.inl (by simp [hr]))
    rw [← List.append_assoc] at hw
    exact ih hf hw
  | enter _ hn ht hne _ ih => exact fun h' => ih hf (h'.of_enter hn ht hne)

theorem entry_unique {p q : Place} {e g : Entry} (h : Walk t true links here d names (.entry p e)) {l : Nat}
    {d' : Bool} (h' : Walk t true l here d' names (.entry q g)) : q = p := by
  generalize hf : Found.entry p e = f at h
  induction h generalizing l d' with
  | arrive _ _ =>
    cases hf
    cases h'
    rfl
  | free => cases hf
  | link _ _ _ hlast => cases hlast
  | stay _ hn _ ih => exact ih (h'.of_dot hn) hf
  | rise _ hn _ ih => exact ih (h'.of_dots hn) hf
  | jump _ hn ht _ _ ih =>
    obtain ⟨k, rfl, hw⟩ := h'.of_jump hn ht (.inr (.inl rfl))
    exact ih hw hf
  | enter _ hn ht hne _ ih => exact ih (h'.of_enter hn ht hne) hf

/-- A walk that follows links at its end passes the entry that it would otherwise have reached: either the
same one, or a link from which it goes on with fewer links to follow. -/
theorem unfollowed {p : Place} {e : Entry} (h : Walk t true links here d names (.entry p e)) :
    ∃ q g, Walk t false links here d names (.entry q g) ∧
      ((q = p ∧ g = e) ∨ ∃ target k d', g = .link target ∧ k < links ∧
        Walk t true k (baseOf target q.dropLast) d' (namesOf target) (.entry p e)) := by
  generalize hf : Found.entry p e = f at h
  induction h with
  | arrive he hd =>
    cases hf
    exact ⟨p, e, .arrive he hd, .inl ⟨rfl, rfl⟩⟩
  | free => cases hf
  | link _ _ _ hl => cases hl
  | stay hh hn _ ih =>
    obtain ⟨q, g, hw, ho⟩ := ih hf
    exact ⟨q, g, .stay hh hn hw, ho⟩
  | rise hh hn _ ih =>
    obtain ⟨q, g, hw, ho⟩ := ih hf
    exact ⟨q, g, .rise hh hn hw, ho⟩
  | @jump links here d n target rest f hh hn ht _ h ih =>
    by_cases hc : rest ≠ [] ∨ d = true
    · obtain ⟨q, g, hw, ho⟩ := ih hf
      refine ⟨q, g, .jump hh hn ht (hc.imp_right .inr) hw, ho.imp_right ?_⟩
      rintro ⟨target', k, d', hg, hk, hw'⟩
      exact ⟨target', k, d', hg, Nat.lt_succ_of_lt hk, hw'⟩
    · -- the last name is the link itself
      obtain ⟨hr, hd⟩ := not_or.mp hc
      obtain rfl := not_not.mp hr
      obtain rfl := Bool.not_eq_true _ ▸ hd
      rw [List.append_nil] at h
      subst hf
      have hw : Walk t true links (baseOf target (here ++ [n]).dropLast) (endsInSlash target)
          (namesOf target) (.entry p e) := by
        rw [List.dropLast_concat]
        exact h
      exact ⟨_, _, .link hh hn ht rfl, .inr ⟨target, links, _, rfl, Nat.lt_succ_self _, hw⟩⟩
  | enter hh hn ht hne _ ih =>
    obtain ⟨q, g, hw, ho⟩ := ih hf
    exact ⟨q, g, .enter hh hn ht hne hw, ho⟩

/-- When something plain comes in place of the entry at the end of the names, links at the end not followed,
then the names lead to it, unless that entry is a link that they follow on the way. -/
theorem replaced {q : Place} {g u : Entry} (h : Walk t false links here d names (.entry q g))
    (hg : g ≠ .directory) (hn : ¬Follows t false links here d names q)
    (hk : ∀ r x, r ≠ q → t.get? r = some x → t'.get? r = some x)
    (hu : t'.get? q = some u) (hp : u.IsPlain) (last' : Bool) :
    Walk t' last' links here d names (.entry q u) := by
  generalize hf : Found.entry q g = f at h
  have hold : t.get? q = some g := by
    have hin := h.found_in
    rw [← hf] at hin
    exact hin
  have hdir : ∀ r, t.get? r = some .directory → t'.get? r = some .directory := by
    intro r hr
    refine hk r _ ?_ hr
    rintro rfl
    exact hg (Option.some.inj (hold.symm.trans hr))
  induction h with
  | arrive _ hd =>
    cases hf
    exact .arrive hu fun h => absurd (hd h) hg
  | free => cases hf
  | link hh hname _ _ =>
    cases hf
    exact .enter (hdir _ hh) hname hu hp.2 (.arrive hu nofun)
  | stay hh hdot _ ih => exact .stay (hdir _ hh) hdot (ih (fun h => hn (.stay hh hdot h)) hf)
  | rise hh hdots _ ih => exact .rise (hdir _ hh) hdots (ih (fun h => hn (.rise hh hdots h)) hf)
  | @jump links here d n target rest f hh hname ht hc _ ih =>
    have hne : here ++ [n] ≠ q := by
      rintro rfl
      exact hn (.here hh hname ht hc)
    refine .jump (hdir _ hh) hname (hk _ _ hne ht) (hc.imp_right fun hc => .inr ?_)
      (ih (fun h => hn (.jump hh hname ht hc h)) hf)
    exact hc.resolve_left Bool.false_ne_true
  | @enter links here d n e rest f hh hname ht hl h ih =>
    have hrest := ih (fun h => hn (.enter hh hname ht hl h)) hf
    by_cases heq : here ++ [n] = q
    · subst heq
      exact .enter (hdir _ hh) hname hu hp.2 hrest
    · exact .enter (hdir _ hh) hname (hk _ _ heq ht) hl hrest

theorem rewritten {p : Place} {e u : Entry} (h : Walk t last links here d names (.entry p e)) (he : e.IsPlain)
    (hk : ∀ r x, r ≠ p → t.get? r = some x → t'.get? r = some x) (hu : t'.get? p = some u) (hp : u.IsPlain) :
    Walk t' last links here d names (.entry p u) := by
  generalize hf : Found.entry p e = f at h
  have hold : t.get? p = some e := by
    have hin := h.found_in
    rw [← hf] at hin
    exact hin
  have hdir : ∀ r, t.get? r = some .directory → t'.get? r = some .directory := by
    intro r hr
    refine hk r _ ?_ hr
    rintro rfl
    exact he.1 (Option.some.inj (hold.symm.trans hr))
  have hlink : ∀ r target, t.get? r = some (.link target) → t'.get? r = some (.link target) := by
    intro r target hr
    refine hk r _ ?_ hr
    rintro rfl
    exact he.2 target (Option.some.inj (hold.symm.trans hr))
  induction h with
  | arrive _ hd =>
    cases hf
    exact .arrive hu fun h => absurd (hd h) he.1
  | free => cases hf
  | link =>
    cases hf
    exact absurd rfl (he.2 _)
  | stay hh hn _ ih => exact .stay (hdir _ hh) hn (ih hf)
  | rise hh hn _ ih => exact .rise (hdir _ hh) hn (ih hf)
  | jump hh hn ht hc _ ih => exact .jump (hdir _ hh) hn (hlink _ _ ht) hc (ih hf)
  | @enter links here d n x rest f hh hn ht hl _ ih =>
    by_cases heq : here ++ [n] = p
    · subst heq
      exact .enter (hdir _ hh) hn hu hp.2 (ih hf)
    · exact .enter (hdir _ hh) hn (hk _ _ heq ht) hl (ih hf)

theorem past_link {q : Place} (hq : Follows t false links here d names q)
    (h : Walk t false links here d names f) :
    ∃ target k d' rest, t.get? q = some (.link target) ∧ (rest ≠ [] ∨ d' = true) ∧
      Walk t false k (baseOf target q.dropLast) (d' || rest.isEmpty && endsInSlash target)
        (namesOf target ++ rest) f := by
  induction hq with
  | @here links here d n target rest _ hn ht hc =>
    obtain ⟨k, hk, hw⟩ := h.of_jump hn ht hc
    refine ⟨target, k, d, rest, ht, hc.imp_right fun hc => hc.resolve_left Bool.false_ne_true, ?_⟩
    rw [List.dropLast_concat]
    exact hw
  | stay _ hn _ ih => exact ih (h.of_dot hn)
  | rise _ hn _ ih => exact ih (h.of_dots hn)
  | jump _ hn ht hc _ ih =>
    obtain ⟨k, hk, hw⟩ := h.of_jump hn ht hc
    cases hk
    exact ih hw
  | enter _ hn ht hl _ ih => exact ih (h.of_enter hn ht hl)

theorem not_follows_end {p q : Place} {e g : Entry} (h : Walk t true links here d names (.entry p e))
    (he : e.IsPlain) (hq : Walk t false links here d names (.entry q g)) :
    ¬Follows t false links here d names q := by
  intro hf
  obtain ⟨target, k, d', rest, ht, hc, hw⟩ := hq.past_link hf
  have hold : t.get? q = some g := hq.found_in
  obtain ⟨q', g', hq', ho⟩ := h.unfollowed
  cases hq.unique hq'
  cases Option.some.inj (hold.symm.trans ht)
  rcases ho with ⟨-, hl⟩ | ⟨target', k', d'', hl, -, htail⟩
  · exact he.2 _ hl.symm
  · cases hl
    rcases hc with hrest | rfl
    · exact htail.blocked he.1 hrest hw
    · cases hw.eq_directory

/-- What comes in place of the entry at the end of some names is not seen by names that lead to something plain
elsewhere. -/
theorem undisturbed {p q r : Place} {e f g : Entry} {rlinks : Nat} {rhere : Place} {rd : Bool}
    {rnames : List String} (h : Walk t true links here d names (.entry q f)) (hf : f.IsPlain)
    (ha : Walk t true rlinks rhere rd rnames (.entry p e)) (he : e.IsPlain)
    (hr : Walk t false rlinks rhere rd rnames (.entry r g)) (hpq : q ≠ p)
    (hk : ∀ x y, x ≠ r → t.get? x = some y → t'.get? x = some y) :
    Walk t' true links here d names (.entry q f) := by
  have hold : t.get? r = some g := hr.found_in
  obtain ⟨r', g', hr', ho⟩ := ha.unfollowed
  cases hr.unique hr'
  have hg : g ≠ .directory := by
    rcases ho with ⟨-, rfl⟩ | ⟨target, -, -, rfl, -⟩
    · exact he.1
    · exact nofun
  have hdir : ∀ x, t.get? x = some .directory → t'.get? x = some .directory := by
    intro x hx
    refine hk x _ ?_ hx
    rintro rfl
    exact hg (Option.some.inj (hold.symm.trans hx))
  -- the entry is not met: past it, the names would lead where the others do, or nowhere
  generalize hfound : Found.entry q f = found at h
  induction h with
  | @arrive links here d x hx hd =>
    cases hfound
    refine .arrive (hk _ _ ?_ hx) hd
    rintro rfl
    rcases ho with ⟨rfl, -⟩ | ⟨target, -, -, rfl, -⟩
    · exact hpq rfl
    · exact hf.2 _ (Option.some.inj (hx.symm.trans hold))
  | free => cases hfound
  | link _ _ _ hl => cases hl
  | stay hh hn _ ih => exact .stay (hdir _ hh) hn (ih hfound)
  | rise hh hn _ ih => exact .rise (hdir _ hh) hn (ih hfound)
  | @jump links here d n target rest found hh hn ht hc h ih =>
    refine .jump (hdir _ hh) hn (hk _ _ ?_ ht) hc (ih hfound)
    rintro rfl
    subst hfound
    cases Option.some.inj (hold.symm.trans ht)
    rcases ho with ⟨-, hl⟩ | ⟨target', k, d', hl, -, htail⟩
    · exact he.2 _ hl.symm
    · cases hl
      rw [List.dropLast_concat] at htail
      by_cases hrest : rest = []
      · subst hrest
        rw [List.append_nil] at h
        exact hpq (htail.entry_unique h)
      · exact htail.blocked he.1 hrest h
  | @enter links here d n x rest found hh hn hx hl h ih =>
    refine .enter (hdir _ hh) hn (hk _ _ ?_ hx) hl (ih hfound)
    rintro rfl
    subst hfound
    cases Option.some.inj (hold.symm.trans hx)
    rcases ho with ⟨rfl, rfl⟩ | ⟨target, -, -, rfl, -⟩
    · cases rest with
      | nil =>
        cases h
        exact hpq rfl
      | cons m rest => exact hg (Option.some.inj (hold.symm.trans h.get?_here))
    · exact hl _ rfl

end Walk

end Stencil.Filesystem
