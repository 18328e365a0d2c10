import Stencil.Proofs.First
import Stencil.Proofs.Settings.Line
import Stencil.Settings.Config

set_option autoImplicit false
set_option relaxedAutoImplicit false

/-!
How command line and settings file come together. Main statement: every setting is the first that is given, whatever the
others are; the templates are the first of each source, those of the command line before those of the file; and of what
may be wrong, an empty delimiter on the left is told first, then one on the right, then that nothing is left to do.
-/

namespace Stencil.Settings

open Stencil.Filesystem Stencil.Time

/-- What the settings file of a run says, where there is one. -/
inductive ConfigFile.IsFound (v : View) (directory : String) (named : Option String) : ConfigFile → Prop
  | absent : locate v directory named = .ok none → IsFound v directory named .empty
  | read {path : String} {file : ConfigFile} : locate v directory named = .ok (some path) →
      ConfigFile.read v path = .ok file → IsFound v directory named file

def given {α : Type} (places : List (Option α)) : Option α := places.findSome? id

/-- An entry of a settings file stands for a template if it has a path and an output. A command of blanks is none. -/
structure FileTemplate.StandsFor (t : FileTemplate) (d : Descriptor) : Prop where
  source : t.path = some d.source
  output : t.output = some d.output
  command : ∀ c, d.command = some c ↔ t.command = some c ∧ ¬Descriptor.IsBlank c
  timeout : d.timeout = t.timeout

/-- What the elements of a list stand for, in order. Those that stand for nothing are passed over. -/
inductive Lists {α β : Type} (StandsFor : α → β → Prop) : List α → List β → Prop
  | nil : Lists StandsFor [] []
  | taken {a : α} {b : β} {as : List α} {bs : List β} :
      StandsFor a b → Lists StandsFor as bs → Lists StandsFor (a :: as) (b :: bs)
  | passed {a : α} {as : List α} {bs : List β} :
      (∀ b, ¬StandsFor a b) → Lists StandsFor as bs → Lists StandsFor (a :: as) bs

def Descriptor.place (d : Descriptor) : List Component := Path.components d.source

variable {inputs : Inputs} {file : ConfigFile} {all kept : List Descriptor}

theorem given_pair {α : Type} (a b : Option α) : given [a, b] = a.or b := by
  cases a <;> cases b <;> rfl

theorem given_triple {α : Type} (a b c : Option α) : given [a, b, c] = a.or (b.or c) := by
  cases a <;> cases b <;> cases c <;> rfl

theorem lists_iff {α β : Type} {StandsFor : α → β → Prop} {f : α → Option β}
    (hf : ∀ a b, f a = some b ↔ StandsFor a b) {as : List α} {bs : List β} :
    Lists StandsFor as bs ↔ as.filterMap f = bs := by
  constructor
  · intro h
    induction h with
    | nil => rfl
    | taken hstands _ ih => rw [List.filterMap_cons_some ((hf _ _).mpr hstands), ih]
    | @passed a as bs hnone _ ih =>
      have hnothing : f a = none := Option.eq_none_iff_forall_ne_some.mpr fun b hb => hnone b ((hf a b).mp hb)
      rw [List.filterMap_cons_none hnothing, ih]
  · rintro rfl
    induction as with
    | nil => exact .nil
    | cons a as ih =>
      cases ha : f a with
      | none =>
        rw [List.filterMap_cons_none ha]
        exact .passed (fun b hb => by cases ha.symm.trans ((hf a b).mpr hb)) ih
      | some b =>
        rw [List.filterMap_cons_some ha]
        exact .taken ((hf a b).mp ha) ih

theorem toOption_eq_some_iff {ε α : Type} {x : Except ε α} {a : α} : x.toOption = some a ↔ x = .ok a := by
  cases x <;> simp [Except.toOption]

theorem commandOf_eq_some_iff {s c : String} : commandOf s.toList = some c ↔ s = c ∧ ¬Descriptor.IsBlank c := by
  by_cases hs : Descriptor.IsBlank s
  · rw [Descriptor.commandOf_of_isBlank hs]
    simp only [reduceCtorEq, false_iff, not_and, not_not]
    rintro rfl
    exact hs
  · rw [Descriptor.commandOf_of_not_isBlank hs, Option.some.injEq]
    constructor
    · rintro rfl
      exact ⟨rfl, hs⟩
    · exact And.left

theorem FileTemplate.descriptor?_eq_some_iff (t : FileTemplate) (d : Descriptor) :
    t.descriptor? = some d ↔ t.StandsFor d := by
  rw [descriptor?]
  constructor
  · intro h
    split at h
    · next hpath houtput =>
      cases h
      refine ⟨hpath, houtput, fun c => ?_, rfl⟩
      simp [Option.bind_eq_some_iff, commandOf_eq_some_iff]
    · cases h
  · rintro ⟨hsource, houtput, hcommand, htimeout⟩
    have hbind : (t.command.bind fun c => commandOf c.toList) = d.command := by
      ext c
      simp [Option.bind_eq_some_iff, commandOf_eq_some_iff, hcommand]
    rw [hsource, houtput]
    dsimp only
    rw [hbind, ← htimeout]

theorem listed_eq (inputs : Inputs) (file : ConfigFile) :
    (listed inputs file).filterMap Except.toOption =
      inputs.templates.filterMap (fun s => (Descriptor.parse s.toList).toOption) ++
        file.templates.filterMap FileTemplate.descriptor? := by
  rw [listed, List.filterMap_append, List.filterMap_map, List.filterMap_map]
  congr 1
  · refine List.filterMap_congr fun s _ => ?_
    simp only [Function.comp]
    cases Descriptor.parse s.toList <;> rfl
  · refine List.filterMap_congr fun t _ => ?_
    simp only [Function.comp]
    cases t.descriptor? <;> rfl

theorem firstOfEach_collect (h : FirstOfEach Descriptor.place all kept) (ls : List Listed) :
    FirstOfEach Descriptor.place (all ++ ls.filterMap Except.toOption) (collect kept ls).1 := by
  induction ls generalizing all kept with
  | nil => simpa [collect] using h
  | cons x ls ih =>
    cases x with
    | error n => exact ih h
    | ok d =>
      have hsplit : all ++ (Except.ok d :: ls).filterMap Except.toOption =
          (all ++ [d]) ++ ls.filterMap Except.toOption := by
        simp [Except.toOption]
      rw [hsplit, collect]
      split
      · next hthere =>
        refine ih (h.pass ?_)
        simpa [Path.same, Descriptor.place] using hthere
      · next hnew =>
        refine ih (h.keep ?_)
        simpa [Path.same, Descriptor.place] using hnew

theorem load_of_isFound {v : View} {directory : String} {inputs : Inputs} {file : ConfigFile}
    (h : ConfigFile.IsFound v directory inputs.configFile file) : load v directory inputs = merge inputs file := by
  cases h with
  | absent hl => rw [load, hl]
  | read hl hf =>
    rw [load, hl]
    dsimp only
    rw [hf]

/-- A run in a directory has the settings of the first places where they are given: the command line, the settings file
of the run, and the usual ones. Its templates are the first of each source, in order, of those that the command line and
then the file describe. Only an empty delimiter or the lack of templates stands against that. -/
theorem settings_are_first_given {v : View} {directory : String} {inputs : Inputs} {file : ConfigFile}
    (h : ConfigFile.IsFound v directory inputs.configFile file) :
    let left := (given [inputs.left, file.left]).getD "\x7b\x7b"
    let right := (given [inputs.right, file.right]).getD "\x7d\x7d"
    let result := (load v directory inputs).1
    ∃ onLine inFile kept,
      Lists (fun s d => Descriptor.parse s.toList = .ok d) inputs.templates onLine ∧
      Lists FileTemplate.StandsFor file.templates inFile ∧
      FirstOfEach Descriptor.place (onLine ++ inFile) kept ∧
      ((∃ c, result = .ok c) ↔ left ≠ "" ∧ right ≠ "" ∧ kept ≠ []) ∧
      (left = "" → result = .error (.emptyDelimiter .left)) ∧
      (left ≠ "" → right = "" → result = .error (.emptyDelimiter .right)) ∧
      (left ≠ "" → right ≠ "" → kept = [] → result = .error .noTemplates) ∧
      ∀ c, result = .ok c →
        c.templates = kept ∧ c.left = left ∧ c.right = right ∧
        c.pollPeriod = (given [inputs.pollPeriod, file.pollPeriod, file.pollTime]).getD ⟨15, 0⟩ ∧
        c.commandTimeout = (given [inputs.commandTimeout, file.commandTimeout]).getD ⟨10, 0⟩ ∧
        c.access.kubeConfig = given [inputs.kubeConfig, file.kubeConfig] ∧
        c.access.master = given [inputs.master, file.master] ∧
        c.access.inCluster = inputs.inCluster ∧ c.dryRun = inputs.dryRun ∧ c.runOnce = inputs.runOnce := by
  intro left right result
  have hresult : result = (merge inputs file).1 := congrArg Prod.fst (load_of_isFound h)
  have hfirst := firstOfEach_collect (.nil Descriptor.place) (listed inputs file)
  rw [List.nil_append, listed_eq] at hfirst
  refine ⟨_, _, _, (lists_iff fun _ _ => toOption_eq_some_iff).mpr rfl,
    (lists_iff FileTemplate.descriptor?_eq_some_iff).mpr rfl, hfirst, ?_⟩
  have hleft : (inputs.left.or file.left).getD Config.initial.left = left := by rw [← given_pair]; rfl
  have hright : (inputs.right.or file.right).getD Config.initial.right = right := by rw [← given_pair]; rfl
  rw [merge, hleft, hright] at hresult
  -- the faults are looked for in the order in which they are told
  by_cases hl : left = ""
  · rw [if_pos (by simp [hl])] at hresult
    simp [hresult, hl]
  by_cases hr : right = ""
  · rw [if_neg (by simp [hl]), if_pos (by simp [hr])] at hresult
    simp [hresult, hl, hr]
  rw [if_neg (by simp [hl]), if_neg (by simp [hr])] at hresult
  dsimp only at hresult
  by_cases hk : (collect [] (listed inputs file)).1 = []
  · rw [if_pos (by simp [hk])] at hresult
    simp [hresult, hl, hr, hk]
  · rw [if_neg (by simp [hk])] at hresult
    have hperiod : Config.initial.pollPeriod = ⟨15, 0⟩ := rfl
    have htimeout : Config.initial.commandTimeout = ⟨10, 0⟩ := rfl
    simp [hresult, hl, hr, hk, given_pair, given_triple, hperiod, htimeout]

/-- A file that repeats a source of the command line in another spelling, an entry without an output, one with a command
and a time, and one with blanks for a command. -/
theorem settings_of_line_and_file :
    let text := "poll-time: 3s\nleft-delimiter: \"[[\"\nright-delimiter: \">>\"\ntemplates:\n" ++
      "- path: a/\n  output: x\n- path: c\n" ++
      "- path: d\n  output: y\n  command: run d\n  command-timeout: 2s\n- path: e\n  output: z\n  command: \" \"\n"
    let v : View := ⟨⟨[(["kubeplate.yaml"], .file 0o644 (Text.Utf8.encode text))]⟩, []⟩
    let inputs : Inputs := ⟨none, false, true, false, none, none, none, none, some "<<", none, ["a:b:run", "c"]⟩
    ∃ c, (load v "/" inputs).1 = .ok c ∧
      c.templates = [⟨"a", "b", some "run", none⟩, ⟨"d", "y", some "run d", some ⟨2, 0⟩⟩, ⟨"e", "z", none, none⟩] ∧
      c.left = "<<" ∧ c.right = ">>" ∧ c.pollPeriod = ⟨3, 0⟩ ∧ c.commandTimeout = ⟨10, 0⟩ := by
  intro text v inputs
  let file : ConfigFile := ⟨none, none, none, some ⟨3, 0⟩, none, some "[[", some ">>",
    [⟨some "a/", some "x", none, none⟩, ⟨some "c", none, none, none⟩, ⟨some "d", some "y", some "run d", some ⟨2, 0⟩⟩,
      ⟨some "e", some "z", some " ", none⟩]⟩
  have hlocate : ConfigFile.locate v "/" none = .ok (some "/kubeplate.yaml") :=
    toOption_eq_some_iff.mp (by decide +kernel)
  have hread : ConfigFile.read v "/kubeplate.yaml" = .ok file := toOption_eq_some_iff.mp (by decide +kernel)
  obtain ⟨onLine, inFile, kept, honLine, hinFile, hfirst, hok, -, -, -, hset⟩ :=
    settings_are_first_given (.read hlocate hread : ConfigFile.IsFound v "/" inputs.configFile file)
  obtain rfl := (lists_iff fun _ _ => toOption_eq_some_iff).mp honLine
  obtain rfl := (lists_iff FileTemplate.descriptor?_eq_some_iff).mp hinFile
  have hkept : FirstOfEach Descriptor.place
      (inputs.templates.filterMap (fun s => (Descriptor.parse s.toList).toOption) ++
        file.templates.filterMap FileTemplate.descriptor?)
      [⟨"a", "b", some "run", none⟩, ⟨"d", "y", some "run d", some ⟨2, 0⟩⟩, ⟨"e", "z", none, none⟩] := by
    constructor <;> decide +kernel
  obtain rfl := hfirst.unique hkept
  obtain ⟨c, hc⟩ := hok.mpr (by decide +kernel)
  obtain ⟨htemplates, hleft, hright, hperiod, htimeout, -⟩ := hset c hc
  exact ⟨c, hc, htemplates, hleft, hright, hperiod, htimeout⟩

end Stencil.Settings
