import Mathlib.Data.List.Induction
import Stencil.Filesystem.Access
import Stencil.Proofs.Text.Utf8
import Stencil.Shell.Interpreter

set_option autoImplicit false
set_option relaxedAutoImplicit false

/-!
A path as a shell command. Main statement: a path from the root that holds no blanks, quotes or other characters with a
meaning is read as one command of one word, the word stands for the path, and the program that it names is looked for
at the path.
-/

namespace Stencil.Shell

open Stencil.Filesystem Stencil.Text

/-- The characters that end a word, and those that a shell does not take as they are inside one. -/
def special : Octets :=
  [' ', '\t', '\n', ';', '&', '|', '<', '>', '(', ')', '\'', '"', '\\', '$', '\x60', '*', '?', '[']

/-- A text that is one word to a shell: no blanks, quotes or other characters with a meaning. -/
structure IsWord (s : String) : Prop where
  ne_empty : s ≠ ""
  plain : ∀ c ∈ s.toList, c ∉ special

instance (s : String) : Decidable (IsWord s) :=
  decidable_of_iff (s ≠ "" ∧ s.toList.all (· ∉ special))
    ⟨fun h => ⟨h.1, by simpa using h.2⟩, fun h => ⟨h.1, by simpa using h.2⟩⟩

/-- What a shell makes of a text that names a program: one command of one word, the word stands for the text, and the
program is looked for at the text as a path. -/
structure RunsPath (path : String) : Prop where
  parse_eq : ∀ fresh, parse fresh (octets path) = ([.simple 1 [] [(octets path).map .plain] []], [], fresh)
  fields_eq : ∀ substitute, Expansion.fields substitute ((octets path).map .plain) = pure [octets path]
  locate_eq : ∀ v directories, Executable.locate v directories (octets path) = some path

section Octets

variable {s : String}

theorem toNat_char (b : UInt8) : (Char.ofNat b.toNat).toNat = b.toNat := by
  have hb : b.toNat < 256 := UInt8.toNat_lt b
  rw [Char.ofNat, dif_pos (.inl (by omega))]
  rfl

theorem bytesOf_octets (s : String) : bytesOf (octets s) = Utf8.encode s := by
  rw [bytesOf, octets, List.map_map]
  simp only [Function.comp_def, toNat_char, UInt8.ofNat_toNat, List.map_id']

theorem textOf_octets (s : String) : textOf (octets s) = s := by
  rw [textOf, bytesOf_octets, Utf8.decodeLossy_encode]

theorem mem_of_mem_octets {c : Char} (h : c ∈ octets s) (hc : c.toNat < 0x80) : c ∈ s.toList := by
  rw [octets, Utf8.encode_eq_flatMap] at h
  obtain ⟨b, hb, rfl⟩ := List.mem_map.mp h
  obtain ⟨d, hd, hbd⟩ := List.mem_flatMap.mp hb
  rw [toNat_char] at hc
  have hsame : d = Char.ofNat b.toNat := by
    rw [← Utf8.toNat_of_mem_utf8EncodeChar hbd hc, Char.ofNat_toNat]
  exact hsame ▸ hd

theorem IsWord.octets_plain (h : IsWord s) : ∀ c ∈ octets s, c ∉ special := by
  have hsmall : special.all (·.toNat < 0x80) := by decide
  intro c hc hspecial
  have hascii : c.toNat < 0x80 := by simpa using List.all_eq_true.mp hsmall c hspecial
  exact h.plain c (mem_of_mem_octets hc hascii) hspecial

theorem octets_of_isAbsolute (h : Path.isAbsolute s = true) : ∃ r, octets s = '/' :: r := by
  rw [Path.isAbsolute, beq_iff_eq, List.head?_eq_some_iff] at h
  obtain ⟨t, ht⟩ := h
  rw [octets, Utf8.encode_eq_flatMap, ht, List.flatMap_cons, List.map_append]
  exact ⟨_, rfl⟩

theorem length_octets (s : String) : (octets s).length = s.utf8ByteSize := by
  rw [octets, List.length_map, Utf8.length_encode]

end Octets

/-! ### Reading -/

def Source.before (s : Source) (w : Octets) : Source := { s with rest := w }

namespace Parser

theorem bind_eq {α β : Type} (m : Parser α) (f : α → Parser β) (s : Source) :
    (m >>= f) s = match m s with
      | .ok (a, s') => f a s'
      | .error e => .error e := by
  change (m s >>= fun p => f p.1 p.2) = _
  cases m s <;> rfl

theorem bind_run {α β : Type} {m : Parser α} {f : α → Parser β} {s s' : Source} {a : α} (h : m s = .ok (a, s')) :
    (m >>= f) s = f a s' := by
  rw [bind_eq, h]

theorem get_run (s : Source) : (get : Parser Source) s = .ok (s, s) := rfl

theorem rest_run (s : Source) : rest s = .ok (s.rest, s) := rfl

theorem drop_run (n : Nat) (s : Source) : drop n s = .ok ((), { s with rest := s.rest.drop n }) := rfl

theorem sees_run (t : String) (s : Source) : sees t s = .ok (t.toList.isPrefixOf s.rest, s) := rfl

theorem accept_run_of_not {t : String} {s : Source} (h : t.toList.isPrefixOf s.rest = false) :
    accept t s = .ok (false, s) := by
  rw [accept, bind_run (sees_run t s), h]
  rfl

section AtEnd

variable (s : Source) (n : Nat)

theorem skipBlanks_atEnd : skipBlanks (s.before []) = .ok ((), s.before []) := rfl

theorem skipLines_atEnd : skipLines (n + 1) (s.before []) = .ok ((), s.before []) := by
  rw [skipLines, bind_run (skipBlanks_atEnd s), bind_run (sees_run _ _)]
  rfl

theorem redirection_atEnd : redirection (n + 1) (s.before []) = .ok (none, s.before []) := by
  rw [redirection, bind_run (rest_run _)]
  rfl

theorem word_atEnd : word (n + 1) (s.before []) = .ok ([], s.before []) := by
  rw [word, bind_run (rest_run _)]
  rfl

theorem simple_atEnd (start : Nat) (w : Word) :
    simple (n + 2) start [] [w] [] (s.before []) = .ok (.simple start [] [w] [], s.before []) := by
  rw [simple, bind_run (skipBlanks_atEnd s), bind_run (redirection_atEnd s n)]
  dsimp only
  rw [bind_run (word_atEnd s n)]
  rfl

theorem pipeParts_atEnd : pipeParts (n + 1) (s.before []) = .ok ([], s.before []) := by
  rw [pipeParts, bind_run (skipBlanks_atEnd s), bind_run (sees_run _ _), bind_run (sees_run _ _)]
  rfl

theorem chain_atEnd (c : Command) : chain (n + 1) c (s.before []) = .ok (c, s.before []) := by
  rw [chain, bind_run (skipBlanks_atEnd s), bind_run (accept_run_of_not rfl)]
  rw [if_neg Bool.false_ne_true, bind_run (accept_run_of_not rfl)]
  rfl

theorem nextLine_atEnd : nextLine (n + 1) (s.before []) = .ok (none, s.before []) := by
  rw [nextLine, bind_run (skipLines_atEnd s n), bind_run (rest_run _)]
  rfl

end AtEnd

section Slash

variable (s : Source) (n : Nat) (r : Octets)

theorem not_reserved (t : Octets) : reservedWords.contains (String.ofList ('/' :: t)) = false := by
  have hhead : ∀ w ∈ reservedWords, w.toList.head? ≠ some '/' := by decide
  rw [← Bool.not_eq_true, List.contains_iff_mem]
  intro hmem
  exact hhead _ hmem (by simp)

theorem skipBlanks_slash : skipBlanks (s.before ('/' :: r)) = .ok ((), s.before ('/' :: r)) := rfl

theorem skipLines_slash : skipLines (n + 1) (s.before ('/' :: r)) = .ok ((), s.before ('/' :: r)) := by
  rw [skipLines, bind_run (skipBlanks_slash s r), bind_run (sees_run _ _)]
  rfl

theorem redirection_slash : redirection (n + 1) (s.before ('/' :: r)) = .ok (none, s.before ('/' :: r)) := by
  rw [redirection, bind_run (rest_run _)]
  rfl

theorem reserved_slash : reserved (s.before ('/' :: r)) = .ok (none, s.before ('/' :: r)) := by
  rw [reserved, bind_run (rest_run _)]
  change (pure (if _ && reservedWords.contains (String.ofList ('/' :: r.takeWhile _)) then _ else none) : Parser _) _ = _
  rw [not_reserved, Bool.and_false, if_neg Bool.false_ne_true]
  rfl

theorem isBreak_of_notMem_special {c : Char} (hc : c ∉ special) : isBreak c = false := by
  simp only [special, List.mem_cons, List.not_mem_nil, or_false, not_or] at hc
  simp [isBreak, isBlank, hc]

theorem word_cons {c : Char} (hc : c ∉ special) (w : Octets) (s : Source) (n : Nat) :
    word (n + 1) (s.before (c :: w)) = (do drop 1; pure (Piece.plain c :: (← word n))) (s.before (c :: w)) := by
  rw [word, bind_run (rest_run _)]
  refine congrFun ?_ _
  dsimp only [Source.before]
  -- the readers of quotes, dollars, backquotes and backslashes are for characters with a meaning
  split
  · simp_all
  · simp_all [special]
  · simp_all [special]
  · simp_all [special]
  · simp_all [special]
  · simp_all [special]
  · simp_all [special]
  · next h =>
    cases h
    rw [isBreak_of_notMem_special hc, if_neg Bool.false_ne_true]

theorem word_plain {w : Octets} (hw : ∀ c ∈ w, c ∉ special) (s : Source) {n : Nat} (hn : w.length < n) :
    word n (s.before w) = .ok (w.map .plain, s.before []) := by
  induction w generalizing n with
  | nil =>
    obtain ⟨n, rfl⟩ : ∃ k, n = k + 1 := ⟨n - 1, by omega⟩
    exact word_atEnd s n
  | cons c w ih =>
    obtain ⟨n, rfl⟩ : ∃ k, n = k + 1 := ⟨n - 1, by omega⟩
    obtain ⟨hc, hw⟩ := List.forall_mem_cons.mp hw
    have htail := ih hw (n := n) (by simpa using hn)
    rw [word_cons hc, bind_run (drop_run 1 _)]
    exact bind_run htail

theorem literal_plain (w : Octets) : literal (w.map .plain) = (w, false) := by
  induction w using List.reverseRecOn with
  | nil => rfl
  | append_singleton w c ih =>
    rw [List.map_append, literal, List.foldl_append, ← literal, ih]
    rfl

theorem assignment?_slash : assignment? (('/' :: r).map .plain) = none := by
  rw [assignment?]
  split
  · rw [List.takeWhile_map, List.takeWhile_cons_of_pos rfl, literal_plain]
    rfl
  · rfl

theorem simple_slash (hr : ∀ c ∈ r, c ∉ special) (start : Nat) (hn : r.length + 3 < n) :
    simple n start [] [] [] (s.before ('/' :: r)) =
      .ok (.simple start [] [('/' :: r).map .plain] [], s.before []) := by
  obtain ⟨n, rfl⟩ : ∃ k, n = k + 3 := ⟨n - 3, by omega⟩
  have hw : ∀ c ∈ '/' :: r, c ∉ special := List.forall_mem_cons.mpr ⟨by decide, hr⟩
  have hword := word_plain hw s (n := n + 2) (by simp only [List.length_cons]; omega)
  rw [simple, bind_run (skipBlanks_slash s r), bind_run (redirection_slash s (n + 1) r)]
  dsimp only
  rw [bind_run hword]
  have hname : isName (literal (('/' :: r).map .plain)).1 = false := by
    rw [literal_plain]
    rfl
  rw [if_neg (by simp), List.isEmpty_nil, if_pos rfl, assignment?_slash]
  dsimp only
  rw [hname, Bool.and_false, if_neg Bool.false_ne_true]
  exact simple_atEnd s n start _

theorem command_slash (hr : ∀ c ∈ r, c ∉ special) (hn : r.length + 4 < n) :
    command n (s.before ('/' :: r)) =
      .ok (.simple (s.before ('/' :: r)).line [] [('/' :: r).map .plain] [], s.before []) := by
  obtain ⟨n, rfl⟩ : ∃ k, n = k + 1 := ⟨n - 1, by omega⟩
  rw [command, bind_run (skipBlanks_slash s r), bind_run (accept_run_of_not rfl), if_neg Bool.false_ne_true,
    bind_run (reserved_slash s r)]
  dsimp only
  rw [bind_run (get_run _), bind_run (simple_slash s n r hr _ (by omega))]
  rfl

theorem pipeline_slash (hr : ∀ c ∈ r, c ∉ special) (hn : r.length + 5 < n) :
    pipeline n (s.before ('/' :: r)) =
      .ok (.simple (s.before ('/' :: r)).line [] [('/' :: r).map .plain] [], s.before []) := by
  obtain ⟨n, rfl⟩ : ∃ k, n = k + 2 := ⟨n - 2, by omega⟩
  rw [pipeline, bind_run (skipBlanks_slash s r), bind_run (reserved_slash s r)]
  rw [if_neg (by decide), bind_run (command_slash s (n + 1) r hr (by omega)), bind_run (pipeParts_atEnd s n)]
  rfl

theorem line_slash (hr : ∀ c ∈ r, c ∉ special) (hn : r.length + 6 < n) :
    line n false false (s.before ('/' :: r)) =
      .ok (.simple (s.before ('/' :: r)).line [] [('/' :: r).map .plain] [], s.before []) := by
  obtain ⟨n, rfl⟩ : ∃ k, n = k + 2 := ⟨n - 2, by omega⟩
  rw [line, bind_run (skipBlanks_slash s r), bind_run (rest_run _), bind_run (reserved_slash s r)]
  rw [if_neg (by simp [Source.before]), bind_run (pipeline_slash s (n + 1) r hr (by omega)),
    bind_run (chain_atEnd s n _), bind_run (skipBlanks_atEnd s), bind_run (sees_run _ _), bind_run (sees_run _ _)]
  rw [if_neg (by simp [Source.before]), bind_run (accept_run_of_not rfl)]
  rfl

theorem nextLine_slash (hr : ∀ c ∈ r, c ∉ special) (hn : r.length + 6 < n) :
    nextLine n (s.before ('/' :: r)) =
      .ok (some (.simple (s.before ('/' :: r)).line [] [('/' :: r).map .plain] []), s.before []) := by
  obtain ⟨n, rfl⟩ : ∃ k, n = k + 1 := ⟨n - 1, by omega⟩
  rw [nextLine, bind_run (skipLines_slash s n r), bind_run (rest_run _)]
  rw [if_neg (by simp [Source.before]), bind_run (line_slash s (n + 1) r hr hn), bind_run (skipBlanks_atEnd s),
    bind_run (rest_run _)]
  rfl

end Slash

end Parser

theorem parse_slash {r : Octets} (hr : ∀ c ∈ r, c ∉ special) (fresh : Nat) :
    parse fresh ('/' :: r) = ([.simple 1 [] [('/' :: r).map .plain] []], [], fresh) := by
  have hends : lineEnds ('/' :: r) = 0 := by
    rw [lineEnds, List.count_eq_zero]
    intro hmem
    rcases List.mem_cons.mp hmem with heq | hmem
    · cases heq
    · exact hr _ hmem (by decide)
  let s : Source := ⟨'/' :: r, 1, lineEnds ('/' :: r), [], [], fresh⟩
  have hline : s.line = 1 := by
    simp [Source.line, s, hends]
  have hfirst := Parser.nextLine_slash s (4 * ('/' :: r).length + 64) r hr (by simp only [List.length_cons]; omega)
  have hlines : Parser.lines (4 * ('/' :: r).length + 64) (('/' :: r).length + 1) s =
      ([.simple 1 [] [('/' :: r).map .plain] []], s.before []) := by
    rw [Parser.lines, StateT.run, show s = s.before ('/' :: r) from rfl, hfirst, List.length_cons]
    dsimp only
    rw [Parser.lines, StateT.run, Parser.nextLine_atEnd s (4 * (r.length + 1) + 63)]
    rw [show (s.before ('/' :: r)).line = 1 from hline]
    rfl
  rw [parse, hlines]
  rfl

/-! ### Expansion -/

namespace Expansion

theorem pieces_plain (substitute : Command → Action Octets) {w : Octets} {n : Nat} (hn : w.length < n) :
    pieces substitute n (w.map .plain) = pure (marks w false false) := by
  induction w generalizing n with
  | nil =>
    obtain ⟨n, rfl⟩ : ∃ k, n = k + 1 := ⟨n - 1, by omega⟩
    rfl
  | cons c w ih =>
    obtain ⟨n, rfl⟩ : ∃ k, n = k + 1 := ⟨n - 1, by omega⟩
    have htail := ih (n := n) (by simpa using hn)
    rw [List.map_cons, pieces, htail]
    rfl

theorem characters_marks (w : Octets) (quoted splits : Bool) : characters (marks w quoted splits) = w := by
  rw [characters, marks, List.filterMap_map]
  exact List.filterMap_some

theorem patternOf_marks (w : Octets) (quoted splits : Bool) :
    patternOf (marks w quoted splits) = w.map fun c => (c, quoted) := by
  rw [patternOf, marks, List.filterMap_map]
  exact congrFun List.filterMap_eq_map w

theorem foldl_next_marks (ifs w : Octets) (current : List Mark) :
    (marks w false false).foldl (Splitting.next ifs) ⟨[], current, true, false⟩ =
      ⟨[], (marks w false false).reverse ++ current, true, false⟩ := by
  induction w generalizing current with
  | nil => rfl
  | cons c w ih =>
    rw [marks, List.map_cons, List.foldl_cons, ← marks]
    refine (ih _).trans ?_
    simp

theorem split_marks (ifs : Octets) (c : Char) (w : Octets) :
    split ifs (marks (c :: w) false false) = [marks (c :: w) false false] := by
  have hvoid : (marks (c :: w) false false).contains .void = false := by
    simp [marks]
  have hfold : (marks (c :: w) false false).foldl (Splitting.next ifs) ⟨[], [], false, false⟩ =
      ⟨[], (marks w false false).reverse ++ [.char c false false], true, false⟩ :=
    foldl_next_marks ifs w [.char c false false]
  rw [split, hvoid, if_neg Bool.false_ne_true, hfold]
  simp [Splitting.closed, marks]

theorem paths_plain {w : Octets} (hw : ∀ c ∈ w, c ∉ special) : paths (marks w false false) = pure [w] := by
  have hclosed : Pattern.isOpen (w.map fun c => (c, false)) = false := by
    rw [Pattern.isOpen, List.any_eq_false]
    intro p hp
    obtain ⟨c, hc, rfl⟩ := List.mem_map.mp hp
    have hplain := hw c hc
    simp [special] at hplain
    simp [hplain]
  funext s k
  change (if s.keepsPatterns || !Pattern.isOpen (patternOf (marks w false false)) then _ else _ : Action _) s k = _
  rw [patternOf_marks, hclosed, Bool.not_false, Bool.or_true, if_pos rfl, characters_marks]

theorem fields_slash (substitute : Command → Action Octets) {r : Octets} (hr : ∀ c ∈ r, c ∉ special)
    (hlength : r.length + 1 < depth) : fields substitute (('/' :: r).map .plain) = pure ['/' :: r] := by
  have hw : ∀ c ∈ '/' :: r, c ∉ special := List.forall_mem_cons.mpr ⟨by decide, hr⟩
  funext s k
  change (pieces substitute depth (('/' :: r).map .plain) >>= fun ms => _) s k = _
  rw [pieces_plain substitute (by simpa using hlength)]
  change ((split (separators s) (marks ('/' :: r) false false)).mapM paths >>= fun found => pure found.flatten) s k = _
  rw [split_marks]
  change ((paths (marks ('/' :: r) false false) >>= fun found => pure [found]) >>= _) s k = _
  rw [paths_plain hw]
  rfl

end Expansion

theorem runsPath_of_isWord {path : String} (h : IsWord path) (habsolute : Path.isAbsolute path = true)
    (hshort : path.utf8ByteSize < pathLimit) : RunsPath path := by
  obtain ⟨r, hr⟩ := octets_of_isAbsolute habsolute
  have hplain : ∀ c ∈ r, c ∉ special := fun c hc => h.octets_plain c (hr ▸ List.mem_cons_of_mem _ hc)
  have hlength := length_octets path
  rw [hr, List.length_cons] at hlength
  refine ⟨fun fresh => ?_, fun substitute => ?_, fun v directories => ?_⟩
  · rw [hr]
    exact parse_slash hplain fresh
  · rw [hr]
    refine Expansion.fields_slash substitute hplain ?_
    rw [hlength, Expansion.depth]
    rw [pathLimit] at hshort
    omega
  · have hslash : (octets path).contains '/' = true := by simp [hr]
    rw [Executable.locate, if_pos hslash, textOf_octets]

end Stencil.Shell
