import Stencil.Proofs.Settings.Line
import Stencil.Proofs.Settings.Merge

set_option autoImplicit false
set_option relaxedAutoImplicit false

/-!
A template that is declared on the command line, or by the only entry of a settings file. Main statement: both lead to
the same settings, unless the source or the output is empty; such a declaration is refused on the command line and taken
in a file.
-/

namespace Stencil.Settings

open Stencil.Filesystem

def Descriptor.ofParts (source output : String) (command : Option String) : Descriptor :=
  ⟨source, output, command.bind fun c => commandOf c.toList, none⟩

variable {source output : String} {command : Option String}

theorem collect_ok (d : Descriptor) : collect [] [.ok d] = ([d], []) := rfl

theorem collect_error (n : Notice) : collect [] [.error n] = ([], [n]) := rfl

theorem listed_entry (inputs : Inputs) (file : ConfigFile) (source output : String) (command : Option String) :
    listed { inputs with templates := [] } { file with templates := [⟨some source, some output, command, none⟩] } =
      [.ok (.ofParts source output command)] :=
  rfl

theorem listed_line (inputs : Inputs) (file : ConfigFile) (hs : ':' ∉ source.toList) (ho : ':' ∉ output.toList) :
    listed { inputs with templates := [Descriptor.line source output command] } { file with templates := [] } =
      [if source = "" ∨ output = "" then .error .unreadableDescriptor else .ok (.ofParts source output command)] := by
  have hparted : Descriptor.IsParted (Descriptor.line source output command) source output command := ⟨rfl, hs, ho⟩
  rw [listed, List.map_nil, List.append_nil, List.map_singleton, hparted.parse_eq]
  by_cases hsource : source = ""
  · rw [if_pos hsource, if_pos (.inl hsource)]
    rfl
  · rw [if_neg hsource]
    by_cases houtput : output = ""
    · rw [if_pos houtput, if_pos (.inr houtput)]
      rfl
    · rw [if_neg houtput, if_neg (not_or.mpr ⟨hsource, houtput⟩)]
      rfl

/-- A template is declared by a line of the command line, or by the only entry of a settings file, and all else is given
alike. The entry is always taken, whatever its parts are. The line is refused where source or output is empty, and
otherwise leads to the same settings. An empty delimiter is told in both cases. -/
theorem empty_parts_are_taken_from_file_only {v w : View} {directory : String} {inputs : Inputs} {file : ConfigFile}
    (hs : ':' ∉ source.toList) (ho : ':' ∉ output.toList)
    (hv : ConfigFile.IsFound v directory inputs.configFile { file with templates := [] })
    (hw : ConfigFile.IsFound w directory inputs.configFile
      { file with templates := [⟨some source, some output, command, none⟩] }) :
    let left := (given [inputs.left, file.left]).getD Config.initial.left
    let right := (given [inputs.right, file.right]).getD Config.initial.right
    let onLine := (load v directory { inputs with templates := [Descriptor.line source output command] }).1
    let inFile := (load w directory { inputs with templates := [] }).1
    (left = "" ∨ right = "" →
        ∃ side, onLine = .error (.emptyDelimiter side) ∧ inFile = .error (.emptyDelimiter side)) ∧
      (left ≠ "" → right ≠ "" →
        ∃ c, inFile = .ok c ∧ c.templates = [.ofParts source output command] ∧
          onLine = if source = "" ∨ output = "" then .error .noTemplates else .ok c) := by
  intro left right onLine inFile
  have hline : onLine = (merge { inputs with templates := [Descriptor.line source output command] }
      { file with templates := [] }).1 := congrArg Prod.fst (load_of_isFound hv)
  have hfile : inFile = (merge { inputs with templates := [] }
      { file with templates := [⟨some source, some output, command, none⟩] }).1 :=
    congrArg Prod.fst (load_of_isFound hw)
  have hleft : (inputs.left.or file.left).getD Config.initial.left = left := by rw [← given_pair]
  have hright : (inputs.right.or file.right).getD Config.initial.right = right := by rw [← given_pair]
  rw [merge, listed_line inputs file hs ho] at hline
  rw [merge, listed_entry, collect_ok] at hfile
  dsimp only at hline hfile
  rw [hleft, hright] at hline hfile
  by_cases hl : left = ""
  · rw [if_pos (by simp [hl])] at hline hfile
    exact ⟨fun _ => ⟨.left, hline, hfile⟩, fun hne => absurd hl hne⟩
  rw [if_neg (by simp [hl])] at hline hfile
  by_cases hr : right = ""
  · rw [if_pos (by simp [hr])] at hline hfile
    exact ⟨fun _ => ⟨.right, hline, hfile⟩, fun _ hne => absurd hr hne⟩
  rw [if_neg (by simp [hr])] at hline hfile
  refine ⟨fun hempty => (hempty.elim hl hr).elim, fun _ _ => ⟨_, hfile, rfl, ?_⟩⟩
  rw [hline]
  by_cases hparts : source = "" ∨ output = ""
  · rw [if_pos hparts, if_pos hparts, collect_error]
    rfl
  · rw [if_neg hparts, if_neg hparts, collect_ok]
    rfl

/-- An entry with an empty source and a command that holds a colon, and the line of the same parts. -/
theorem empty_source_is_taken_from_file :
    let text := "templates:\n- path: \"\"\n  output: o\n  command: x:y\n"
    let w : View := ⟨⟨[(["kubeplate.yaml"], .file 0o644 (Text.Utf8.encode text))]⟩, []⟩
    let inputs (templates : List String) : Inputs :=
      ⟨none, false, false, false, none, none, none, none, none, none, templates⟩
    (load ⟨⟨[]⟩, []⟩ "/" (inputs [":o:x:y"])).1 = .error .noTemplates ∧
      ∃ c, (load w "/" (inputs [])).1 = .ok c ∧ c.templates = [⟨"", "o", some "x:y", none⟩] := by
  intro text w inputs
  let entry : FileTemplate := ⟨some "", some "o", some "x:y", none⟩
  have habsent : ConfigFile.locate ⟨⟨[]⟩, []⟩ "/" none = .ok none := toOption_eq_some_iff.mp (by decide +kernel)
  have hlocate : ConfigFile.locate w "/" none = .ok (some "/kubeplate.yaml") := toOption_eq_some_iff.mp (by decide +kernel)
  have hread : ConfigFile.read w "/kubeplate.yaml" = .ok { ConfigFile.empty with templates := [entry] } :=
    toOption_eq_some_iff.mp (by decide +kernel)
  have hv : ConfigFile.IsFound ⟨⟨[]⟩, []⟩ "/" (inputs []).configFile { ConfigFile.empty with templates := [] } :=
    .absent habsent
  have hw : ConfigFile.IsFound w "/" (inputs []).configFile { ConfigFile.empty with templates := [entry] } :=
    .read hlocate hread
  have hsource : ':' ∉ ("" : String).toList := by decide
  have houtput : ':' ∉ ("o" : String).toList := by decide
  obtain ⟨-, htaken⟩ := empty_parts_are_taken_from_file_only hsource houtput hv hw
  obtain ⟨c, hc, htemplates, hline⟩ := htaken (by decide) (by decide)
  exact ⟨hline, c, hc, htemplates⟩

/-- What a line is refused for, an entry is taken with. -/
theorem line_and_entry_need_not_agree :
    let text := "templates:\n- path: a\n  output: \"\"\n"
    let w : View := ⟨⟨[(["kubeplate.yaml"], .file 0o644 (Text.Utf8.encode text))]⟩, []⟩
    let inputs (templates : List String) : Inputs :=
      ⟨none, false, false, false, none, none, none, none, none, none, templates⟩
    (load ⟨⟨[]⟩, []⟩ "/" (inputs ["a:"])).1 = .error .noTemplates ∧
      (load w "/" (inputs [])).1.toOption.map Config.templates = some [⟨"a", "", none, none⟩] := by
  intro text w inputs
  exact ⟨by decide +kernel, by decide +kernel⟩

end Stencil.Settings
