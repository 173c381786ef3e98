import PathQuery.Proofs.CommandLine.Output
import PathQuery.Proofs.Text.Utf8
import PathQuery.Proofs.Toml.Lines

/-!
The settings that runs of the program keep in a file. What one run saves is what the
next one starts with, so that the arguments of a run that saves act on later runs as if
these had been given them, too.
-/
namespace PathQuery

namespace Settings

variable {s : Settings}

def lines (s : Settings) (h : s.depthLimit < 2 ^ 63) : List Toml.Line := [
  ⟨"output_format", '"' :: (s.outputFormat.name.toList ++ ['"']), .string s.outputFormat.name, rfl,
    Toml.reads_quoted (by cases s.outputFormat <;> rfl)⟩,
  ⟨"input_format", '"' :: (s.inputFormat.name.toList ++ ['"']), .string s.inputFormat.name, rfl,
    Toml.reads_quoted (by cases s.inputFormat <;> rfl)⟩,
  ⟨"unique", (boolText s.unique).toList, .bool s.unique, rfl, Toml.reads_bool _⟩,
  ⟨"show_paths", (boolText s.showPaths).toList, .bool s.showPaths, rfl, Toml.reads_bool _⟩,
  ⟨"max_depth", Nat.toDigits 10 s.depthLimit, .integer s.depthLimit, rfl, Toml.reads_nat h⟩,
  ⟨"verbose", (boolText s.verbose).toList, .bool s.verbose, rfl, Toml.reads_bool _⟩]

theorem text?_eq_lines (h : s.depthLimit < 2 ^ 63) :
    s.text? = some (String.ofList ((s.lines h).flatMap Toml.Line.text)) := by
  have plain (text : String) : toString text = text := rfl
  rw [text?, if_pos h]
  refine congrArg some (String.toList_injective ?_)
  simp [lines, Toml.Line.text, plain]

theorem ofEntries?_lines (h : s.depthLimit < 2 ^ 63) :
    ofEntries? ((s.lines h).map Toml.Line.entry) = some s := by
  have output : OutputFormat.ofName? s.outputFormat.name = some s.outputFormat := by
    cases s.outputFormat <;> decide
  have input : InputFormat.ofName? s.inputFormat.name = some s.inputFormat := by
    cases s.inputFormat <;> decide
  simp [ofEntries?, field, lines, Toml.Line.entry, List.lookup_cons, namedItem?, boolItem?,
    natItem?, output, input]

theorem load_encode {text : String} (h : s.text? = some text) :
    load (some (Utf8.encode text)) = s := by
  have small : s.depthLimit < 2 ^ 63 := by
    by_contra large
    rw [text?, if_neg large] at h
    cases h
  obtain rfl := Option.some.inj ((text?_eq_lines small).symm.trans h)
  have entries : Toml.read (String.ofList ((s.lines small).flatMap Toml.Line.text)) =
      some ((s.lines small).map Toml.Line.entry) := Toml.read_lines (by simp [lines])
  simp only [load, ofBytes?, read?, Utf8.decode_encode, Except.toOption, Option.bind_some, entries,
    ofEntries?_lines, Option.getD_some]

end Settings

namespace CommandLine

variable {args : List String} {a b kept : Arguments} {s : Settings} {w w' : Surroundings}

section Override

/-- The arguments of a run on top of those of another one. Values given now count, and what was
switched on stays so. -/
def Arguments.overriddenBy (a b : Arguments) : Arguments where
  query := b.query
  json := b.json
  yaml := b.yaml
  file := b.file
  format := b.format.or a.format
  output := b.output.or a.output
  depthLimit := b.depthLimit.or a.depthLimit
  unique := a.unique || b.unique
  paths := a.paths || b.paths
  verbose := a.verbose || b.verbose
  save := b.save

theorem effectiveSettings_overriddenBy (held : .load w'.settings = effectiveSettings a w)
    (b : Arguments) : effectiveSettings b w' = effectiveSettings (a.overriddenBy b) w := by
  simp only [effectiveSettings, Arguments.overriddenBy, held, Option.getD_or, Bool.or_assoc]

theorem effectiveSettings_repeated (held : .load w'.settings = effectiveSettings a w) :
    effectiveSettings a w' = effectiveSettings a w := by
  have again {α : Type} (given : Option α) (value : α) :
      given.getD (given.getD value) = given.getD value := by
    rw [← Option.getD_or, Option.or_self]
  simp only [effectiveSettings, held, again, Bool.or_assoc, Bool.or_self]

end Override

section Runs

structure Saves (args : List String) (w : Surroundings) (a : Arguments) : Prop where
  asked : Request.read args = some (.run a)
  saving : a.save = true
  code : (run args w).code = 0

theorem save_persists (s : Settings) (w : Surroundings) :
    if s.depthLimit < 2 ^ 63 then (save s w).code = 0 ∧ .load (save s w).settings = s
    else (save s w).code ≠ 0 ∧ (save s w).settings = w.settings := by
  split
  · next small =>
    have text := Settings.text?_eq_lines small
    rw [save, text]
    exact ⟨rfl, Settings.load_encode text⟩
  · next large =>
    have text : s.text? = none := if_neg large
    rw [save, text]
    exact ⟨Nat.one_ne_zero, rfl⟩

theorem Saves.load_settings (h : Saves args w a) :
    .load (run args w).settings = effectiveSettings a w := by
  have persists := save_persists (effectiveSettings a w) w
  have code := h.code
  rw [run_of_save h.asked h.saving] at code ⊢
  split at persists
  · exact persists.2
  · exact absurd code persists.1

theorem settings_of_not_saves (h : ∀ a, ¬Saves args w a) : (run args w).settings = w.settings := by
  cases run_course args w with
  | fails _ _ settings => exact settings
  | shows _ _ settings => exact settings
  | saves a asked saving code _ => exact absurd ⟨asked, saving, code⟩ (h a)
  | answers _ _ _ _ _ settings => exact settings

/-- Runs one after another, the first of which saves its settings. The file that keeps them is what
the run before left; whatever else a run reads may have changed. `kept` are the arguments of the runs
that saved, the later ones on top of the earlier. -/
inductive Kept (w : Surroundings) : Arguments → Surroundings → Prop
  | first {args : List String} {a : Arguments} {w' : Surroundings} (h : Saves args w a)
      (left : w'.settings = (run args w).settings) : Kept w a w'
  | again {args : List String} {a kept : Arguments} {w₁ w' : Surroundings} (before : Kept w kept w₁)
      (h : Saves args w₁ a) (left : w'.settings = (run args w₁).settings) :
      Kept w (kept.overriddenBy a) w'
  | other {args : List String} {kept : Arguments} {w₁ w' : Surroundings} (before : Kept w kept w₁)
      (h : ∀ a, ¬Saves args w₁ a) (left : w'.settings = (run args w₁).settings) : Kept w kept w'

theorem Kept.load_settings (h : Kept w kept w') :
    .load w'.settings = effectiveSettings kept w := by
  induction h with
  | first saves left => rw [left, saves.load_settings]
  | again before saves left ih =>
    rw [left, saves.load_settings, effectiveSettings_overriddenBy ih]
  | other before silent left ih => rw [left, settings_of_not_saves silent, ih]

theorem Saves.again (h : Saves args w a) (left : w'.settings = (run args w).settings) :
    Saves args w' a ∧ (run args w').settings = w'.settings := by
  have same : effectiveSettings a w' = effectiveSettings a w :=
    effectiveSettings_repeated (left ▸ h.load_settings)
  have code := h.code
  rw [run_of_save h.asked h.saving] at code left
  have repeated : run args w' = save (effectiveSettings a w) w' := by
    rw [run_of_save h.asked h.saving, same]
  unfold save at code left repeated
  split at repeated
  · next text found =>
    rw [found] at left
    exact ⟨⟨h.asked, h.saving, by rw [repeated]⟩, by rw [repeated, left]⟩
  · next none =>
    rw [none] at code
    cases code

end Runs

/-- Settings persist exactly. Saving settings leaves a file that gives them back, whatever the file
held, unless the limit of depth is too large; then saving fails and the file stays as it was. Behind
runs of which some saved, a run goes by the settings that it would have had at first with the saved
arguments below its own. Saving with the same arguments once more leaves the file as it is. -/
theorem settings_persist :
    (∀ (s : Settings) (w : Surroundings),
      if s.depthLimit < 2 ^ 63 then (save s w).code = 0 ∧ .load (save s w).settings = s
      else (save s w).code ≠ 0 ∧ (save s w).settings = w.settings) ∧
    (∀ w kept w', Kept w kept w' → ∀ args b, Request.read args = some (.run b) →
      run args w' =
        (if b.save then save (effectiveSettings (kept.overriddenBy b) w) w'
        else query b (effectiveSettings (kept.overriddenBy b) w) w')) ∧
    ∀ args w a, Saves args w a → ∀ w', w'.settings = (run args w).settings →
      Saves args w' a ∧ (run args w').settings = w'.settings := by
  refine ⟨save_persists, fun w kept w' runs args b asked => ?_, fun _ _ _ saves _ => saves.again⟩
  have settings := effectiveSettings_overriddenBy runs.load_settings b
  split
  · next saving => rw [run_of_save asked saving, settings]
  · next querying => rw [run_of_query asked (Bool.not_eq_true _ ▸ querying), settings]

theorem settings_persist_listed :
    let saving := ["-u", "-fyaml", "-oyaml", "--max-depth", "8", "--save-config"]
    let asking := ["-p", "-ojson", "-q", "**.**"]
    let left : Surroundings := { Surroundings.listed with
      settings := (run saving .listed).settings, file := fun _ => some [] }
    run asking left =
        query { Arguments.none with output := some .json, query := some "**.**", paths := true }
          ⟨.json, .yaml, true, true, 8, false⟩ left ∧
      (run asking left).output =
        "(root)\t[null,\x7b\"a\":\"x\"\x7d]\n0\tnull\n1\t\x7b\"a\":\"x\"\x7d\n1.\"a\"\t\"x\"\n" ∧
      (run saving left).settings = left.settings := by
  intro saving asking left
  let a : Arguments := { Arguments.none with
    unique := true, format := some .yaml, output := some .yaml, depthLimit := some 8, save := true }
  let b : Arguments := { Arguments.none with
    output := some .json, query := some "**.**", paths := true }
  have saves : Saves saving .listed a :=
    ⟨by decide +kernel, rfl, by decide +kernel⟩
  have asked : Request.read asking = some (.run b) := by decide +kernel
  have settings : effectiveSettings (a.overriddenBy b) .listed =
      ⟨.json, .yaml, true, true, 8, false⟩ := by
    decide +kernel
  obtain ⟨-, later, repeated⟩ := settings_persist
  have run := later .listed a left (.first saves rfl) _ _ asked
  rw [settings] at run
  refine ⟨run, ?_, (repeated saving .listed a saves left rfl).2⟩
  rw [run]
  decide +kernel

end CommandLine

end PathQuery
