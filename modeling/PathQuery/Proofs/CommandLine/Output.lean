import PathQuery.CommandLine

/-!
What a run of the program writes. A run that fails writes nothing, wherever it
fails, and one that answers a query writes a block for each result, in order.
Only saving the settings changes the file that keeps them.
-/
namespace PathQuery.CommandLine

/-- The settings of a run. A value among the arguments stands before the one in the file, and a switch
is on if the file or an argument turns it on. -/
def effectiveSettings (a : Arguments) (w : Surroundings) : Settings :=
  let kept := Settings.load w.settings
  { outputFormat := a.output.getD kept.outputFormat
    inputFormat := a.format.getD kept.inputFormat
    unique := kept.unique || a.unique
    showPaths := kept.showPaths || a.paths
    depthLimit := a.depthLimit.getD kept.depthLimit
    verbose := kept.verbose || a.verbose }

/-- What is loaded: the file that the arguments name, in the format that goes with its option, or else
the input in the format of the settings. -/
inductive Loads (a : Arguments) (s : Settings) (w : Surroundings) : Except LoadError Document → Prop
  | json {path : String} (json : a.json = some path) :
    Loads a s w (Document.loadFile path (some .json) (w.file path))
  | yaml {path : String} (json : a.json = none) (yaml : a.yaml = some path) :
    Loads a s w (Document.loadFile path (some .yaml) (w.file path))
  | file {path : String} (json : a.json = none) (yaml : a.yaml = none) (file : a.file = some path) :
    Loads a s w (Document.loadFile path a.format (w.file path))
  | input (json : a.json = none) (yaml : a.yaml = none) (file : a.file = none) :
    Loads a s w (Document.load s.inputFormat w.input)

def answer (a : Arguments) (s : Settings) (doc : Document) : Except RunError (List Match) :=
  let options : RunOptions := ⟨s.verbose, s.depthLimit⟩
  (options.run (a.query.getD "") doc (if s.unique then .unique else .ordered)).2

/-- A result with its number, as a block of the output. -/
def numberedBlock (s : Settings) (doc : Document) (m : Match × Nat) : String :=
  (if s.outputFormat = .yaml ∧ 0 < m.2 then "---\n" else "") ++
    (if s.showPaths then (if m.1.path = "" then "(root)" else m.1.path) ++ "\t" else "") ++
    doc.render m.1.node s.outputFormat ++ "\n"

/-- The arguments ask for a query, there is a document, and the query has these results on it. -/
structure Answers (args : List String) (w : Surroundings) (a : Arguments) (doc : Document)
    (results : List Match) : Prop where
  asked : Request.read args = some (.run a)
  querying : a.save = false
  loaded : Loads a (effectiveSettings a w) w (.ok doc)
  found : answer a (effectiveSettings a w) doc = .ok results

variable {args : List String} {w : Surroundings} {a : Arguments} {s : Settings} {doc : Document}
  {results : List Match}

theorem override_load (a : Arguments) (w : Surroundings) :
    a.override (.load w.settings) = effectiveSettings a w := rfl

theorem loads_iff {loaded : Except LoadError Document} :
    Loads a s w loaded ↔ loadDocument a s w = loaded := by
  constructor
  · intro h
    cases h with
    | json json => simp only [loadDocument, json]
    | yaml json yaml => simp only [loadDocument, json, yaml]
    | file json yaml file => simp only [loadDocument, json, yaml, file]
    | input json yaml file => simp only [loadDocument, json, yaml, file]
  · rintro rfl
    unfold loadDocument
    split
    · next json => exact .json json
    · next json yaml => exact .yaml json yaml
    · next json yaml file => exact .file json yaml file
    · next json yaml file => exact .input json yaml file

theorem run_eq_answer (a : Arguments) (s : Settings) (doc : Document) :
    (s.runOptions.run (a.query.getD "") doc s.resultMode).2 = answer a s doc := rfl

theorem block_eq_numberedBlock (s : Settings) (doc : Document) (m : Match) (number : Nat) :
    block s doc (decide (number = 0)) m = numberedBlock s doc (m, number) := by
  simp [block, numberedBlock, Nat.pos_iff_ne_zero]

theorem blocks_eq_join (s : Settings) (doc : Document) (results : List Match) :
    blocks s doc results = String.join (results.zipIdx.map (numberedBlock s doc)) := by
  cases results with
  | nil => rfl
  | cons m rest =>
    have first : block s doc true m = numberedBlock s doc (m, 0) :=
      block_eq_numberedBlock s doc m 0
    have later : rest.map (block s doc false) = (rest.zipIdx 1).map (numberedBlock s doc) := by
      calc rest.map (block s doc false)
        _ = (rest.zipIdx 1).map (block s doc false ∘ Prod.fst) := by
          rw [← List.map_map, List.zipIdx_map_fst]
        _ = (rest.zipIdx 1).map (numberedBlock s doc) := by
          refine List.map_congr_left fun e he => ?_
          have behind := List.le_snd_of_mem_zipIdx he
          rw [← block_eq_numberedBlock, decide_eq_false (by omega)]
          rfl
    rw [blocks, first, later, List.zipIdx_cons, List.map_cons, String.join_cons]

theorem settings_query (a : Arguments) (s : Settings) (w : Surroundings) :
    (query a s w).settings = w.settings := by
  unfold query
  split
  · rfl
  · dsimp only
    split <;> rfl

theorem query_of_answer (loaded : loadDocument a s w = .ok doc)
    (found : answer a s doc = .ok results) :
    (query a s w).code = 0 ∧ (query a s w).output = blocks s doc results := by
  unfold query
  rw [← run_eq_answer] at found
  rw [loaded]
  dsimp only
  generalize s.runOptions.run (a.query.getD "") doc s.resultMode = r at found
  obtain ⟨reports, result⟩ := r
  cases found
  exact ⟨rfl, rfl⟩

theorem query_of_no_answer (h : ∀ doc results, loadDocument a s w = .ok doc →
    answer a s doc ≠ .ok results) : (query a s w).code = 1 ∧ (query a s w).output = "" := by
  unfold query
  cases hload : loadDocument a s w with
  | error e => exact ⟨rfl, rfl⟩
  | ok doc =>
    have none := fun results => h doc results hload
    simp only [← run_eq_answer] at none
    dsimp only
    generalize s.runOptions.run (a.query.getD "") doc s.resultMode = r at none
    obtain ⟨reports, result⟩ := r
    cases result with
    | error e => exact ⟨rfl, rfl⟩
    | ok results => exact absurd rfl (none results)

theorem save_cases (s : Settings) (w : Surroundings) :
    (save s w).output = "" ∧
      ((save s w).code = 0 ∨ (save s w).code ≠ 0 ∧ (save s w).settings = w.settings) := by
  unfold save
  split
  · exact ⟨rfl, .inl rfl⟩
  · exact ⟨rfl, .inr ⟨Nat.one_ne_zero, rfl⟩⟩

theorem run_of_query (asked : Request.read args = some (.run a)) (querying : a.save = false) :
    run args w = query a (effectiveSettings a w) w := by
  rw [run, asked]
  simp [querying, override_load]

theorem run_of_save (asked : Request.read args = some (.run a)) (saving : a.save = true) :
    run args w = save (effectiveSettings a w) w := by
  rw [run, asked]
  simp [saving, override_load]

theorem run_of_answers (h : Answers args w a doc results) :
    (run args w).code = 0 ∧ (run args w).output =
      String.join (results.zipIdx.map (numberedBlock (effectiveSettings a w) doc)) := by
  rw [run_of_query h.asked h.querying, ← blocks_eq_join]
  exact query_of_answer (loads_iff.mp h.loaded) h.found

inductive Course (args : List String) (w : Surroundings) (o : Outcome) : Prop
  | fails (code : o.code ≠ 0) (output : o.output = "") (settings : o.settings = w.settings)
  | shows (asked : Request.read args = some .help ∨ Request.read args = some .version)
      (code : o.code = 0) (settings : o.settings = w.settings)
  | saves (a : Arguments) (asked : Request.read args = some (.run a)) (saving : a.save = true)
      (code : o.code = 0) (output : o.output = "")
  | answers (a : Arguments) (doc : Document) (results : List Match)
      (h : Answers args w a doc results) (code : o.code = 0) (settings : o.settings = w.settings)

theorem query_course (asked : Request.read args = some (.run a)) (querying : a.save = false) :
    Course args w (query a (effectiveSettings a w) w) := by
  have settings := settings_query a (effectiveSettings a w) w
  by_cases h : ∃ doc results, loadDocument a (effectiveSettings a w) w = .ok doc ∧
      answer a (effectiveSettings a w) doc = .ok results
  · obtain ⟨doc, results, loaded, found⟩ := h
    have code := (query_of_answer loaded found).1
    exact .answers a doc results ⟨asked, querying, loads_iff.mpr loaded, found⟩ code settings
  · obtain ⟨code, output⟩ := query_of_no_answer fun doc results loaded found =>
      h ⟨doc, results, loaded, found⟩
    exact .fails (by simp [code]) output settings

theorem save_course (asked : Request.read args = some (.run a)) (saving : a.save = true) :
    Course args w (save (effectiveSettings a w) w) := by
  obtain ⟨output, code | ⟨code, settings⟩⟩ := save_cases (effectiveSettings a w) w
  · exact .saves a asked saving code output
  · exact .fails code output settings

theorem run_course (args : List String) (w : Surroundings) : Course args w (run args w) := by
  cases asked : Request.read args with
  | none =>
    have refused : run args w = ⟨2, "", helpText, w.settings⟩ := by rw [run, asked]
    rw [refused]
    exact .fails (Nat.succ_ne_zero 1) rfl rfl
  | some request =>
    cases request with
    | help =>
      have shown : run args w = ⟨0, helpText, "", w.settings⟩ := by rw [run, asked]
      rw [shown]
      exact .shows (.inl asked) rfl rfl
    | version =>
      have shown : run args w = ⟨0, versionText, "", w.settings⟩ := by rw [run, asked]
      rw [shown]
      exact .shows (.inr asked) rfl rfl
    | run a =>
      cases saves : a.save with
      | true => exact run_of_save asked saves ▸ save_course asked saves
      | false => exact run_of_query asked saves ▸ query_course asked saves

/-- A YAML document as the input, and settings that print YAML and look one level deep. -/
def Surroundings.listed : Surroundings where
  input := Utf8.encode "[~, \x7ba: x\x7d]"
  file := fun _ => none
  settings := some (Utf8.encode "output_format = \"yaml\"\nmax_depth = 1\n")
  settingsPath := "config.toml"

end PathQuery.CommandLine
