import PathQuery.Proofs.CommandLine.Output
import PathQuery.Proofs.Evaluation.Segment
import PathQuery.Proofs.Evaluation.Selection
import PathQuery.Proofs.Evaluation.Trail
import PathQuery.Proofs.Text.Inline

/-!
JSON output as lines. Whatever is in a document reaches the output as a value in
JSON or as a key in a path, and neither has a character that ends a line or a tab.
So there is one line for each result, and the tab in it stands between the path and
the value. No path is written like the word for the root.
-/
namespace PathQuery

namespace Text

/-- What a key in a path is like: not empty, on its line, and without a round bracket in front. -/
structure Label (cs : List Char) : Prop where
  inline : Inline cs
  first : ∃ c rest, cs = c :: rest ∧ c ≠ '('

theorem Label.append {as bs : List Char} (ha : Label as) (hb : Inline bs) : Label (as ++ bs) where
  inline := ha.inline.append hb
  first := by
    obtain ⟨c, rest, rfl, hc⟩ := ha.first
    exact ⟨c, rest ++ bs, rfl, hc⟩

theorem Label.ne_empty {s : String} (h : Label s.toList) : s ≠ "" := by
  rintro rfl
  obtain ⟨c, rest, heq, -⟩ := h.first
  cases heq

theorem Label.ne_root {s : String} (h : Label s.toList) : s ≠ "(root)" := by
  rintro rfl
  obtain ⟨c, rest, heq, hc⟩ := h.first
  exact hc (List.cons.inj heq).1.symm

theorem Word.label {cs : List Char} (h : Word cs) : Label cs where
  inline := h.inline
  first := by
    obtain ⟨c, rest, rfl⟩ := List.exists_cons_of_ne_nil h.ne_nil
    refine ⟨c, rest, rfl, ?_⟩
    rintro rfl
    have bare : isBare '(' = true := h.bare '(' List.mem_cons_self
    cases bare

theorem quoted_label (s : String) : Label (quoted s).toList where
  inline := quoted_inline s
  first := ⟨'"', _, by rw [quoted, String.toList_ofList, quotedChars]; rfl, by decide⟩

theorem array_label (items : List Json) : Label (Json.array items).text.toList where
  inline := Json.text_inline _
  first := ⟨'[', _, by rw [Json.text, String.toList_ofList, Json.chars]; rfl, by decide⟩

theorem object_label (members : List (String × Json)) :
    Label (Json.object members).text.toList where
  inline := Json.text_inline _
  first := ⟨'\x7b', _, by rw [Json.text, String.toList_ofList, Json.chars]; rfl, by decide⟩

theorem number_label (x : Binary64) : Label x.text.toList := by
  rcases x.text_cases with word | ⟨-, whole, part, heq, hwhole, hpart⟩
  · exact word.label
  · rw [heq]
    exact hwhole.label.append (.cons rfl hpart.inline)

theorem mark_inline (n : Nat) : Inline (mark n) := .cons rfl (word_repr n).inline

theorem label_intercalate {first : String} {rest : List String}
    (h : ∀ s ∈ first :: rest, Label s.toList) :
    Label (".".intercalate (first :: rest)).toList := by
  induction rest generalizing first with
  | nil => simpa using h
  | cons next rest ih =>
    obtain ⟨here, later⟩ := List.forall_mem_cons.mp h
    have joined : (".".intercalate (first :: next :: rest)).toList =
        first.toList ++ '.' :: (".".intercalate (next :: rest)).toList := by
      simp [String.intercalate_cons_cons]
    rw [joined]
    exact here.append (.cons rfl (ih later).inline)

end Text

open Text

variable {doc : Document} {t : Trail} {id : ElementId}

theorem Document.keyNodeText_label (doc : Document) (id : NodeId) :
    Label (doc.keyNodeText id).toList := by
  cases hnode : doc.get id with
  | null =>
    have word : Word "null".toList := .of_all (by decide) rfl
    simpa [keyNodeText, textAt, textOf, hnode] using word.label
  | bool b =>
    have word : Word (if b then "true" else "false").toList := by
      cases b <;> exact .of_all (by decide) rfl
    simpa [keyNodeText, textAt, textOf, hnode] using word.label
  | number x =>
    rw [keyNodeText_number hnode]
    exact number_label x
  | text s =>
    simpa [keyNodeText, hnode] using quoted_label s
  | sequence items =>
    obtain ⟨values, json⟩ := exists_toJson_sequence hnode
    simpa [keyNodeText, textAt, textOf, hnode, json] using array_label values
  | mapping entries =>
    obtain ⟨members, json⟩ := exists_toJson_mapping (.inl ⟨entries, hnode⟩)
    simpa [keyNodeText, textAt, textOf, hnode, json] using object_label members
  | genericMapping entries =>
    obtain ⟨members, json⟩ := exists_toJson_mapping (.inr ⟨entries, hnode⟩)
    simpa [keyNodeText, textAt, textOf, hnode, json] using object_label members

theorem Document.segment_label (doc : Document) (parent : Node) (key : Key) :
    Label (doc.segment parent key).toList := by
  cases key with
  | name name => exact quoted_label name
  | index i => exact (word_repr i).label
  | entry id place =>
    rw [segment_entry]
    refine (doc.keyNodeText_label id).append ?_
    split
    · exact mark_inline place
    · exact List.forall_mem_nil _

namespace Trail

theorem label_of_mem_segments {s : String} (h : s ∈ t.segments doc id) : Label s.toList := by
  induction id using Nat.strongRecOn with
  | _ id ih =>
    rw [segments] at h
    split at h
    · cases h
    · next parent key _ =>
      split at h
      · next lt =>
        rcases List.mem_append.mp h with h | h
        · exact ih parent lt h
        · rw [List.mem_singleton.mp h]
          exact doc.segment_label _ key
      · rw [List.mem_singleton.mp h]
        exact doc.segment_label _ key

theorem segments_eq_nil_iff : t.segments doc id = [] ↔ t.position id = [] := by
  rw [segments, position]
  cases (t.get id).origin with
  | none => exact iff_of_true rfl rfl
  | some o =>
    refine iff_of_false ?_ (List.append_ne_nil_of_right_ne_nil _ (List.cons_ne_nil _ _))
    dsimp only
    split
    · exact List.append_ne_nil_of_right_ne_nil _ (List.cons_ne_nil _ _)
    · exact List.cons_ne_nil _ _

theorem path_cases (t : Trail) (doc : Document) (id : ElementId) :
    (t.position id = [] ∧ t.path doc id = "") ∨
      (t.position id ≠ [] ∧ Label (t.path doc id).toList) := by
  have root : t.segments doc id = [] ↔ t.position id = [] := segments_eq_nil_iff
  rw [path]
  cases hsegments : t.segments doc id with
  | nil => exact .inl ⟨root.mp hsegments, rfl⟩
  | cons first rest =>
    have labels : ∀ s ∈ first :: rest, Label s.toList := fun s hs =>
      label_of_mem_segments (hsegments ▸ hs)
    exact .inr ⟨mt root.mpr (by simp [hsegments]), label_intercalate labels⟩

end Trail

namespace CommandLine

variable {args : List String} {w : Surroundings} {a : Arguments} {s : Settings}
  {results : List Match} {m : Match}

def shownPath (m : Match) : String := if m.path = "" then "(root)" else m.path

/-- A result as a line of JSON output. -/
def resultLine (s : Settings) (doc : Document) (m : Match) : String :=
  (if s.showPaths then shownPath m ++ "\t" else "") ++ doc.render m.node .json

theorem render_json_inline (doc : Document) (id : NodeId) : Inline (doc.render id .json).toList :=
  Json.text_inline (doc.toJson id)

theorem shownPath_inline (h : Inline m.path.toList) : Inline (shownPath m).toList := by
  unfold shownPath
  split
  · exact .of_all rfl
  · exact h

theorem path_inline (t : Trail) (doc : Document) (id : ElementId) :
    Inline (t.path doc id).toList := by
  rcases t.path_cases doc id with ⟨-, empty⟩ | ⟨-, label⟩
  · rw [empty]
    exact List.forall_mem_nil _
  · exact label.inline

theorem path_ne_root (t : Trail) (doc : Document) (id : ElementId) : t.path doc id ≠ "(root)" := by
  rcases t.path_cases doc id with ⟨-, empty⟩ | ⟨-, label⟩
  · rw [empty]
    decide
  · exact label.ne_root

theorem shownPath_eq_root_iff : shownPath (t.matchAt doc id) = "(root)" ↔ t.position id = [] := by
  have shown : shownPath (t.matchAt doc id) =
      if t.path doc id = "" then "(root)" else t.path doc id := rfl
  rcases t.path_cases doc id with ⟨root, empty⟩ | ⟨below, label⟩
  · rw [shown, if_pos empty]
    exact iff_of_true rfl root
  · rw [shown, if_neg label.ne_empty]
    exact iff_of_false label.ne_root below

theorem numberedBlock_json (json : s.outputFormat = .json) (doc : Document) (m : Match × Nat) :
    numberedBlock s doc m = resultLine s doc m.1 ++ "\n" := by
  simp [numberedBlock, resultLine, shownPath, json]

theorem lineFeed_notMem_resultLine (h : Inline m.path.toList) :
    '\n' ∉ (resultLine s doc m).toList := by
  have value : '\n' ∉ (doc.render m.node .json).toList := (render_json_inline doc m.node).notMem rfl
  have path : '\n' ∉ (shownPath m).toList := (shownPath_inline h).notMem rfl
  unfold resultLine
  split <;> simp [value, path]

theorem splitOn_resultLine (h : Inline m.path.toList) (shows : s.showPaths = true) :
    (resultLine s doc m).toList.splitOn '\t' =
      [(shownPath m).toList, (doc.render m.node .json).toList] := by
  have value : '\t' ∉ (doc.render m.node .json).toList := (render_json_inline doc m.node).notMem rfl
  have path : '\t' ∉ (shownPath m).toList := (shownPath_inline h).notMem rfl
  have chars : (resultLine s doc m).toList =
      (shownPath m).toList ++ '\t' :: (doc.render m.node .json).toList := by
    simp [resultLine, shows]
  rw [chars, List.splitOn_append_cons_of_beq _ _ BEq.rfl, List.splitOn_eq_singleton path,
    List.splitOn_eq_singleton value]
  rfl

theorem splitOn_lines {lines : List (List Char)} (h : ∀ line ∈ lines, '\n' ∉ line) :
    (lines.flatMap (· ++ ['\n'])).splitOn '\n' = lines ++ [[]] := by
  induction lines with
  | nil => rfl
  | cons line lines ih =>
    obtain ⟨here, later⟩ := List.forall_mem_cons.mp h
    rw [List.flatMap_cons, List.append_assoc, List.singleton_append,
      List.splitOn_append_cons_of_beq _ _ BEq.rfl, List.splitOn_eq_singleton here, ih later]
    rfl

theorem output_of_json (h : Answers args w a doc results)
    (json : (effectiveSettings a w).outputFormat = .json) :
    (run args w).output.toList =
      (results.map fun m => (resultLine (effectiveSettings a w) doc m).toList).flatMap
        (· ++ ['\n']) := by
  have block (m : Match × Nat) : numberedBlock (effectiveSettings a w) doc m =
      resultLine (effectiveSettings a w) doc m.1 ++ "\n" := numberedBlock_json json doc m
  have lines : results.zipIdx.map (numberedBlock (effectiveSettings a w) doc) =
      results.map fun m => resultLine (effectiveSettings a w) doc m ++ "\n" := by
    rw [funext block, ← List.zipIdx_map_fst 0 results, List.map_map]
    simp [Function.comp_def]
  rw [(run_of_answers h).2, lines, String.toList_join, List.flatMap_map, List.flatMap_map]
  simp

theorem select_of_answer (h : answer a s doc = .ok results) :
    ∃ parts, Query.parse (a.query.getD "") = .ok parts ∧
      select doc parts s.resultMode s.depthLimit = .ok results := by
  unfold answer RunOptions.run at h
  split at h
  · cases h
  · next parts parsed =>
    refine ⟨parts, parsed, ?_⟩
    dsimp only at h
    split at h
    · cases h
    · next found =>
      cases h
      exact found

end CommandLine

open CommandLine in
/-- A value in JSON has no control characters, whatever texts and keys the document holds, nor has
the path of a result, and no path is the word for the root. So JSON output has one line for each
result, and a line feed ends the last one. With paths, the only tab of a line stands between the path
and the value, and exactly the result at the root has the word for it as its path. -/
theorem json_results_are_lines :
    (∀ (doc : Document) (id : NodeId), Inline (doc.render id .json).toList) ∧
      (∀ doc parts mode limit ms, select doc parts mode limit = .ok ms →
        ∀ m ∈ ms, Inline m.path.toList ∧ m.path ≠ "(root)") ∧
      ∀ args w a doc results, Answers args w a doc results →
        (effectiveSettings a w).outputFormat = .json →
          (run args w).output.toList.splitOn '\n' =
            (results.map fun m => (resultLine (effectiveSettings a w) doc m).toList) ++ [[]] ∧
          ((effectiveSettings a w).showPaths = false →
            ∀ m ∈ results, resultLine (effectiveSettings a w) doc m = doc.render m.node .json) ∧
          ((effectiveSettings a w).showPaths = true →
            ∃ parts t ids, Query.parse (a.query.getD "") = .ok parts ∧
              evaluate doc (effectiveSettings a w).depthLimit parts .empty = (t, .ok ids) ∧
              ∀ m ∈ results,
                (resultLine (effectiveSettings a w) doc m).toList.splitOn '\t' =
                  [(shownPath m).toList, (doc.render m.node .json).toList] ∧
                ∃ id ∈ ids, t.matchAt doc id = m ∧
                  (shownPath m = "(root)" ↔ t.position id = [])) := by
  have paths {doc : Document} {parts : List Query.Part} {mode : ResultMode} {limit : Nat}
      {ms : List Match} (found : select doc parts mode limit = .ok ms) :
      ∀ m ∈ ms, Inline m.path.toList ∧ m.path ≠ "(root)" := by
    obtain ⟨t, ids, -, elements⟩ := exists_elements_of_select found
    intro m hm
    obtain ⟨id, -, rfl⟩ := elements m hm
    exact ⟨path_inline t doc id, path_ne_root t doc id⟩
  refine ⟨render_json_inline, fun doc parts mode limit ms => paths,
    fun args w a doc results h json => ?_⟩
  obtain ⟨parts, parsed, found⟩ := select_of_answer h.found
  refine ⟨?_, fun hides m _ => by simp [resultLine, hides], fun shows => ?_⟩
  · rw [output_of_json h json]
    refine splitOn_lines (List.forall_mem_map.mpr fun m hm => ?_)
    exact lineFeed_notMem_resultLine (paths found m hm).1
  · obtain ⟨t, ids, visits, elements⟩ := exists_elements_of_select found
    refine ⟨parts, t, ids, parsed, visits, fun m hm => ?_⟩
    obtain ⟨id, hid, rfl⟩ := elements m hm
    exact ⟨splitOn_resultLine (path_inline t doc id) shows, id, hid, rfl, shownPath_eq_root_iff⟩

/-- A document in YAML with texts that try to end lines, to set tabs and to pass for the root. -/
def CommandLine.Surroundings.forging : Surroundings :=
  ⟨Utf8.encode "\x7b[\"a\\tb\"]: \"x\\n(root)\\ty\", (root): [~]\x7d", fun _ => none, none,
    "config.toml"⟩

open CommandLine in
theorem json_results_are_lines_forging :
    ∃ a doc results, Answers ["-q", "**", "-p", "-f", "yaml"] .forging a doc results ∧
      (results.map fun m => (resultLine (effectiveSettings a .forging) doc m).toList) ++ [[]] =
        ["(root)\t\x7b\"[\\\"a\\\\tb\\\"]\":\"x\\n(root)\\ty\",\"(root)\":[null]\x7d".toList,
          "[\"a\\tb\"]\t\"x\\n(root)\\ty\"".toList, "\"(root)\"\t[null]".toList,
          "\"(root)\".0\tnull".toList, []] ∧
      ∀ m ∈ results, (resultLine (effectiveSettings a .forging) doc m).toList.splitOn '\t' =
        [(shownPath m).toList, (doc.render m.node .json).toList] := by
  have asked : Request.read ["-q", "**", "-p", "-f", "yaml"] = some (.run
      { Arguments.none with query := some "**", paths := true, format := some .yaml }) := by
    decide +kernel
  have code : (run ["-q", "**", "-p", "-f", "yaml"] .forging).code = 0 := by decide +kernel
  have output : (run ["-q", "**", "-p", "-f", "yaml"] .forging).output.toList.splitOn '\n' =
      ["(root)\t\x7b\"[\\\"a\\\\tb\\\"]\":\"x\\n(root)\\ty\",\"(root)\":[null]\x7d".toList,
        "[\"a\\tb\"]\t\"x\\n(root)\\ty\"".toList, "\"(root)\"\t[null]".toList,
        "\"(root)\".0\tnull".toList, []] := by decide +kernel
  cases run_course ["-q", "**", "-p", "-f", "yaml"] .forging with
  | fails failed _ _ => exact absurd code failed
  | shows other _ _ => simp [asked] at other
  | saves a other saving _ _ =>
    cases asked.symm.trans other
    cases saving
  | answers a doc results h _ _ =>
    cases asked.symm.trans h.asked
    obtain ⟨lines, -, columns⟩ := json_results_are_lines.2.2 _ _ _ doc results h rfl
    obtain ⟨_, _, _, -, -, parted⟩ := columns rfl
    exact ⟨_, doc, results, h, lines.symm.trans output, fun m hm => (parted m hm).1⟩

end PathQuery
