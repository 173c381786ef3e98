import PathQuery.Proofs.Document.Yaml
import PathQuery.Proofs.Yaml.Ending

/-!
What trimming takes from the YAML of a node. Every number at the end of a value that
was made from a document is spelled the way numbers are written, so only a text
there can lose more than the final line feed.
-/
namespace PathQuery

namespace Document

open Yaml (LastLeaf realText)

theorem lastLeaf_yamlMapping {entries : List (Yaml × Yaml)} {leaf : Yaml}
    (h : LastLeaf (yamlMapping entries) leaf) :
    (∃ kept, leaf = .mapping kept) ∨ ∃ e ∈ entries, e.2.LastLeaf leaf := by
  rw [yamlMapping_eq] at h
  obtain h | ⟨e, he, below⟩ := h.of_mapping
  · exact .inl ⟨_, h⟩
  · rcases value_of_mem_putEntries he with he | ⟨e', he', value⟩
    · cases he
    · exact .inr ⟨e', he', value ▸ below⟩

theorem spelled_yamlOf {node : Node} {yaml : NodeId → Yaml}
    (below : ∀ id spelling, (yaml id).LastLeaf (.real spelling) → ∃ x, spelling = realText x)
    {spelling : String} (h : (yamlOf node yaml).LastLeaf (.real spelling)) :
    ∃ x, spelling = realText x := by
  cases node with
  | null | bool | text => cases h
  | number x =>
    rw [yamlOf, Yaml.ofNumber] at h
    split at h
    · cases h
    · cases h
      exact ⟨x, rfl⟩
  | sequence items =>
    obtain h | ⟨item, hitem, last⟩ := LastLeaf.of_sequence h
    · cases h
    · obtain ⟨id, -, rfl⟩ := List.mem_map.mp hitem
      exact below id spelling last
  | mapping entries =>
    obtain ⟨kept, h⟩ | ⟨e, he, last⟩ := lastLeaf_yamlMapping h
    · cases h
    · obtain ⟨entry, -, rfl⟩ := List.mem_map.mp he
      exact below entry.2 spelling last
  | genericMapping entries =>
    obtain ⟨kept, h⟩ | ⟨e, he, last⟩ := lastLeaf_yamlMapping h
    · cases h
    · obtain ⟨entry, -, rfl⟩ := List.mem_map.mp he
      exact below entry.2 spelling last

theorem spelled_toYaml (doc : Document) (id : NodeId) {spelling : String}
    (h : (doc.toYaml id).LastLeaf (.real spelling)) : ∃ x, spelling = realText x := by
  have within (levels : Nat) (id : NodeId) (spelling : String)
      (h : (doc.foldWithin yamlOf .null levels id).LastLeaf (.real spelling)) :
      ∃ x, spelling = realText x := by
    induction levels generalizing id spelling with
    | zero => cases h
    | succ levels ih => exact spelled_yamlOf ih h
  exact within _ id spelling h

theorem toList_render_yaml (doc : Document) (id : NodeId) :
    (doc.render id .yaml).toList = Text.trimEnd (doc.toYaml id).text.toList :=
  String.toList_ofList

theorem render_append_lineFeed_iff (doc : Document) (id : NodeId) :
    doc.render id .yaml ++ "\n" = (doc.toYaml id).text ↔ (doc.toYaml id).KeepsEnd := by
  rw [← String.toList_inj, String.toList_append, toList_render_yaml]
  exact Yaml.trimEnd_text_iff fun _ => spelled_toYaml doc id

end Document

/-- A node in YAML, with one line feed behind it, is the whole YAML document of its value exactly
when the value keeps its end. Two nodes whose values do are written alike only if their YAML
documents are the same. -/
theorem render_yaml_drops_line_feed_iff (doc : Document) (id : NodeId) :
    (doc.render id .yaml ++ "\n" = (doc.toYaml id).text ↔ (doc.toYaml id).KeepsEnd) ∧
      ∀ (doc' : Document) (id' : NodeId), (doc.toYaml id).KeepsEnd → (doc'.toYaml id').KeepsEnd →
        (doc.toYaml id).text ≠ (doc'.toYaml id').text →
        doc.render id .yaml ≠ doc'.render id' .yaml := by
  refine ⟨doc.render_append_lineFeed_iff id, fun doc' id' keeps keeps' apart same => apart ?_⟩
  calc (doc.toYaml id).text
      = doc.render id .yaml ++ "\n" := ((doc.render_append_lineFeed_iff id).mpr keeps).symm
    _ = doc'.render id' .yaml ++ "\n" := by rw [same]
    _ = (doc'.toYaml id').text := (doc'.render_append_lineFeed_iff id').mpr keeps'

def Document.lineEnds : Document :=
  .ofJson (.array [.string "a", .string "a\n", .string "a\n\n", .string "a\n\n\n"])

theorem Document.toYaml_lineEnds : Document.toYaml .lineEnds 1 = .string "a" ∧
    Document.toYaml .lineEnds 2 = .string "a\n" ∧ Document.toYaml .lineEnds 3 = .string "a\n\n" ∧
    Document.toYaml .lineEnds 4 = .string "a\n\n\n" := by
  refine ⟨rfl, rfl, rfl, rfl⟩

theorem render_yaml_drops_line_feed_iff_lineEnds :
    Document.render .lineEnds 1 .yaml ≠ Document.render .lineEnds 2 .yaml ∧
      Document.render .lineEnds 3 .yaml ++ "\n" ≠ (Document.toYaml .lineEnds 3).text := by
  obtain ⟨letter, line, lines, -⟩ := Document.toYaml_lineEnds
  refine ⟨(render_yaml_drops_line_feed_iff .lineEnds 1).2 .lineEnds 2 ?_ ?_ ?_, fun whole => ?_⟩
  · rw [letter, Yaml.keepsEnd_string]
    decide +kernel
  · rw [line, Yaml.keepsEnd_string]
    decide +kernel
  · rw [letter, line, Yaml.text_string, Yaml.text_string]
    decide +kernel
  · have keeps := (render_yaml_drops_line_feed_iff .lineEnds 3).1.mp whole
    rw [lines, Yaml.keepsEnd_string] at keeps
    exact absurd keeps (by decide +kernel)

theorem exists_texts_rendered_alike :
    (Document.decode .json "[\"a\", \"a\\n\", \"a\\n\\n\", \"a\\n\\n\\n\"]").toOption =
        some .lineEnds ∧
      (Document.toYaml .lineEnds 3).text = "|+\n  a\n\n" ∧
      Document.render .lineEnds 3 .yaml ++ "\n" ≠ (Document.toYaml .lineEnds 3).text ∧
      Document.toYaml .lineEnds 3 ≠ Document.toYaml .lineEnds 4 ∧
      Document.render .lineEnds 3 .yaml = Document.render .lineEnds 4 .yaml := by
  obtain ⟨-, -, two, three⟩ := Document.toYaml_lineEnds
  have kept : (Yaml.string "a\n\n").text = "|+\n  a\n\n" := by
    rw [Yaml.text_string]
    decide +kernel
  have more : (Yaml.string "a\n\n\n").text = "|+\n  a\n\n\n" := by
    rw [Yaml.text_string]
    decide +kernel
  rw [Document.render, Document.render, two, three, kept, more]
  refine ⟨by decide +kernel, rfl, by decide +kernel, ?_, by decide +kernel⟩
  simp

end PathQuery
