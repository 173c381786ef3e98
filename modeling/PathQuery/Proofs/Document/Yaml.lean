import PathQuery.Proofs.Document.Decoded
import PathQuery.Proofs.Document.Entries
import PathQuery.Proofs.Document.Fold

/-!
What becomes of the entries of a generic mapping in YAML. Keys stay what they are,
but numbers that differ in the input can be one number in the document, and are one
key then. Exactly where two keys have become the same, entries are lost.
-/
namespace PathQuery

namespace Document

theorem yamlMapping_eq (entries : List (Yaml × Yaml)) :
    yamlMapping entries = .mapping (putEntries Yaml.sameKey [] entries) := by
  simp only [yamlMapping, putEntries, Yaml.insertEntry_eq_putEntry]

end Document

open Document in
/-- The entries of a generic mapping in YAML are its entries, in order, unless two keys have the same
YAML value. Exactly then there are fewer of them. -/
theorem toYaml_keeps_entries_iff (doc : Document) (acyclic : doc.Acyclic) (id : NodeId)
    (entries : List (NodeId × NodeId)) (h : doc.get id = .genericMapping entries) :
    ∃ kept : List (Yaml × Yaml), doc.toYaml id = .mapping kept ∧
      (kept.length = entries.length ↔
        kept = entries.map fun e => (doc.toYaml e.1, doc.toYaml e.2)) ∧
      (kept.length = entries.length ↔ entries.Pairwise fun a b =>
        (doc.toYaml a.1).sameKey (doc.toYaml b.1) = false) := by
  let values := entries.map fun e => (doc.toYaml e.1, doc.toYaml e.2)
  have length : values.length = entries.length := List.length_map _
  have apart_iff : Fresh Yaml.sameKey [] values ↔ entries.Pairwise fun a b =>
      (doc.toYaml a.1).sameKey (doc.toYaml b.1) = false := by
    rw [fresh_nil, List.pairwise_map]
  have whole_iff : (putEntries Yaml.sameKey [] values).length = entries.length ↔
      Fresh Yaml.sameKey [] values := by
    constructor
    · intro hlength
      by_contra repeated
      have shorter := length_putEntries_lt repeated
      rw [hlength, length, List.length_nil] at shorter
      omega
    · intro fresh
      rw [putEntries_of_fresh fresh, List.nil_append, length]
  refine ⟨putEntries Yaml.sameKey [] values, ?_, ⟨fun hlength => ?_, fun heq => ?_⟩,
    whole_iff.trans apart_iff⟩
  · rw [toYaml_eq acyclic, h]
    exact yamlMapping_eq values
  · rw [putEntries_of_fresh (whole_iff.mp hlength), List.nil_append]
  · rw [heq, List.length_map]

def Document.oneTwice : Document :=
  .ofYaml (.mapping [(.integer 1, .string "int"), (.real "1.0", .string "real")])

theorem Document.oneTwice_acyclic : oneTwice.Acyclic := (ofYaml_sound _).wellFormed.acyclic

theorem Document.oneTwice_root :
    Document.get .oneTwice (Document.root .oneTwice) = .genericMapping [(1, 2), (3, 4)] := by
  decide +kernel

theorem Document.oneTwice_keys : Document.toYaml .oneTwice 1 = .integer 1 ∧
    Document.toYaml .oneTwice 3 = .integer 1 := by
  have one : Yaml.ofNumber (.ofInt 1) = .integer 1 := by
    have short : (Binary64.ofInt 1).toShortInt? = some 1 := by decide +kernel
    rw [Yaml.ofNumber, short]
  have first : Document.get .oneTwice 1 = .number (.ofInt 1) := by decide +kernel
  have second : Document.get .oneTwice 3 = .number (.ofInt 1) := by decide +kernel
  rw [toYaml_eq oneTwice_acyclic, toYaml_eq oneTwice_acyclic, first, second]
  exact ⟨one, one⟩

theorem toYaml_keeps_entries_iff_oneTwice :
    ∃ kept, Document.toYaml .oneTwice (Document.root .oneTwice) = .mapping kept ∧
      kept.length ≠ 2 := by
  obtain ⟨kept, mapping, -, whole⟩ := toYaml_keeps_entries_iff .oneTwice
    Document.oneTwice_acyclic _ _ Document.oneTwice_root
  refine ⟨kept, mapping, fun length => ?_⟩
  have apart := (List.pairwise_cons.mp (whole.mp length)).1 (3, 4) (List.mem_singleton_self _)
  rw [Document.oneTwice_keys.1, Document.oneTwice_keys.2] at apart
  cases apart

theorem exists_entry_lost_in_yaml :
    (Document.decode .yaml "1: int\n1.0: real\n").toOption = some .oneTwice ∧
      Document.get .oneTwice (Document.root .oneTwice) = .genericMapping [(1, 2), (3, 4)] ∧
      Document.toYaml .oneTwice (Document.root .oneTwice) =
        .mapping [(.integer 1, .string "real")] := by
  refine ⟨by decide +kernel, Document.oneTwice_root, ?_⟩
  rw [Document.toYaml_eq Document.oneTwice_acyclic, Document.oneTwice_root]
  simp only [Document.yamlOf, List.map_cons, List.map_nil, Document.oneTwice_keys]
  rfl

end PathQuery
