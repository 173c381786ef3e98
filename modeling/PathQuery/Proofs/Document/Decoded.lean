import PathQuery.Proofs.Document.Growth
import PathQuery.Proofs.Json.Reader

/-!
Decoded documents are sound. They grew step by step, so they have no cycles; and
no mapping has a name twice, as no object that was read has.
-/
namespace PathQuery.Document

structure Sound (doc : Document) : Prop where
  wellFormed : doc.WellFormed
  namesDistinct : doc.NamesDistinct

variable {doc : Document} {node : Node}

theorem NamesDistinct.insert (h : doc.NamesDistinct) (hn : node.NamesDistinct) :
    (doc.insert node).1.NamesDistinct := forall_get_insert h hn

theorem null_namesDistinct : null.NamesDistinct := namesDistinct_of_lt_size (by decide)

theorem map_fst_insertJsonMembers (doc : Document) (members : List (String × Json)) :
    (doc.insertJsonMembers members).2.map Prod.fst = members.map Prod.fst := by
  induction members generalizing doc with
  | nil => rfl
  | cons member rest ih =>
    obtain ⟨name, v⟩ := member
    exact congrArg (name :: ·) (ih (doc.insertJson v).1)

mutual

theorem insertJson_namesDistinct {doc : Document} (h : doc.NamesDistinct) : ∀ {v : Json},
    v.NamesDistinct → (doc.insertJson v).1.NamesDistinct
  | .null, _ => h.insert trivial
  | .bool _, _ => h.insert trivial
  | .number _, _ => h.insert trivial
  | .string _, _ => h.insert trivial
  | .array items, hv => by
    cases hv with
    | array hitems => exact (insertJsonItems_namesDistinct h hitems).insert trivial
  | .object members, hv => by
    cases hv with
    | object hnames hvalues =>
      have nodup : ((doc.insertJsonMembers members).2.map Prod.fst).Nodup :=
        map_fst_insertJsonMembers doc members ▸ hnames
      exact (insertJsonMembers_namesDistinct h hvalues).insert nodup

theorem insertJsonItems_namesDistinct {doc : Document} (h : doc.NamesDistinct) :
    ∀ {items : List Json}, (∀ v ∈ items, v.NamesDistinct) →
      (doc.insertJsonItems items).1.NamesDistinct
  | [], _ => h
  | item :: rest, hitems => by
    obtain ⟨hitem, hrest⟩ := List.forall_mem_cons.mp hitems
    exact insertJsonItems_namesDistinct (insertJson_namesDistinct h hitem) hrest

theorem insertJsonMembers_namesDistinct {doc : Document} (h : doc.NamesDistinct) :
    ∀ {members : List (String × Json)}, (∀ m ∈ members, m.2.NamesDistinct) →
      (doc.insertJsonMembers members).1.NamesDistinct
  | [], _ => h
  | (_, v) :: rest, hmembers => by
    obtain ⟨hvalue, hrest⟩ := List.forall_mem_cons.mp hmembers
    exact insertJsonMembers_namesDistinct (insertJson_namesDistinct h hvalue) hrest

end

mutual

theorem insertYaml_namesDistinct {doc : Document} (h : doc.NamesDistinct) : ∀ v : Yaml,
    (doc.insertYaml v).1.NamesDistinct
  | .null => h.insert trivial
  | .bool _ => h.insert trivial
  | .integer _ => h.insert trivial
  | .real _ => h.insert trivial
  | .string _ => h.insert trivial
  | .sequence items => (insertYamlItems_namesDistinct h items).insert trivial
  | .mapping entries => (insertYamlEntries_namesDistinct h entries).insert trivial
  | .unresolved => h.insert trivial

theorem insertYamlItems_namesDistinct {doc : Document} (h : doc.NamesDistinct) :
    ∀ items : List Yaml, (doc.insertYamlItems items).1.NamesDistinct
  | [] => h
  | item :: rest => insertYamlItems_namesDistinct (insertYaml_namesDistinct h item) rest

theorem insertYamlEntries_namesDistinct {doc : Document} (h : doc.NamesDistinct) :
    ∀ entries : List (Yaml × Yaml), (doc.insertYamlEntries entries).1.NamesDistinct
  | [] => h
  | (k, v) :: rest =>
    have key := insertYaml_namesDistinct h k
    insertYamlEntries_namesDistinct (insertYaml_namesDistinct key v) rest

end

theorem ofJson_sound {v : Json} (h : v.NamesDistinct) : (ofJson v).Sound :=
  ⟨(Begun.ofJson v).wellFormed, insertJson_namesDistinct null_namesDistinct h⟩

theorem ofYaml_sound (v : Yaml) : (ofYaml v).Sound :=
  ⟨(Begun.ofYaml v).wellFormed, insertYaml_namesDistinct null_namesDistinct v⟩

section Read

variable {read : String → Except Json.Error Json}
variable (names : ∀ s v, read s = .ok v → v.NamesDistinct)
include names

theorem readJsonWith_sound {text : String} (h : readJsonWith read text = .ok doc) :
    doc.Sound := by
  unfold readJsonWith at h
  split at h
  · next v hread =>
    cases h
    exact ofJson_sound (names _ _ hread)
  · cases h

theorem readJsonLinesWith_sound {text : String} (h : readJsonLinesWith read text = .ok doc) :
    doc.Sound := by
  obtain ⟨values, reads, rfl⟩ := readJsonLinesWith_eq_ofJson h
  refine ofJson_sound (.array ?_)
  clear h
  generalize recordsOf (Text.lines text.toList) = records at reads
  induction reads with
  | nil => exact nofun
  | cons hread _ ih => exact List.forall_mem_cons.mpr ⟨names _ _ hread, ih⟩

end Read

theorem readYaml_sound {text : String} (h : readYaml text = .ok doc) : doc.Sound := by
  unfold readYaml at h
  split at h
  · cases h
    exact ofYaml_sound _
  · cases h
    exact ⟨null_wellFormed, null_namesDistinct⟩
  · cases h

theorem decode_sound {format : InputFormat} {text : String}
    (h : decode format text = .ok doc) : doc.Sound := by
  have names (s v) (hread : Json.read s = .ok v) : v.NamesDistinct := Json.read_namesDistinct hread
  cases format with
  | json => exact readJsonWith_sound names h
  | yaml => exact readYaml_sound h
  | jsonl => exact readJsonLinesWith_sound names h
  | auto =>
    unfold decode at h
    dsimp only at h
    split at h
    · next hread =>
      cases h
      exact readJsonWith_sound names hread
    · exact readYaml_sound h

end PathQuery.Document
