import PathQuery.Decoding
import PathQuery.Proofs.Document.Position

/-!
How documents grow. A document begins with null, with one node or with what was
decoded; then nodes are put in that refer to places given before, and the root
is set to one of them. Decoding takes no other steps. So all references go to
earlier nodes, the root is in the arena, and what is in a document never changes.
-/
namespace PathQuery.Document

variable {doc d d' : Document} {id : NodeId} {ids : List NodeId} {node : Node}

/-- No node that is in a document is changed. -/
def Kept (doc doc' : Document) : Prop := ∀ id < doc.size, doc'.get id = doc.get id

theorem size_insert (doc : Document) (node : Node) : (doc.insert node).1.size = doc.size + 1 :=
  Array.size_push node

theorem get_insert (doc : Document) (node : Node) (id : NodeId) :
    (doc.insert node).1.get id = if id = doc.size then node else doc.get id := by
  unfold insert get size
  rw [Array.getElem?_push]
  split <;> rfl

theorem get_insert_size (doc : Document) (node : Node) :
    (doc.insert node).1.get (doc.insert node).2 = node := by
  rw [get_insert]
  exact if_pos rfl

theorem forall_get_insert {P : Node → Prop} (h : ∀ id, P (doc.get id)) (hn : P node) (id : NodeId) :
    P ((doc.insert node).1.get id) := by
  rw [get_insert]
  split
  · exact hn
  · exact h id

theorem kept_insert (doc : Document) (node : Node) : doc.Kept (doc.insert node).1 := by
  intro id hid
  rw [get_insert, if_neg (Nat.ne_of_lt hid)]

theorem null_wellFormed : null.WellFormed := wellFormed_of_lt_size (by decide) (by decide)

theorem WellFormed.insert (h : doc.WellFormed) (hr : ∀ r ∈ node.refs, r < doc.size) :
    (doc.insert node).1.WellFormed where
  refs_lt id := by
    rw [get_insert]
    split
    · next hid => exact hid ▸ hr
    · exact h.refs_lt id
  root_lt := by
    rw [size_insert]
    exact Nat.lt_succ_of_lt h.root_lt

/-- A document on its way, and the places that its insertions have given. -/
structure Growth where
  doc : Document
  given : List NodeId

namespace Growth

variable {g g' : Growth}

def start : Growth := ⟨.null, []⟩

/-- A place that may be referred to: one that was given, or that of the null in front. -/
def Knows (g : Growth) (id : NodeId) : Prop := id = 0 ∨ id ∈ g.given

instance (g : Growth) (id : NodeId) : Decidable (g.Knows id) :=
  inferInstanceAs (Decidable (id = 0 ∨ id ∈ g.given))

def insert (g : Growth) (node : Node) : Growth :=
  ⟨(g.doc.insert node).1, (g.doc.insert node).2 :: g.given⟩

def setRoot (g : Growth) (id : NodeId) : Growth := ⟨g.doc.setRoot id, g.given⟩

inductive Step (g : Growth) : Growth → Prop
  | insert (node : Node) (known : ∀ r ∈ node.refs, g.Knows r) : Step g (g.insert node)
  | setRoot (id : NodeId) (known : g.Knows id) : Step g (g.setRoot id)

abbrev Steps : Growth → Growth → Prop := Relation.ReflTransGen Step

def Reached (g : Growth) : Prop := Steps start g

structure Ordered (g : Growth) : Prop where
  wellFormed : g.doc.WellFormed
  knows_iff : ∀ id, g.Knows id ↔ id < g.doc.size

theorem start_ordered : start.Ordered where
  wellFormed := null_wellFormed
  knows_iff id := by simp [Knows, start, size, null]

theorem Step.ordered (h : Step g g') (ordered : g.Ordered) : g'.Ordered := by
  cases h with
  | insert node known =>
    refine ⟨ordered.wellFormed.insert fun r hr => (ordered.knows_iff r).mp (known r hr), fun id => ?_⟩
    have last : (g.doc.insert node).2 = g.doc.size := rfl
    rw [Knows, Growth.insert, List.mem_cons, or_left_comm, ← Knows, ordered.knows_iff, last,
      size_insert, or_comm]
    exact Nat.lt_succ_iff_lt_or_eq.symm
  | setRoot id known =>
    exact ⟨⟨ordered.wellFormed.refs_lt, (ordered.knows_iff _).mp known⟩, ordered.knows_iff⟩

theorem Steps.ordered (h : Steps g g') (ordered : g.Ordered) : g'.Ordered := by
  induction h with
  | refl => exact ordered
  | tail _ step ih => exact step.ordered ih

theorem Reached.ordered (h : g.Reached) : g.Ordered := Steps.ordered h start_ordered

theorem ordered_range {doc : Document} (h : doc.WellFormed) :
    (Growth.mk doc (List.range doc.size)).Ordered where
  wellFormed := h
  knows_iff id := by
    have first : 0 < doc.size := Nat.zero_lt_of_lt h.root_lt
    rw [Knows, List.mem_range]
    exact ⟨fun known => known.elim (fun null => null ▸ first) fun lt => lt, .inr⟩

theorem Step.kept (h : Step g g') : g.doc.size ≤ g'.doc.size ∧ g.doc.Kept g'.doc := by
  cases h with
  | insert node =>
    rw [Growth.insert, size_insert]
    exact ⟨Nat.le_succ _, kept_insert _ _⟩
  | setRoot => exact ⟨Nat.le_refl _, fun _ _ => rfl⟩

theorem Steps.kept (h : Steps g g') : g.doc.size ≤ g'.doc.size ∧ g.doc.Kept g'.doc := by
  induction h with
  | refl => exact ⟨Nat.le_refl _, fun _ _ => rfl⟩
  | tail _ step ih =>
    obtain ⟨le, kept⟩ := ih
    obtain ⟨le', kept'⟩ := step.kept
    refine ⟨le.trans le', fun id hid => ?_⟩
    rw [kept' id (Nat.lt_of_lt_of_le hid le), kept id hid]

end Growth

open Growth (Step Steps Reached)

/-- A document came from `doc` by steps, and the places are among those that were given. -/
def Grown (doc : Document) (r : Document × List NodeId) : Prop :=
  ∀ given, ∃ given', Steps ⟨doc, given⟩ ⟨r.1, given'⟩ ∧ given ⊆ given' ∧ r.2 ⊆ given'

theorem Grown.nil (doc : Document) : doc.Grown (doc, []) :=
  fun given => ⟨given, .refl, List.Subset.refl given, List.nil_subset given⟩

theorem Grown.cons (h : doc.Grown (d, [id])) (h' : d.Grown (d', ids)) :
    doc.Grown (d', id :: ids) := by
  intro given
  obtain ⟨given', steps, old, new⟩ := h given
  obtain ⟨given'', steps', old', new'⟩ := h' given'
  refine ⟨given'', steps.trans steps', List.Subset.trans old old', List.cons_subset.mpr ⟨?_, new'⟩⟩
  exact old' (new List.mem_cons_self)

theorem Grown.insert (h : doc.Grown (d, node.refs)) :
    doc.Grown ((d.insert node).1, [(d.insert node).2]) := by
  intro given
  obtain ⟨given', steps, old, new⟩ := h given
  refine ⟨(d.insert node).2 :: given', steps.tail (.insert node fun r hr => .inr (new hr)), ?_, ?_⟩
  · exact List.subset_cons_of_subset _ old
  · exact List.cons_subset.mpr ⟨List.mem_cons_self, List.nil_subset _⟩

section Invariants

variable {r : Document × List NodeId}

theorem Grown.size_le (h : doc.Grown r) : doc.size ≤ r.1.size := by
  obtain ⟨_, steps, -, -⟩ := h []
  exact steps.kept.1

theorem Grown.kept (h : doc.Grown r) : doc.Kept r.1 := by
  obtain ⟨_, steps, -, -⟩ := h []
  exact steps.kept.2

theorem Grown.wellFormed (h : doc.Grown r) (wellFormed : doc.WellFormed) : r.1.WellFormed := by
  -- The steps start where all places were given, so that the invariant holds there.
  obtain ⟨_, steps, -, -⟩ := h (List.range doc.size)
  exact (steps.ordered (Growth.ordered_range wellFormed)).wellFormed

theorem Grown.lt_size (h : doc.Grown r) (wellFormed : doc.WellFormed) :
    ∀ id ∈ r.2, id < r.1.size := by
  obtain ⟨_, steps, -, new⟩ := h (List.range doc.size)
  have ordered := steps.ordered (Growth.ordered_range wellFormed)
  exact fun id hid => (ordered.knows_iff id).mp (.inr (new hid))

end Invariants

theorem Grown.reached {root : NodeId} (h : null.Grown (d, [root])) :
    ∃ given, Reached ⟨d.setRoot root, given⟩ := by
  obtain ⟨given, steps, -, new⟩ := h []
  exact ⟨given, steps.tail (.setRoot root (.inr (new List.mem_cons_self)))⟩

mutual

theorem insertJson_grown (doc : Document) : ∀ v : Json,
    doc.Grown ((doc.insertJson v).1, [(doc.insertJson v).2])
  | .null => (Grown.nil doc).insert
  | .bool _ => (Grown.nil doc).insert
  | .number _ => (Grown.nil doc).insert
  | .string _ => (Grown.nil doc).insert
  | .array items => (insertJsonItems_grown doc items).insert
  | .object members => (insertJsonMembers_grown doc members).insert

theorem insertJsonItems_grown (doc : Document) : ∀ items : List Json,
    doc.Grown (doc.insertJsonItems items)
  | [] => .nil doc
  | item :: rest => (insertJson_grown doc item).cons (insertJsonItems_grown _ rest)

theorem insertJsonMembers_grown (doc : Document) : ∀ members : List (String × Json),
    doc.Grown ((doc.insertJsonMembers members).1,
      (doc.insertJsonMembers members).2.map Prod.snd)
  | [] => .nil doc
  | (_, v) :: rest => (insertJson_grown doc v).cons (insertJsonMembers_grown _ rest)

end

mutual

theorem insertYaml_grown (doc : Document) : ∀ v : Yaml,
    doc.Grown ((doc.insertYaml v).1, [(doc.insertYaml v).2])
  | .null => (Grown.nil doc).insert
  | .bool _ => (Grown.nil doc).insert
  | .integer _ => (Grown.nil doc).insert
  | .real _ => (Grown.nil doc).insert
  | .string _ => (Grown.nil doc).insert
  | .sequence items => (insertYamlItems_grown doc items).insert
  | .mapping entries => (insertYamlEntries_grown doc entries).insert
  | .unresolved => (Grown.nil doc).insert

theorem insertYamlItems_grown (doc : Document) : ∀ items : List Yaml,
    doc.Grown (doc.insertYamlItems items)
  | [] => .nil doc
  | item :: rest => (insertYaml_grown doc item).cons (insertYamlItems_grown _ rest)

theorem insertYamlEntries_grown (doc : Document) : ∀ entries : List (Yaml × Yaml),
    doc.Grown ((doc.insertYamlEntries entries).1,
      (doc.insertYamlEntries entries).2.flatMap fun e => [e.1, e.2])
  | [] => .nil doc
  | (k, v) :: rest =>
    (insertYaml_grown doc k).cons
      ((insertYaml_grown _ v).cons (insertYamlEntries_grown _ rest))

end

def recordsOf (lines : List (List Char)) : List (List Char) :=
  lines.filter fun line => !line.all Text.isBlank

theorem insertLines_eq_insertJsonItems {read : String → Except Json.Error Json} {doc : Document}
    {number : Nat} {lines : List (List Char)} {r : Document × List NodeId}
    (h : insertLines read doc number lines = .ok r) :
    ∃ values, List.Forall₂ (fun line v => read (String.ofList line) = .ok v)
        (recordsOf lines) values ∧ r = doc.insertJsonItems values := by
  induction lines generalizing doc number r with
  | nil =>
    cases h
    exact ⟨[], .nil, rfl⟩
  | cons line rest ih =>
    unfold insertLines at h
    split at h
    · next blank =>
      rw [recordsOf, List.filter_cons_of_neg (by simpa using blank)]
      exact ih h
    next full =>
    rw [recordsOf, List.filter_cons_of_pos (by simpa using full)]
    split at h
    · cases h
    · next v hread =>
      dsimp only at h
      cases hrest : insertLines read (doc.insertJson v).1 (number + 1) rest with
      | error e => rw [hrest] at h; cases h
      | ok more =>
        rw [hrest] at h
        cases h
        obtain ⟨values, reads, rfl⟩ := ih hrest
        exact ⟨v :: values, .cons hread reads, rfl⟩

/-- The document of JSON lines is that of the array of their values. -/
theorem readJsonLinesWith_eq_ofJson {read : String → Except Json.Error Json} {text : String}
    (h : readJsonLinesWith read text = .ok doc) :
    ∃ values, List.Forall₂ (fun line v => read (String.ofList line) = .ok v)
        (recordsOf (Text.lines text.toList)) values ∧ doc = ofJson (.array values) := by
  unfold readJsonLinesWith at h
  cases hlines : insertLines read null 1 (Text.lines text.toList) with
  | error e => rw [hlines] at h; cases h
  | ok r =>
    rw [hlines] at h
    cases h
    obtain ⟨values, reads, rfl⟩ := insertLines_eq_insertJsonItems hlines
    exact ⟨values, reads, rfl⟩

inductive Begun : Document → Prop
  | null : Begun .null
  | ofNode {node : Node} (alone : node.refs = []) : Begun (.ofNode node)
  | ofJson (v : Json) : Begun (.ofJson v)
  | ofYaml (v : Yaml) : Begun (.ofYaml v)
  | decode {format : InputFormat} {text : String} {doc : Document}
      (read : decode format text = .ok doc) : Begun doc

theorem ofJson_reached (v : Json) : ∃ given, Reached ⟨.ofJson v, given⟩ :=
  (insertJson_grown null v).reached

theorem readJson_reached {text : String} (h : readJson text = .ok doc) :
    ∃ given, Reached ⟨doc, given⟩ := by
  unfold readJson readJsonWith at h
  split at h
  · cases h
    exact ofJson_reached _
  · cases h

theorem readYaml_reached {text : String} (h : readYaml text = .ok doc) :
    ∃ given, Reached ⟨doc, given⟩ := by
  unfold readYaml at h
  split at h
  · cases h
    exact (insertYaml_grown null _).reached
  · cases h
    exact ⟨[], .refl⟩
  · cases h

theorem decode_reached {format : InputFormat} {text : String} (h : decode format text = .ok doc) :
    ∃ given, Reached ⟨doc, given⟩ := by
  cases format with
  | json => exact readJson_reached h
  | yaml => exact readYaml_reached h
  | jsonl =>
    obtain ⟨values, -, rfl⟩ := readJsonLinesWith_eq_ofJson h
    exact ofJson_reached _
  | auto =>
    unfold decode at h
    dsimp only at h
    split at h
    · next read =>
      cases h
      exact readJson_reached read
    · exact readYaml_reached h

theorem Begun.reached (h : Begun doc) : ∃ given, Reached ⟨doc, given⟩ := by
  cases h with
  | null => exact ⟨[], .refl⟩
  | @ofNode node alone =>
    have grown : Grown .null (.null, node.refs) := by
      rw [alone]
      exact .nil _
    exact grown.insert.reached
  | ofJson v => exact ofJson_reached v
  | ofYaml v => exact (insertYaml_grown _ v).reached
  | decode read => exact decode_reached read

theorem Begun.wellFormed (h : Begun doc) : doc.WellFormed := by
  obtain ⟨_, reached⟩ := h.reached
  exact reached.ordered.wellFormed

end PathQuery.Document
