import PathQuery.Proofs.Evaluation.Termination

/-!
The entries of one generic mapping in paths. The first entry with a text is written
as that text, each later one with its place behind it, and no key looks like another
one with a place behind it. So two siblings never share a path, not even if one node
is the key of both.
-/
namespace PathQuery

variable {doc : Document} {t : Trail} {id : NodeId} {entries : List (NodeId × NodeId)}

namespace Document

/-- The key of an entry in a path, if so many levels suffice for the texts that are compared and all
that is read is in the arena. -/
def entrySegment? (doc : Document) (levels : Nat) (parent key : NodeId) (position : Nat) :
    Option String := do
  let text ← doc.keyNodeTextWithin? levels key
  match ← doc.nodes[parent]? with
  | .genericMapping entries =>
    let earlier ← (entries.take position).mapM fun e => doc.keyNodeTextWithin? levels e.1
    some (if text ∈ earlier then s!"{text}#{position}" else text)
  | _ => some text

theorem Acyclic.entrySegment?_eq (acyclic : doc.Acyclic) (closed : doc.Closed)
    (mapping : doc.get id = .genericMapping entries) {levels : Nat} (enough : doc.size < levels)
    {i : Nat} {e : NodeId × NodeId} (he : entries[i]? = some e) :
    doc.entrySegment? levels id e.1 i = some (doc.segment (doc.get id) (.entry e.1 i)) := by
  have refers (x : NodeId × NodeId) (hx : x ∈ entries) : doc.Refers id x.1 :=
    (mem_refs_genericMapping mapping).1 x.1 (List.mem_map_of_mem hx)
  have member : e ∈ entries := List.mem_of_getElem? he
  have inside : id < doc.size := by
    by_contra outside
    exact not_refers_of_size_le (Nat.le_of_not_lt outside) (refers e member)
  have node : doc.nodes[id]? = some (.genericMapping entries) := by
    rw [getElem?_of_lt inside, mapping]
  have text (x : NodeId × NodeId) (hx : x ∈ entries) :
      doc.keyNodeTextWithin? levels x.1 = some (doc.keyNodeText x.1) := by
    have key : x.1 < doc.size := closed.refs_lt id x.1 (refers x hx)
    have ends := acyclic.endsWithin_of_size_lt x.1 enough
    exact keyNodeTextWithin?_of_textAt? key
      (acyclic.textAt?_eq (fun id _ => closed.refs_lt id) key ends)
  have earlier : (entries.take i).mapM (fun x => doc.keyNodeTextWithin? levels x.1) =
      some ((entries.take i).map fun x => doc.keyNodeText x.1) :=
    mapM_eq_some_map fun x hx => text x (List.mem_of_mem_take hx)
  simp only [entrySegment?, text e member, node, earlier, mapping, segment,
    keyText, isShadowed_iff, Option.bind_eq_bind, Option.bind_some]

theorem mem_take_texts_iff {text : String} {j : Nat} :
    text ∈ (entries.take j).map (fun e => doc.keyNodeText e.1) ↔
      ∃ i < j, ∃ e, entries[i]? = some e ∧ doc.keyNodeText e.1 = text := by
  simp only [List.mem_map, mem_take_iff]
  grind

theorem segment_of_first {e : NodeId × NodeId} {j : Nat}
    (first : ∀ i < j, ∀ e', entries[i]? = some e' → doc.keyNodeText e'.1 ≠ doc.keyNodeText e.1) :
    doc.segment (.genericMapping entries) (.entry e.1 j) = doc.keyNodeText e.1 := by
  have free : doc.isShadowed (.genericMapping entries) j (doc.keyNodeText e.1) ≠ true := by
    rw [Ne, isShadowed_iff, mem_take_texts_iff]
    rintro ⟨i, before, e', he', same⟩
    exact first i before e' he' same
  rw [segment]
  exact if_neg free

theorem segment_of_later {e e' : NodeId × NodeId} {i j : Nat} (before : i < j)
    (he' : entries[i]? = some e') (same : doc.keyNodeText e'.1 = doc.keyNodeText e.1) :
    doc.segment (.genericMapping entries) (.entry e.1 j) =
      doc.keyNodeText e.1 ++ "#" ++ toString j := by
  have taken : doc.isShadowed (.genericMapping entries) j (doc.keyNodeText e'.1) = true :=
    isShadowed_of_lt he' before
  rw [same] at taken
  rw [segment]
  exact if_pos taken

end Document

namespace Trail

/-- An element was reached from an element at a node, by the entry at a place. -/
structure ReachedBy (t : Trail) (id : NodeId) (parent child : ElementId) (key : NodeId)
    (place : Nat) : Prop where
  lt_size : child < t.size
  node : (t.get parent).node = id
  origin : (t.get child).origin = some (parent, .entry key place)

variable {parent child : ElementId} {key : NodeId} {place : Nat}

theorem ReachedBy.getElem?_eq (reached : t.ReachedBy id parent child key place)
    (linked : t.Linked doc) (mapping : doc.get id = .genericMapping entries) :
    parent < child ∧ entries[place]? = some (key, (t.get child).node) := by
  have link := linked.at reached.lt_size
  have origin := reached.origin
  generalize t.get child = e at link origin
  cases link with
  | root => cases origin
  | child before leads =>
    cases origin
    rw [reached.node, mapping] at leads
    cases leads with
    | entry here => exact ⟨before, here⟩

theorem ReachedBy.segments_eq (reached : t.ReachedBy id parent child key place)
    (linked : t.Linked doc) (mapping : doc.get id = .genericMapping entries) :
    t.segments doc child =
      t.segments doc parent ++ [doc.segment (doc.get id) (.entry key place)] := by
  obtain ⟨before, -⟩ := reached.getElem?_eq linked mapping
  rw [segments, reached.origin]
  simp only [before, ↓reduceDIte, reached.node]

theorem intercalate_concat_inj {front : List String} {a b : String}
    (h : ".".intercalate (front ++ [a]) = ".".intercalate (front ++ [b])) : a = b := by
  by_cases empty : front = []
  · simpa [empty] using h
  · simpa [String.intercalate_append_of_ne_nil empty] using h

theorem ReachedBy.path_eq_iff {a b : ElementId} {key' : NodeId} {i j : Nat}
    (toA : t.ReachedBy id parent a key i) (toB : t.ReachedBy id parent b key' j)
    (linked : t.Linked doc) (mapping : doc.get id = .genericMapping entries) :
    t.path doc a = t.path doc b ↔ i = j := by
  obtain ⟨-, entryA⟩ := toA.getElem?_eq linked mapping
  obtain ⟨-, entryB⟩ := toB.getElem?_eq linked mapping
  rw [path, path, toA.segments_eq linked mapping, toB.segments_eq linked mapping, mapping]
  constructor
  · intro same
    by_contra apart
    exact Document.entry_segment_ne_of_ne entryA entryB apart (intercalate_concat_inj same)
  · rintro rfl
    obtain rfl : key = key' := by
      rw [entryA, Option.some.injEq, Prod.mk.injEq] at entryB
      exact entryB.1
    rfl

end Trail

/-- No two entries of a generic mapping are written alike in paths. The first entry with a text is
written as the text, and every later one has `#` and its own place behind it. In a document without
cycles all of these come out. So two elements that were reached from one element have one path only
if they were reached by one entry. -/
theorem sibling_segments_distinct (acyclic : doc.Acyclic)
    (mapping : doc.get id = .genericMapping entries) :
    (doc.Closed → ∀ levels > doc.size, ∀ i e, entries[i]? = some e →
        doc.entrySegment? levels id e.1 i = some (doc.segment (doc.get id) (.entry e.1 i))) ∧
      (∀ i j e e', entries[i]? = some e → entries[j]? = some e' → i ≠ j →
        doc.segment (doc.get id) (.entry e.1 i) ≠ doc.segment (doc.get id) (.entry e'.1 j)) ∧
      (∀ j e, entries[j]? = some e →
        ((∀ i < j, ∀ e', entries[i]? = some e' → doc.keyNodeText e'.1 ≠ doc.keyNodeText e.1) →
          doc.segment (doc.get id) (.entry e.1 j) = doc.keyNodeText e.1) ∧
        ∀ i < j, ∀ e', entries[i]? = some e' → doc.keyNodeText e'.1 = doc.keyNodeText e.1 →
          doc.segment (doc.get id) (.entry e.1 j) = doc.keyNodeText e.1 ++ "#" ++ toString j) ∧
      ∀ t : Trail, t.Linked doc → ∀ parent a b key key' i j,
        t.ReachedBy id parent a key i → t.ReachedBy id parent b key' j →
          t.segments doc a = t.segments doc parent ++ [doc.segment (doc.get id) (.entry key i)] ∧
            (t.path doc a = t.path doc b ↔ i = j) := by
  refine ⟨fun closed levels enough i e he => ?_, fun i j e e' he he' apart => ?_,
    fun j e _ => ⟨fun first => ?_, fun i before e' he' same => ?_⟩,
    fun t linked parent a b key key' i j toA toB => ?_⟩
  · exact acyclic.entrySegment?_eq closed mapping enough he
  · rw [mapping]
    exact Document.entry_segment_ne_of_ne he he' apart
  · rw [mapping]
    exact Document.segment_of_first first
  · rw [mapping]
    exact Document.segment_of_later before he' same
  · exact ⟨toA.segments_eq linked mapping, toA.path_eq_iff toB linked mapping⟩

/-- A mapping whose keys repeat: nodes that are keys twice, equal numbers, one with a fraction among
them, two that are no numbers, and two lists. A text looks like a key with a place behind it. -/
def Document.repeatingKeys : Document :=
  ⟨#[.null, .number (.ofInt 1), .number (.ofInt 1), .number (.ofRatio false 3 2), .number .nan,
    .number .nan, .sequence [1], .sequence [2], .text "1#1", .genericMapping [(1, 0), (2, 0), (1, 0),
      (3, 0), (3, 0), (4, 0), (5, 0), (6, 0), (7, 0), (8, 0)]], 9⟩

theorem Document.repeatingKeys_wellFormed : repeatingKeys.WellFormed :=
  wellFormed_of_lt_size (by decide) (by decide)

def Document.repeatingKeysTrail : Trail :=
  (evaluate .repeatingKeys 8 [⟨.children, []⟩] .empty).1

theorem Document.repeatingKeysTrail_linked : repeatingKeysTrail.Linked repeatingKeys :=
  (Session.step .start 8 [⟨.children, []⟩]).linked

theorem Document.repeatingKeys_texts :
    keyNodeText repeatingKeys 3 = "1.5" ∧ keyNodeText repeatingKeys 4 = "NaN" ∧
      keyNodeText repeatingKeys 5 = "NaN" ∧ keyNodeText repeatingKeys 6 = "[1]" ∧
      keyNodeText repeatingKeys 7 = "[1]" := by decide +kernel

theorem sibling_segments_distinct_repeatingKeys :
    Document.repeatingKeys.Acyclic ∧ Document.repeatingKeys.Closed ∧
      Document.repeatingKeys.entrySegment? 11 9 7 8 = some "[1]#8" ∧
      Document.repeatingKeys.segment (Document.repeatingKeys.get 9) (.entry 3 3) = "1.5" ∧
      Document.repeatingKeys.segment (Document.repeatingKeys.get 9) (.entry 5 6) = "NaN#6" ∧
      Document.repeatingKeys.segment (Document.repeatingKeys.get 9) (.entry 2 1) ≠
        Document.repeatingKeys.segment (Document.repeatingKeys.get 9) (.entry 8 9) ∧
      Document.repeatingKeysTrail.path .repeatingKeys 1 ≠
        Document.repeatingKeysTrail.path .repeatingKeys 3 := by
  have wellFormed := Document.repeatingKeys_wellFormed
  have mapping : Document.repeatingKeys.get 9 = .genericMapping [(1, 0), (2, 0), (1, 0), (3, 0),
    (3, 0), (4, 0), (5, 0), (6, 0), (7, 0), (8, 0)] := rfl
  obtain ⟨half, nan, nan', list, list'⟩ := Document.repeatingKeys_texts
  obtain ⟨made, apart, texts, paths⟩ := sibling_segments_distinct wellFormed.acyclic mapping
  refine ⟨wellFormed.acyclic, wellFormed.closed, ?_, ?_, ?_, ?_, ?_⟩
  · have later := (texts 8 (7, 0) rfl).2 7 (by decide) (6, 0) rfl (list.trans list'.symm)
    rw [list'] at later
    exact (made wellFormed.closed 11 (by decide) 8 (7, 0) rfl).trans (congrArg some later)
  · have ones : ∀ i < 3, ∀ e ∈ [(1, 0), (2, 0), (1, 0)][i]?,
        Document.repeatingKeys.keyNodeText e.1 ≠ "1.5" := by decide +kernel
    refine Eq.trans ((texts 3 (3, 0) rfl).1 fun i before e he => ?_) half
    rw [half]
    rw [← List.getElem?_take_of_lt before] at he
    exact ones i before e he
  · have later := (texts 6 (5, 0) rfl).2 5 (by decide) (4, 0) rfl (nan.trans nan'.symm)
    rw [nan'] at later
    exact later
  · exact apart 1 9 (2, 0) (8, 0) rfl rfl (by decide)
  · have first : Document.repeatingKeysTrail.ReachedBy 9 0 1 1 0 := ⟨by decide, rfl, rfl⟩
    have third : Document.repeatingKeysTrail.ReachedBy 9 0 3 1 2 := ⟨by decide, rfl, rfl⟩
    have same := (paths _ Document.repeatingKeysTrail_linked 0 1 3 1 1 0 2 first third).2
    exact fun path => absurd (same.mp path) (by decide)

end PathQuery
