import PathQuery.Proofs.Document.Records
import PathQuery.Proofs.Document.Unfolding
import PathQuery.Proofs.Evaluation.Locality
import PathQuery.Proofs.Evaluation.Lockstep
import PathQuery.Proofs.Text.Digits

/-!
Queries on JSON lines. Behind the index of a record, parts that never step up find
what they find on the record alone, with the index in front of the paths.
-/
namespace PathQuery

variable {doc record : Document} {parts : List Query.Part} {word : String} {i : Nat}
variable {items : List NodeId} {item : NodeId}

namespace Document

theorem WellFormed.length_le_of_nodeFrom? (wellFormed : doc.WellFormed) {id : NodeId}
    {p : Position} (h : (doc.nodeFrom? id p).isSome) : p.length ≤ id := by
  induction p generalizing id with
  | nil => exact Nat.zero_le id
  | cons key p ih =>
    obtain ⟨last, way⟩ := Option.isSome_iff_exists.mp h
    obtain ⟨child, down, below⟩ := Option.bind_eq_some_iff.mp way
    have earlier : child < id := wellFormed.refs_lt id child (Node.mem_refs_of_child? down)
    have rest : p.length ≤ child := ih (Option.isSome_iff_exists.mpr ⟨last, below⟩)
    exact Nat.succ_le_of_lt (Nat.lt_of_le_of_lt rest earlier)

theorem WellFormed.not_needs (wellFormed : doc.WellFormed) {levels : Nat}
    (enough : parts.length + doc.size < levels) :
    ¬ doc.Needs wellFormed.acyclic parts levels [] := by
  rintro ⟨i, hi, q, -, few | ⟨part, -, -, r, inside, few⟩⟩
  · omega
  · have short : ([] ++ q ++ r).length < doc.size :=
      Nat.lt_of_le_of_lt (wellFormed.length_le_of_nodeFrom? inside) wellFormed.root_lt
    simp only [List.nil_append, List.length_append] at short
    omega

theorem positions_index (acyclic : doc.Acyclic) (root : doc.get doc.root = .sequence items)
    (spells : SpellsIndex word i) (h : items[i]? = some item) :
    doc.positions acyclic [⟨.literal word, []⟩] [] = [[.index i]] := by
  have keys : doc.keysAt [] = (Node.sequence items).keys := by
    have top : doc.nodeAt? [] = some doc.root := rfl
    rw [keysAt, valueAt_eq top, root]
  have denoted : (doc.keysAt []).filter (doc.denotes word) = [.index i] := by
    have distinct : (Node.sequence items).NamesDistinct := trivial
    rw [keys, ← map_fst_lookup distinct]
    simp only [lookup, (indexOf?_eq_some_iff word i).mpr spells, h, List.map_cons, List.map_nil]
  simp only [positions, selectAt, denoted, Query.acceptAll]
  rfl

theorem setRoot_treeAt (doc : Document) (root id : NodeId) :
    (doc.setRoot root).treeAt id = doc.treeAt id :=
  doc.setRoot_foldWithin root treeOf .null (doc.size + 1) id

theorem nodeAt?_index (root : doc.get doc.root = .sequence items) (h : items[i]? = some item) :
    doc.nodeAt? [.index i] = some item := by
  simp only [nodeAt?, nodeFrom?, root, Node.child?, h, Option.bind_some]

theorem matchAt_index (root : doc.get doc.root = .sequence items) (h : items[i]? = some item) :
    doc.matchAt [.index i] = ⟨item, toString i⟩ := by
  rw [matchAt, nodeAt?_index root h]
  simp [pathAt, segmentsFrom, segment, keyText, root, Node.child?, h]

theorem needs_behind_index (acyclic : doc.Acyclic) (root : doc.get doc.root = .sequence items)
    (spells : SpellsIndex word i) (h : items[i]? = some item)
    (down : ∀ part ∈ parts, part.specifier ≠ .parent) (limit : Nat) :
    doc.Needs acyclic (⟨.literal word, []⟩ :: parts) (limit + 2) [] ↔
      (doc.setRoot item).Needs (acyclic.setRoot item) parts (limit + 1) [] := by
  have shallow : ¬ doc.Needs acyclic [⟨.literal word, []⟩] (limit + 2) [] := by
    rintro ⟨i, hi, q, -, few | ⟨part, hpart, descends, -⟩⟩
    · rw [List.length_singleton] at hi
      omega
    · rw [List.getElem?_singleton] at hpart
      split at hpart <;> cases hpart
      cases descends
  have below := needs_append acyclic (nodeAt?_index root h) down (limit + 1) []
  rw [← List.singleton_append, needs_parts_append, or_iff_right shallow,
    positions_index acyclic root spells h]
  simpa using below

end Document

open Document

/-- A match behind an index has the value of the match on the record alone, and the index stands in
front of its path. -/
structure Match.Behind (doc record : Document) (i : Nat) (m m' : Match) : Prop where
  value : doc.treeAt m.node = record.treeAt m'.node
  path : m.path = joinPaths (toString i) m'.path

/-- Behind the index of a record, parts find what they find on the record alone. They need one level
more, and on the record the number of parts and of places suffices. -/
structure RunsBehind (doc record : Document) (word : String) (i : Nat) (parts : List Query.Part) :
    Prop where
  succeeds (limit : Nat) (enough : parts.length + record.size ≤ limit) :
    ∃ ms, select record parts .ordered limit = .ok ms
  succeeds_iff (limit : Nat) :
    (∃ ms, select doc (⟨.literal word, []⟩ :: parts) .ordered (limit + 1) = .ok ms) ↔
      ∃ ms, select record parts .ordered limit = .ok ms
  matches_behind {limit limit' : Nat} {ms ms' : List Match}
    (found : select doc (⟨.literal word, []⟩ :: parts) .ordered limit = .ok ms)
    (alone : select record parts .ordered limit' = .ok ms') :
    List.Forall₂ (Match.Behind doc record i) ms ms'

section SameAnswer

variable {doc' : Document} {answer answer' : Except EvaluationError (List Match)}

theorem SameAnswer.succeeds_iff (h : SameAnswer doc doc' answer answer') :
    (∃ ms, answer = .ok ms) ↔ ∃ ms, answer' = .ok ms := by
  cases h <;> simp

theorem SameAnswer.forall₂ (h : SameAnswer doc doc' answer answer') {ms ms' : List Match}
    (found : answer = .ok ms) (found' : answer' = .ok ms') :
    List.Forall₂ (SameMatch doc doc') ms ms' := by
  subst found found'
  cases h with
  | ok h => exact h

end SameAnswer

theorem exists_getElem?_of_forall₂ {α β : Type} {R : α → β → Prop} {l : List α} {l' : List β}
    (h : List.Forall₂ R l l') {i : Nat} {a : α} (ha : l[i]? = some a) :
    ∃ b, l'[i]? = some b ∧ R a b := by
  obtain ⟨hi, rfl⟩ := List.getElem?_eq_some_iff.mp ha
  have hi' : i < l'.length := h.length_eq ▸ hi
  exact ⟨l'[i], List.getElem?_eq_getElem hi', h.get hi hi'⟩

theorem runsBehind_of_treeAt_eq (sound : doc.Sound) (sound' : record.Sound)
    (plain : doc.NoGeneric) (plain' : record.NoGeneric)
    (root : doc.get doc.root = .sequence items) (spells : SpellsIndex word i)
    (h : items[i]? = some item) (tree : doc.treeAt item = record.treeAt record.root)
    (down : ∀ part ∈ parts, part.specifier ≠ .parent) :
    RunsBehind doc record word i parts := by
  have acyclic := sound.wellFormed.acyclic
  have acyclic' := sound'.wellFormed.acyclic
  have distinct := sound.namesDistinct
  have alike : (doc.setRoot item).Alike record (doc.setRoot item).root record.root :=
    alike_of_treeAt_eq (acyclic.setRoot item) acyclic' ((doc.setRoot_treeAt item item).trans tree)
  have same (limit : Nat) := select_sameAnswer (acyclic.setRoot item) acyclic'
    (distinct.setRoot item) sound'.namesDistinct alike parts .ordered limit
  have enough (limit : Nat) (hlimit : parts.length + record.size ≤ limit) :
      ¬ record.Needs acyclic' parts (limit + 1) [] :=
    sound'.wellFormed.not_needs (Nat.lt_succ_of_le hlimit)
  refine ⟨fun limit hlimit => ?_, fun limit => ?_, fun {limit limit' ms ms'} found alone => ?_⟩
  · rw [select_ordered_eq_results]
    exact (results_succeeds_iff sound'.namesDistinct acyclic' .empty).mpr (enough limit hlimit)
  · rw [← (same limit).succeeds_iff, select_ordered_eq_results, select_ordered_eq_results]
    rw [results_succeeds_iff distinct acyclic, needs_behind_index acyclic root spells h down]
    exact (results_succeeds_iff (distinct.setRoot item) (acyclic.setRoot item) .empty).symm
  · rw [select_ordered_eq_results] at found alone
    obtain ⟨-, rfl⟩ := results_of_ok distinct acyclic found
    obtain ⟨-, rfl⟩ := results_of_ok sound'.namesDistinct acyclic' alone
    rw [← List.singleton_append, positions_parts_append, positions_index acyclic root spells h,
      List.flatMap_singleton, map_matchAt_positions acyclic (nodeAt?_index root h) down,
      matchAt_index root h]
    -- Both answers are compared at one limit that suffices.
    have here := results_of_not_needs sound'.namesDistinct (enough _ (Nat.le_refl _)) .empty
    obtain ⟨below, there⟩ := (same _).succeeds_iff.mpr ⟨_, here⟩
    have matched := (same _).forall₂ there here
    obtain ⟨-, rfl⟩ := results_of_ok (distinct.setRoot item) (acyclic.setRoot item) there
    rw [List.forall₂_map_left_iff]
    refine matched.imp fun m m' agree => ⟨?_, congrArg (joinPaths (toString i)) agree.path⟩
    exact (doc.setRoot_treeAt item m.node).symm.trans
      (agree.alike.treeAt_eq (acyclic.setRoot item) acyclic' plain plain')

theorem ok_of_toOption {ε α : Type} {result : Except ε α} {a : α}
    (h : result.toOption = some a) : result = .ok a := by
  cases result with
  | error e => cases h
  | ok b => exact congrArg Except.ok (Option.some.inj h)

/-- Reading JSON lines is reading line by line, whatever reads a line. The lines are the pieces between
line feeds. Reading succeeds if every line can be read that is not blank; then the root has one item
for each of these lines, in order, with the tree that the line has by itself, and behind the index of
a line parts that never step up find what they find on the line alone. Otherwise the error is that of
the first line that cannot be read, with its number among all lines. -/
theorem json_lines_are_records (read : String → Except Json.Error Json) (text : String) :
    Text.lines text.toList = (text.toList.splitOn '\n').dropLast.map Text.dropReturn ++
        (text.toList.splitOn '\n').getLast?.toList.filter (· ≠ []) ∧
      ((∃ doc, readJsonLinesWith read text = .ok doc) ↔
        ∀ line ∈ recordsOf (Text.lines text.toList), ∃ v, read (String.ofList line) = .ok v) ∧
      (∀ e, readJsonLinesWith read text = .error e ↔
        ∃ number fault, FirstFault read (Text.lines text.toList) number fault ∧
          e = .jsonLine number fault) ∧
      ∀ doc, readJsonLinesWith read text = .ok doc →
        ∃ items, doc.get doc.root = .sequence items ∧
          List.Forall₂
            (fun line item => ∃ record, readJsonWith read (String.ofList line) = .ok record ∧
              doc.treeAt item = record.treeAt record.root)
            (recordsOf (Text.lines text.toList)) items ∧
          ((∀ s v, read s = .ok v → v.NamesDistinct) →
            ∀ i line record, (recordsOf (Text.lines text.toList))[i]? = some line →
              readJsonWith read (String.ofList line) = .ok record →
              ∀ word, SpellsIndex word i →
                ∀ parts : List Query.Part, (∀ part ∈ parts, part.specifier ≠ .parent) →
                  RunsBehind doc record word i parts) := by
  refine ⟨Text.lines_eq_splitOn _, readJsonLinesWith_succeeds_iff read text,
    readJsonLinesWith_eq_error_iff read text, fun doc success => ?_⟩
  obtain ⟨items, root, records⟩ := readJsonLinesWith_items success
  refine ⟨items, root, records, fun names i line record hline alone word spells parts down => ?_⟩
  obtain ⟨item, hitem, same, alone', tree⟩ := exists_getElem?_of_forall₂ records hline
  obtain rfl : same = record := Except.ok.inj (alone'.symm.trans alone)
  exact runsBehind_of_treeAt_eq (readJsonLinesWith_sound names success)
    (readJsonWith_sound names alone) (readJsonLinesWith_noGeneric success)
    (readJsonWith_noGeneric alone) root spells hitem tree down

def Document.secondLine : Document :=
  ⟨#[.null, .bool true, .null, .mapping [("a", 2)], .sequence [1, 3]], 4⟩

theorem json_lines_are_records_twoLines :
    readJsonLinesWith Json.read "1\r\n \n[true,\x7b\"a\":null\x7d]\n" = .ok twoLines ∧
      RunsBehind twoLines secondLine "1" 1 [⟨.descendants, []⟩] ∧
      select twoLines [⟨.literal "1", []⟩, ⟨.descendants, []⟩] .ordered 3 =
        .ok [⟨5, "1"⟩, ⟨2, "1.0"⟩, ⟨4, "1.1"⟩, ⟨3, "1.1.\"a\""⟩] ∧
      select secondLine [⟨.descendants, []⟩] .ordered 2 =
        .ok [⟨4, ""⟩, ⟨1, "0"⟩, ⟨3, "1"⟩, ⟨2, "1.\"a\""⟩] := by
  have both : (readJsonLinesWith Json.read "1\r\n \n[true,\x7b\"a\":null\x7d]\n").toOption =
      some twoLines := by decide +kernel
  have second : (readJsonWith Json.read "[true,\x7b\"a\":null\x7d]").toOption =
      some secondLine := by decide +kernel
  have read := ok_of_toOption both
  refine ⟨read, ?_, by decide +kernel, by decide +kernel⟩
  obtain ⟨-, -, -, records⟩ := json_lines_are_records Json.read
    "1\r\n \n[true,\x7b\"a\":null\x7d]\n"
  obtain ⟨items, -, -, behind⟩ := records twoLines read
  exact behind (fun _ _ => Json.read_namesDistinct) 1 _ secondLine (by decide +kernel)
    (ok_of_toOption second) "1" ((indexOf?_eq_some_iff _ _).mp (by decide)) _ (by decide)

end PathQuery
