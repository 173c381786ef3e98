import PathQuery.Proofs.Document.Decoded
import PathQuery.Proofs.Evaluation.Refinement
import PathQuery.Proofs.Evaluation.Segment
import PathQuery.Proofs.Evaluation.Selection

/-!
What a canonical path tells about its position. A path falls into pieces at its
dots, one piece for each key, and two for a number with a fraction. Two positions
share a path exactly when they are one position, or when they part at a number
with a fraction and their pieces agree from there on: the point of the number is
taken for the dot between two keys.
-/
namespace PathQuery

open Text (Piece dotted)

variable {doc : Document} {t t' : Trail} {id : ElementId}

namespace Document

/-- The pieces of a path that a key is. -/
def keyPieces (doc : Document) (parent : Node) (key : Key) : List (List Char) :=
  if doc.hasFraction key then (doc.segment parent key).toList.splitOn '.'
  else [(doc.segment parent key).toList]

def piecesFrom (doc : Document) : NodeId → Position → List (List Char)
  | _, [] => []
  | id, key :: rest =>
    doc.keyPieces (doc.get id) key ++
      (((doc.get id).child? key).map fun child => piecesFrom doc child rest).getD []

/-- Two ways down from a node part at two keys, one of which is a number with a fraction, and have
the same pieces from there on. -/
inductive Confusable (doc : Document) : NodeId → Position → Position → Prop
  | parted {id : NodeId} {k k' : Key} {p q : Position} (ne : k ≠ k')
      (fraction : doc.hasFraction k = true ∨ doc.hasFraction k' = true)
      (alike : doc.piecesFrom id (k :: p) = doc.piecesFrom id (k' :: q)) :
      Confusable doc id (k :: p) (k' :: q)
  | deeper {id child : NodeId} {k : Key} {p q : Position} (hc : (doc.get id).child? k = some child)
      (h : Confusable doc child p q) : Confusable doc id (k :: p) (k :: q)

theorem keyPieces_piece (doc : Document) (parent : Node) (key : Key) :
    ∀ piece ∈ doc.keyPieces parent key, Piece piece := by
  unfold keyPieces
  split
  · next h => exact splitOn_segment_pieces h parent
  · next h =>
    simp only [List.mem_singleton, forall_eq]
    exact segment_piece (Bool.not_eq_true _ ▸ h) parent

theorem keyPieces_ne_nil (doc : Document) (parent : Node) (key : Key) :
    doc.keyPieces parent key ≠ [] := by
  unfold keyPieces
  split
  · exact List.splitOn_ne_nil _ _
  · exact List.cons_ne_nil _ _

theorem dotted_keyPieces (doc : Document) (parent : Node) (key : Key) :
    dotted (doc.keyPieces parent key) = '.' :: (doc.segment parent key).toList := by
  unfold keyPieces
  split
  · exact Text.dotted_splitOn _
  · simp [dotted]

theorem piecesFrom_cons {parent child : NodeId} {key : Key}
    (h : (doc.get parent).child? key = some child) (rest : Position) :
    doc.piecesFrom parent (key :: rest) =
      doc.keyPieces (doc.get parent) key ++ doc.piecesFrom child rest := by
  rw [piecesFrom, h, Option.map_some, Option.getD_some]

theorem piecesFrom_piece (doc : Document) (parent : NodeId) (p : Position) :
    ∀ piece ∈ doc.piecesFrom parent p, Piece piece := by
  induction p generalizing parent with
  | nil => exact nofun
  | cons key p ih =>
    intro piece hmem
    rcases List.mem_append.mp hmem with hmem | hmem
    · exact keyPieces_piece doc _ key piece hmem
    · cases hc : (doc.get parent).child? key with
      | none => rw [hc] at hmem; cases hmem
      | some child =>
        rw [hc] at hmem
        exact ih child piece hmem

theorem dotted_piecesFrom (doc : Document) (parent : NodeId) (p : Position) :
    dotted (doc.piecesFrom parent p) = dotted ((doc.segmentsFrom parent p).map String.toList) := by
  induction p generalizing parent with
  | nil => rfl
  | cons key p ih =>
    rw [piecesFrom, segmentsFrom, List.map_cons, Text.dotted_append, Text.dotted_cons,
      dotted_keyPieces]
    cases hc : (doc.get parent).child? key with
    | none => rfl
    | some child =>
      simp only [Option.map_some, Option.getD_some, ih child, List.cons_append]

theorem pathAt_eq_iff_piecesFrom_eq (doc : Document) (p q : Position) :
    doc.pathAt p = doc.pathAt q ↔ doc.piecesFrom doc.root p = doc.piecesFrom doc.root q := by
  have hchars (r : Position) :
      (doc.pathAt r).toList = (dotted (doc.piecesFrom doc.root r)).tail := by
    rw [pathAt, String.toList_intercalate, dotted_piecesFrom, ← Text.intercalate_eq_tail]
    rfl
  rw [← String.toList_inj, hchars, hchars]
  exact ⟨Text.tail_dotted_inj (doc.piecesFrom_piece doc.root p) (doc.piecesFrom_piece doc.root q),
    fun h => by rw [h]⟩

theorem piecesFrom_eq_iff {parent n n' : NodeId} {p q : Position}
    (hp : doc.nodeFrom? parent p = some n) (hq : doc.nodeFrom? parent q = some n') :
    doc.piecesFrom parent p = doc.piecesFrom parent q ↔ p = q ∨ doc.Confusable parent p q := by
  constructor
  · intro h
    induction p generalizing parent q with
    | nil =>
      cases q with
      | nil => exact .inl rfl
      | cons k' q => exact absurd (List.append_eq_nil_iff.mp h.symm).1 (keyPieces_ne_nil doc _ k')
    | cons k p ih =>
      cases q with
      | nil => exact absurd (List.append_eq_nil_iff.mp h).1 (keyPieces_ne_nil doc _ k)
      | cons k' q =>
        obtain ⟨child, hc, hp⟩ := Option.bind_eq_some_iff.mp hp
        obtain ⟨child', hc', hq⟩ := Option.bind_eq_some_iff.mp hq
        by_cases hk : k = k'
        · subst hk
          obtain rfl : child = child' := Option.some.inj (hc.symm.trans hc')
          rw [piecesFrom_cons hc, piecesFrom_cons hc] at h
          rcases ih hp hq (List.append_cancel_left h) with rfl | hconf
          · exact .inl rfl
          · exact .inr (.deeper hc hconf)
        · refine .inr (.parted hk ?_ h)
          -- A key without a fraction is one piece, and two keys of a node are never written alike.
          by_contra hnone
          rw [not_or, Bool.not_eq_true, Bool.not_eq_true] at hnone
          rw [piecesFrom_cons hc, piecesFrom_cons hc', keyPieces, keyPieces, hnone.1, hnone.2] at h
          have hsegment := String.toList_injective (List.cons.inj h).1
          exact hk (segment_injective (Node.mem_keys_of_child? hc) (Node.mem_keys_of_child? hc')
            hsegment)
  · rintro (rfl | hconf)
    · rfl
    · induction hconf with
      | parted _ _ alike => exact alike
      | deeper hc _ ih =>
        obtain ⟨child, hc', hp⟩ := Option.bind_eq_some_iff.mp hp
        obtain ⟨child', hc'', hq⟩ := Option.bind_eq_some_iff.mp hq
        obtain rfl : _ = child := Option.some.inj (hc.symm.trans hc')
        obtain rfl : _ = child' := Option.some.inj (hc.symm.trans hc'')
        rw [piecesFrom_cons hc, piecesFrom_cons hc, ih hp hq]

theorem pathAt_eq_iff {p q : Position} {n n' : NodeId} (hp : doc.nodeAt? p = some n)
    (hq : doc.nodeAt? q = some n') :
    doc.pathAt p = doc.pathAt q ↔ p = q ∨ doc.Confusable doc.root p q :=
  (pathAt_eq_iff_piecesFrom_eq doc p q).trans (piecesFrom_eq_iff hp hq)

end Document

namespace Trail

theorem StandsFor.path_eq_iff {p q : Position} {id' : ElementId} (h : t.StandsFor doc id p)
    (h' : t'.StandsFor doc id' q) :
    t.path doc id = t'.path doc id' ↔ p = q ∨ doc.Confusable doc.root p q := by
  rw [h.path_eq, h'.path_eq]
  exact Document.pathAt_eq_iff h.nodeAt? h'.nodeAt?

end Trail

/-- Two elements, reached by any evaluations, share a path exactly when they are at one position or
their positions can be confused. So of the results of a query, those that are left out as repeats
are at the position of one that stays, or at one that can be confused with it. -/
theorem path_eq_iff_same_or_confusable (doc : Document) (acyclic : doc.Acyclic)
    (distinct : doc.NamesDistinct) :
    (∀ (t t' : Trail) (id id' : ElementId), doc.Session t → doc.Session t' →
      id < t.size → id' < t'.size →
        (t.path doc id = t'.path doc id' ↔
          t.position id = t'.position id' ∨
            doc.Confusable doc.root (t.position id) (t'.position id'))) ∧
      ∀ (limit : Nat) (parts : List Query.Part) (t : Trail) (ids : List ElementId),
        evaluate doc limit parts .empty = (t, .ok ids) →
          ∃ kept : List ElementId, kept.Sublist ids ∧
            select doc parts .unique limit = .ok (kept.map (t.matchAt doc)) ∧
            (∀ id ∈ ids, ∃ k ∈ kept, t.position k = t.position id ∨
              doc.Confusable doc.root (t.position k) (t.position id)) ∧
            kept.Pairwise fun a b => t.position a ≠ t.position b ∧
              ¬ doc.Confusable doc.root (t.position a) (t.position b) := by
  constructor
  · intro t t' id id' h h' hid hid'
    exact (h.standsFor distinct acyclic hid).path_eq_iff (h'.standsFor distinct acyclic hid')
  · intro limit parts t ids h
    have found := (Walk.finds_ok.mp (h ▸ evaluate_finds distinct acyclic limit parts .empty)).2
    have same {a b : ElementId} (ha : a ∈ ids) (hb : b ∈ ids) :=
      (standsFor_position found ha).path_eq_iff (standsFor_position found hb)
    obtain ⟨kept, hsub, hkept⟩ :=
      List.sublist_map_iff.mp (firstByPath_sublist [] (ids.map (t.matchAt doc)))
    refine ⟨kept, hsub, ?_, fun id hid => ?_, ?_⟩
    · rw [select_unique_of_evaluate h, hkept]
    · have hmem : t.matchAt doc id ∈ ids.map (t.matchAt doc) := List.mem_map_of_mem hid
      rcases exists_mem_firstByPath [] hmem with hnil | ⟨m, hm, hpath⟩
      · cases hnil
      · rw [hkept] at hm
        obtain ⟨k, hk, rfl⟩ := List.mem_map.mp hm
        exact ⟨k, hk, (same (hsub.subset hk) hid).mp hpath⟩
    · have hpairs := pairwise_firstByPath [] (ids.map (t.matchAt doc))
      rw [hkept, List.pairwise_map] at hpairs
      refine hpairs.imp_of_mem fun {a b} ha hb hne => ?_
      rw [← not_or]
      exact fun hsame => hne ((same (hsub.subset ha) (hsub.subset hb)).mpr hsame)

def Document.fractional : Document :=
  .ofYaml (.mapping [(.real "1.5", .string "a"), (.integer 1, .mapping [(.integer 5, .string "b")])])

theorem Document.fractional_sound : fractional.Sound := ofYaml_sound _

def Document.fractionalTrail : Trail :=
  (evaluate .fractional 512 [⟨.descendants, []⟩] .empty).1

theorem Document.fractionalTrail_session : fractional.Session fractionalTrail :=
  .step .start 512 [⟨.descendants, []⟩]

theorem Document.fractionalTrail_paths :
    1 < fractionalTrail.size ∧ 3 < fractionalTrail.size ∧
      fractionalTrail.path .fractional 1 = fractionalTrail.path .fractional 3 ∧
      fractionalTrail.position 1 ≠ fractionalTrail.position 3 := by decide +kernel

theorem path_eq_iff_same_or_confusable_fractional :
    Document.Confusable .fractional (Document.root .fractional)
      (Document.fractionalTrail.position 1) (Document.fractionalTrail.position 3) := by
  obtain ⟨hfirst, hlast, hpath, hposition⟩ := Document.fractionalTrail_paths
  have sound := Document.fractional_sound
  have same := (path_eq_iff_same_or_confusable .fractional sound.wellFormed.acyclic
    sound.namesDistinct).1 _ _ 1 3 Document.fractionalTrail_session
    Document.fractionalTrail_session hfirst hlast
  exact (same.mp hpath).resolve_left hposition

theorem exists_path_eq_at_two_positions :
    (Document.decode .yaml "1.5: a\n1:\n  5: b\n").toOption = some .fractional ∧
      ∃ (t : Trail) (id id' : ElementId), Document.Session .fractional t ∧
        id < t.size ∧ id' < t.size ∧
        t.path .fractional id = t.path .fractional id' ∧ t.position id ≠ t.position id' ∧
        evaluate .fractional 512 [⟨.descendants, []⟩] .empty = (t, .ok [0, id, 2, id']) ∧
        select .fractional [⟨.descendants, []⟩] .unique 512 =
          .ok ([0, id, 2].map (t.matchAt .fractional)) := by
  obtain ⟨hfirst, hlast, hpath, hposition⟩ := Document.fractionalTrail_paths
  have finds : evaluate .fractional 512 [⟨.descendants, []⟩] .empty =
      (Document.fractionalTrail, .ok [0, 1, 2, 3]) := rfl
  have hkept : firstByPath [] ([0, 1, 2, 3].map (Document.fractionalTrail.matchAt .fractional)) =
      [0, 1, 2].map (Document.fractionalTrail.matchAt .fractional) := by decide +kernel
  refine ⟨by decide +kernel, Document.fractionalTrail, 1, 3, Document.fractionalTrail_session,
    hfirst, hlast, hpath, hposition, finds, ?_⟩
  rw [select_unique_of_evaluate finds, hkept]

end PathQuery
