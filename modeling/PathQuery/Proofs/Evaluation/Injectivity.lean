import PathQuery.Proofs.Document.Generic
import PathQuery.Proofs.Evaluation.Identity
import PathQuery.Proofs.Evaluation.Links

/-!
Where a path tells its position. Only the point of a number can be taken for the
dot between two keys. So in a document in which no key is a number with a fraction
no two positions share a path, and JSON documents are of that kind.
-/
namespace PathQuery

variable {doc : Document} {t t' : Trail} {id id' : ElementId}

namespace Document

/-- No key on any way down from the root is a number with a fraction. -/
def NoFractions (doc : Document) : Prop := ∀ p, ∀ key ∈ doc.keysAt p, doc.hasFraction key = false

theorem noFractions_of_lt_size
    (h : ∀ id < doc.size, ∀ key ∈ (doc.get id).keys, doc.hasFraction key = false) :
    doc.NoFractions := by
  intro p key hkey
  rw [keysAt, valueAt] at hkey
  cases hp : doc.nodeAt? p with
  | none => simp [hp, Node.keys] at hkey
  | some id =>
    rw [hp, Option.map_some, Option.getD_some] at hkey
    by_cases hid : id < doc.size
    · exact h id hid key hkey
    · rw [get_of_size_le (Nat.le_of_not_lt hid)] at hkey
      simp [Node.keys] at hkey

theorem NoGeneric.noFractions (h : doc.NoGeneric) : doc.NoFractions := by
  refine noFractions_of_lt_size fun id _ key hkey => ?_
  have plain := h id
  generalize doc.get id = node at plain hkey
  cases node with
  | sequence items =>
    obtain ⟨i, -, rfl⟩ := List.mem_map.mp hkey
    rfl
  | mapping entries =>
    obtain ⟨e, -, rfl⟩ := List.mem_map.mp hkey
    rfl
  | genericMapping entries => cases plain
  | _ => cases hkey

theorem NoFractions.hasFraction_eq (h : doc.NoFractions) {r : Position} {id child : NodeId}
    {key : Key} (hr : doc.nodeAt? r = some id) (hc : (doc.get id).child? key = some child) :
    doc.hasFraction key = false := by
  refine h r key ?_
  rw [keysAt, valueAt_eq hr]
  exact Node.mem_keys_of_child? hc

theorem NoFractions.not_confusable (h : doc.NoFractions) {r p q : Position} {id n n' : NodeId}
    (hr : doc.nodeAt? r = some id) (hp : doc.nodeFrom? id p = some n)
    (hq : doc.nodeFrom? id q = some n') : ¬ doc.Confusable id p q := by
  intro hconf
  induction hconf generalizing r with
  | parted _ fraction _ =>
    obtain ⟨child, hc, -⟩ := Option.bind_eq_some_iff.mp hp
    obtain ⟨child', hc', -⟩ := Option.bind_eq_some_iff.mp hq
    simp [h.hasFraction_eq hr hc, h.hasFraction_eq hr hc'] at fraction
  | @deeper id child key _ _ hc _ ih =>
    obtain ⟨_, hc', hp⟩ := Option.bind_eq_some_iff.mp hp
    obtain ⟨_, hc'', hq⟩ := Option.bind_eq_some_iff.mp hq
    obtain rfl := Option.some.inj (hc.symm.trans hc')
    obtain rfl := Option.some.inj (hc.symm.trans hc'')
    exact ih ((nodeAt?_snoc hr key).trans hc) hp hq

end Document

theorem Trail.StandsFor.path_eq_iff_of_noFractions (h : doc.NoFractions) {p q : Position}
    (hp : t.StandsFor doc id p) (hq : t'.StandsFor doc id' q) :
    t.path doc id = t'.path doc id' ↔ p = q := by
  rw [hp.path_eq_iff hq, or_iff_left]
  exact h.not_confusable (r := []) rfl hp.nodeAt? hq.nodeAt?

/-- If no key is a number with a fraction, two elements share a path exactly when they are at one
position, whatever evaluations reached them; without repeats a query then has one match for each
position that it selects. Documents of JSON texts and of lines of JSON are like that. -/
theorem path_eq_iff_position_eq :
    (∀ doc : Document, doc.NamesDistinct → doc.NoFractions →
      (∀ (t t' : Trail) (id id' : ElementId), doc.Session t → doc.Session t' →
        id < t.size → id' < t'.size →
          (t.path doc id = t'.path doc id' ↔ t.position id = t'.position id')) ∧
      ∀ (limit : Nat) (parts : List Query.Part) (t : Trail) (ids : List ElementId),
        evaluate doc limit parts .empty = (t, .ok ids) →
          ∃ kept : List ElementId, kept.Sublist ids ∧
            select doc parts .unique limit = .ok (kept.map (t.matchAt doc)) ∧
            (kept.map t.position).Nodup ∧ ∀ id ∈ ids, t.position id ∈ kept.map t.position) ∧
      ∀ (format : InputFormat) (text : String) (doc : Document),
        format = .json ∨ format = .jsonl → Document.decode format text = .ok doc →
          doc.NamesDistinct ∧ doc.NoFractions := by
  refine ⟨fun doc distinct whole => ⟨fun t t' id id' h h' hid hid' => ?_,
    fun limit parts t ids found => ?_⟩, fun format text doc json decoded => ?_⟩
  · exact (h.linked.standsFor distinct hid).path_eq_iff_of_noFractions whole
      (h'.linked.standsFor distinct hid')
  · obtain ⟨session, inside⟩ := Document.Session.start.of_evaluate found
    have same {a b : ElementId} (ha : a ∈ ids) (hb : b ∈ ids) :
        t.path doc a = t.path doc b ↔ t.position a = t.position b :=
      (session.linked.standsFor distinct (inside a ha)).path_eq_iff_of_noFractions whole
        (session.linked.standsFor distinct (inside b hb))
    obtain ⟨kept, sub, unique, covers, apart⟩ := exists_kept_of_evaluate found
    refine ⟨kept, sub, unique, ?_, fun id hid => ?_⟩
    · rw [List.Nodup, List.pairwise_map]
      exact apart.imp_of_mem fun ha hb ne => mt (same (sub.subset ha) (sub.subset hb)).mpr ne
    · obtain ⟨k, hk, hpath⟩ := covers id hid
      exact List.mem_map.mpr ⟨k, hk, (same (sub.subset hk) hid).mp hpath⟩
  · exact ⟨(Document.decode_sound decoded).namesDistinct,
      (Document.decode_noGeneric json decoded).noFractions⟩

def Document.wholeKeys : Document :=
  .ofYaml (.mapping [(.integer 1, .string "a"), (.real "1.0", .string "b"),
    (.sequence [.real "1.5"], .string "c"), (.string "1.5", .string "d")])

theorem Document.wholeKeys_namesDistinct : wholeKeys.NamesDistinct :=
  namesDistinct_of_lt_size (by decide +kernel)

theorem Document.wholeKeys_noFractions : wholeKeys.NoFractions :=
  noFractions_of_lt_size (by decide +kernel)

theorem path_eq_iff_position_eq_wholeKeys :
    Document.NamesDistinct .wholeKeys ∧ Document.NoFractions .wholeKeys ∧
      ∃ (t : Trail) (ids kept : List ElementId),
        evaluate .wholeKeys 8 [⟨.descendants, []⟩, ⟨.descendants, []⟩] .empty = (t, .ok ids) ∧
        ids.length = 9 ∧ kept.length = 5 ∧ kept.Sublist ids ∧ (kept.map t.position).Nodup ∧
        select .wholeKeys [⟨.descendants, []⟩, ⟨.descendants, []⟩] .unique 8 =
          .ok (kept.map (t.matchAt .wholeKeys)) := by
  have finds : evaluate .wholeKeys 8 [⟨.descendants, []⟩, ⟨.descendants, []⟩] .empty =
      ((evaluate .wholeKeys 8 [⟨.descendants, []⟩, ⟨.descendants, []⟩] .empty).1,
        .ok [0, 5, 6, 7, 8, 1, 2, 3, 4]) := by rfl
  obtain ⟨kept, sub, unique, nodup, -⟩ := (path_eq_iff_position_eq.1 .wholeKeys
    Document.wholeKeys_namesDistinct Document.wholeKeys_noFractions).2 8 _ _ _ finds
  have five : (select .wholeKeys [⟨.descendants, []⟩, ⟨.descendants, []⟩] .unique 8).toOption.map
      List.length = some 5 := by decide +kernel
  rw [unique, Except.toOption, Option.map_some, Option.some.injEq, List.length_map] at five
  exact ⟨Document.wholeKeys_namesDistinct, Document.wholeKeys_noFractions, _, _, kept, finds, rfl,
    five, sub, nodup, unique⟩

end PathQuery
