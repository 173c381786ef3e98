import PathQuery.Proofs.Evaluation.Refinement

/-!
When the limit on the depth is met. Every part takes one level, and so does every
level below a position that is descended into, counted from the number of parts
before it. Evaluation fails exactly when some position on the way needs more
levels than there are; otherwise the limit changes nothing.
-/
namespace PathQuery

variable {doc : Document} {t t' : Trail} {id : ElementId} {p : Position}
variable {error : EvaluationError}

namespace Document

def DeepBelow (doc : Document) (levels : Nat) (p : Position) : Prop :=
  ∃ q : Position, (doc.nodeAt? (p ++ q)).isSome ∧ levels ≤ q.length

/-- So many levels or more are needed to follow the parts of a query from a position: to get to a
position that the first `i` parts lead to, or to what is below it if part `i` descends. -/
def Needs (doc : Document) (acyclic : doc.Acyclic) (parts : List Query.Part) (levels : Nat)
    (p : Position) : Prop :=
  ∃ i ≤ parts.length, ∃ q ∈ doc.positions acyclic (parts.take i) p,
    levels ≤ i ∨ ∃ part, parts[i]? = some part ∧ part.specifier = .descendants ∧
      ∃ r : Position, (doc.nodeAt? (q ++ r)).isSome ∧ levels ≤ i + r.length

theorem exists_nodeAt?_of_append {q : Position} (h : (doc.nodeAt? (p ++ q)).isSome) :
    ∃ node, doc.nodeAt? p = some node ∧ (doc.nodeFrom? node q).isSome := by
  rw [nodeAt?, nodeFrom?_append] at h
  cases hp : doc.nodeFrom? doc.root p with
  | none => simp [hp] at h
  | some node =>
    rw [hp, Option.bind_some] at h
    exact ⟨node, hp, h⟩

theorem mem_childrenAt_of_isSome {key : Key} {q : Position}
    (h : (doc.nodeAt? (p ++ key :: q)).isSome) :
    p ++ [key] ∈ doc.childrenAt p := by
  obtain ⟨node, hp, hdown⟩ := exists_nodeAt?_of_append h
  refine List.mem_map_of_mem ?_
  rw [keysAt, valueAt_eq hp]
  cases hc : (doc.get node).child? key with
  | none => simp [nodeFrom?, hc] at hdown
  | some child => exact Node.mem_keys_of_child? hc

theorem deepBelow_zero {node : NodeId} (h : doc.nodeAt? p = some node) : doc.DeepBelow 0 p :=
  ⟨[], by simp [h], Nat.zero_le _⟩

theorem mem_subtree_self (doc : Document) (acyclic : doc.Acyclic) (p : Position) :
    p ∈ doc.subtree acyclic p := by
  rw [subtree_eq]
  exact List.mem_cons_self

theorem deepBelow_succ (doc : Document) (levels : Nat) (p : Position) :
    doc.DeepBelow (levels + 1) p ↔ ∃ q ∈ doc.childrenAt p, doc.DeepBelow levels q := by
  constructor
  · rintro ⟨q, hnode, hlen⟩
    cases q with
    | nil => simp at hlen
    | cons key q =>
      have hchild := mem_childrenAt_of_isSome hnode
      rw [List.append_cons] at hnode
      exact ⟨p ++ [key], hchild, q, hnode, Nat.le_of_succ_le_succ hlen⟩
  · rintro ⟨q, hq, r, hnode, hlen⟩
    obtain ⟨key, -, rfl⟩ := List.mem_map.mp hq
    refine ⟨key :: r, ?_, Nat.succ_le_succ hlen⟩
    rwa [List.append_cons]

theorem needs_zero (doc : Document) (acyclic : doc.Acyclic) (parts : List Query.Part)
    (p : Position) : doc.Needs acyclic parts 0 p :=
  ⟨0, Nat.zero_le _, p, by simp [positions], .inl (Nat.le_refl 0)⟩

theorem Needs.mono {acyclic : doc.Acyclic} {parts : List Query.Part} {levels more : Nat}
    (h : doc.Needs acyclic parts more p) (hle : levels ≤ more) :
    doc.Needs acyclic parts levels p := by
  obtain ⟨i, hi, q, hq, hdeep⟩ := h
  refine ⟨i, hi, q, hq, ?_⟩
  rcases hdeep with hlevels | ⟨part, hpart, descends, r, hr, hlen⟩
  · exact .inl (hle.trans hlevels)
  · exact .inr ⟨part, hpart, descends, r, hr, hle.trans hlen⟩

theorem not_needs_nil (acyclic : doc.Acyclic) (levels : Nat) :
    ¬ doc.Needs acyclic [] (levels + 1) p := by
  rintro ⟨i, hi, q, -, hlevels | ⟨part, hpart, -⟩⟩
  · simp only [List.length_nil] at hi
    omega
  · simp at hpart

theorem mem_positions_cons (acyclic : doc.Acyclic) {part : Query.Part} {rest : List Query.Part}
    {r : Position} : r ∈ doc.positions acyclic (part :: rest) p ↔
      ∃ q ∈ doc.selectAt acyclic p part.specifier,
        Query.acceptAll part.filters (doc.valueAt q) ∧ r ∈ doc.positions acyclic rest q := by
  simp only [positions, List.mem_flatMap, List.mem_filter, and_assoc]

theorem needs_cons (acyclic : doc.Acyclic) (part : Query.Part) (rest : List Query.Part)
    (levels : Nat) (p : Position) :
    doc.Needs acyclic (part :: rest) (levels + 1) p ↔
      (part.specifier = .descendants ∧ doc.DeepBelow (levels + 1) p) ∨
        ∃ q ∈ doc.selectAt acyclic p part.specifier,
          Query.acceptAll part.filters (doc.valueAt q) ∧ doc.Needs acyclic rest levels q := by
  constructor
  · rintro ⟨i, hi, q, hq, hdeep⟩
    -- Either the fault is at the first part, or `i` counts it and the parts behind it.
    cases i with
    | zero =>
      rw [List.take_zero, positions, List.mem_singleton] at hq
      subst hq
      rcases hdeep with hlevels | ⟨part', hpart, hspec, r, hr, hlen⟩
      · omega
      · cases hpart
        exact .inl ⟨hspec, r, hr, by omega⟩
    | succ i =>
      rw [List.take_succ_cons] at hq
      obtain ⟨first, hselect, haccept, hq⟩ := (mem_positions_cons acyclic).mp hq
      refine .inr ⟨first, hselect, haccept, i, Nat.le_of_succ_le_succ hi, q, hq, ?_⟩
      rcases hdeep with hlevels | ⟨part', hpart, hspec, r, hr, hlen⟩
      · exact .inl (by omega)
      · exact .inr ⟨part', hpart, hspec, r, hr, by omega⟩
  · rintro (⟨hspec, r, hr, hlen⟩ | ⟨first, hselect, haccept, i, hi, q, hq, hdeep⟩)
    · refine ⟨0, Nat.zero_le _, p, by simp [positions], .inr ⟨part, rfl, hspec, r, hr, ?_⟩⟩
      omega
    · refine ⟨i + 1, Nat.succ_le_succ hi, q, ?_, ?_⟩
      · rw [List.take_succ_cons]
        exact (mem_positions_cons acyclic).mpr ⟨first, hselect, haccept, hq⟩
      · rcases hdeep with hlevels | ⟨part', hpart, hspec, r, hr, hlen⟩
        · exact .inl (by omega)
        · exact .inr ⟨part', hpart, hspec, r, hr, by omega⟩

end Document

namespace Walk

variable {ids : List ElementId} {ps : List Position} {w : Walk} {deep deep' : Prop}

/-- A walk fails, with this error, exactly under a condition. -/
structure FailsIff (error : EvaluationError) (w : Walk) (deep : Prop) : Prop where
  fails (h : deep) : w.2 = .error error
  succeeds (h : ¬ deep) : ∃ ids, w.2 = .ok ids

theorem failsIff_error (h : deep) : FailsIff error (t, .error error) deep :=
  ⟨fun _ => rfl, fun hn => absurd h hn⟩

theorem failsIff_ok (h : ¬ deep) : FailsIff error (t, .ok ids) deep :=
  ⟨fun hd => absurd hd h, fun _ => ⟨ids, rfl⟩⟩

theorem FailsIff.of_error {e : EvaluationError} (h : FailsIff error (t, .error e) deep) :
    e = error ∧ deep := by
  by_cases hd : deep
  · exact ⟨Except.error.inj (h.fails hd), hd⟩
  · obtain ⟨ids, hids⟩ := h.succeeds hd
    cases hids

theorem FailsIff.of_ok (h : FailsIff error (t, .ok ids) deep) : ¬ deep := by
  intro hd
  cases h.fails hd

theorem FailsIff.congr (h : FailsIff error w deep) (same : deep ↔ deep') :
    FailsIff error w deep' :=
  ⟨fun hd => h.fails (same.mpr hd), fun hn => h.succeeds (mt same.mp hn)⟩

theorem FailsIff.bind {next : Trail → List ElementId → Walk} :
    FailsIff error w deep → (∀ s ids, w = (s, .ok ids) → (next s ids).FailsIff error deep') →
      FailsIff error
        (match w with
          | (t, .error e) => (t, .error e)
          | (t, .ok ids) => next t ids) (deep ∨ deep') := by
  intro h hnext
  obtain ⟨s, r⟩ := w
  cases r with
  | error e =>
    obtain ⟨rfl, hdeep⟩ := h.of_error
    exact failsIff_error (.inl hdeep)
  | ok ids => exact (hnext s ids rfl).congr (or_iff_right h.of_ok).symm

theorem each_failsIff {walk : ElementId → Trail → Walk} {deep : Position → Prop}
    (grows : ∀ id p (t : Trail), t.StandsFor doc id p → t.Grows doc (walk id t).1)
    (hw : ∀ id p (t : Trail), t.StandsFor doc id p → (walk id t).FailsIff error (deep p))
    (h : List.Forall₂ (t.StandsFor doc) ids ps) :
    (Walk.each walk ids t).FailsIff error (∃ p ∈ ps, deep p) := by
  induction ids generalizing t ps with
  | nil =>
    cases h
    exact failsIff_ok (by simp)
  | cons id ids ih =>
    obtain ⟨p, ps, hp, hps, rfl⟩ := List.forall₂_cons_left_iff.mp h
    have hgrows := grows id p t hp
    unfold Walk.each
    refine FailsIff.congr ?_ (List.exists_mem_cons_iff deep p ps).symm
    refine (hw id p t hp).bind fun s first heq => ?_
    rw [heq] at hgrows
    have hrest := ih (Trail.forall₂_kept hps hgrows)
    exact (hrest.bind fun s more _ => failsIff_ok not_false).congr (by simp)

theorem each_of_ok {walk walk' : ElementId → Trail → Walk}
    (same : ∀ id (t t' : Trail) found, walk id t = (t', .ok found) → walk' id t = (t', .ok found))
    {found : List ElementId} (h : Walk.each walk ids t = (t', .ok found)) :
    Walk.each walk' ids t = (t', .ok found) := by
  induction ids generalizing t t' found with
  | nil => exact h
  | cons id ids ih =>
    unfold Walk.each at h ⊢
    split at h
    · cases h
    · next t₁ first heq =>
      rw [same _ _ _ _ heq]
      dsimp only
      split at h
      · cases h
      · next t₂ more heq' =>
        rw [ih heq']
        exact h

end Walk

namespace Evaluation

theorem descend_failsIff (hd : doc.NamesDistinct) (acyclic : doc.Acyclic)
    (error : EvaluationError) (budget : Nat) (h : t.StandsFor doc id p) :
    (descend doc error budget id t).FailsIff error (doc.DeepBelow budget p) := by
  induction budget generalizing t id p with
  | zero => exact Walk.failsIff_error (Document.deepBelow_zero h.nodeAt?)
  | succ budget ih =>
    obtain ⟨-, found⟩ := children_finds h hd
    have hbelow := Walk.each_failsIff (fun id p t hp => (descend_finds hd acyclic error budget hp).1)
      (fun id p t hp => ih hp) found
    have hbelow := hbelow.congr (Document.deepBelow_succ doc budget p).symm
    simp only [descend, ← h.valueAt]
    exact (hbelow.bind fun s below _ => Walk.failsIff_ok not_false).congr (by simp)

theorem select_failsIff (hd : doc.NamesDistinct) (acyclic : doc.Acyclic)
    (error : EvaluationError) (budget : Nat) (specifier : Query.Specifier)
    (h : t.StandsFor doc id p) :
    (select doc error budget id specifier t).FailsIff error
      (specifier = .descendants ∧ doc.DeepBelow budget p) := by
  cases specifier with
  | descendants =>
    exact (descend_failsIff hd acyclic error budget h).congr (by simp)
  | _ => exact Walk.failsIff_ok nofun

theorem filtered_failsIff {walk : ElementId → Trail → Walk} {deep : Position → Prop}
    (filters : List Query.Filter)
    (hw : ∀ id p (t : Trail), t.StandsFor doc id p → (walk id t).FailsIff error (deep p))
    (id : ElementId) (p : Position) (t : Trail) (h : t.StandsFor doc id p) :
    Walk.FailsIff error
      (if Query.acceptAll filters (doc.get (t.get id).node) then walk id t else (t, .ok []))
      (Query.acceptAll filters (doc.valueAt p) ∧ deep p) := by
  rw [← h.valueAt]
  split
  · next haccept => exact (hw id p t h).congr (by simp [haccept])
  · next hrefuse => exact Walk.failsIff_ok fun hdeep => hrefuse hdeep.1

theorem follow_failsIff (hd : doc.NamesDistinct) (acyclic : doc.Acyclic)
    (error : EvaluationError) (parts : List Query.Part) (budget : Nat)
    (h : t.StandsFor doc id p) :
    (follow doc error parts budget id t).FailsIff error (doc.Needs acyclic parts budget p) := by
  induction parts generalizing budget t id p with
  | nil =>
    cases budget with
    | zero => exact Walk.failsIff_error (doc.needs_zero acyclic [] p)
    | succ budget => exact Walk.failsIff_ok (Document.not_needs_nil acyclic budget)
  | cons part rest ih =>
    cases budget with
    | zero => exact Walk.failsIff_error (doc.needs_zero acyclic _ p)
    | succ budget =>
      have hselect := select_failsIff hd acyclic error (budget + 1) part.specifier h
      have hfinds := select_finds hd acyclic error (budget + 1) part.specifier h
      -- What is needed splits at the first part as the walk does.
      refine Walk.FailsIff.congr ?_ (Document.needs_cons acyclic part rest budget p).symm
      unfold follow
      refine hselect.bind fun s selected heq => ?_
      obtain ⟨-, found⟩ := Walk.finds_ok.mp (heq ▸ hfinds)
      exact Walk.each_failsIff
        (fun id p t hp => (filtered_finds part.filters
          (fun id p t hp => follow_finds hd acyclic error rest budget hp) id p t hp).1)
        (filtered_failsIff part.filters fun id p t hp => ih budget hp) found

theorem descend_of_ok {error' : EvaluationError} {budget more : Nat} (hle : budget ≤ more)
    {found : List ElementId} (h : descend doc error budget id t = (t', .ok found)) :
    descend doc error' more id t = (t', .ok found) := by
  induction budget generalizing more id t t' found with
  | zero => cases h
  | succ budget ih =>
    cases more with
    | zero => omega
    | succ more =>
      simp only [descend] at h ⊢
      split at h
      · cases h
      · next t₁ below heq =>
        rw [Walk.each_of_ok (fun _ _ _ _ hok => ih (Nat.le_of_succ_le_succ hle) hok) heq]
        exact h

theorem select_of_ok {error' : EvaluationError} {budget more : Nat} (hle : budget ≤ more)
    {specifier : Query.Specifier} {found : List ElementId}
    (h : select doc error budget id specifier t = (t', .ok found)) :
    select doc error' more id specifier t = (t', .ok found) := by
  cases specifier with
  | descendants => exact descend_of_ok hle h
  | _ => exact h

theorem follow_of_ok {error' : EvaluationError} {parts : List Query.Part} {budget more : Nat}
    (hle : budget ≤ more) {found : List ElementId}
    (h : follow doc error parts budget id t = (t', .ok found)) :
    follow doc error' parts more id t = (t', .ok found) := by
  induction parts generalizing budget more id t t' found with
  | nil =>
    cases budget with
    | zero => cases h
    | succ budget =>
      cases more with
      | zero => omega
      | succ more => exact h
  | cons part rest ih =>
    cases budget with
    | zero => cases h
    | succ budget =>
      cases more with
      | zero => omega
      | succ more =>
        unfold follow at h ⊢
        split at h
        · cases h
        · next t₁ selected heq =>
          rw [select_of_ok hle heq]
          refine Walk.each_of_ok (fun id t t' found hok => ?_) h
          split at hok
          · next haccept =>
            rw [if_pos haccept]
            exact ih (Nat.le_of_succ_le_succ hle) hok
          · next hrefuse =>
            rw [if_neg hrefuse]
            exact hok

end Evaluation

theorem evaluate_failsIff (hd : doc.NamesDistinct) (acyclic : doc.Acyclic) (limit : Nat)
    (parts : List Query.Part) (t : Trail) :
    (evaluate doc limit parts t).FailsIff (.depthExceeded limit)
      (doc.Needs acyclic parts (limit + 1) []) :=
  Evaluation.follow_failsIff hd acyclic _ parts _ (Trail.pushRoot_spec doc t).2

/-- Evaluation fails exactly when more levels than the limit are needed, and then says so. Otherwise
its elements are at the positions that the parts lead to from the root, in order and with repeats,
and a higher limit leads to the same elements. -/
theorem evaluate_fails_iff_needs_more (doc : Document) (acyclic : doc.Acyclic)
    (distinct : doc.NamesDistinct) (limit : Nat) (parts : List Query.Part) (t : Trail) :
    ((evaluate doc limit parts t).2 = .error (.depthExceeded limit) ↔
        ∃ i ≤ parts.length, ∃ q ∈ doc.positions acyclic (parts.take i) [],
          limit < i ∨ ∃ part, parts[i]? = some part ∧ part.specifier = .descendants ∧
            ∃ r : Position, (doc.nodeAt? (q ++ r)).isSome ∧ limit < i + r.length) ∧
      ((evaluate doc limit parts t).2 ≠ .error (.depthExceeded limit) →
        ∃ t' ids, evaluate doc limit parts t = (t', .ok ids) ∧
          ids.map (fun id => (some (t'.get id).node, t'.position id, t'.path doc id)) =
            (doc.positions acyclic parts []).map (fun p => (doc.nodeAt? p, p, doc.pathAt p)) ∧
          ∀ limit' ≥ limit, evaluate doc limit' parts t = (t', .ok ids)) := by
  have fails := evaluate_failsIff distinct acyclic limit parts t
  have finds := evaluate_finds distinct acyclic limit parts t
  cases hw : evaluate doc limit parts t with
  | mk t' result =>
    rw [hw] at fails finds
    cases result with
    | error e =>
      obtain ⟨rfl, needs⟩ := fails.of_error
      exact ⟨iff_of_true rfl needs, fun h => absurd rfl h⟩
    | ok ids =>
      refine ⟨iff_of_false nofun fails.of_ok, fun _ => ⟨t', ids, rfl, ?_, fun limit' hle => ?_⟩⟩
      · exact map_of_standsFor (Walk.finds_ok.mp finds).2
      · exact Evaluation.follow_of_ok (Nat.succ_le_succ hle) hw

theorem evaluate_fails_iff_needs_more_twice :
    (evaluate .sharing 2 [⟨.descendants, []⟩, ⟨.descendants, []⟩] .empty).2 =
        .error (.depthExceeded 2) ∧
      ∃ t' ids, evaluate .sharing 3 [⟨.descendants, []⟩, ⟨.descendants, []⟩] .empty = (t', .ok ids) ∧
        ids.length = 17 ∧
        evaluate .sharing 9 [⟨.descendants, []⟩, ⟨.descendants, []⟩] .empty = (t', .ok ids) := by
  have settles (limit : Nat) := evaluate_fails_iff_needs_more .sharing
    Document.sharing_wellFormed.acyclic Document.sharing_namesDistinct limit
    [⟨.descendants, []⟩, ⟨.descendants, []⟩] .empty
  constructor
  · refine (settles 2).1.mpr ⟨1, by decide, [], ?_, .inr ⟨_, rfl, rfl, ?_⟩⟩
    · have self := Document.mem_subtree_self .sharing Document.sharing_wellFormed.acyclic []
      exact List.mem_flatMap.mpr ⟨[], List.mem_filter.mpr ⟨self, rfl⟩, List.mem_singleton_self []⟩
    · exact ⟨[.name "a", .index 0], by decide, by decide⟩
  · have succeeds : (evaluate .sharing 3 [⟨.descendants, []⟩, ⟨.descendants, []⟩] .empty).2 ≠
        .error (.depthExceeded 3) := by decide
    obtain ⟨t', ids, finds, -, more⟩ := (settles 3).2 succeeds
    refine ⟨t', ids, finds, ?_, more 9 (by decide)⟩
    have length : (evaluate .sharing 3 [⟨.descendants, []⟩, ⟨.descendants, []⟩] .empty).2.toOption.map
        List.length = some 17 := by decide
    rw [finds] at length
    exact Option.some.inj length

end PathQuery
