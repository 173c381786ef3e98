import PathQuery.Evaluation

/-!
Results without repeats. The first match of each path stays, in its place, and
the matches that stay have all the paths that there were.
-/
namespace PathQuery

theorem firstByPath_sublist (seen : List String) (ms : List Match) :
    (firstByPath seen ms).Sublist ms := by
  induction ms generalizing seen with
  | nil => exact .slnil
  | cons m ms ih =>
    unfold firstByPath
    split
    · exact .cons m (ih seen)
    · exact .cons_cons m (ih (m.path :: seen))

theorem path_notMem_of_mem_firstByPath {seen : List String} {ms : List Match} {m : Match}
    (h : m ∈ firstByPath seen ms) : m.path ∉ seen := by
  induction ms generalizing seen with
  | nil => cases h
  | cons x ms ih =>
    unfold firstByPath at h
    split at h
    · exact ih h
    · next hnew =>
      rcases List.mem_cons.mp h with rfl | h
      · simpa using hnew
      · exact fun hmem => ih h (List.mem_cons_of_mem _ hmem)

theorem pairwise_firstByPath (seen : List String) (ms : List Match) :
    (firstByPath seen ms).Pairwise fun a b => a.path ≠ b.path := by
  induction ms generalizing seen with
  | nil => exact .nil
  | cons m ms ih =>
    unfold firstByPath
    split
    · exact ih seen
    · refine .cons (fun x hx heq => ?_) (ih _)
      exact path_notMem_of_mem_firstByPath hx (heq ▸ List.mem_cons_self)

theorem exists_mem_firstByPath (seen : List String) {ms : List Match} {m : Match} (h : m ∈ ms) :
    m.path ∈ seen ∨ ∃ x ∈ firstByPath seen ms, x.path = m.path := by
  induction ms generalizing seen with
  | nil => cases h
  | cons x ms ih =>
    unfold firstByPath
    split
    · next hseen =>
      rcases List.mem_cons.mp h with rfl | h
      · exact .inl (by simpa using hseen)
      · exact ih seen h
    · rcases List.mem_cons.mp h with rfl | h
      · exact .inr ⟨m, List.mem_cons_self, rfl⟩
      · rcases ih (x.path :: seen) h with hseen | ⟨y, hy, hpath⟩
        · rcases List.mem_cons.mp hseen with heq | hseen
          · exact .inr ⟨x, List.mem_cons_self, heq.symm⟩
          · exact .inl hseen
        · exact .inr ⟨y, List.mem_cons_of_mem _ hy, hpath⟩

theorem firstByPath_skip {seen : List String} {again : List Match}
    (h : ∀ m ∈ again, m.path ∈ seen) (rest : List Match) :
    firstByPath seen (again ++ rest) = firstByPath seen rest := by
  induction again with
  | nil => rfl
  | cons m again ih =>
    have here : seen.contains m.path = true := by simpa using h m List.mem_cons_self
    rw [List.cons_append, firstByPath, if_pos here]
    exact ih fun x hx => h x (List.mem_cons_of_mem m hx)

theorem firstByPath_append_repeats {seen : List String} {front again : List Match}
    (h : ∀ m ∈ again, m.path ∈ seen ∨ m.path ∈ front.map Match.path) (rest : List Match) :
    firstByPath seen (front ++ (again ++ rest)) = firstByPath seen (front ++ rest) := by
  induction front generalizing seen with
  | nil => exact firstByPath_skip (fun m hm => (h m hm).resolve_right List.not_mem_nil) rest
  | cons x front ih =>
    have later {seen' : List String} (kept : seen ⊆ seen') (here : x.path ∈ seen') :
        firstByPath seen' (front ++ (again ++ rest)) = firstByPath seen' (front ++ rest) := by
      refine ih fun m hm => ?_
      rcases h m hm with hm | hm
      · exact .inl (kept hm)
      · rcases List.mem_cons.mp hm with hm | hm
        · exact .inl (hm ▸ here)
        · exact .inr hm
    simp only [List.cons_append, firstByPath]
    split
    · next hseen => exact later (List.Subset.refl seen) (by simpa using hseen)
    · exact congrArg (x :: ·) (later (List.subset_cons_self x.path seen) List.mem_cons_self)

/-- Where each stretch is followed by repeats from it, the repeats can be left out. -/
theorem firstByPath_flatMap_repeats {α : Type} {found again : α → List Match} {l : List α}
    (h : ∀ x ∈ l, again x ⊆ found x) (seen : List String) (front : List Match) :
    firstByPath seen (front ++ l.flatMap fun x => found x ++ again x) =
      firstByPath seen (front ++ l.flatMap found) := by
  -- The stretches done so far go to the front, as the repeats of the next one come behind them.
  induction l generalizing front with
  | nil => rfl
  | cons x l ih =>
    have repeats : ∀ m ∈ again x, m.path ∈ seen ∨ m.path ∈ (front ++ found x).map Match.path := by
      intro m hm
      have hfound : m ∈ front ++ found x := List.mem_append_right _ (h x List.mem_cons_self hm)
      exact .inr (List.mem_map_of_mem hfound)
    have rest := ih (fun y hy => h y (List.mem_cons_of_mem x hy)) (front ++ found x)
    have dropped := firstByPath_append_repeats repeats (l.flatMap fun x => found x ++ again x)
    simp only [List.flatMap_cons, List.append_assoc] at rest dropped ⊢
    exact dropped.trans rest

theorem select_ordered_of_evaluate {doc : Document} {parts : List Query.Part} {limit : Nat}
    {t : Trail} {ids : List ElementId} (h : evaluate doc limit parts .empty = (t, .ok ids)) :
    select doc parts .ordered limit = .ok (ids.map (t.matchAt doc)) := by
  unfold select
  rw [h]
  rfl

theorem select_unique_of_evaluate {doc : Document} {parts : List Query.Part} {limit : Nat}
    {t : Trail} {ids : List ElementId} (h : evaluate doc limit parts .empty = (t, .ok ids)) :
    select doc parts .unique limit = .ok (firstByPath [] (ids.map (t.matchAt doc))) := by
  unfold select
  rw [h]
  rfl

theorem exists_elements_of_select {doc : Document} {parts : List Query.Part} {mode : ResultMode}
    {limit : Nat} {ms : List Match} (h : select doc parts mode limit = .ok ms) :
    ∃ t ids, evaluate doc limit parts .empty = (t, .ok ids) ∧
      ∀ m ∈ ms, ∃ id ∈ ids, t.matchAt doc id = m := by
  obtain ⟨t, found⟩ : ∃ t found, evaluate doc limit parts .empty = (t, found) := ⟨_, _, rfl⟩
  obtain ⟨found, run⟩ := found
  cases found with
  | error e =>
    rw [select, run] at h
    cases h
  | ok ids =>
    refine ⟨t, ids, run, fun m hm => ?_⟩
    have among : m ∈ ids.map (t.matchAt doc) := by
      cases mode with
      | ordered =>
        rw [select_ordered_of_evaluate run] at h
        cases h
        exact hm
      | unique =>
        rw [select_unique_of_evaluate run] at h
        cases h
        exact (firstByPath_sublist [] _).subset hm
    exact List.mem_map.mp among

theorem exists_kept_of_evaluate {doc : Document} {parts : List Query.Part} {limit : Nat}
    {t : Trail} {ids : List ElementId} (h : evaluate doc limit parts .empty = (t, .ok ids)) :
    ∃ kept : List ElementId, kept.Sublist ids ∧
      select doc parts .unique limit = .ok (kept.map (t.matchAt doc)) ∧
      (∀ id ∈ ids, ∃ k ∈ kept, t.path doc k = t.path doc id) ∧
      kept.Pairwise fun a b => t.path doc a ≠ t.path doc b := by
  obtain ⟨kept, hsub, hkept⟩ :=
    List.sublist_map_iff.mp (firstByPath_sublist [] (ids.map (t.matchAt doc)))
  refine ⟨kept, hsub, ?_, fun id hid => ?_, ?_⟩
  · rw [select_unique_of_evaluate h, hkept]
  · have hmem : t.matchAt doc id ∈ ids.map (t.matchAt doc) := List.mem_map_of_mem hid
    obtain ⟨m, hm, hpath⟩ := (exists_mem_firstByPath [] hmem).resolve_left List.not_mem_nil
    rw [hkept] at hm
    obtain ⟨k, hk, rfl⟩ := List.mem_map.mp hm
    exact ⟨k, hk, hpath⟩
  · have hpairs := pairwise_firstByPath [] (ids.map (t.matchAt doc))
    rwa [hkept, List.pairwise_map] at hpairs

end PathQuery
