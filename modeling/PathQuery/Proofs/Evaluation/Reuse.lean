import PathQuery.Proofs.Evaluation.Links

/-!
Evaluations on a trail that holds elements already. An evaluation starts at an
element of its own, and all it looks at is linked to that one. So behind other
elements it does what it does on the empty trail, only that its elements have
places further on, and the elements in front stay as they are.
-/
namespace PathQuery

variable {doc : Document} {t t' : Trail} {id : ElementId}

def Element.behind (n : Nat) (e : Element) : Element :=
  ⟨e.node, e.origin.map fun o => (n + o.1, o.2)⟩

namespace Trail

def append (t s : Trail) : Trail := ⟨t.elements ++ s.elements.map (Element.behind t.size)⟩

theorem append_empty (t : Trail) : t.append .empty = t := by simp [append, empty]

theorem size_append (t s : Trail) : (t.append s).size = t.size + s.size := by
  simp [append, size]

theorem get_append (t s : Trail) (id : ElementId) :
    (t.append s).get (t.size + id) = (s.get id).behind t.size := by
  have there : (t.append s).elements[t.size + id]? = s.elements[id]?.map (Element.behind t.size) := by
    simp [append, size, Array.getElem?_append_right]
  unfold get
  rw [there]
  cases s.elements[id]? <;> rfl

theorem append_push (t s : Trail) (e : Element) :
    (t.append s).push (e.behind t.size) = t.append (s.push e) := by simp [append, push]

theorem kept_append (t s : Trail) : t.Kept (t.append s) := by
  intro id e he
  obtain ⟨hid, -⟩ := Array.getElem?_eq_some_iff.mp he
  rw [append, Array.getElem?_append_left hid, he]

theorem pushChildren_append (t s : Trail) (id : ElementId) (children : List (Key × NodeId)) :
    (t.append s).pushChildren (t.size + id) children =
      (t.append (s.pushChildren id children).1,
        (s.pushChildren id children).2.map (t.size + ·)) := by
  induction children generalizing s with
  | nil => rfl
  | cons c rest ih =>
    have pushed := append_push t s ⟨c.2, some (id, c.1)⟩
    simp only [Element.behind, Option.map_some] at pushed
    simp only [pushChildren, pushChild, size_append, pushed, ih, List.map_cons]

theorem segments_append (t s : Trail) (doc : Document) (id : ElementId) :
    (t.append s).segments doc (t.size + id) = s.segments doc id := by
  induction id using Nat.strongRecOn with
  | _ id ih =>
    rw [segments, segments, get_append]
    cases s.get id with
    | mk node origin =>
      cases origin with
      | none => rfl
      | some o =>
        obtain ⟨parent, key⟩ := o
        simp only [Element.behind, Option.map_some, get_append, Nat.add_lt_add_iff_left]
        split
        · next lt => rw [ih parent lt]
        · rfl

theorem matchAt_append (t s : Trail) (doc : Document) (id : ElementId) :
    (t.append s).matchAt doc (t.size + id) = s.matchAt doc id := by
  rw [matchAt, matchAt, path, path, segments_append, get_append]
  rfl

theorem Linked.segments_kept (h : t.Linked doc) (kept : t.Kept t') (hid : id < t.size) :
    t'.segments doc id = t.segments doc id := by
  induction id using Nat.strongRecOn with
  | _ id ih =>
    have link := h.at hid
    rw [segments, segments, kept.get_eq hid]
    generalize t.get id = e at link
    cases link with
    | root => rfl
    | child lt leads =>
      have inside := Nat.lt_trans lt hid
      simp only [kept.get_eq inside, ih _ lt inside]

end Trail

namespace Walk

/-- A walk made behind the elements of a trail. -/
def behind (t : Trail) (w : Walk) : Walk :=
  (t.append w.1, w.2.map fun ids => ids.map (t.size + ·))

theorem behind_bind {w : Walk} {next next' : Trail → List ElementId → Walk}
    (h : ∀ s ids, next' (t.append s) (ids.map (t.size + ·)) = (next s ids).behind t) :
    (match w.behind t with
      | (t, .error e) => (t, .error e)
      | (t, .ok ids) => next' t ids) =
    Walk.behind t (match w with
      | (t, .error e) => (t, .error e)
      | (t, .ok ids) => next t ids) := by
  obtain ⟨s, r⟩ := w
  cases r with
  | error e => rfl
  | ok ids => exact h s ids

theorem each_behind {walk walk' : ElementId → Trail → Walk}
    (hw : ∀ id s, walk' (t.size + id) (t.append s) = (walk id s).behind t) (ids : List ElementId)
    (s : Trail) :
    Walk.each walk' (ids.map (t.size + ·)) (t.append s) = (Walk.each walk ids s).behind t := by
  induction ids generalizing s with
  | nil => rfl
  | cons id ids ih =>
    simp only [List.map_cons, Walk.each, hw]
    refine behind_bind fun u found => ?_
    rw [ih]
    refine behind_bind fun u more => ?_
    rw [← List.map_append]
    rfl

end Walk

namespace Evaluation

theorem descend_behind (doc : Document) (error : EvaluationError) (budget : Nat) (id : ElementId)
    (s : Trail) : descend doc error budget (t.size + id) (t.append s) =
      (descend doc error budget id s).behind t := by
  induction budget generalizing id s with
  | zero => rfl
  | succ budget ih =>
    simp only [descend, Trail.get_append, Trail.pushChildren_append, Element.behind]
    rw [Walk.each_behind ih]
    exact Walk.behind_bind fun u below => rfl

theorem select_behind (doc : Document) (error : EvaluationError) (budget : Nat) (id : ElementId)
    (specifier : Query.Specifier) (s : Trail) :
    select doc error budget (t.size + id) specifier (t.append s) =
      (select doc error budget id specifier s).behind t := by
  cases specifier with
  | parent =>
    -- The element it was reached from is as many places further on.
    simp only [select, Trail.get_append]
    cases s.get id with
    | mk node origin => cases origin <;> rfl
  | children =>
    simp only [select, Trail.get_append, Trail.pushChildren_append]
    rfl
  | descendants => exact descend_behind doc error budget id s
  | literal text =>
    simp only [select, Trail.get_append, Trail.pushChildren_append]
    rfl

theorem follow_behind (doc : Document) (error : EvaluationError) (parts : List Query.Part)
    (budget : Nat) (id : ElementId) (s : Trail) :
    follow doc error parts budget (t.size + id) (t.append s) =
      (follow doc error parts budget id s).behind t := by
  induction parts generalizing budget id s with
  | nil => cases budget <;> rfl
  | cons part rest ih =>
    cases budget with
    | zero => rfl
    | succ budget =>
      simp only [follow, select_behind]
      refine Walk.behind_bind fun u selected => ?_
      refine Walk.each_behind (fun id s => ?_) selected u
      simp only [Trail.get_append, Element.behind]
      cases Query.acceptAll part.filters (doc.get (s.get id).node) with
      | true => exact ih budget id s
      | false => rfl

end Evaluation

theorem evaluate_behind (doc : Document) (limit : Nat) (parts : List Query.Part) (t : Trail) :
    evaluate doc limit parts t = (evaluate doc limit parts .empty).behind t := by
  have root : t.push ⟨doc.root, none⟩ = t.append (Trail.empty.push ⟨doc.root, none⟩) := by
    have pushed := Trail.append_push t .empty ⟨doc.root, none⟩
    rwa [Trail.append_empty] at pushed
  have follows := Evaluation.follow_behind (t := t) doc (.depthExceeded limit) parts (limit + 1) 0
    (Trail.empty.push ⟨doc.root, none⟩)
  rw [← root] at follows
  exact follows

/-- The trail that evaluations of some lists of parts leave, one after the other, failed ones too. -/
def evaluateAll (doc : Document) (limit : Nat) (queries : List (List Query.Part)) (t : Trail) :
    Trail :=
  queries.foldl (fun t parts => (evaluate doc limit parts t).1) t

theorem evaluateAll_append (doc : Document) (limit : Nat) (queries more : List (List Query.Part))
    (t : Trail) : evaluateAll doc limit (queries ++ more) t =
      evaluateAll doc limit more (evaluateAll doc limit queries t) := List.foldl_append

theorem kept_evaluateAll (doc : Document) (limit : Nat) (queries : List (List Query.Part))
    (t : Trail) : t.Kept (evaluateAll doc limit queries t) := by
  induction queries generalizing t with
  | nil => exact .refl t
  | cons parts rest ih =>
    have kept : t.Kept (evaluate doc limit parts t).1 := by
      rw [evaluate_behind]
      exact Trail.kept_append t _
    exact kept.trans (ih _)

theorem Document.Session.evaluateAll (h : doc.Session t) (limit : Nat)
    (queries : List (List Query.Part)) : doc.Session (evaluateAll doc limit queries t) := by
  induction queries generalizing t with
  | nil => exact h
  | cons parts rest ih => exact ih (h.step limit parts)

/-- Whatever was evaluated before on one trail, an evaluation fails as it does on the empty trail, or
else finds the same nodes at the same paths, in elements that are further on by the size of the trail.
Evaluations that come after it change none of the elements that are there, nor their paths. -/
theorem evaluate_unaffected_by_earlier (doc : Document) (limit : Nat)
    (earlier later : List (List Query.Part)) (parts : List Query.Part) :
    let t := evaluateAll doc limit earlier .empty
    let fresh := evaluate doc limit parts .empty
    let reused := evaluate doc limit parts t
    let last := evaluateAll doc limit (earlier ++ parts :: later) .empty
    (∀ e, reused.2 = .error e ↔ fresh.2 = .error e) ∧
      (∀ ids, fresh.2 = .ok ids → reused.2 = .ok (ids.map (t.size + ·)) ∧
        (ids.map (t.size + ·)).map (reused.1.matchAt doc) = ids.map (fresh.1.matchAt doc)) ∧
      ∀ id < reused.1.size, last.elements[id]? = some (reused.1.get id) ∧
        last.path doc id = reused.1.path doc id := by
  intro t fresh reused last
  have behind : reused = fresh.behind t := evaluate_behind doc limit parts t
  refine ⟨fun e => ?_, fun ids found => ⟨?_, ?_⟩, fun id hid => ?_⟩
  · rw [behind, Walk.behind]
    cases fresh.2 <;> simp [Except.map]
  · rw [behind, Walk.behind, found]
    rfl
  · rw [behind, List.map_map]
    exact List.map_congr_left fun id _ => Trail.matchAt_append t fresh.1 doc id
  · have session : doc.Session reused.1 := (Document.Session.start.evaluateAll limit earlier).step _ _
    have kept : reused.1.Kept last := by
      have whole : last = evaluateAll doc limit later reused.1 :=
        evaluateAll_append doc limit earlier (parts :: later) .empty
      rw [whole]
      exact kept_evaluateAll doc limit later reused.1
    refine ⟨kept id _ (Trail.getElem?_of_lt hid), ?_⟩
    rw [Trail.path, Trail.path, session.linked.segments_kept kept hid]

theorem evaluate_unaffected_by_earlier_looping :
    let t := evaluateAll .looping 3 [[⟨.descendants, []⟩]] .empty
    let parts : List Query.Part := [⟨.children, []⟩, ⟨.literal "null", []⟩]
    let last := evaluateAll .looping 3 ([[⟨.descendants, []⟩]] ++ parts :: [[⟨.children, []⟩]]) .empty
    (evaluate .looping 3 [⟨.descendants, []⟩] .empty).2 = .error (.depthExceeded 3) ∧
      (evaluate .looping 3 parts .empty).2 = .ok [3, 4] ∧
      (evaluate .looping 3 parts t).2 = .ok [12, 13] ∧
      last.path .looping 13 = (evaluate .looping 3 parts t).1.path .looping 13 := by
  intro t parts last
  obtain ⟨-, found, kept⟩ := evaluate_unaffected_by_earlier .looping 3 [[⟨.descendants, []⟩]]
    [[⟨.children, []⟩]] parts
  have fresh : (evaluate .looping 3 parts .empty).2 = .ok [3, 4] := by rfl
  exact ⟨by rfl, fresh, (found _ fresh).1, (kept 13 (by decide)).2⟩

end PathQuery
