import PathQuery.Document.Json
import PathQuery.Document.Yaml

/-!
Entries put in one after the other. A key that is there already takes the new
value, in its old place. So all entries stay, and stay in order, exactly when no
key is the same as an earlier one.
-/
namespace PathQuery

section Put

variable {κ α : Type} {same : κ → κ → Bool}

def putEntry (same : κ → κ → Bool) (e : κ × α) : List (κ × α) → List (κ × α)
  | [] => [e]
  | x :: rest => if same x.1 e.1 then (x.1, e.2) :: rest else x :: putEntry same e rest

def putEntries (same : κ → κ → Bool) (acc entries : List (κ × α)) : List (κ × α) :=
  entries.foldl (fun acc e => putEntry same e acc) acc

/-- No entry has a key that is the same as one in `acc`, or as that of an earlier entry. -/
structure Fresh (same : κ → κ → Bool) (acc entries : List (κ × α)) : Prop where
  apart : ∀ a ∈ acc, ∀ e ∈ entries, same a.1 e.1 = false
  pairwise : entries.Pairwise fun a b => same a.1 b.1 = false

theorem putEntries_cons (acc : List (κ × α)) (e : κ × α) (entries : List (κ × α)) :
    putEntries same acc (e :: entries) = putEntries same (putEntry same e acc) entries := rfl

theorem putEntry_of_fresh {e : κ × α} {acc : List (κ × α)}
    (fresh : ∀ a ∈ acc, same a.1 e.1 = false) : putEntry same e acc = acc ++ [e] := by
  induction acc with
  | nil => rfl
  | cons a rest ih =>
    obtain ⟨hfirst, hrest⟩ := List.forall_mem_cons.mp fresh
    simp [putEntry, hfirst, ih hrest]

theorem length_putEntry_of_taken {e : κ × α} {acc : List (κ × α)}
    (taken : ¬ ∀ a ∈ acc, same a.1 e.1 = false) : (putEntry same e acc).length = acc.length := by
  induction acc with
  | nil => simp at taken
  | cons a rest ih =>
    by_cases hfirst : same a.1 e.1
    · simp [putEntry, hfirst]
    · have later : ¬ ∀ a ∈ rest, same a.1 e.1 = false := fun fresh =>
        taken (List.forall_mem_cons.mpr ⟨by simpa using hfirst, fresh⟩)
      simp [putEntry, hfirst, ih later]

theorem fresh_cons {acc : List (κ × α)} {e : κ × α} {entries : List (κ × α)} :
    Fresh same acc (e :: entries) ↔
      (∀ a ∈ acc, same a.1 e.1 = false) ∧ Fresh same (acc ++ [e]) entries := by
  constructor
  · rintro ⟨apart, pairwise⟩
    obtain ⟨first, later⟩ := List.pairwise_cons.mp pairwise
    refine ⟨fun a ha => apart a ha e List.mem_cons_self, fun a ha x hx => ?_, later⟩
    rcases List.mem_append.mp ha with ha | ha
    · exact apart a ha x (List.mem_cons_of_mem _ hx)
    · exact List.mem_singleton.mp ha ▸ first x hx
  · rintro ⟨first, apart, pairwise⟩
    refine ⟨fun a ha => List.forall_mem_cons.mpr ⟨first a ha, fun x hx => ?_⟩, ?_⟩
    · exact apart a (List.mem_append_left _ ha) x hx
    · exact .cons (apart e (List.mem_append_right _ (List.mem_singleton_self e))) pairwise

theorem putEntries_of_fresh {acc entries : List (κ × α)} (fresh : Fresh same acc entries) :
    putEntries same acc entries = acc ++ entries := by
  induction entries generalizing acc with
  | nil => simp [putEntries]
  | cons e entries ih =>
    obtain ⟨hfirst, hrest⟩ := fresh_cons.mp fresh
    rw [putEntries_cons, putEntry_of_fresh hfirst, ih hrest, List.append_assoc]
    rfl

theorem length_putEntry_le (e : κ × α) (acc : List (κ × α)) :
    (putEntry same e acc).length ≤ acc.length + 1 := by
  by_cases fresh : ∀ a ∈ acc, same a.1 e.1 = false
  · simp [putEntry_of_fresh fresh]
  · rw [length_putEntry_of_taken fresh]
    omega

theorem length_putEntries_le (acc entries : List (κ × α)) :
    (putEntries same acc entries).length ≤ acc.length + entries.length := by
  induction entries generalizing acc with
  | nil => simp [putEntries]
  | cons e entries ih =>
    have first : (putEntry same e acc).length ≤ acc.length + 1 := length_putEntry_le e acc
    have later := ih (putEntry same e acc)
    rw [putEntries_cons, List.length_cons]
    omega

theorem length_putEntries_lt {acc entries : List (κ × α)} (h : ¬ Fresh same acc entries) :
    (putEntries same acc entries).length < acc.length + entries.length := by
  induction entries generalizing acc with
  | nil => exact absurd ⟨fun _ _ => nofun, .nil⟩ h
  | cons e entries ih =>
    rw [putEntries_cons, List.length_cons]
    by_cases first : ∀ a ∈ acc, same a.1 e.1 = false
    · have later := ih fun fresh => h (fresh_cons.mpr ⟨first, fresh⟩)
      rw [List.length_append, List.length_singleton] at later
      rw [putEntry_of_fresh first]
      omega
    · have later : (putEntries same (putEntry same e acc) entries).length ≤
          (putEntry same e acc).length + entries.length := length_putEntries_le _ _
      rw [length_putEntry_of_taken first] at later
      omega

theorem value_of_mem_putEntry {x e : κ × α} {acc : List (κ × α)} (h : x ∈ putEntry same e acc) :
    x.2 = e.2 ∨ x ∈ acc := by
  induction acc with
  | nil => exact .inl (by rw [List.mem_singleton.mp h])
  | cons a rest ih =>
    unfold putEntry at h
    split at h
    · rcases List.mem_cons.mp h with rfl | h
      · exact .inl rfl
      · exact .inr (List.mem_cons_of_mem _ h)
    · rcases List.mem_cons.mp h with rfl | h
      · exact .inr List.mem_cons_self
      · exact (ih h).imp_right (List.mem_cons_of_mem _)

theorem value_of_mem_putEntries {x : κ × α} {acc entries : List (κ × α)}
    (h : x ∈ putEntries same acc entries) : x ∈ acc ∨ ∃ e ∈ entries, x.2 = e.2 := by
  induction entries generalizing acc with
  | nil => exact .inl h
  | cons e entries ih =>
    rcases ih h with h | ⟨e', he', hvalue⟩
    · rcases value_of_mem_putEntry h with hvalue | h
      · exact .inr ⟨e, List.mem_cons_self, hvalue⟩
      · exact .inl h
    · exact .inr ⟨e', List.mem_cons_of_mem _ he', hvalue⟩

theorem fresh_nil {entries : List (κ × α)} :
    Fresh same [] entries ↔ entries.Pairwise fun a b => same a.1 b.1 = false :=
  ⟨Fresh.pairwise, fun h => ⟨nofun, h⟩⟩

end Put

theorem insertEntry_eq_putEntry {κ α : Type} [DecidableEq κ] (e : κ × α) (acc : List (κ × α)) :
    insertEntry e.1 e.2 acc = putEntry (fun a b => decide (a = b)) e acc := by
  induction acc with
  | nil => rfl
  | cons a rest ih => simp only [insertEntry, putEntry, ih, decide_eq_true_eq]

theorem Yaml.insertEntry_eq_putEntry (e : Yaml × Yaml) (acc : List (Yaml × Yaml)) :
    Yaml.insertEntry e.1 e.2 acc = putEntry Yaml.sameKey e acc := by
  induction acc with
  | nil => rfl
  | cons a rest ih => simp only [Yaml.insertEntry, putEntry, ih]

end PathQuery
