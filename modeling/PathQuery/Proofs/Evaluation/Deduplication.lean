import PathQuery.Proofs.Evaluation.Identity
import Mathlib.Data.List.Induction

/-!
Results without repeats as a map from paths to matches. Matches are put in one
after the other, each at the end and under its own path, unless the path is there
already. So the map has the matches whose path occurs at no earlier place, in
order, and these are the results that are left of all results.
-/
namespace PathQuery

def putIfAbsent {κ α : Type} [DecidableEq κ] (key : κ) (value : α) (entries : List (κ × α)) :
    List (κ × α) :=
  if key ∈ entries.map Prod.fst then entries else entries ++ [(key, value)]

/-- The map of matches by their paths, each put in behind those before it. -/
def storedByPath (ms : List Match) : List (String × Match) :=
  ms.foldl (fun entries m => putIfAbsent m.path m entries) []

/-- The matches whose path occurs at no earlier place. -/
def firstOccurrences (ms : List Match) : List Match :=
  (ms.zipIdx.filter fun m => m.1.path ∉ (ms.take m.2).map Match.path).map Prod.fst

section Maps

variable {κ α : Type} [DecidableEq κ] {key : κ} {value : α} {entries : List (κ × α)}

theorem putIfAbsent_of_mem (h : key ∈ entries.map Prod.fst) :
    putIfAbsent key value entries = entries := if_pos h

theorem putIfAbsent_of_notMem (h : key ∉ entries.map Prod.fst) :
    putIfAbsent key value entries = entries ++ [(key, value)] := if_neg h

theorem mem_keys_putIfAbsent {k : κ} : k ∈ (putIfAbsent key value entries).map Prod.fst ↔
    k ∈ entries.map Prod.fst ∨ k = key := by
  by_cases h : key ∈ entries.map Prod.fst
  · rw [putIfAbsent_of_mem h]
    exact ⟨.inl, fun hk => hk.elim id fun heq => heq ▸ h⟩
  · rw [putIfAbsent_of_notMem h, List.map_append, List.mem_append, List.map_singleton,
      List.mem_singleton]

theorem nodup_keys_putIfAbsent (h : (entries.map Prod.fst).Nodup) :
    ((putIfAbsent key value entries).map Prod.fst).Nodup := by
  by_cases hkey : key ∈ entries.map Prod.fst
  · rwa [putIfAbsent_of_mem hkey]
  · rw [putIfAbsent_of_notMem hkey, List.map_append, List.map_singleton, List.nodup_append]
    refine ⟨h, List.pairwise_singleton _ key, fun k hk k' hk' heq => hkey ?_⟩
    obtain rfl : k' = key := List.mem_singleton.mp hk'
    exact heq ▸ hk

end Maps

variable {ms : List Match}

theorem storedByPath_concat (ms : List Match) (m : Match) :
    storedByPath (ms ++ [m]) = putIfAbsent m.path m (storedByPath ms) := by
  simp [storedByPath]

theorem firstOccurrences_concat (ms : List Match) (m : Match) :
    firstOccurrences (ms ++ [m]) =
      firstOccurrences ms ++ if m.path ∈ ms.map Match.path then [] else [m] := by
  have front : (ms.zipIdx.filter fun x => x.1.path ∉ ((ms ++ [m]).take x.2).map Match.path) =
      ms.zipIdx.filter fun x => x.1.path ∉ (ms.take x.2).map Match.path := by
    refine List.filter_congr fun x hx => ?_
    have inside : x.2 ≤ ms.length := by
      have lt := List.snd_lt_of_mem_zipIdx hx
      omega
    rw [List.take_append_of_le_length inside]
  rw [firstOccurrences, List.zipIdx_append, List.filter_append, front, List.map_append]
  by_cases h : m.path ∈ ms.map Match.path <;> simp [firstOccurrences, h]

theorem firstByPath_concat (seen : List String) (ms : List Match) (m : Match) :
    firstByPath seen (ms ++ [m]) =
      firstByPath seen ms ++ if m.path ∈ seen ∨ m.path ∈ ms.map Match.path then [] else [m] := by
  induction ms generalizing seen with
  | nil => simp [firstByPath]
  | cons x ms ih =>
    simp only [List.cons_append, firstByPath, ih, List.contains_eq_mem, decide_eq_true_eq,
      List.map_cons, List.mem_cons]
    split
    · next hseen =>
      have same : m.path = x.path → m.path ∈ seen := fun heq => heq ▸ hseen
      simp only [← or_assoc, or_iff_left_of_imp same]
    · simp only [or_left_comm, or_assoc, List.cons_append]

theorem mem_keys_storedByPath {path : String} :
    path ∈ (storedByPath ms).map Prod.fst ↔ path ∈ ms.map Match.path := by
  induction ms using List.reverseRecOn with
  | nil => rfl
  | append_singleton ms m ih =>
    rw [storedByPath_concat, mem_keys_putIfAbsent, ih, List.map_append, List.mem_append,
      List.map_singleton, List.mem_singleton]

theorem nodup_keys_storedByPath (ms : List Match) : ((storedByPath ms).map Prod.fst).Nodup := by
  induction ms using List.reverseRecOn with
  | nil => exact .nil
  | append_singleton ms m ih =>
    rw [storedByPath_concat]
    exact nodup_keys_putIfAbsent ih

theorem key_of_mem_storedByPath {e : String × Match} (h : e ∈ storedByPath ms) :
    e.1 = e.2.path := by
  induction ms using List.reverseRecOn with
  | nil => cases h
  | append_singleton ms m ih =>
    rw [storedByPath_concat] at h
    by_cases hpath : m.path ∈ (storedByPath ms).map Prod.fst
    · exact ih (putIfAbsent_of_mem hpath ▸ h)
    · rw [putIfAbsent_of_notMem hpath] at h
      rcases List.mem_append.mp h with h | h
      · exact ih h
      · rw [List.mem_singleton.mp h]

theorem map_snd_storedByPath (ms : List Match) :
    (storedByPath ms).map Prod.snd = firstOccurrences ms := by
  induction ms using List.reverseRecOn with
  | nil => rfl
  | append_singleton ms m ih =>
    rw [storedByPath_concat, firstOccurrences_concat, ← ih]
    by_cases h : m.path ∈ ms.map Match.path
    · rw [putIfAbsent_of_mem (mem_keys_storedByPath.mpr h), if_pos h, List.append_nil]
    · rw [putIfAbsent_of_notMem (mt mem_keys_storedByPath.mp h), if_neg h, List.map_append,
        List.map_singleton]

theorem firstByPath_eq_firstOccurrences (ms : List Match) :
    firstByPath [] ms = firstOccurrences ms := by
  induction ms using List.reverseRecOn with
  | nil => rfl
  | append_singleton ms m ih =>
    rw [firstByPath_concat, firstOccurrences_concat, ih]
    simp only [List.not_mem_nil, false_or]

theorem select_unique_eq_map (doc : Document) (parts : List Query.Part) (limit : Nat) :
    select doc parts .unique limit = (select doc parts .ordered limit).map (firstByPath []) := by
  unfold select
  obtain ⟨t, found⟩ := evaluate doc limit parts .empty
  cases found <;> rfl

/-- Without repeats a query fails exactly when it fails with them, with the same error. Otherwise
its results are the entries of the map that all results go into one by one, which are the results
whose path occurs at no earlier place, in order. Each is stored under its own path, no path twice,
and every path that there is is there. -/
theorem unique_results_are_first_occurrences (doc : Document) (parts : List Query.Part)
    (limit : Nat) :
    (∀ e, select doc parts .unique limit = .error e ↔ select doc parts .ordered limit = .error e) ∧
      ∀ all, select doc parts .ordered limit = .ok all →
        select doc parts .unique limit = .ok ((storedByPath all).map Prod.snd) ∧
          (storedByPath all).map Prod.snd = firstOccurrences all ∧
          (∀ e ∈ storedByPath all, e.1 = e.2.path) ∧
          ((storedByPath all).map Prod.fst).Nodup ∧
          ∀ m ∈ all, m.path ∈ (storedByPath all).map Prod.fst := by
  constructor
  · intro e
    rw [select_unique_eq_map]
    cases select doc parts .ordered limit <;> simp [Except.map]
  · intro all found
    refine ⟨?_, map_snd_storedByPath all, fun _ => key_of_mem_storedByPath,
      nodup_keys_storedByPath all, fun m hm => ?_⟩
    · rw [select_unique_eq_map, found, map_snd_storedByPath, ← firstByPath_eq_firstOccurrences]
      rfl
    · exact mem_keys_storedByPath.mpr (List.mem_map_of_mem hm)

theorem unique_results_are_first_occurrences_fractional :
    select .fractional [⟨.descendants, []⟩, ⟨.descendants, []⟩] .ordered 4 =
        .ok [⟨7, ""⟩, ⟨2, "1.5"⟩, ⟨6, "1"⟩, ⟨5, "1.5"⟩, ⟨2, "1.5"⟩, ⟨6, "1"⟩, ⟨5, "1.5"⟩,
          ⟨5, "1.5"⟩] ∧
      select .fractional [⟨.descendants, []⟩, ⟨.descendants, []⟩] .unique 4 =
        .ok [⟨7, ""⟩, ⟨2, "1.5"⟩, ⟨6, "1"⟩] ∧
      select .fractional [⟨.descendants, []⟩] .unique 1 = .error (.depthExceeded 1) := by
  have all : select .fractional [⟨.descendants, []⟩, ⟨.descendants, []⟩] .ordered 4 =
      .ok [⟨7, ""⟩, ⟨2, "1.5"⟩, ⟨6, "1"⟩, ⟨5, "1.5"⟩, ⟨2, "1.5"⟩, ⟨6, "1"⟩, ⟨5, "1.5"⟩,
        ⟨5, "1.5"⟩] := by decide +kernel
  have twice := unique_results_are_first_occurrences .fractional
    [⟨.descendants, []⟩, ⟨.descendants, []⟩] 4
  have once := unique_results_are_first_occurrences .fractional [⟨.descendants, []⟩] 1
  obtain ⟨kept, first, -⟩ := twice.2 _ all
  refine ⟨all, ?_, (once.1 _).mpr (by decide +kernel)⟩
  rw [kept, first]
  decide +kernel

end PathQuery
