import PathQuery.Json.Reader

/-!
No object that is read has a name twice. A member whose name is there already
takes the place of the earlier one, and all that readers do to the members read
so far is to put another one in.
-/
namespace PathQuery

section Entries

variable {κ α : Type} [DecidableEq κ]

theorem mem_of_mem_insertEntry {key : κ} {value : α} {entries : List (κ × α)} {e : κ × α}
    (h : e ∈ insertEntry key value entries) : e.2 = value ∨ ∃ x ∈ entries, x.2 = e.2 := by
  induction entries with
  | nil =>
    rw [insertEntry, List.mem_singleton] at h
    exact .inl (h ▸ rfl)
  | cons x rest ih =>
    unfold insertEntry at h
    split at h
    · rcases List.mem_cons.mp h with rfl | h
      · exact .inl rfl
      · exact .inr ⟨e, List.mem_cons_of_mem _ h, rfl⟩
    · rcases List.mem_cons.mp h with rfl | h
      · exact .inr ⟨_, List.mem_cons_self, rfl⟩
      · rcases ih h with h | ⟨y, hy, heq⟩
        · exact .inl h
        · exact .inr ⟨y, List.mem_cons_of_mem _ hy, heq⟩

theorem key_of_mem_insertEntry {key : κ} {value : α} {entries : List (κ × α)} {k : κ}
    (h : k ∈ (insertEntry key value entries).map Prod.fst) :
    k = key ∨ k ∈ entries.map Prod.fst := by
  induction entries with
  | nil => exact .inl (List.mem_singleton.mp h)
  | cons x rest ih =>
    unfold insertEntry at h
    split at h
    · exact .inr h
    · rcases List.mem_cons.mp h with rfl | h
      · exact .inr List.mem_cons_self
      · exact (ih h).imp_right (List.mem_cons_of_mem _)

theorem nodup_insertEntry {entries : List (κ × α)} (h : (entries.map Prod.fst).Nodup) (key : κ)
    (value : α) : ((insertEntry key value entries).map Prod.fst).Nodup := by
  induction entries with
  | nil => simp [insertEntry]
  | cons x rest ih =>
    rw [List.map_cons, List.nodup_cons] at h
    unfold insertEntry
    split
    · exact List.nodup_cons.mpr h
    · next hne =>
      refine List.nodup_cons.mpr ⟨fun hmem => ?_, ih h.2⟩
      rcases key_of_mem_insertEntry hmem with heq | hmem
      · exact hne heq
      · exact h.1 hmem

end Entries

namespace Json

inductive NamesDistinct : Json → Prop
  | null : NamesDistinct .null
  | bool (b : Bool) : NamesDistinct (.bool b)
  | number (n : JsonNumber) : NamesDistinct (.number n)
  | string (s : String) : NamesDistinct (.string s)
  | array {items : List Json} (h : ∀ v ∈ items, NamesDistinct v) : NamesDistinct (.array items)
  | object {members : List (String × Json)} (hn : (members.map Prod.fst).Nodup)
      (h : ∀ m ∈ members, NamesDistinct m.2) : NamesDistinct (.object members)

theorem fst_of_readIdent {α : Type} {value : α} {es cs : List Char} {r : α × List Char}
    (h : readIdent value es cs = .ok r) : r.1 = value := by
  induction es generalizing cs with
  | nil =>
    cases h
    rfl
  | cons e es ih =>
    cases cs with
    | nil => cases h
    | cons c cs =>
      unfold readIdent at h
      split at h
      · exact ih h
      · cases h

theorem of_map_eq_ok {α : Type} {x : Except Fault α} {f : α → Json × List Char}
    {r : Json × List Char} (hf : ∀ a, (f a).1.NamesDistinct) (h : x.map f = .ok r) :
    r.1.NamesDistinct := by
  cases x with
  | error e => cases h
  | ok a =>
    cases h
    exact hf a

/-- Whatever is read with so much fuel has no name twice. -/
structure ReadsDistinct (fuel : Nat) : Prop where
  value {depth : Nat} {cs : List Char} {r : Json × List Char}
    (h : readValue fuel depth cs = .ok r) : r.1.NamesDistinct
  items {depth : Nat} {first : Bool} {acc : List Json} {cs : List Char} {r : Json × List Char}
    (hacc : ∀ v ∈ acc, v.NamesDistinct) (h : readItems fuel depth first acc cs = .ok r) :
    r.1.NamesDistinct
  item {depth : Nat} {acc : List Json} {cs : List Char} {r : Json × List Char}
    (hacc : ∀ v ∈ acc, v.NamesDistinct) (h : readItem fuel depth acc cs = .ok r) :
    r.1.NamesDistinct
  members {depth : Nat} {first : Bool} {acc : List (String × Json)} {cs : List Char}
    {r : Json × List Char} (hacc : (Json.object acc).NamesDistinct)
    (h : readMembers fuel depth first acc cs = .ok r) : r.1.NamesDistinct
  member {depth : Nat} {acc : List (String × Json)} {cs : List Char} {r : Json × List Char}
    (hacc : (Json.object acc).NamesDistinct) (h : readMember fuel depth acc cs = .ok r) :
    r.1.NamesDistinct

variable {fuel depth : Nat} {first : Bool} {cs : List Char} {r : Json × List Char}

theorem ReadsDistinct.value_succ (ih : ReadsDistinct fuel)
    (h : readValue (fuel + 1) depth cs = .ok r) : r.1.NamesDistinct := by
  unfold readValue at h
  split at h
  · cases h
  split at h
  · exact fst_of_readIdent h ▸ .null
  split at h
  · exact fst_of_readIdent h ▸ .bool true
  split at h
  · exact fst_of_readIdent h ▸ .bool false
  split at h
  · exact of_map_eq_ok (fun n => .number n.1) h
  split at h
  · exact of_map_eq_ok (fun n => .number n.1) h
  split at h
  · exact of_map_eq_ok (fun s => .string s.1) h
  split at h
  · split at h
    · cases h
    · exact ih.items (by simp) h
  split at h
  · split at h
    · cases h
    · have hnil : (Json.object []).NamesDistinct := .object List.nodup_nil (by simp)
      exact ih.members hnil h
  · cases h

theorem ReadsDistinct.items_succ {acc : List Json} (ih : ReadsDistinct fuel)
    (hacc : ∀ v ∈ acc, v.NamesDistinct) (h : readItems (fuel + 1) depth first acc cs = .ok r) :
    r.1.NamesDistinct := by
  unfold readItems at h
  split at h
  · cases h
  split at h
  · cases h
    exact .array fun v hv => hacc v (List.mem_reverse.mp hv)
  split at h
  · exact ih.item hacc h
  split at h
  · split at h
    · cases h
    split at h
    · cases h
    · exact ih.item hacc h
  · cases h

theorem ReadsDistinct.item_succ {acc : List Json} (ih : ReadsDistinct fuel)
    (hacc : ∀ v ∈ acc, v.NamesDistinct) (h : readItem (fuel + 1) depth acc cs = .ok r) :
    r.1.NamesDistinct := by
  unfold readItem at h
  split at h
  · next v rest hv =>
    exact ih.items (List.forall_mem_cons.mpr ⟨ih.value hv, hacc⟩) h
  · cases h

theorem ReadsDistinct.members_succ {acc : List (String × Json)} (ih : ReadsDistinct fuel)
    (hacc : (Json.object acc).NamesDistinct)
    (h : readMembers (fuel + 1) depth first acc cs = .ok r) : r.1.NamesDistinct := by
  unfold readMembers at h
  split at h
  · cases h
  split at h
  · cases h
    exact hacc
  split at h
  · split at h
    · exact ih.member hacc h
    · cases h
  split at h
  · split at h
    · cases h
    split at h
    · exact ih.member hacc h
    split at h <;> cases h
  · cases h

theorem NamesDistinct.insertEntry {acc : List (String × Json)} {v : Json} (name : String)
    (hacc : (Json.object acc).NamesDistinct) (hv : v.NamesDistinct) :
    (Json.object (insertEntry name v acc)).NamesDistinct := by
  cases hacc with
  | object hn h =>
    refine .object (nodup_insertEntry hn name v) fun m hm => ?_
    rcases mem_of_mem_insertEntry hm with heq | ⟨x, hx, heq⟩
    · rwa [heq]
    · rw [← heq]
      exact h x hx

theorem ReadsDistinct.member_succ {acc : List (String × Json)} (ih : ReadsDistinct fuel)
    (hacc : (Json.object acc).NamesDistinct) (h : readMember (fuel + 1) depth acc cs = .ok r) :
    r.1.NamesDistinct := by
  unfold readMember at h
  split at h
  · cases h
  split at h
  · cases h
  split at h
  · cases h
  split at h
  · next v rest hv => exact ih.members (hacc.insertEntry _ (ih.value hv)) h
  · cases h

theorem readsDistinct (fuel : Nat) : ReadsDistinct fuel := by
  induction fuel with
  | zero =>
    refine ⟨fun h => ?_, fun _ h => ?_, fun _ h => ?_, fun _ h => ?_, fun _ h => ?_⟩
    · rw [readValue] at h; cases h
    · rw [readItems] at h; cases h
    · rw [readItem] at h; cases h
    · rw [readMembers] at h; cases h
    · rw [readMember] at h; cases h
  | succ fuel ih =>
    exact ⟨ih.value_succ, ih.items_succ, ih.item_succ, ih.members_succ, ih.member_succ⟩

theorem read_namesDistinct {s : String} {v : Json} (h : read s = .ok v) : v.NamesDistinct := by
  unfold read at h
  split at h
  · next v' hread =>
    cases h
    unfold readChars at hread
    cases hr : readValue (4 * s.toList.length + 4) depthLimit s.toList with
    | error f => rw [hr] at hread; cases hread
    | ok r =>
      rw [hr] at hread
      simp only [bind, Except.bind] at hread
      split at hread
      · cases hread
        exact (readsDistinct _).value hr
      · cases hread
  · cases h

end Json

end PathQuery
