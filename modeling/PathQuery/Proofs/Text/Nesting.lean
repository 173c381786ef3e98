import PathQuery.Proofs.Text.Quoted

/-!
Where a dot separates. A dot inside brackets or inside a quoted text is part of
what stands there; any other dot ends a piece. Texts without dots of the second
kind can be put behind one another with dots and told apart again.
-/
namespace PathQuery.Text

/-- How deep a place in a text is in brackets, and whether it is in a quoted text. -/
inductive Nesting where
  | outside (depth : Nat)
  | inside (depth : Nat)
  | escaped (depth : Nat)
  deriving DecidableEq

namespace Nesting

def step : Nesting → Char → Nesting
  | outside depth, c =>
    if c = '"' then inside depth
    else if c = '[' ∨ c = '\x7b' then outside (depth + 1)
    else if c = ']' ∨ c = '\x7d' then outside (depth - 1)
    else outside depth
  | inside depth, c =>
    if c = '\\' then escaped depth else if c = '"' then outside depth else inside depth
  | escaped depth, _ => inside depth

/-- A text leads from one place to another without a dot that separates. -/
def Passes : Nesting → List Char → Nesting → Prop
  | s, [], s' => s = s'
  | s, c :: cs, s' => (s = outside 0 → c ≠ '.') ∧ Passes (s.step c) cs s'

theorem Passes.append {s s' s'' : Nesting} {as bs : List Char} (ha : Passes s as s')
    (hb : Passes s' bs s'') : Passes s (as ++ bs) s'' := by
  induction as generalizing s with
  | nil => exact (show s = s' from ha) ▸ hb
  | cons c as ih => exact ⟨ha.1, ih ha.2⟩

theorem Passes.cons {s s' : Nesting} {c : Char} {cs : List Char} (hc : c ≠ '.')
    (h : Passes (s.step c) cs s') : Passes s (c :: cs) s' := ⟨fun _ => hc, h⟩

theorem Passes.flatMap {α : Type} {s : Nesting} {f : α → List Char} (h : ∀ x, Passes s (f x) s)
    (xs : List α) : Passes s (xs.flatMap f) s := by
  induction xs with
  | nil => rfl
  | cons x xs ih => exact (h x).append ih

def isPlain (c : Char) : Bool := !(['"', '[', ']', '\x7b', '\x7d'].contains c)

theorem step_outside_of_isPlain {c : Char} (h : isPlain c) (depth : Nat) :
    (outside depth).step c = outside depth := by
  simp only [isPlain, Bool.not_eq_true', List.contains_eq_mem, decide_eq_false_iff_not,
    List.mem_cons, List.not_mem_nil, or_false, not_or] at h
  simp [step, h]

theorem passes_of_isPlain {cs : List Char} {depth : Nat} (h : ∀ c ∈ cs, isPlain c)
    (hdot : depth = 0 → '.' ∉ cs) : Passes (outside depth) cs (outside depth) := by
  induction cs with
  | nil => rfl
  | cons c cs ih =>
    constructor
    · rintro heq rfl
      exact hdot (outside.inj heq) List.mem_cons_self
    · rw [step_outside_of_isPlain (h c List.mem_cons_self)]
      exact ih (fun x hx => h x (List.mem_cons_of_mem _ hx))
        fun hd hmem => hdot hd (List.mem_cons_of_mem _ hmem)

theorem passes_inside {cs : List Char} (h : ∀ c ∈ cs, c ≠ '\\' ∧ c ≠ '"') (depth : Nat) :
    Passes (inside depth) cs (inside depth) := by
  induction cs with
  | nil => rfl
  | cons c cs ih =>
    obtain ⟨hback, hquote⟩ := h c List.mem_cons_self
    refine ⟨nofun, ?_⟩
    rw [show (inside depth).step c = inside depth by simp [step, hback, hquote]]
    exact ih fun x hx => h x (List.mem_cons_of_mem _ hx)

theorem passes_escape {c : Char} {cs : List Char} (h : ∀ x ∈ cs, x ≠ '\\' ∧ x ≠ '"')
    (depth : Nat) : Passes (inside depth) ('\\' :: c :: cs) (inside depth) :=
  ⟨nofun, nofun, passes_inside h depth⟩

theorem quotedChar_passes (c : Char) (depth : Nat) :
    Passes (inside depth) (quotedChar c) (inside depth) := by
  rcases quotedChar_cases c with ⟨e, -, h⟩ | ⟨hback, hquote, h⟩ | h
  · rw [h]
    exact passes_escape (by simp) depth
  · rw [h]
    exact passes_inside (by simp [hback, hquote]) depth
  · rw [h]
    refine passes_escape (fun x hx => ?_) depth
    have hdigit : ∀ d < 16, d.digitChar ≠ '\\' ∧ d.digitChar ≠ '"' := by decide
    rcases List.mem_cons.mp hx with rfl | hx
    · decide
    rcases List.mem_append.mp hx with hx | hx
    · obtain ⟨d, hd, rfl⟩ := digit_of_mem_codeText hx
      exact hdigit d hd
    · rw [List.mem_singleton.mp hx]
      decide

theorem Passes.quote {cs : List Char} {depth : Nat} (h : Passes (inside depth) cs (inside depth)) :
    Passes (outside depth) ('"' :: cs ++ ['"']) (outside depth) :=
  .cons (by decide) (h.append (.cons (by decide) rfl))

theorem Passes.bracket {cs : List Char} {depth : Nat} {opening closing : Char}
    (ho : opening ∈ ['[', '\x7b']) (hc : closing ∈ [']', '\x7d'])
    (h : Passes (outside (depth + 1)) cs (outside (depth + 1))) :
    Passes (outside depth) (opening :: cs ++ [closing]) (outside depth) := by
  simp only [List.mem_cons, List.not_mem_nil, or_false] at ho hc
  have hopen : (outside depth).step opening = outside (depth + 1) := by
    rcases ho with rfl | rfl <;> rfl
  have hclose : (outside (depth + 1)).step closing = outside depth := by
    rcases hc with rfl | rfl <;> rfl
  refine .cons (by rcases ho with rfl | rfl <;> decide) ?_
  rw [hopen]
  exact h.append ⟨nofun, hclose⟩

theorem quoted_passes (s : String) (depth : Nat) :
    Passes (outside depth) (quoted s).toList (outside depth) := by
  rw [quoted, String.toList_ofList]
  exact Passes.quote (.flatMap (fun c => quotedChar_passes c depth) s.toList)

theorem Passes.append_inj {s : Nesting} {as bs xs ys : List Char}
    (ha : Passes s as (outside 0)) (hb : Passes s bs (outside 0))
    (hx : ∀ c ∈ xs.head?, c = '.') (hy : ∀ c ∈ ys.head?, c = '.') (h : as ++ xs = bs ++ ys) :
    as = bs ∧ xs = ys := by
  -- Along both texts at once: where one of them ends, the dot behind it would separate in the
  -- other.
  induction as generalizing s bs with
  | nil =>
    cases bs with
    | nil => exact ⟨rfl, h⟩
    | cons b bs =>
      rw [List.nil_append] at h
      exact absurd (hx b (by simp [h])) (hb.1 ha)
  | cons a as ih =>
    cases bs with
    | nil =>
      rw [List.nil_append] at h
      exact absurd (hy a (by simp [← h])) (ha.1 hb)
    | cons b bs =>
      rw [List.cons_append, List.cons_append] at h
      obtain ⟨rfl, htail⟩ := List.cons.inj h
      obtain ⟨rfl, hrest⟩ := ih ha.2 hb.2 htail
      exact ⟨rfl, hrest⟩

end Nesting

open Nesting

/-- A text, not empty, without a dot that separates. -/
structure Piece (cs : List Char) : Prop where
  ne_nil : cs ≠ []
  passes : Passes (outside 0) cs (outside 0)

def dotted (pieces : List (List Char)) : List Char := pieces.flatMap ('.' :: ·)

theorem dotted_append (as bs : List (List Char)) : dotted (as ++ bs) = dotted as ++ dotted bs :=
  List.flatMap_append

theorem dotted_cons (a : List Char) (as : List (List Char)) :
    dotted (a :: as) = '.' :: (a ++ dotted as) := rfl

theorem intercalate_eq_tail (as : List (List Char)) :
    ['.'].intercalate as = (dotted as).tail := by
  induction as with
  | nil => rfl
  | cons a as ih =>
    cases as with
    | nil => simp [dotted]
    | cons b as => rw [List.intercalate_cons_cons, ih]; simp [dotted_cons]

theorem dotted_splitOn (cs : List Char) : dotted (cs.splitOn '.') = '.' :: cs := by
  have htail : ['.'].intercalate (cs.splitOn '.') = cs := List.intercalate_splitOn '.'
  rw [intercalate_eq_tail] at htail
  obtain ⟨a, as, heq⟩ := List.exists_cons_of_ne_nil (List.splitOn_ne_nil '.' cs)
  rw [heq, dotted_cons, List.tail_cons] at htail
  rw [heq, dotted_cons, htail]

theorem head?_dotted (as : List (List Char)) : ∀ c ∈ (dotted as).head?, c = '.' := by
  cases as with
  | nil => exact nofun
  | cons a as => simp [dotted_cons]

theorem dotted_inj {as bs : List (List Char)} (ha : ∀ a ∈ as, Piece a) (hb : ∀ b ∈ bs, Piece b)
    (h : dotted as = dotted bs) : as = bs := by
  induction as generalizing bs with
  | nil =>
    cases bs with
    | nil => rfl
    | cons b bs => cases h
  | cons a as ih =>
    cases bs with
    | nil => cases h
    | cons b bs =>
      rw [dotted_cons, dotted_cons] at h
      obtain ⟨rfl, hrest⟩ := (ha a List.mem_cons_self).passes.append_inj
        (hb b List.mem_cons_self).passes (head?_dotted as) (head?_dotted bs) (List.cons.inj h).2
      rw [ih (fun x hx => ha x (List.mem_cons_of_mem _ hx))
        (fun x hx => hb x (List.mem_cons_of_mem _ hx)) hrest]

theorem eq_nil_of_tail_dotted {as : List (List Char)} (ha : ∀ a ∈ as, Piece a)
    (h : (dotted as).tail = []) : as = [] := by
  cases as with
  | nil => rfl
  | cons a as => exact absurd (List.append_eq_nil_iff.mp h).1 (ha a List.mem_cons_self).ne_nil

theorem tail_dotted_inj {as bs : List (List Char)} (ha : ∀ a ∈ as, Piece a)
    (hb : ∀ b ∈ bs, Piece b) (h : (dotted as).tail = (dotted bs).tail) : as = bs := by
  cases as with
  | nil => exact (eq_nil_of_tail_dotted hb h.symm).symm
  | cons a as =>
    cases bs with
    | nil => exact eq_nil_of_tail_dotted ha h
    | cons b bs => exact dotted_inj ha hb (congrArg ('.' :: ·) h)

def isBare (c : Char) : Bool := c.isAlphanum || c = '-' || c = '+'

theorem isBare_of_isDigit {c : Char} (h : c.isDigit) : isBare c := by
  simp [isBare, Char.isAlphanum, h]

theorem isPlain_of_isBare {c : Char} (h : isBare c) : isPlain c := by
  have hbare : ['"', '[', ']', '\x7b', '\x7d'].all (!isBare ·) = true := by decide
  simp only [isPlain, Bool.not_eq_true', List.contains_eq_mem, decide_eq_false_iff_not]
  intro hmem
  have hnot := List.all_eq_true.mp hbare c hmem
  rw [h] at hnot
  cases hnot

structure Word (cs : List Char) : Prop where
  ne_nil : cs ≠ []
  bare : ∀ c ∈ cs, isBare c

theorem Word.of_all {cs : List Char} (hne : cs ≠ []) (h : cs.all isBare = true) : Word cs :=
  ⟨hne, List.all_eq_true.mp h⟩

theorem Word.notMem {cs : List Char} (h : Word cs) {d : Char} (hd : isBare d = false) : d ∉ cs := by
  intro hmem
  rw [h.bare d hmem] at hd
  cases hd

theorem Word.append {as bs : List Char} (ha : Word as) (hb : ∀ c ∈ bs, isBare c) :
    Word (as ++ bs) where
  ne_nil := List.append_ne_nil_of_left_ne_nil ha.ne_nil bs
  bare c hc := (List.mem_append.mp hc).elim (ha.bare c) (hb c)

theorem Word.piece {cs : List Char} (h : Word cs) : Piece cs where
  ne_nil := h.ne_nil
  passes := passes_of_isPlain (fun c hc => isPlain_of_isBare (h.bare c hc)) fun _ =>
    h.notMem (by decide)

theorem word_repr (n : Nat) : Word n.repr.toList where
  ne_nil := by
    rw [Nat.toList_repr]
    exact List.ne_nil_of_length_pos Nat.length_toDigits_pos
  bare c hc := by
    rw [Nat.toList_repr] at hc
    exact isBare_of_isDigit (Nat.isDigit_of_mem_toDigits (by decide) (by decide) hc)

theorem word_toString (n : Int) : Word (toString n).toList := by
  rw [Int.toString_eq_repr, Int.repr_eq_if]
  split
  · exact word_repr _
  · rw [String.toList_append]
    exact Word.append (.of_all (by decide) rfl) (word_repr _).bare

end PathQuery.Text
