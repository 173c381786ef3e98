import PathQuery.Toml
import PathQuery.Proofs.Text.Digits
import Mathlib.Algebra.BigOperators.Group.List.Basic

/-!
TOML documents with an entry on each line. A bare name, an equals sign and a value
that ends with the line are read as the entry that they say; lines with different
names are read as their entries, in order.
-/
namespace PathQuery.Toml

variable {cs : List Char} {v : Item}

section Values

/-- A value that is read up to the break behind it. -/
structure Reads (value : List Char) (v : Item) : Prop where
  start : ∀ c ∈ value.head?, isBlank c = false
  read : ∀ depth rest, item depth (value ++ '\n' :: rest) = some (v, '\n' :: rest)

def isVerbatim (c : Char) : Bool := isTextChar c && c ≠ '"' && c ≠ '\\'

theorem quotedText_append (h : ∀ c ∈ cs, isVerbatim c) (rest : List Char) :
    quotedText (cs ++ '"' :: rest) = some (cs, rest) := by
  induction cs with
  | nil => simp [quotedText]
  | cons c cs ih =>
    obtain ⟨first, later⟩ := List.forall_mem_cons.mp h
    simp only [isVerbatim, Bool.and_eq_true, decide_eq_true_eq] at first
    rw [List.cons_append, quotedText.eq_def]
    split <;> simp_all [push]

theorem stringText_append (h : ∀ c ∈ cs, isVerbatim c) (rest : List Char) :
    stringText ('"' :: (cs ++ '"' :: '\n' :: rest)) = some (cs, '\n' :: rest) := by
  have quoted := quotedText_append h ('\n' :: rest)
  cases cs with
  | nil => exact quoted
  | cons c cs =>
    have other : c ≠ '"' := by
      rintro rfl
      cases h '"' List.mem_cons_self
    rw [List.cons_append] at quoted ⊢
    rw [stringText.eq_def]
    split <;> simp_all

theorem reads_quoted {text : String} (h : text.toList.all isVerbatim) :
    Reads ('"' :: (text.toList ++ ['"'])) (.string text) := by
  refine ⟨by simp [isBlank], fun depth rest => ?_⟩
  rw [List.cons_append, List.append_assoc, List.singleton_append, item.eq_def]
  simp only [stringText_append (List.all_eq_true.mp h), Option.map_some, String.ofList_toList]

theorem plainText_append (h : ∀ c ∈ cs, isPlainChar c) (rest : List Char) :
    plainText (cs ++ '\n' :: rest) = (cs, '\n' :: rest) := by
  have run : (cs ++ '\n' :: rest).takeWhile isPlainChar = cs := by
    rw [List.takeWhile_append_of_pos h]
    simp [isPlainChar]
  simp only [plainText, run, List.drop_left]
  rfl

theorem reads_plain (h : ∀ c ∈ cs, isPlainChar c) (hv : plainItem? cs = some v) : Reads cs v := by
  refine ⟨fun c hc => ?_, fun depth rest => ?_⟩
  · have plain := h c (List.mem_of_mem_head? hc)
    by_contra blank
    simp only [isBlank, Bool.not_eq_false, Bool.or_eq_true, decide_eq_true_eq] at blank
    rcases blank with rfl | rfl <;> cases plain
  · have text := plainText_append h rest
    have other : ∀ c tail, isPlainChar c = false → c ≠ '\n' → cs ++ '\n' :: rest ≠ c :: tail := by
      intro c tail special hc here
      cases cs with
      | nil => exact hc (List.cons.inj here).1.symm
      | cons d cs =>
        obtain ⟨rfl, -⟩ := List.cons.inj here
        cases special.symm.trans (h d List.mem_cons_self)
    rw [item.eq_def]
    split
    split
    · next here => exact absurd here (other _ _ rfl (by decide))
    · next here => exact absurd here (other _ _ rfl (by decide))
    · next here => exact absurd here (other _ _ rfl (by decide))
    · next here => exact absurd here (other _ _ rfl (by decide))
    · simp only [text, hv, Option.map_some]

theorem reads_bool (b : Bool) : Reads (if b then "true" else "false").toList (.bool b) := by
  cases b
  · exact reads_plain (List.all_eq_true.mp rfl) rfl
  · exact reads_plain (List.all_eq_true.mp rfl) rfl

theorem withoutUnderscores_of_all {isDigit : Char → Bool} (hne : cs ≠ [])
    (h : ∀ c ∈ cs, isDigit c) (underscore : isDigit '_' = false) :
    withoutUnderscores isDigit cs = some cs := by
  induction cs with
  | nil => contradiction
  | cons c cs ih =>
    obtain ⟨first, later⟩ := List.forall_mem_cons.mp h
    cases cs with
    | nil => simp [withoutUnderscores, first]
    | cons d cs =>
      have digit : d ≠ '_' := by
        rintro rfl
        cases underscore.symm.trans (later '_' List.mem_cons_self)
      rw [withoutUnderscores.eq_def]
      split <;> simp_all

theorem integer?_toDigits {n : Nat} (h : n < 2 ^ 63) :
    integer? (Nat.toDigits 10 n) = some (n : Int) := by
  have digits : ∀ c ∈ Nat.toDigits 10 n, c.isDigit :=
    fun c hc => Nat.isDigit_of_mem_toDigits (by decide) (by decide) hc
  have decimal : decimalDigits (Nat.toDigits 10 n) = some (Nat.toDigits 10 n) := by
    rw [decimalDigits, withoutUnderscores_of_all (by simp) digits rfl, Option.filter_some, if_pos]
    cases n with
    | zero => rfl
    | succ n => simp [Text.head?_toDigits_ne_zero n.succ_ne_zero]
  have value := Text.nat?_toDigits n
  generalize Nat.toDigits 10 n = ds at *
  have sign : splitSign ds = (false, ds) := by
    unfold splitSign
    split
    · cases digits '-' List.mem_cons_self
    · cases digits '+' List.mem_cons_self
    · rfl
  have small : (some (n : Int)).filter (fun n => -(2 ^ 63 : Int) ≤ n ∧ n < 2 ^ 63) =
      some (n : Int) := by
    rw [Option.filter_some, if_pos (decide_eq_true (by omega))]
  unfold integer?
  dsimp only
  split
  · cases digits 'x' (by simp)
  · cases digits 'o' (by simp)
  · cases digits 'b' (by simp)
  · simp only [sign, decimal, Option.bind_some, value, Bool.false_eq_true, if_false]
    exact small

theorem reads_nat {n : Nat} (h : n < 2 ^ 63) : Reads (Nat.toDigits 10 n) (.integer n) := by
  have digits : ∀ c ∈ Nat.toDigits 10 n, c.isDigit :=
    fun c hc => Nat.isDigit_of_mem_toDigits (by decide) (by decide) hc
  have word (cs : List Char) (c : Char) (letter : c.isDigit = false) (hc : c ∈ cs) :
      Nat.toDigits 10 n ≠ cs := by
    rintro rfl
    cases letter.symm.trans (digits c hc)
  refine reads_plain (fun c hc => ?_) ?_
  · simp [isPlainChar, Char.isAlphanum, digits c hc]
  · rw [plainItem?, if_neg (word _ 't' rfl (by decide)), if_neg (word _ 'f' rfl (by decide)),
      integer?_toDigits h]

end Values

section Lines

def isBareName (name : String) : Bool := !name.toList.isEmpty && name.toList.all isKeyChar

theorem isBareName_iff {name : String} :
    isBareName name ↔ name.toList ≠ [] ∧ ∀ c ∈ name.toList, isKeyChar c := by
  simp [isBareName]

/-- A line with a bare name and a value that ends with the line. -/
structure Line where
  name : String
  value : List Char
  item : Item
  bare : isBareName name
  reads : Reads value item

namespace Line

def text (l : Line) : List Char := l.name.toList ++ ' ' :: '=' :: ' ' :: (l.value ++ ['\n'])

def entry (l : Line) : String × Item := (l.name, l.item)

end Line

theorem keyPart_bare {name : String} (bare : isBareName name) (rest : List Char) :
    keyPart (name.toList ++ ' ' :: rest) = some (name, ' ' :: rest) := by
  have h := isBareName_iff.mp bare
  have run : (name.toList ++ ' ' :: rest).takeWhile isKeyChar = name.toList := by
    rw [List.takeWhile_append_of_pos h.2]
    simp [isKeyChar]
  have start : ∀ c tail, name.toList ++ ' ' :: rest = c :: tail → isKeyChar c := by
    intro c tail here
    obtain ⟨d, cs, chars⟩ := List.exists_cons_of_ne_nil h.1
    rw [chars] at here h
    obtain ⟨rfl, -⟩ := List.cons.inj here
    exact h.2 d List.mem_cons_self
  unfold keyPart
  split
  · next here => cases start _ _ here
  · next here => cases start _ _ here
  · simp only [run, List.isEmpty_iff, h.1, if_false, List.drop_left, String.ofList_toList]

theorem skipBlanks_of_head? (h : ∀ c ∈ cs.head?, isBlank c = false) : skipBlanks cs = cs := by
  cases cs with
  | nil => rfl
  | cons c cs => exact List.dropWhile_cons_of_neg (by simp [h c rfl])

theorem Line.exists_start (l : Line) (rest : List Char) :
    ∃ c tail, l.text ++ rest = c :: tail ∧ ∀ d, isKeyChar d = false → c ≠ d := by
  obtain ⟨nonempty, key⟩ := isBareName_iff.mp l.bare
  obtain ⟨c, cs, chars⟩ := List.exists_cons_of_ne_nil nonempty
  refine ⟨c, cs ++ ' ' :: '=' :: ' ' :: (l.value ++ '\n' :: rest), by simp [text, chars], ?_⟩
  rintro d other rfl
  cases other.symm.trans (key c (by simp [chars]))

theorem skipBlanks_line (l : Line) (rest : List Char) :
    skipBlanks (l.text ++ rest) = l.text ++ rest := by
  obtain ⟨c, tail, start, key⟩ := l.exists_start rest
  apply skipBlanks_of_head?
  rw [start]
  rintro d ⟨⟩
  simp [isBlank, key ' ' rfl, key '\t' rfl]

theorem skipLineEnd?_line (l : Line) (rest : List Char) : skipLineEnd? (l.text ++ rest) = none := by
  obtain ⟨c, tail, start, key⟩ := l.exists_start rest
  have first : some c ≠ some '#' := by simpa using key '#' rfl
  simp only [skipLineEnd?, skipBlanks_line]
  simp only [start, List.head?_cons, first, if_false, List.isEmpty_cons, Bool.false_eq_true]
  unfold skipBreak?
  split
  · next here => exact absurd (List.cons.inj here).1 (key '\n' rfl)
  · next here => exact absurd (List.cons.inj here).1 (key '\r' rfl)
  · rfl

theorem statement_line (l : Line) (rest : List Char) :
    statement (l.text ++ rest) = some (.entry [l.name] l.item, '\n' :: rest) := by
  obtain ⟨c, tail, start, key⟩ := l.exists_start rest
  have text : l.text ++ rest =
      l.name.toList ++ ' ' :: '=' :: ' ' :: (l.value ++ '\n' :: rest) := by
    simp [Line.text]
  have part := keyPart_bare l.bare ('=' :: ' ' :: (l.value ++ '\n' :: rest))
  have equals : skipBlanks (' ' :: '=' :: ' ' :: (l.value ++ '\n' :: rest)) =
      '=' :: ' ' :: (l.value ++ '\n' :: rest) := by
    rfl
  have path : keyPath (l.text ++ rest).length (l.text ++ rest) =
      some ([l.name], '=' :: ' ' :: (l.value ++ '\n' :: rest)) := by
    obtain ⟨n, length⟩ : ∃ n, (l.text ++ rest).length = n + 1 := ⟨tail.length, by rw [start]; rfl⟩
    rw [length, text, keyPath, part]
    simp only [bind, Option.bind, equals]
    rfl
  have value : skipBlanks (' ' :: (l.value ++ '\n' :: rest)) = l.value ++ '\n' :: rest := by
    rw [skipBlanks, List.dropWhile_cons_of_pos rfl, ← skipBlanks]
    apply skipBlanks_of_head?
    have first := l.reads.start
    cases h : l.value with
    | nil => simp [isBlank]
    | cons c cs => simpa [h] using first
  -- The line starts with a character of its name and not with a bracket, so it is no header.
  unfold statement
  split
  · next here => exact absurd (List.cons.inj (start.symm.trans here)).1 (key '[' rfl)
  · next here => exact absurd (List.cons.inj (start.symm.trans here)).1 (key '[' rfl)
  · simp only [entry, path, bind, Option.bind, value, l.reads.read]

theorem length_le_text (lines : List Line) :
    lines.length ≤ (lines.flatMap Line.text).length := by
  have long : ∀ n ∈ lines.map fun l => l.text.length, 1 ≤ n := by
    simp [Line.text]
    omega
  simpa [List.length_flatMap] using List.length_le_sum_of_one_le _ long

theorem statements_lines (lines : List Line) {n : Nat} (enough : lines.length ≤ n) :
    statements n (lines.flatMap Line.text) =
      some (lines.map fun l => .entry [l.name] l.item) := by
  induction lines generalizing n with
  | nil => cases n <;> rfl
  | cons l lines ih =>
    obtain ⟨n, rfl⟩ := Nat.exists_eq_succ_of_ne_zero (Nat.ne_zero_of_lt enough)
    obtain ⟨c, tail, start, -⟩ := l.exists_start (lines.flatMap Line.text)
    have ended (rest : List Char) : skipLineEnd? ('\n' :: rest) = some rest := rfl
    rw [List.flatMap_cons, statements, if_neg (by simp [start])]
    simp only [skipLineEnd?_line, skipBlanks_line, statement_line, bind, Option.bind, ended,
      ih (Nat.le_of_succ_le_succ enough)]
    rfl

theorem add_line (l : Line) {entries : Entries} (fresh : entries.lookup l.name = none) :
    Draft.add ⟨entries, []⟩ (.entry [l.name] l.item) = some ⟨entries ++ [l.entry], []⟩ := by
  simp [Draft.add, descend, insertEntry, fresh, Line.entry]

theorem foldlM_add_lines (lines : List Line) {entries : Entries}
    (different : (entries.map Prod.fst ++ lines.map Line.name).Nodup) :
    (lines.map fun l => Statement.entry [l.name] l.item).foldlM Draft.add ⟨entries, []⟩ =
      some ⟨entries ++ lines.map Line.entry, []⟩ := by
  induction lines generalizing entries with
  | nil => simp
  | cons l lines ih =>
    have here : l.name ∉ entries.map Prod.fst := fun old =>
      (List.nodup_append.mp different).2.2 _ old _ List.mem_cons_self rfl
    have fresh : entries.lookup l.name = none := by
      rw [List.lookup_eq_none_iff]
      intro e he
      simpa using fun same : l.name = e.1 => here (same ▸ List.mem_map_of_mem he)
    have still : ((entries ++ [l.entry]).map Prod.fst ++ lines.map Line.name).Nodup := by
      simpa [Line.entry] using different
    rw [List.map_cons, List.foldlM_cons, add_line l fresh, Option.bind_eq_bind, Option.bind_some,
      ih still, List.append_assoc]
    rfl

theorem read_lines {lines : List Line} (different : (lines.map Line.name).Nodup) :
    read (String.ofList (lines.flatMap Line.text)) = some (lines.map Line.entry) := by
  have mark : dropMark (lines.flatMap Line.text) = lines.flatMap Line.text := by
    cases lines with
    | nil => rfl
    | cons l lines =>
      obtain ⟨c, tail, start, key⟩ := l.exists_start (lines.flatMap Line.text)
      rw [List.flatMap_cons, start]
      unfold dropMark
      split
      · next here => exact absurd (List.cons.inj here).1 (key '\ufeff' rfl)
      · rfl
  have draft : (lines.map fun l => Statement.entry [l.name] l.item).foldlM Draft.add .empty =
      some ⟨lines.map Line.entry, []⟩ := foldlM_add_lines lines different
  rw [read, String.toList_ofList, mark]
  simp only [statements_lines lines (length_le_text lines), bind, Option.bind, draft]

end Lines

end PathQuery.Toml
