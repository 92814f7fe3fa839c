import Mathlib.Data.List.Basic
import Mathlib.Data.List.ReduceOption

namespace Framing
set_option autoImplicit true

variable {α : Type} [DecidableEq α] {d : α} {s t l : List α}

/-- The lines of a stream whose delimiter has come. -/
def lines (d : α) (s : List α) : List (List α) := (s.splitOn d).dropLast

/-- What a stream holds after its last delimiter. -/
def unfinished (d : α) (s : List α) : List α := (s.splitOn d).getLast (List.splitOn_ne_nil d s)

theorem lines_of_notMem (h : d ∉ s) : lines d s = [] := by
  rw [lines, List.splitOn_eq_singleton h, List.dropLast_singleton]

theorem unfinished_of_notMem (h : d ∉ s) : unfinished d s = s := by
  simp only [unfinished, List.splitOn_eq_singleton h, List.getLast_singleton]

theorem lines_append_cons (s t : List α) :
    lines d (s ++ d :: t) = lines d s ++ unfinished d s :: lines d t := by
  have hs := List.splitOn_ne_nil d s
  have ht := List.splitOn_ne_nil d t
  rw [lines, List.splitOn_append_cons_self, List.dropLast_append_of_ne_nil ht]
  rw [← List.dropLast_append_getLast hs, List.append_assoc]
  rfl

theorem notMem_of_lines_nil (h : lines d s = []) : d ∉ s := by
  intro hmem
  obtain ⟨a, b, rfl⟩ := List.append_of_mem hmem
  rw [lines_append_cons] at h
  exact List.append_ne_nil_of_right_ne_nil _ (List.cons_ne_nil _ _) h

theorem unfinished_append_cons (s t : List α) : unfinished d (s ++ d :: t) = unfinished d t := by
  have ht := List.splitOn_ne_nil d t
  simp only [unfinished, List.splitOn_append_cons_self, List.getLast_append_right ht]

theorem last_delimiter (s : List α) : d ∉ s ∨ ∃ a b, s = a ++ d :: b ∧ d ∉ b := by
  induction s with
  | nil => exact .inl List.not_mem_nil
  | cons x s ih =>
    obtain hs | ⟨a, b, rfl, hb⟩ := ih
    · by_cases hx : x = d
      · exact .inr ⟨[], s, by rw [hx, List.nil_append], hs⟩
      · left
        intro hmem
        obtain heq | hmem := List.mem_cons.1 hmem
        · exact hx heq.symm
        · exact hs hmem
    · exact .inr ⟨x :: a, b, rfl, hb⟩

theorem notMem_unfinished (s : List α) : d ∉ unfinished d s := by
  obtain hs | ⟨a, b, rfl, hb⟩ := last_delimiter (d := d) s
  · rw [unfinished_of_notMem hs]
    exact hs
  · rw [unfinished_append_cons, unfinished_of_notMem hb]
    exact hb

theorem lines_append (s t : List α) :
    lines d (s ++ t) = lines d s ++ lines d (unfinished d s ++ t) := by
  obtain hs | ⟨a, b, rfl, hb⟩ := last_delimiter (d := d) s
  · rw [lines_of_notMem hs, unfinished_of_notMem hs, List.nil_append]
  · rw [List.append_assoc, List.cons_append, lines_append_cons, lines_append_cons,
      unfinished_append_cons, lines_of_notMem hb, unfinished_of_notMem hb, List.append_assoc]
    rfl

theorem unfinished_append (s t : List α) :
    unfinished d (s ++ t) = unfinished d (unfinished d s ++ t) := by
  obtain hs | ⟨a, b, rfl, hb⟩ := last_delimiter (d := d) s
  · rw [unfinished_of_notMem hs]
  · rw [List.append_assoc, List.cons_append, unfinished_append_cons, unfinished_append_cons,
      unfinished_of_notMem hb]

theorem length_unfinished_le (s : List α) : (unfinished d s).length ≤ s.length := by
  obtain hs | ⟨a, b, rfl, hb⟩ := last_delimiter (d := d) s
  · exact Nat.le_of_eq (congrArg List.length (unfinished_of_notMem hs))
  · rw [unfinished_append_cons, unfinished_of_notMem hb, List.length_append, List.length_cons]
    omega

theorem length_lt_of_mem_lines (h : l ∈ lines d s) : l.length < s.length := by
  induction hn : s.length using Nat.strongRecOn generalizing s with
  | _ n ih =>
    obtain hs | ⟨a, b, rfl, hb⟩ := last_delimiter (d := d) s
    · rw [lines_of_notMem hs] at h
      cases h
    · rw [lines_append_cons, lines_of_notMem hb, List.mem_append, List.mem_singleton] at h
      rw [List.length_append, List.length_cons] at hn
      obtain hl | rfl := h
      · exact Nat.lt_trans (ih a.length (by omega) hl rfl) (by omega)
      · have hle := length_unfinished_le (d := d) a
        omega

omit [DecidableEq α] in
theorem cut_unique {l l' : List α} (hl : d ∉ l) (hl' : d ∉ l') (h : l ++ d :: s = l' ++ d :: t) :
    l = l' ∧ s = t := by
  induction l generalizing l' with
  | nil =>
    cases l' with
    | nil => exact ⟨rfl, (List.cons.inj h).2⟩
    | cons y l' =>
      obtain ⟨rfl, -⟩ := List.cons.inj h
      exact absurd List.mem_cons_self hl'
  | cons x l ih =>
    cases l' with
    | nil =>
      obtain ⟨rfl, -⟩ := List.cons.inj h
      exact absurd List.mem_cons_self hl
    | cons y l' =>
      obtain ⟨rfl, htail⟩ := List.cons.inj h
      rw [List.mem_cons, not_or] at hl hl'
      obtain ⟨rfl, hst⟩ := ih hl.2 hl'.2 htail
      exact ⟨rfl, hst⟩

theorem cut_eq (h : s.idxOf? d = some i) : s = s.take i ++ d :: s.drop (i + 1) ∧ d ∉ s.take i := by
  induction s generalizing i with
  | nil => cases h
  | cons x s ih =>
    rw [List.idxOf?_cons] at h
    split at h
    · next hx =>
      cases h
      exact ⟨by rw [eq_of_beq hx]; rfl, List.not_mem_nil⟩
    · next hx =>
      obtain ⟨j, hj, rfl⟩ := Option.map_eq_some_iff.1 h
      obtain ⟨hs, hnot⟩ := ih hj
      refine ⟨congrArg (x :: ·) hs, ?_⟩
      intro hmem
      obtain heq | hmem := List.mem_cons.1 hmem
      · exact hx (beq_iff_eq.2 heq.symm)
      · exact hnot hmem

theorem cut_first (h : s.idxOf? d = some i) :
    lines d s = s.take i :: lines d (s.drop (i + 1)) ∧
      unfinished d s = unfinished d (s.drop (i + 1)) := by
  obtain ⟨hs, hnot⟩ := cut_eq h
  rw [hs, lines_append_cons, unfinished_append_cons, lines_of_notMem hnot,
    unfinished_of_notMem hnot,
    ← hs]
  exact ⟨rfl, rfl⟩

/-- Each line of a stream that arrives in chunks, with how much is held when the line is complete:
the chunk that completes it and what was unfinished before. -/
def arrivals (d : α) (rest : List α) : List (List α) → List (List α × Nat)
  | [] => []
  | chunk :: chunks =>
    (lines d (rest ++ chunk)).map (fun line => (line, (rest ++ chunk).length)) ++
      arrivals d (unfinished d (rest ++ chunk)) chunks

theorem arrivals_lines (rest : List α) (chunks : List (List α)) (h : d ∉ rest) :
    (arrivals d rest chunks).map Prod.fst = lines d (rest ++ chunks.flatten) := by
  induction chunks generalizing rest with
  | nil => rw [List.flatten_nil, List.append_nil, lines_of_notMem h, arrivals, List.map_nil]
  | cons chunk chunks ih =>
    rw [List.flatten_cons, ← List.append_assoc, lines_append, arrivals, List.map_append,
      ih _ (notMem_unfinished _), List.map_map]
    congr 1
    exact List.map_id _

theorem length_lt_of_mem_arrivals {rest : List α} {chunks : List (List α)}
    (h : (l, held) ∈ arrivals d rest chunks) : l.length < held := by
  induction chunks generalizing rest with
  | nil => cases h
  | cons chunk chunks ih =>
    rw [arrivals, List.mem_append] at h
    obtain h | h := h
    · obtain ⟨line, hline, heq⟩ := List.mem_map.1 h
      cases heq
      exact length_lt_of_mem_lines hline
    · exact ih h

section
variable {β : Type} {xs ys : List (Option β)} {k m : Nat}

/-- How many items stand before each mark, `k` of them before the sequence. -/
def marks (k : Nat) : List (Option β) → List Nat
  | [] => []
  | none :: xs => k :: marks k xs
  | some _ :: xs => marks (k + 1) xs

theorem le_of_mem_marks (h : m ∈ marks k xs) : k ≤ m := by
  induction xs generalizing k with
  | nil => cases h
  | cons x xs ih =>
    cases x with
    | none =>
      obtain rfl | h := List.mem_cons.1 h
      · exact Nat.le_refl m
      · exact ih h
    | some b => exact Nat.le_of_succ_le (ih h)

theorem marks_append (xs ys : List (Option β)) :
    marks k (xs ++ ys) = marks k xs ++ marks (k + xs.reduceOption.length) ys := by
  induction xs generalizing k with
  | nil => rfl
  | cons x xs ih =>
    cases x with
    | none =>
      rw [List.cons_append, marks, ih, marks, List.reduceOption_cons_of_none]
      rfl
    | some b =>
      rw [List.cons_append, marks, ih, marks, List.reduceOption_cons_of_some, List.length_cons,
        Nat.add_right_comm, Nat.add_assoc]

theorem marks_map_some (l : List β) : marks k (l.map some) = [] := by
  induction l generalizing k with
  | nil => rfl
  | cons b l ih => exact ih

theorem eq_of_marks (hitems : xs.reduceOption = ys.reduceOption)
    (hmarks : marks k xs = marks k ys) :
    xs = ys := by
  induction xs generalizing ys k with
  | nil =>
    cases ys with
    | nil => rfl
    | cons y ys =>
      cases y with
      | none => cases hmarks
      | some b => cases hitems
  | cons x xs ih =>
    cases x with
    | none =>
      cases ys with
      | nil => cases hmarks
      | cons y ys =>
        cases y with
        | none =>
          have htail : xs.reduceOption = ys.reduceOption := hitems
          rw [ih htail (List.cons.inj hmarks).2]
        | some b =>
          have hmem : k ∈ marks (k + 1) ys := by
            have hcons : marks k (none :: xs) = marks (k + 1) ys := hmarks
            rw [← hcons]
            exact List.mem_cons_self
          exact absurd (le_of_mem_marks hmem) (Nat.not_succ_le_self k)
    | some a =>
      cases ys with
      | nil => cases hitems
      | cons y ys =>
        cases y with
        | none =>
          have hmem : k ∈ marks (k + 1) xs := by
            have hcons : marks (k + 1) xs = marks k (none :: ys) := hmarks
            rw [hcons]
            exact List.mem_cons_self
          exact absurd (le_of_mem_marks hmem) (Nat.not_succ_le_self k)
        | some b =>
          obtain ⟨rfl, hrest⟩ := List.cons.inj hitems
          have htail : marks (k + 1) xs = marks (k + 1) ys := hmarks
          rw [ih hrest htail]

theorem eq_of_marked (hitems : xs.reduceOption = ys.reduceOption)
    (hmarked : ∀ i : Nat, xs[i]? = some none ↔ ys[i]? = some none) : xs = ys := by
  induction xs generalizing ys with
  | nil =>
    cases ys with
    | nil => rfl
    | cons y ys =>
      cases y with
      | none => cases (hmarked 0).2 rfl
      | some b => cases hitems
  | cons x xs ih =>
    cases ys with
    | nil =>
      cases x with
      | none => cases (hmarked 0).1 rfl
      | some a => cases hitems
    | cons y ys =>
      have htail : ∀ i : Nat, xs[i]? = some none ↔ ys[i]? = some none := fun i => hmarked (i + 1)
      cases x with
      | none =>
        obtain rfl : y = none := Option.some.inj ((hmarked 0).1 rfl)
        have hrest : xs.reduceOption = ys.reduceOption := hitems
        rw [ih hrest htail]
      | some a =>
        cases y with
        | none => cases (hmarked 0).2 rfl
        | some b =>
          obtain ⟨rfl, hrest⟩ := List.cons.inj hitems
          rw [ih hrest htail]

theorem eq_iff_marks (hitems : xs.reduceOption = ys.reduceOption) :
    xs = ys ↔ marks k xs = marks k ys := by
  constructor
  · rintro rfl
    rfl
  · exact eq_of_marks hitems

end

end Framing
