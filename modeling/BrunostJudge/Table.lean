import Mathlib.Data.List.Nodup
import Mathlib.Data.List.Sort

namespace Relational
set_option autoImplicit true

/-- Rows of a relation are identified by their primary key. -/
class Keyed (ρ : Type u) (κ : outParam (Type v)) where
  key : ρ → κ

/-- A stored relation: its rows have pairwise distinct primary keys. -/
structure Table (ρ : Type u) {κ : Type v} [Keyed ρ κ] where
  rows : List ρ
  distinct : (rows.map Keyed.key).Nodup

namespace Table
variable {ρ : Type u} {κ : Type v} [Keyed ρ κ]

theorem ext_rows {t u : Table ρ} (h : t.rows = u.rows) : t = u := by
  cases t with
  | mk rows distinct =>
    cases u with
    | mk rows' distinct' => cases h; rfl

def empty : Table ρ := ⟨[], List.nodup_nil⟩

/-- `UPDATE ... SET f WHERE p`, for a `SET` list that leaves the primary key alone. -/
def update (t : Table ρ) (p : ρ → Bool) (f : ρ → ρ)
    (hf : ∀ r, Keyed.key (f r) = Keyed.key r) : Table ρ where
  rows := t.rows.map fun r => if p r then f r else r
  distinct := by
    have hk : ∀ r ∈ t.rows, Keyed.key (if p r then f r else r) = Keyed.key r := by
      intro r _
      split
      · exact hf r
      · rfl
    rw [List.map_map, show t.rows.map (Keyed.key ∘ fun r => if p r then f r else r) =
      t.rows.map Keyed.key from List.map_congr_left hk]
    exact t.distinct

/-- The number of rows a `WHERE` clause selects. -/
def count (t : Table ρ) (p : ρ → Bool) : Nat := (t.rows.filter p).length

theorem update_of_none (t : Table ρ) {p : ρ → Bool} {f : ρ → ρ}
    {hf : ∀ r, Keyed.key (f r) = Keyed.key r} (h : ∀ r ∈ t.rows, p r = false) :
    t.update p f hf = t := by
  apply ext_rows
  simp only [update]
  conv_rhs => rw [← List.map_id t.rows]
  apply List.map_congr_left
  intro r hr
  simp [h r hr]

theorem count_eq_zero {t : Table ρ} {p : ρ → Bool} :
    t.count p = 0 ↔ ∀ r ∈ t.rows, p r = false := by
  simp [count]

variable [DecidableEq κ]

/-- The row with a given primary key. -/
def find? (t : Table ρ) (k : κ) : Option ρ := t.rows.find? fun r => Keyed.key r = k

theorem find?_eq_some {t : Table ρ} {k : κ} {r : ρ} :
    t.find? k = some r ↔ r ∈ t.rows ∧ Keyed.key r = k := by
  constructor
  · intro h
    exact ⟨List.mem_of_find?_eq_some h, by simpa using List.find?_some h⟩
  · rintro ⟨hr, rfl⟩
    cases hf : t.find? (Keyed.key r) with
    | none => simpa using List.find?_eq_none.1 hf r hr
    | some r' =>
      have hk : Keyed.key r' = Keyed.key r := by simpa using List.find?_some hf
      rw [List.inj_on_of_nodup_map t.distinct (List.mem_of_find?_eq_some hf) hr hk]

theorem find?_mem {t : Table ρ} {r : ρ} (h : r ∈ t.rows) : t.find? (Keyed.key r) = some r :=
  find?_eq_some.2 ⟨h, rfl⟩

theorem find?_eq_none {t : Table ρ} {k : κ} :
    t.find? k = none ↔ ∀ r ∈ t.rows, Keyed.key r ≠ k := by
  simp [find?]

theorem mem_of_find? {t : Table ρ} {k : κ} {r : ρ} (h : t.find? k = some r) : r ∈ t.rows :=
  (find?_eq_some.1 h).1

theorem key_of_find? {t : Table ρ} {k : κ} {r : ρ} (h : t.find? k = some r) : Keyed.key r = k :=
  (find?_eq_some.1 h).2

@[simp] theorem find?_empty (k : κ) : (empty : Table ρ).find? k = none := rfl

@[simp] theorem find?_update (t : Table ρ) (p : ρ → Bool) (f : ρ → ρ)
    (hf : ∀ r, Keyed.key (f r) = Keyed.key r) (k : κ) :
    (t.update p f hf).find? k = (t.find? k).map fun r => if p r then f r else r := by
  have hk : ∀ r, Keyed.key (if p r then f r else r) = Keyed.key r := by
    intro r
    split
    · exact hf r
    · rfl
  simp only [find?, update, List.find?_map, Function.comp_def, hk]

theorem count_key (t : Table ρ) (k : κ) (p : ρ → Bool) :
    t.count (fun r => decide (Keyed.key r = k) && p r) = if (t.find? k).any p then 1 else 0 := by
  have hle : ∀ rows : List ρ, (rows.map Keyed.key).Nodup →
      (rows.filter fun r => decide (Keyed.key r = k) && p r).length =
        if (rows.find? fun r => Keyed.key r = k).any p then 1 else 0 := by
    intro rows hn
    induction rows with
    | nil => rfl
    | cons r rows ih =>
      simp only [List.map_cons, List.nodup_cons] at hn
      by_cases hk : Keyed.key r = k
      · have hrest : (rows.filter fun r => decide (Keyed.key r = k) && p r) = [] := by
          rw [List.filter_eq_nil_iff]
          intro q hq
          have hne : Keyed.key q ≠ k := fun he => hn.1 (List.mem_map.2 ⟨q, hq, he.trans hk.symm⟩)
          simp [hne]
        cases hp : p r <;> simp [hk, hp, hrest]
      · simp [hk, ih hn.2]
  exact hle t.rows t.distinct

/-- `INSERT`, refused when the primary key is taken. -/
def insert? (t : Table ρ) (r : ρ) : Option (Table ρ) :=
  if h : t.find? (Keyed.key r) = none then
    some {
      rows := t.rows ++ [r]
      distinct := by
        rw [List.map_append, List.nodup_append]
        refine ⟨t.distinct, List.nodup_singleton _, ?_⟩
        rintro k hk k' hk' rfl
        obtain ⟨q, hq, rfl⟩ := List.mem_map.1 hk
        simp only [List.map_cons, List.map_nil, List.mem_singleton] at hk'
        exact find?_eq_none.1 h q hq hk' }
  else none

theorem insert?_fresh {t t' : Table ρ} {r : ρ} (h : t.insert? r = some t') :
    t.find? (Keyed.key r) = none := by
  unfold insert? at h
  split at h
  · assumption
  · cases h

theorem insert?_rows {t t' : Table ρ} {r : ρ} (h : t.insert? r = some t') :
    t'.rows = t.rows ++ [r] := by
  unfold insert? at h
  split at h
  · cases h; rfl
  · cases h

theorem find?_insert {t t' : Table ρ} {r : ρ} (h : t.insert? r = some t') (k : κ) :
    t'.find? k = if Keyed.key r = k then some r else t.find? k := by
  have hfresh := insert?_fresh h
  simp only [find?, insert?_rows h, List.find?_append]
  split
  · rename_i hk
    subst hk
    have hn : (t.rows.find? fun q => decide (Keyed.key q = Keyed.key r)) = none := hfresh
    simp [hn]
  · rename_i hk
    simp [hk]

theorem find?_of_insert {t t' : Table ρ} {r q : ρ} {k : κ} (h : t.insert? r = some t')
    (hq : t.find? k = some q) : t'.find? k = some q := by
  have hne : Keyed.key r ≠ k := by
    intro hk
    have hfresh := insert?_fresh h
    rw [hk, hq] at hfresh
    cases hfresh
  rw [find?_insert h, if_neg hne]
  exact hq

/-- `INSERT ... ON CONFLICT(key) DO UPDATE SET f`. -/
def upsert (t : Table ρ) (r : ρ) (f : ρ → ρ) (hf : ∀ r, Keyed.key (f r) = Keyed.key r) :
    Table ρ :=
  (t.insert? r).getD (t.update (fun q => Keyed.key q = Keyed.key r) f hf)

theorem find?_upsert (t : Table ρ) (r : ρ) (f : ρ → ρ)
    (hf : ∀ r, Keyed.key (f r) = Keyed.key r) (k : κ) :
    (t.upsert r f hf).find? k =
      if Keyed.key r = k then some (((t.find? k).map f).getD r) else t.find? k := by
  unfold upsert
  cases hi : t.insert? r with
  | some t' =>
    rw [Option.getD_some, find?_insert hi]
    split
    · rename_i hk
      rw [← hk, insert?_fresh hi]
      rfl
    · rfl
  | none =>
    have htaken : t.find? (Keyed.key r) ≠ none := by
      intro hn
      simp [insert?, hn] at hi
    rw [Option.getD_none, find?_update]
    cases hq : t.find? k with
    | none =>
      have hk : Keyed.key r ≠ k := fun hk => htaken (hk ▸ hq)
      simp [hk]
    | some q =>
      have hkq := key_of_find? hq
      by_cases hk : Keyed.key r = k <;> simp [hk, hkq, eq_comm]

theorem rows_perm {t u : Table ρ} (h : ∀ k, t.find? k = u.find? k) : t.rows.Perm u.rows := by
  have hmem : ∀ r, r ∈ t.rows ↔ r ∈ u.rows := by
    intro r
    constructor
    · intro hr
      exact mem_of_find? ((h _).symm.trans (find?_mem hr))
    · intro hr
      exact mem_of_find? ((h _).trans (find?_mem hr))
  exact (List.perm_ext_iff_of_nodup t.distinct.of_map u.distinct.of_map).2 hmem

end Table

section
variable {α : Type u} {le : α → α → Prop} [DecidableRel le] [Std.Total le] [IsTrans α le]

/-- `ORDER BY` a total order, as far as it tells the rows apart: where they come from does not
matter. -/
theorem orderBy_perm {l m : List α} (h : l.Perm m)
    (hle : ∀ a ∈ l, ∀ b ∈ l, le a b → le b a → a = b) :
      l.insertionSort le = m.insertionSort le := by
  have hl := List.perm_insertionSort le l
  have hm := List.perm_insertionSort le m
  apply List.Perm.eq_of_pairwise ?_ (List.pairwise_insertionSort le l)
    (List.pairwise_insertionSort le m) ((hl.trans h).trans hm.symm)
  intro a b ha hb
  exact hle a (hl.mem_iff.1 ha) b (h.mem_iff.2 (hm.mem_iff.1 hb))

theorem orderBy_filter {l : List α} (p : α → Bool)
    (hle : ∀ a ∈ l, ∀ b ∈ l, le a b → le b a → a = b) :
    (l.filter p).insertionSort le = (l.insertionSort le).filter p := by
  have hfilter := List.perm_insertionSort le (l.filter p)
  have hl := List.perm_insertionSort le l
  apply List.Perm.eq_of_pairwise ?_ (List.pairwise_insertionSort le _)
    ((List.pairwise_insertionSort le l).filter p) (hfilter.trans (hl.filter p).symm)
  intro a b ha hb
  have ha' : a ∈ l := (List.mem_filter.1 (hfilter.mem_iff.1 ha)).1
  have hb' : b ∈ l := hl.mem_iff.1 (List.mem_filter.1 hb).1
  exact hle a ha' b hb'

/-- The first of the ordered rows that meets a condition is the least of those that meet it. -/
theorem orderBy_find? {l : List α} {p : α → Bool} (h : (l.insertionSort le).find? p = some a)
    (hb : b ∈ l) (hp : p b = true) : le a b := by
  obtain ⟨-, before, after, hsplit, hbefore⟩ := List.find?_eq_some_iff_append.1 h
  have hsorted := List.pairwise_insertionSort le l
  rw [hsplit] at hsorted
  have hmem := (List.perm_insertionSort le l).mem_iff.2 hb
  rw [hsplit] at hmem
  obtain hmem | hmem := List.mem_append.1 hmem
  · have hfalse := hbefore b hmem
    rw [hp] at hfalse
    cases hfalse
  · obtain rfl | hmem := List.mem_cons.1 hmem
    · exact or_self_iff.1 (Std.Total.total b b)
    · exact (List.pairwise_cons.1 (List.pairwise_append.1 hsorted).2.1).1 b hmem

end

end Relational
