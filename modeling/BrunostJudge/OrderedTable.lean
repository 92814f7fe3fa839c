import BrunostJudge.Table

namespace Relational.Table
set_option autoImplicit true

variable {ρ : Type u} {κ : Type v} [Keyed ρ κ] [DecidableEq κ]

def erase (t : Table ρ) (k : κ) : Table ρ where
  rows := t.rows.filter fun r => Keyed.key r ≠ k
  distinct := t.distinct.sublist (List.filter_sublist.map _)

theorem find?_erase (t : Table ρ) (k k' : κ) :
    (t.erase k).find? k' = if k' = k then none else t.find? k' := by
  split
  · next h =>
    rw [find?_eq_none]
    intro r hr
    rw [h]
    exact of_decide_eq_true (List.mem_filter.1 hr).2
  · next h =>
    cases hfind : t.find? k' with
    | none =>
      rw [find?_eq_none] at hfind ⊢
      exact fun r hr => hfind r (List.mem_filter.1 hr).1
    | some r =>
      obtain ⟨hr, hkey⟩ := find?_eq_some.1 hfind
      exact find?_eq_some.2 ⟨List.mem_filter.2 ⟨hr, decide_eq_true (hkey ▸ h)⟩, hkey⟩

/-- The row comes last, in the place of any with its key. -/
def moveToEnd (t : Table ρ) (r : ρ) : Table ρ where
  rows := (t.erase (Keyed.key r)).rows ++ [r]
  distinct := by
    rw [List.map_append, List.map_singleton, List.nodup_append]
    refine ⟨(t.erase (Keyed.key r)).distinct, List.nodup_singleton _, ?_⟩
    rintro k hk k' hk' rfl
    obtain ⟨q, hq, hkey⟩ := List.mem_map.1 hk
    exact of_decide_eq_true (List.mem_filter.1 hq).2 (hkey.trans (List.mem_singleton.1 hk'))

theorem find?_moveToEnd (t : Table ρ) (r : ρ) (k : κ) :
    (t.moveToEnd r).find? k = if k = Keyed.key r then some r else t.find? k := by
  have hrows : (t.moveToEnd r).find? k =
      ((t.erase (Keyed.key r)).find? k).or ([r].find? fun q => Keyed.key q = k) :=
    List.find?_append
  rw [hrows, find?_erase, List.find?_singleton]
  by_cases h : k = Keyed.key r
  · rw [if_pos h, if_pos h, if_pos (decide_eq_true h.symm), Option.none_or]
  · rw [if_neg h, if_neg h, if_neg fun heq => h (of_decide_eq_true heq).symm, Option.or_none]

theorem length_erase_le (t : Table ρ) (k : κ) : (t.erase k).rows.length ≤ t.rows.length :=
  List.length_filter_le _ _

theorem length_erase_lt {t : Table ρ} {r : ρ} (h : r ∈ t.rows) :
    (t.erase (Keyed.key r)).rows.length < t.rows.length := by
  apply List.length_filter_lt_length_iff_exists.2
  exact ⟨r, h, by simp⟩

theorem length_moveToEnd (t : Table ρ) (r : ρ) : (t.moveToEnd r).rows.length =
    (t.erase (Keyed.key r)).rows.length + 1 := by
  rw [moveToEnd, List.length_append, List.length_singleton]

end Relational.Table
