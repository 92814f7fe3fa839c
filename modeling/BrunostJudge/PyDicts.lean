import BrunostJudge.PyCollections

namespace Python
set_option autoImplicit true

theorem Dict.set_keys (d : Dict) (key : PyStr) (v : Json) : (Dict.set d key v).map Prod.fst =
    if Dict.contains d key then d.map Prod.fst else d.map Prod.fst ++ [key] := by
  rw [Dict.set]
  split
  · rw [List.map_map]
    apply List.map_congr_left
    intro f _
    rw [Function.comp_apply]
    split
    · next h => exact h.symm
    · rfl
  · exact List.map_append

theorem Dict.mem_set {d : Dict} {k : PyStr} {v : Json} {f : PyStr × Json}
    (hf : f ∈ Dict.set d k v) : f = (k, v) ∨ f ∈ d ∧ f.1 ≠ k := by
  rw [Dict.set] at hf
  split at hf
  · obtain ⟨g, hg, rfl⟩ := List.mem_map.1 hf
    by_cases hkey : g.1 = k
    · exact .inl (if_pos hkey)
    · rw [if_neg hkey]
      exact .inr ⟨hg, hkey⟩
  · next hnew =>
    rcases List.mem_append.1 hf with hold | hlast
    · have hne : f.1 ≠ k := fun hkey =>
        hnew (List.any_eq_true.2 ⟨f, hold, decide_eq_true hkey⟩)
      exact .inr ⟨hold, hne⟩
    · exact .inl (List.mem_singleton.1 hlast)

theorem Dict.set_same {d : Dict} {k : PyStr} {v : Json} (hkey : Dict.contains d k = true)
    (h : ∀ f ∈ d, f.1 = k → f.2 = v) : Dict.set d k v = d := by
  rw [Dict.set, if_pos hkey]
  apply (List.map_congr_left ?_).trans (List.map_id d)
  intro f hf
  split
  · next hk => exact Prod.ext hk.symm (h f hf hk).symm
  · rfl

theorem Dict.contains_set (d : Dict) (k k' : PyStr) (v : Json) :
    Dict.contains (Dict.set d k v) k' = (decide (k = k') || Dict.contains d k') := by
  rw [Dict.contains_eq, Dict.contains_eq, Dict.lookup?_set]
  by_cases hk : k = k'
  · rw [if_pos hk, decide_eq_true hk]
    rfl
  · rw [if_neg hk, decide_eq_false hk, Bool.false_or]

theorem Dict.set_set_same (d : Dict) (k : PyStr) (v : Json) :
    Dict.set (Dict.set d k v) k v = Dict.set d k v := by
  apply Dict.set_same
  · rw [Dict.contains_set, decide_eq_true rfl]
    rfl
  · intro f hf hk
    rcases Dict.mem_set hf with rfl | ⟨_, hne⟩
    · rfl
    · exact absurd hk hne

theorem Dict.set_set_again (d : Dict) {k k' : PyStr} (v v' : Json) (hne : k ≠ k') :
    Dict.set (Dict.set (Dict.set d k v) k' v') k v = Dict.set (Dict.set d k v) k' v' := by
  apply Dict.set_same
  · rw [Dict.contains_set, Dict.contains_set, decide_eq_true (rfl : k = k)]
    exact Bool.or_true _
  · intro f hf hk
    rcases Dict.mem_set hf with rfl | ⟨hf, _⟩
    · exact absurd hk hne.symm
    · rcases Dict.mem_set hf with rfl | ⟨_, hnot⟩
      · rfl
      · exact absurd hk hnot

theorem Dict.set_nodup {d : Dict} (h : (d.map Prod.fst).Nodup) (k : PyStr) (v : Json) :
    ((Dict.set d k v).map Prod.fst).Nodup := by
  rw [Dict.set_keys]
  split
  · exact h
  · next hnew =>
    rw [← List.concat_eq_append, List.nodup_concat]
    refine ⟨fun hmem => hnew ?_, h⟩
    obtain ⟨f, hf, hk⟩ := List.mem_map.1 hmem
    exact List.any_eq_true.2 ⟨f, hf, decide_eq_true hk⟩

theorem Dict.update_spec {d : Dict} (h : (d.map Prod.fst).Nodup) (entries : Dict) :
    ((Dict.update d entries).map Prod.fst).Nodup ∧
      ∀ f ∈ Dict.update d entries, f ∈ d ∨ f ∈ entries := by
  induction entries generalizing d with
  | nil => exact ⟨h, fun f hf => .inl hf⟩
  | cons e entries ih =>
    obtain ⟨hnodup, hmem⟩ := ih (Dict.set_nodup h e.1 e.2)
    refine ⟨hnodup, fun f hf => ?_⟩
    rcases hmem f hf with hset | hrest
    · rcases Dict.mem_set hset with rfl | ⟨hold, _⟩
      · exact .inr List.mem_cons_self
      · exact .inl hold
    · exact .inr (List.mem_cons_of_mem _ hrest)

theorem Dict.update_self {d entries : Dict} (h : ((d ++ entries).map Prod.fst).Nodup) :
    Dict.update d entries = d ++ entries := by
  induction entries generalizing d with
  | nil => exact (List.append_nil d).symm
  | cons e entries ih =>
    have hnew : Dict.contains d e.1 = false := by
      rw [Dict.contains, List.any_eq_false]
      intro f hf hk
      rw [List.map_append, List.map_cons] at h
      have hmem : e.1 ∈ d.map Prod.fst := List.mem_map.2 ⟨f, hf, of_decide_eq_true hk⟩
      exact (List.disjoint_of_nodup_append h) hmem List.mem_cons_self
    have hset : Dict.set d e.1 e.2 = d ++ [e] := by
      rw [Dict.set, hnew]
      rfl
    have hsplit : d ++ e :: entries = d ++ [e] ++ entries := by
      rw [List.append_assoc]
      rfl
    rw [hsplit] at h ⊢
    rw [← ih h, ← hset]
    rfl

theorem Dict.getD_eq (d : Dict) (key : PyStr) (v : Json) :
    d.getD key v = (d.lookup? key).getD v := rfl

theorem Dict.lookup?_setSome (d : Dict) (k k' : PyStr) (v : Option Json) :
    (Dict.setSome d k v).lookup? k' = if k = k' then v.or (d.lookup? k') else d.lookup? k' := by
  cases v with
  | none => exact (ite_self _).symm
  | some v => exact Dict.lookup?_set d k k' v

theorem Dict.lookup?_perm {d d' : Dict} (hdistinct : (d.map Prod.fst).Nodup) (h : d.Perm d')
    (key : PyStr) : Dict.lookup? d key = Dict.lookup? d' key := by
  induction h with
  | nil => rfl
  | @cons f l l' _ ih =>
    have hrest := ih (List.nodup_cons.1 hdistinct).2
    obtain ⟨k, v⟩ := f
    by_cases hkey : k = key
    · subst hkey
      rw [Dict.lookup?_cons_self, Dict.lookup?_cons_self]
    · rw [Dict.lookup?_cons_ne _ _ hkey, Dict.lookup?_cons_ne _ _ hkey, hrest]
  | swap f g l =>
    obtain ⟨k, v⟩ := f
    obtain ⟨k', v'⟩ := g
    have hne : k' ≠ k := fun he => (List.nodup_cons.1 hdistinct).1 (he ▸ List.mem_cons_self)
    by_cases hkey : k = key
    · subst hkey
      rw [Dict.lookup?_cons_ne _ _ hne, Dict.lookup?_cons_self, Dict.lookup?_cons_self]
    · by_cases hkey' : k' = key
      · subst hkey'
        rw [Dict.lookup?_cons_self, Dict.lookup?_cons_ne _ _ hkey, Dict.lookup?_cons_self]
      · rw [Dict.lookup?_cons_ne _ _ hkey', Dict.lookup?_cons_ne _ _ hkey,
          Dict.lookup?_cons_ne _ _ hkey, Dict.lookup?_cons_ne _ _ hkey']
  | trans hl _ ih₁ ih₂ =>
    exact (ih₁ hdistinct).trans (ih₂ ((hl.map Prod.fst).nodup_iff.1 hdistinct))

end Python
