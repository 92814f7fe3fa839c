import BrunostJudge.PyJson
import BrunostJudge.Raising
import Mathlib.Data.List.Dedup

namespace Python
set_option autoImplicit true

/-- `d[key]`, where there is one. -/
def Dict.lookup? (d : Dict) (key : PyStr) : Option Json :=
  (d.find? fun f => f.1 = key).map Prod.snd

theorem Dict.find?_set (d : Dict) (k k' : PyStr) (v : Json) :
    ((Dict.set d k v).find? fun f => f.1 = k').map Prod.snd =
      if k = k' then some v else (d.find? fun f => f.1 = k').map Prod.snd := by
  rw [Dict.set]
  cases hc : Dict.contains d k with
  | true =>
    obtain ⟨f, hf, hfk⟩ := List.any_eq_true.1 hc
    have hkeys : ((fun f : PyStr × Json => decide (f.1 = k')) ∘
        fun f => if f.1 = k then (k, v) else f) = fun f => decide (f.1 = k') := by
      funext g
      by_cases hg : g.1 = k <;> simp [hg]
    simp only [if_true, List.find?_map, hkeys, Option.map_map]
    cases hfind : d.find? fun f => decide (f.1 = k') with
    | none =>
      have hne : k ≠ k' := by
        intro he
        have hnot := List.find?_eq_none.1 hfind f hf
        rw [← he] at hnot
        exact hnot hfk
      simp [hne]
    | some g =>
      have hg : g.1 = k' := by simpa using List.find?_some hfind
      by_cases hk : k = k'
      · simp [hg, hk]
      · simp [hg, hk, Ne.symm hk]
  | false =>
    have hnone : d.find? (fun f => decide (f.1 = k)) = none := by
      apply List.find?_eq_none.2
      intro f hf hfk
      exact Bool.eq_false_iff.1 hc (List.any_eq_true.2 ⟨f, hf, hfk⟩)
    simp only [Bool.false_eq_true, if_false, List.find?_append, List.find?_cons]
    by_cases hk : k = k'
    · subst hk
      simp [hnone]
    · simp [hk]

theorem Dict.get_set (d : Dict) (k k' : PyStr) (v : Json) :
    (Dict.set d k v).get k' = if k = k' then v else d.get k' := by
  rw [Dict.get, Dict.getD, Dict.find?_set]
  split
  · rfl
  · rfl

theorem Dict.get_set_self (d : Dict) (k : PyStr) (v : Json) : (Dict.set d k v).get k = v := by
  rw [Dict.get_set, if_pos rfl]

theorem Dict.get_set_ne (d : Dict) (v : Json) (hk : k ≠ k') :
    (Dict.set d k v).get k' = d.get k' := by
  rw [Dict.get_set, if_neg hk]

theorem Json.text_inj {a b : String} (h : Json.text a = Json.text b) : a = b := by
  rw [Json.text, Json.text, Json.str.injEq] at h
  exact PyStr.ofString_inj.1 h

theorem Json.text_truthy {s : String} : (Json.text s).truthy = true ↔ s ≠ "" := by
  have hempty : PyStr.ofString s = [] ↔ s = "" := PyStr.ofString_inj (t := "")
  rw [Json.text, Json.truthy, decide_eq_true_iff, ne_eq, hempty]

theorem Dict.get_set_text (d : Dict) (v : Json) {key key' : String} (hkey : key ≠ key') :
    (Dict.set d key v).get key' = d.get key' := by
  apply Dict.get_set_ne
  intro he
  exact hkey (PyStr.ofString_inj.1 he)

theorem Dict.get_setSome_text (d : Dict) (v : Option Json) {key key' : String}
    (hkey : key ≠ key') : (Dict.setSome d key v).get key' = d.get key' := by
  cases v with
  | none => rfl
  | some v => exact d.get_set_text v hkey

theorem Dict.get_setSome_self (d : Dict) (key : PyStr) (v : Option Json) :
    (Dict.setSome d key v).get key = v.getD (d.get key) := by
  cases v with
  | none => rfl
  | some v => exact d.get_set_self key v

theorem Dict.get_eq (d : Dict) (key : PyStr) : d.get key = (d.lookup? key).getD .null := rfl

theorem Dict.contains_eq (d : Dict) (key : PyStr) : d.contains key = (d.lookup? key).isSome := by
  rw [Dict.contains, Dict.lookup?, Option.isSome_map, List.isSome_find?]

theorem Dict.lookup?_set (d : Dict) (k k' : PyStr) (v : Json) :
    (Dict.set d k v).lookup? k' = if k = k' then some v else d.lookup? k' := Dict.find?_set d k k' v

theorem Dict.lookup?_set_self (d : Dict) (k : PyStr) (v : Json) :
    (Dict.set d k v).lookup? k = some v := by
  rw [Dict.lookup?_set, if_pos rfl]

theorem Dict.lookup?_set_text (d : Dict) (v : Json) {key key' : String} (hkey : key ≠ key') :
    (Dict.set d key v).lookup? key' = d.lookup? key' := by
  rw [Dict.lookup?_set, if_neg]
  intro he
  exact hkey (PyStr.ofString_inj.1 he)

theorem Dict.lookup?_setSome_text (d : Dict) (v : Option Json) {key key' : String}
    (hkey : key ≠ key') : (Dict.setSome d key v).lookup? key' = d.lookup? key' := by
  cases v with
  | none => rfl
  | some v => exact d.lookup?_set_text v hkey

theorem Dict.lookup?_setSome_self (d : Dict) (key : PyStr) (v : Option Json) :
    (Dict.setSome d key v).lookup? key = v.or (d.lookup? key) := by
  cases v with
  | none => rfl
  | some v => exact d.lookup?_set_self key v

theorem Dict.lookup?_cons_self (d : Dict) (key : PyStr) (v : Json) :
    Dict.lookup? ((key, v) :: d) key = some v := by
  rw [Dict.lookup?, List.find?_cons_of_pos (by exact decide_eq_true rfl)]
  rfl

theorem Dict.lookup?_cons_ne (d : Dict) (v : Json) {key key' : PyStr} (hkey : key ≠ key') :
    Dict.lookup? ((key, v) :: d) key' = d.lookup? key' := by
  rw [Dict.lookup?, List.find?_cons_of_neg]
  · rfl
  · intro he
    exact hkey (of_decide_eq_true he)

theorem Dict.lookup?_cons_text (d : Dict) (v : Json) {key key' : String} (hkey : key ≠ key') :
    Dict.lookup? ((PyStr.ofString key, v) :: d) key' = d.lookup? key' := by
  apply Dict.lookup?_cons_ne
  intro he
  exact hkey (PyStr.ofString_inj.1 he)

theorem mapM_forall₂ {f : α → Except ε β} {l : List α} {values : List β}
    (h : l.mapM f = .ok values) : List.Forall₂ (fun a b => f a = .ok b) l values := by
  induction l generalizing values with
  | nil =>
    cases h
    exact .nil
  | cons a l ih =>
    rw [List.mapM_cons] at h
    obtain ⟨b, hb, h⟩ := bind_ok.1 h
    obtain ⟨rest, hrest, h⟩ := bind_ok.1 h
    cases pure_ok.1 h
    exact .cons hb (ih hrest)

theorem mapM_exists {f : α → Except ε β} {l : List α} (h : ∀ a ∈ l, ∃ b, f a = .ok b) :
    ∃ values, l.mapM f = .ok values := by
  induction l with
  | nil => exact ⟨[], rfl⟩
  | cons a l ih =>
    obtain ⟨⟨b, hb⟩, hrest⟩ := List.forall_mem_cons.1 h
    obtain ⟨values, hvalues⟩ := ih hrest
    rw [List.mapM_cons]
    exact ⟨b :: values, bind_ok.2 ⟨b, hb, bind_ok.2 ⟨values, hvalues, rfl⟩⟩⟩

theorem forall₂_mem {R : α → β → Prop} {l : List α} {values : List β}
    (h : List.Forall₂ R l values) (hb : b ∈ values) : ∃ a ∈ l, R a b := by
  induction h with
  | nil => exact absurd hb List.not_mem_nil
  | @cons a b' l values hab _ ih =>
    obtain hhead | hrest := List.mem_cons.1 hb
    · subst hhead
      exact ⟨a, List.mem_cons_self, hab⟩
    · obtain ⟨a', ha', hR⟩ := ih hrest
      exact ⟨a', List.mem_cons_of_mem _ ha', hR⟩

theorem setElements_hashable {value : Json} (h : value.setElements = .ok items) :
    ∀ x ∈ items, x.hashable := by
  rw [Json.setElements] at h
  split at h
  · obtain ⟨l, _, h⟩ := bind_ok.1 h
    split at h
    · next hall =>
      cases h
      exact List.all_eq_true.1 hall
    · exact (throw_ok.1 h).elim
  · cases h
    exact fun x hx => absurd hx List.not_mem_nil

theorem setElements_arr {items : List Json} (h : ∀ x ∈ items, x.hashable) :
    (Json.arr items).setElements = .ok items := by
  rw [Json.setElements]
  cases items with
  | nil => rfl
  | cons x items =>
    have htruthy : (Json.arr (x :: items)).truthy = true := rfl
    rw [if_pos htruthy]
    exact if_pos (List.all_eq_true.2 h)

theorem mem_setInsert (h : x ∈ setInsert items y) : x ∈ items ∨ x = y := by
  rw [setInsert] at h
  split at h
  · exact .inl h
  · simpa using h

theorem mem_foldl_setInsert {values items : List Json} (h : x ∈ values.foldl setInsert items) :
    x ∈ items ∨ x ∈ values := by
  induction values generalizing items with
  | nil => exact .inl h
  | cons y values ih =>
    obtain hx | hx := ih h
    · obtain hx | hx := mem_setInsert hx
      · exact .inl hx
      · exact .inr (hx ▸ List.mem_cons_self)
    · exact .inr (List.mem_cons_of_mem _ hx)

theorem sortedInsert_perm {items : List Json} (h : sortedInsert x items = .ok l) :
    l.Perm (x :: items) := by
  induction items generalizing l with
  | nil =>
    cases h
    exact .refl _
  | cons y items ih =>
    obtain ⟨less, _, h⟩ := bind_ok.1 h
    cases less with
    | true =>
      obtain ⟨rest, hrest, h⟩ := bind_ok.1 h
      cases h
      exact ((ih hrest).cons y).trans (List.Perm.swap x y items)
    | false =>
      cases h
      exact .refl _

theorem sorted_perm {items : List Json} (h : sorted items = .ok l) : l.Perm items := by
  induction items generalizing l with
  | nil =>
    cases h
    exact .nil
  | cons x items ih =>
    rw [sorted, List.foldrM_cons] at h
    obtain ⟨rest, hrest, h⟩ := bind_ok.1 h
    exact (sortedInsert_perm h).trans ((ih hrest).cons x)

theorem mem_sortedTexts {items : List PyStr} : x ∈ sortedTexts items ↔ x ∈ items := by
  rw [sortedTexts, List.mem_insertionSort, List.mem_dedup]

theorem mem_sortedSet {items : List String} : x ∈ sortedSet items ↔ x ∈ items := by
  rw [sortedSet, List.mem_insertionSort, List.mem_dedup]

end Python
