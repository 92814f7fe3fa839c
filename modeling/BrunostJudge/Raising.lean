import Mathlib.Init

namespace Python
set_option autoImplicit true

theorem bind_ok {x : Except ε α} {f : α → Except ε β} {b : β} :
    (x >>= f) = .ok b ↔ ∃ a, x = .ok a ∧ f a = .ok b := by
  cases x with
  | error e => simp [bind, Except.bind]
  | ok a => simp [bind, Except.bind]

theorem ok_bind (a : α) (f : α → Except ε β) : (.ok a >>= f) = f a := rfl

theorem bind_error {x : Except ε α} {f : α → Except ε β} {e : ε} :
    (x >>= f) = .error e ↔ x = .error e ∨ ∃ a, x = .ok a ∧ f a = .error e := by
  cases x with
  | error e => simp [bind, Except.bind]
  | ok a => simp [bind, Except.bind]

theorem map_ok {x : Except ε α} {f : α → β} {b : β} :
    x.map f = .ok b ↔ ∃ a, x = .ok a ∧ f a = b := by
  cases x <;> simp [Except.map]

theorem mapError_ok {x : Except ε α} {f : ε → ε'} {a : α} :
    x.mapError f = .ok a ↔ x = .ok a := by
  cases x with
  | error e =>
    constructor
    · intro h
      cases h
    · intro h
      cases h
  | ok b =>
    constructor
    · intro h
      cases h
      rfl
    · intro h
      cases h
      rfl

theorem pure_ok {a b : α} : (pure a : Except ε α) = .ok b ↔ a = b := by
  simp [pure, Except.pure]

theorem throw_ok {e : ε} {a : α} : (throw e : Except ε α) = .ok a ↔ False := by
  simp [throw, throwThe, MonadExceptOf.throw]

theorem isOk_iff {x : Except ε α} : x.isOk ↔ ∃ a, x = .ok a := by
  cases x <;> simp [Except.isOk, Except.toBool]

theorem toOption_eq_some {x : Except ε α} {a : α} : x.toOption = some a ↔ x = .ok a := by
  cases x <;> simp [Except.toOption]

theorem mapM_ok {f : α → Except ε β} {l : List α} {values : List β} (h : l.mapM f = .ok values) :
    (∀ a ∈ l, ∃ b, f a = .ok b) ∧ ∀ b ∈ values, ∃ a ∈ l, f a = .ok b := by
  induction l generalizing values with
  | nil =>
    cases h
    exact ⟨fun a ha => absurd ha List.not_mem_nil, fun b hb => absurd hb List.not_mem_nil⟩
  | cons a l ih =>
    rw [List.mapM_cons] at h
    obtain ⟨b, hb, h⟩ := bind_ok.1 h
    obtain ⟨rest, hrest, h⟩ := bind_ok.1 h
    cases pure_ok.1 h
    obtain ⟨hl, hvalues⟩ := ih hrest
    constructor
    · intro x hx
      obtain heq | hx := List.mem_cons.1 hx
      · exact ⟨b, heq ▸ hb⟩
      · exact hl x hx
    · intro y hy
      obtain heq | hy := List.mem_cons.1 hy
      · exact ⟨a, List.mem_cons_self, heq ▸ hb⟩
      · obtain ⟨x, hx, hxy⟩ := hvalues y hy
        exact ⟨x, List.mem_cons_of_mem _ hx, hxy⟩

theorem mapM_map {f : α → Except ε β} {g : α → γ} {g' : β → γ} {l : List α} {values : List β}
    (hfg : ∀ a b, f a = .ok b → g' b = g a) (h : l.mapM f = .ok values) :
    values.map g' = l.map g := by
  induction l generalizing values with
  | nil =>
    cases h
    rfl
  | cons a l ih =>
    rw [List.mapM_cons] at h
    obtain ⟨b, hb, h⟩ := bind_ok.1 h
    obtain ⟨rest, hrest, h⟩ := bind_ok.1 h
    cases pure_ok.1 h
    rw [List.map_cons, List.map_cons, hfg a b hb, ih hrest]

theorem mapM_self {f : α → Except ε α} {l : List α} (h : ∀ a ∈ l, f a = .ok a) :
    l.mapM f = .ok l := by
  induction l with
  | nil => rfl
  | cons a l ih =>
    obtain ⟨ha, hl⟩ := List.forall_mem_cons.1 h
    rw [List.mapM_cons, ha, ok_bind, ih hl]
    rfl

theorem mapM_of_ok {f g : α → Except ε β} {l : List α} {values : List β}
    (hfg : ∀ a b, f a = .ok b → g a = .ok b) (h : l.mapM f = .ok values) :
    l.mapM g = .ok values := by
  induction l generalizing values with
  | nil => exact h
  | cons a l ih =>
    rw [List.mapM_cons] at h
    obtain ⟨b, hb, h⟩ := bind_ok.1 h
    obtain ⟨rest, hrest, h⟩ := bind_ok.1 h
    rw [List.mapM_cons]
    exact bind_ok.2 ⟨b, hfg a b hb, bind_ok.2 ⟨rest, ih hrest, h⟩⟩

theorem guard_ok {p : Prop} [Decidable p] {e : ε} {k : PUnit → Except ε α} {a : α} :
    (if p then throw e >>= k else k ⟨⟩) = .ok a ↔ ¬p ∧ k ⟨⟩ = .ok a := by
  by_cases hp : p
  · simp [hp, bind_ok, throw_ok]
  · simp [hp]

theorem guard_error {p : Prop} [Decidable p] {e e' : ε} {k : PUnit → Except ε α} :
    (if p then throw e >>= k else k ⟨⟩) = .error e' ↔ (p ∧ e = e') ∨ (¬p ∧ k ⟨⟩ = .error e') := by
  by_cases hp : p
  · simp [hp, throw, throwThe, MonadExceptOf.throw, bind, Except.bind]
  · simp [hp]

theorem foldlM_filter {m : Type → Type} [Monad m] [LawfulMonad m] {f : β → α → m β} {p : α → Bool}
    {l : List α} (h : ∀ a ∈ l, p a = false → ∀ b, f b a = pure b) (b : β) :
    l.foldlM f b = (l.filter p).foldlM f b := by
  induction l generalizing b with
  | nil => rfl
  | cons a l ih =>
    obtain ⟨hfirst, hrest⟩ := List.forall_mem_cons.1 h
    rw [List.foldlM_cons, List.filter_cons]
    split
    · rw [List.foldlM_cons]
      exact bind_congr fun c => ih hrest c
    · next hp =>
      rw [hfirst (eq_false_of_ne_true hp), pure_bind]
      exact ih hrest b

theorem findM?_append {p : α → Except ε Bool} (l m : List α) :
    (l ++ m).findM? p = l.findM? p >>= fun c? => match c? with
      | some c => pure (some c)
      | none => m.findM? p := by
  induction l with
  | nil => rfl
  | cons a l ih =>
    simp only [List.cons_append, List.findM?]
    cases p a with
    | error e => rfl
    | ok b =>
      cases b with
      | true => rfl
      | false => exact ih

theorem findM?_some {p : α → Except ε Bool} {l : List α} (h : l.findM? p = .ok (some a)) :
    a ∈ l ∧ p a = .ok true := by
  induction l with
  | nil => cases h
  | cons b l ih =>
    obtain ⟨found, hp, h⟩ := bind_ok.1 h
    cases found with
    | true =>
      cases h
      exact ⟨List.mem_cons_self, hp⟩
    | false =>
      obtain ⟨hm, ha⟩ := ih h
      exact ⟨List.mem_cons_of_mem _ hm, ha⟩

theorem findM?_pure {p : α → Except ε Bool} {q : α → Bool} {l : List α}
    (h : ∀ a ∈ l, p a = .ok (q a)) : l.findM? p = .ok (l.find? q) := by
  induction l with
  | nil => rfl
  | cons a l ih =>
    have hl := ih fun b hb => h b (List.mem_cons_of_mem _ hb)
    simp only [List.findM?, h a List.mem_cons_self, List.find?_cons]
    cases q a with
    | true => rfl
    | false => exact hl

end Python
