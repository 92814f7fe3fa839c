import Mathlib.Data.List.Basic

namespace Plans
set_option autoImplicit true

/-- What was done, newest first, decides what comes next. -/
def Acting (ω ε α : Type) := List ω → Except ε α × List ω

namespace Acting

def bind (m : Acting ω ε α) (f : α → Acting ω ε β) : Acting ω ε β := fun log =>
  match m log with
  | (.ok a, log') => f a log'
  | (.error err, log') => (.error err, log')

instance instMonad : Monad (Acting ω ε) where
  pure a := fun log => (.ok a, log)
  bind := bind

def done : Acting ω ε (List ω) := fun log => (.ok log, log)

def act (w : ω) : Acting ω ε Unit := fun log => (.ok (), w :: log)

def stop (err : ε) : Acting ω ε α := fun log => (.error err, log)

/-- A result that was judged elsewhere. -/
def lift (x : Except ε α) : Acting ω ε α := fun log => (x, log)

@[simp] theorem pure_run (a : α) (log : List ω) :
    (pure a : Acting ω ε α) log = (.ok a, log) := rfl

theorem bind_run (m : Acting ω ε α) (f : α → Acting ω ε β) (log : List ω) :
    (m >>= f) log = match m log with
      | (.ok a, log') => f a log'
      | (.error err, log') => (.error err, log') := rfl

@[simp] theorem done_bind (f : List ω → Acting ω ε β) (log : List ω) :
    ((done : Acting ω ε (List ω)) >>= f) log = f log log := rfl

@[simp] theorem act_bind (w : ω) (f : Unit → Acting ω ε β) (log : List ω) :
    ((act w : Acting ω ε Unit) >>= f) log = f () (w :: log) := rfl

@[simp] theorem stop_run (err : ε) (log : List ω) :
    (stop err : Acting ω ε α) log = (.error err, log) := rfl

@[simp] theorem stop_bind (err : ε) (f : α → Acting ω ε β) (log : List ω) :
    ((stop err : Acting ω ε α) >>= f) log = (.error err, log) := rfl

@[simp] theorem lift_run (x : Except ε α) (log : List ω) :
    (lift x : Acting ω ε α) log = (x, log) := rfl

end Acting

/-- How actions are read: the step of the plan that one takes, whether it went well, and whether it
is what had to follow. And what stops a computation. -/
structure Reading (ω κ ε : Type) where
  step : ω → κ
  good : ω → Prop
  fits : List ω → ω → Prop
  stops : ε → Prop

/-- A computation takes the steps of a plan in order, as far as they go well. It returns exactly if
all of them were taken and went well. -/
structure Follows (r : Reading ω κ ε) (plan : List κ) (log : List ω) (result : Except ε α × List ω)
    (actions : List ω) (post : α → List ω → Prop) : Prop where
  history : result.2 = actions.reverse ++ log
  steps : actions.map r.step <+: plan
  good : ∀ w ∈ actions.dropLast, r.good w
  fits : ∀ before w after, actions = before ++ w :: after → r.fits (before.reverse ++ log) w
  returns : ∀ a, result.1 = .ok a →
    actions.map r.step = plan ∧ (∀ w ∈ actions, r.good w) ∧ post a actions
  stops : ∀ err, result.1 = .error err →
    r.stops err ∧ ¬(actions.map r.step = plan ∧ ∀ w ∈ actions, r.good w)

section
variable {r : Reading ω κ ε} {plan rest : List κ} {m : Acting ω ε α} {f : α → Acting ω ε β}
  {post : α → List ω → Prop} {post' : β → List ω → Prop}

def Planned (r : Reading ω κ ε) (m : Acting ω ε α) (plan : List κ)
    (post : α → List ω → Prop) : Prop :=
  ∀ log, ∃ actions, Follows r plan log (m log) actions post

theorem Planned.pure {a : α} (h : post a []) : Planned r (pure a : Acting ω ε α) [] post := by
  intro log
  refine ⟨[], rfl, List.prefix_refl _, ?_, ?_, ?_, ?_⟩
  · intro w hw
    cases hw
  · intro before w after heq
    exact absurd heq.symm (List.append_ne_nil_of_right_ne_nil _ (List.cons_ne_nil _ _))
  · intro b hb
    cases hb
    exact ⟨rfl, fun w hw => absurd hw List.not_mem_nil, h⟩
  · intro err herr
    cases herr

theorem Planned.imp (h : Planned r m plan post) {post' : α → List ω → Prop}
    (hpost : ∀ a actions, post a actions → post' a actions) : Planned r m plan post' := by
  intro log
  obtain ⟨actions, hactions⟩ := h log
  refine ⟨actions, { hactions with returns := ?_ }⟩
  intro a ha
  obtain ⟨hplan, hgood, hholds⟩ := hactions.returns a ha
  exact ⟨hplan, hgood, hpost _ _ hholds⟩

theorem Planned.single {k : κ}
    (h : ∀ log, (∃ err, m log = (.error err, log) ∧ r.stops err) ∨
      ∃ w, (m log).2 = w :: log ∧ r.step w = k ∧ r.fits log w ∧
        (∀ a, (m log).1 = .ok a → r.good w ∧ post a [w]) ∧
        ∀ err, (m log).1 = .error err → r.stops err ∧ ¬r.good w) :
    Planned r m [k] post := by
  intro log
  rcases h log with ⟨err, heq, hstops⟩ | ⟨w, hlog, hstep, hfits, hok, herror⟩
  · refine ⟨[], ?_, List.nil_prefix, ?_, ?_, ?_, ?_⟩
    · rw [heq]
      rfl
    · intro w hw
      cases hw
    · intro before w after hsplit
      exact absurd hsplit.symm (List.append_ne_nil_of_right_ne_nil _ (List.cons_ne_nil _ _))
    · intro a ha
      rw [heq] at ha
      cases ha
    · intro err' herr
      rw [heq] at herr
      cases herr
      exact ⟨hstops, fun hall => absurd hall.1.symm (List.cons_ne_nil _ _)⟩
  · have hkeys : [w].map r.step = [k] := congrArg (fun k => [k]) hstep
    refine ⟨[w], hlog, ?_, ?_, ?_, ?_, ?_⟩
    · exact hkeys ▸ List.prefix_refl _
    · intro w' hw'
      cases hw'
    · intro before w' after hsplit
      rcases List.singleton_eq_append_iff.1 hsplit with ⟨hbefore, hw⟩ | ⟨_, hw⟩
      · obtain ⟨heq, _⟩ := List.cons.inj hw
        rw [hbefore, heq]
        exact hfits
      · cases hw
    · intro a ha
      obtain ⟨hgood, hpost⟩ := hok a ha
      exact ⟨hkeys, fun w' hw' => List.mem_singleton.1 hw' ▸ hgood, hpost⟩
    · intro err herr
      obtain ⟨hstops, hbad⟩ := herror err herr
      exact ⟨hstops, fun hall => hbad (hall.2 w List.mem_cons_self)⟩

theorem Planned.bind (hm : Planned r m plan post)
    (hf : ∀ a actions, post a actions →
      Planned r (f a) rest fun b actions' => post' b (actions ++ actions')) :
    Planned r (m >>= f) (plan ++ rest) post' := by
  intro log
  obtain ⟨actions, h⟩ := hm log
  rw [Acting.bind_run]
  cases hresult : m log with
  | mk outcome log' =>
    rw [hresult] at h
    cases outcome with
    | error err =>
      obtain ⟨hstops, hnot⟩ := h.stops err rfl
      refine ⟨actions, h.history, h.steps.trans (List.prefix_append _ _), h.good, h.fits, ?_, ?_⟩
      · intro b hb
        cases hb
      · intro err' herr
        cases herr
        refine ⟨hstops, ?_⟩
        rintro ⟨hall, hgood⟩
        have hprefix := h.steps
        rw [hall] at hprefix
        have hrest := List.append_right_eq_self.1 ( hprefix.eq_of_length_le
          (by rw [List.length_append]; exact Nat.le_add_right _ _))
        rw [hrest, List.append_nil] at hall
        exact hnot ⟨hall, hgood⟩
    | ok a =>
      obtain ⟨hplan, hgood, hpost⟩ := h.returns a rfl
      have hlog : log' = actions.reverse ++ log := h.history
      obtain ⟨actions', h'⟩ := hf a actions hpost log'
      refine ⟨actions ++ actions', ?_, ?_, ?_, ?_, ?_, ?_⟩
      · rw [List.reverse_append, List.append_assoc, ← hlog]
        exact h'.history
      · rw [List.map_append, hplan]
        exact (List.prefix_append_right_inj _).2 h'.steps
      · intro w hw
        cases hlast : actions' with
        | nil =>
          rw [hlast, List.append_nil] at hw
          exact hgood w (List.dropLast_subset _ hw)
        | cons w' rest' =>
          rw [List.dropLast_append_of_ne_nil (hlast ▸ List.cons_ne_nil _ _)] at hw
          rcases List.mem_append.1 hw with hold | hnew
          · exact hgood w hold
          · exact h'.good w hnew
      · intro before w after hsplit
        rcases List.append_eq_append_iff.1 hsplit with ⟨middle, hbefore, hactions'⟩ |
          ⟨middle, hactions, hafter⟩
        · rw [hbefore, List.reverse_append, List.append_assoc, ← hlog]
          exact h'.fits middle w after hactions'
        · cases middle with
          | nil =>
            rw [List.append_nil] at hactions
            have hfirst := h'.fits [] w after (by simpa using hafter.symm)
            rw [← hactions]
            rwa [List.reverse_nil, List.nil_append, hlog] at hfirst
          | cons w' middle' =>
            obtain ⟨heq, _⟩ := List.cons.inj hafter
            subst heq
            exact h.fits before w middle' hactions
      · intro b hb
        obtain ⟨hplan', hgood', hpost'⟩ := h'.returns b hb
        refine ⟨?_, ?_, hpost'⟩
        · rw [List.map_append, hplan, hplan']
        · intro w hw
          rcases List.mem_append.1 hw with hold | hnew
          · exact hgood w hold
          · exact hgood' w hnew
      · intro err herr
        obtain ⟨hstops, hnot⟩ := h'.stops err herr
        refine ⟨hstops, ?_⟩
        rintro ⟨hall, hallgood⟩
        rw [List.map_append, hplan] at hall
        exact hnot ⟨List.append_cancel_left hall,
          fun w hw => hallgood w (List.mem_append_right _ hw)⟩

theorem Planned.returning {g : α → β} (hm : Planned r m plan post)
    (hg : ∀ a actions, post a actions → post' (g a) actions) :
    Planned r (m >>= fun a => Pure.pure (g a)) plan post' := by
  rw [← List.append_nil plan]
  apply Planned.bind hm
  intro a actions hpost
  apply Planned.pure
  rw [List.append_nil]
  exact hg a actions hpost

end

end Plans
