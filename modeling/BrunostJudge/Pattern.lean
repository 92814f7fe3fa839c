import Mathlib.Data.List.DropRight
import Mathlib.Data.List.TakeWhile

namespace Pattern
set_option autoImplicit true

/-- What a pattern is a sequence of. -/
inductive Item where
  /-- `^`, at the start of a line. -/
  | lineStart
  /-- `$`, at the end of a line. -/
  | lineEnd
  | char (c : Char)
  /-- `[p]*` -/
  | skip (p : Char → Bool)
  /-- `([p]+)` -/
  | word (p : Char → Bool)
  /-- `([p]*?)` -/
  | few (p : Char → Bool)

/-- The groups of a match, and where it ends. -/
structure Match where
  groups : List (List Char)
  atStart : Bool
  rest : List Char

def Match.push (group : List Char) (m : Match) : Match := { m with groups := group :: m.groups }

/-- Takes as many characters as the continuation leaves to it. -/
def greedy (p : Char → Bool) (k : List Char → Bool → List Char → Option R) :
    List Char → Bool → List Char → Option R
  | taken, atStart, [] => k taken atStart []
  | taken, atStart, c :: s =>
    (if p c then greedy p k (taken ++ [c]) (c == '\n') s else none).or (k taken atStart (c :: s))

/-- Takes no more characters than the continuation needs. -/
def reluctant (p : Char → Bool) (k : List Char → Bool → List Char → Option R) :
    List Char → Bool → List Char → Option R
  | taken, atStart, [] => k taken atStart []
  | taken, atStart, c :: s =>
    (k taken atStart (c :: s)).or
      (if p c then reluctant p k (taken ++ [c]) (c == '\n') s else none)

/-- The first match of a pattern at a position of a text, in the order of backtracking. -/
def run : List Item → Bool → List Char → Option Match
  | [], atStart, s => some ⟨[], atStart, s⟩
  | .lineStart :: items, atStart, s => if atStart then run items atStart s else none
  | .lineEnd :: items, atStart, s =>
    if s.head?.all (· == '\n') then run items atStart s else none
  | .char _ :: _, _, [] => none
  | .char c :: items, _, d :: s => if d = c then run items (c == '\n') s else none
  | .skip p :: items, atStart, s => greedy p (fun _ => run items) [] atStart s
  | .word p :: items, atStart, s =>
    greedy p (fun word atStart s =>
      if word = [] then none else (run items atStart s).map (Match.push word)) [] atStart s
  | .few p :: items, atStart, s =>
    reluctant p (fun word atStart s => (run items atStart s).map (Match.push word)) [] atStart s

/-- The leftmost match. -/
def search (items : List Item) : Bool → List Char → Option Match
  | atStart, [] => run items atStart []
  | atStart, c :: s => (run items atStart (c :: s)).or (search items (c == '\n') s)

/-- The groups of the matches that follow each other, for a pattern that matches no empty text. -/
def findAll (items : List Item) : Nat → Bool → List Char → List (List (List Char))
  | 0, _, _ => []
  | n + 1, atStart, s =>
    match search items atStart s with
    | none => []
    | some m => m.groups :: findAll items n m.atStart m.rest

attribute [local simp] greedy reluctant run search findAll

/-- Whether a position is at the start of a line once these characters are taken. -/
def after (atStart : Bool) (taken : List Char) : Bool :=
  match taken.getLast? with
  | none => atStart
  | some c => c == '\n'

theorem after_cons (atStart : Bool) (c : Char) (s : List Char) :
    after (c == '\n') s = after atStart (c :: s) := by
  rw [after, after, List.getLast?_cons]
  cases s.getLast? with
  | none => rfl
  | some d => rfl

section
variable {p : Char → Bool} {k : List Char → Bool → List Char → Option R}

theorem greedy_all (hk : ∀ taken atStart c s, p c → k taken atStart (c :: s) = none)
    (taken : List Char) (atStart : Bool) (s : List Char) :
    greedy p k taken atStart s =
      k (taken ++ s.takeWhile p) (after atStart (s.takeWhile p)) (s.dropWhile p) := by
  induction s generalizing taken atStart with
  | nil =>
    rw [greedy, List.takeWhile_nil, List.dropWhile_nil, List.append_nil]
    rfl
  | cons c s ih =>
    rw [greedy]
    cases hc : p c with
    | true =>
      rw [if_pos rfl, ih, hk _ _ _ _ hc, Option.or_none, List.takeWhile_cons_of_pos hc,
        List.dropWhile_cons_of_pos hc, ← after_cons, List.append_assoc]
      rfl
    | false =>
      have hc : ¬p c = true := Bool.eq_false_iff.1 hc
      rw [if_neg (by decide), Option.none_or, List.takeWhile_cons_of_neg hc,
        List.dropWhile_cons_of_neg hc, List.append_nil]
      rfl

theorem greedy_first {atStart : Bool} {s : List Char}
    (hk : k (taken ++ s.takeWhile p) (after atStart (s.takeWhile p)) (s.dropWhile p) = some r) :
    greedy p k taken atStart s = some r := by
  induction s generalizing taken atStart with
  | nil =>
    rw [List.takeWhile_nil, List.dropWhile_nil, List.append_nil] at hk
    exact hk
  | cons c s ih =>
    rw [greedy]
    cases hc : p c with
    | true =>
      rw [List.takeWhile_cons_of_pos hc, List.dropWhile_cons_of_pos hc, ← after_cons] at hk
      rw [if_pos rfl, ih (by rwa [List.append_assoc]), Option.some_or]
    | false =>
      have hc : ¬p c = true := Bool.eq_false_iff.1 hc
      rw [List.takeWhile_cons_of_neg hc, List.dropWhile_cons_of_neg hc, List.append_nil] at hk
      rw [if_neg (by decide), Option.none_or]
      exact hk

end

/-- A pattern that matches nowhere where one of these characters comes next. -/
def Refuses (items : List Item) (p : Char → Bool) : Prop :=
  ∀ atStart c s, p c → run items atStart (c :: s) = none

theorem Refuses.char (h : ∀ d, p d → d ≠ c) : Refuses (.char c :: items) p := by
  intro atStart d s hd
  rw [run, if_neg (h d hd)]

theorem Refuses.lineEnd (h : ¬p '\n' = true) : Refuses (.lineEnd :: items) p := by
  intro atStart d s hd
  rw [run, if_neg]
  intro hnewline
  rw [List.head?_cons, Option.all_some, beq_iff_eq] at hnewline
  exact h (hnewline ▸ hd)

theorem Refuses.skip {q : Char → Bool} (h : ∀ d, p d → ¬q d = true) (hitems : Refuses items p) :
    Refuses (.skip q :: items) p := by
  intro atStart d s hd
  rw [run, greedy, if_neg (h d hd), Option.none_or]
  exact hitems atStart d s hd

theorem Refuses.word {q : Char → Bool} (h : ∀ d, p d → ¬q d = true) :
    Refuses (.word q :: items) p := by
  intro atStart d s hd
  rw [run, greedy, if_neg (h d hd), Option.none_or, if_pos rfl]

theorem run_skip (h : Refuses items p) (atStart : Bool) (s : List Char) :
    run (.skip p :: items) atStart s =
      run items (after atStart (s.takeWhile p)) (s.dropWhile p) := by
  rw [run, greedy_all]
  exact fun _ => h

theorem run_word (h : Refuses items p) (atStart : Bool) (s : List Char) :
    run (.word p :: items) atStart s =
      if s.takeWhile p = [] then none
      else (run items (after atStart (s.takeWhile p)) (s.dropWhile p)).map
        (Match.push (s.takeWhile p)) := by
  rw [run, greedy_all, List.nil_append]
  intro taken start c s hc
  split
  · rfl
  · rw [h start c s hc, Option.map_none]

theorem run_skip_first {atStart : Bool} {s : List Char}
    (h : run items (after atStart (s.takeWhile p)) (s.dropWhile p) = some m) :
    run (.skip p :: items) atStart s = some m := by
  rw [run]
  exact greedy_first h

theorem run_or_search (items : List Item) (atStart : Bool) (s : List Char) :
    (run items atStart s).or (search items atStart s) = search items atStart s := by
  cases s with
  | nil =>
    rw [search]
    cases run items atStart [] with
    | none => rfl
    | some m => rfl
  | cons c s =>
    rw [search]
    cases run items atStart (c :: s) with
    | none => rfl
    | some m => rfl

theorem findAll_congr (h : search items a s = search items b t) (n : Nat) :
    findAll items n a s = findAll items n b t := by
  cases n with
  | zero => rfl
  | succ n => rw [findAll, findAll, h]

/-- A text that is at the end of a line. -/
def LineEnd (t : List Char) : Prop := ∀ c ∈ t.head?, c = '\n'

theorem lineEnd_nil : LineEnd [] := by
  intro c hc
  cases hc

theorem lineEnd_newline (t : List Char) : LineEnd ('\n' :: t) := by
  intro c hc
  cases hc
  rfl

theorem lineEnd_cases (h : LineEnd t) : t = [] ∨ ∃ u, t = '\n' :: u := by
  cases t with
  | nil => exact .inl rfl
  | cons c t =>
    cases h c rfl
    exact .inr ⟨t, rfl⟩

/-- A pattern that takes a character first, none of these, and does not look back. -/
structure Solid (items : List Item) (space : Char → Bool) : Prop where
  refuses : Refuses items space
  nil : ∀ atStart, run items atStart [] = none
  position : ∀ a b s, run items a s = run items b s

theorem Solid.char (h : ∀ d, space d → d ≠ c) : Solid (.char c :: items) space where
  refuses := .char h
  nil _ := rfl
  position a b s := by
    cases s with
    | nil => rfl
    | cons d s => rfl

theorem Solid.word (h : ∀ d, space d → ¬p d = true) : Solid (.word p :: items) space where
  refuses := .word h
  nil _ := rfl
  position a b s := by
    cases s with
    | nil => rfl
    | cons d s => rfl

theorem run_within (items : List Item) (s : List Char) :
    run (.lineStart :: items) false s = none := rfl

section
variable {items : List Item} {space : Char → Bool} (h : Solid items space)
include h

theorem run_line (s : List Char) :
    run (.lineStart :: .skip space :: items) true s = run items true (s.dropWhile space) := by
  rw [run, if_pos rfl, run_skip h.refuses]
  exact h.position _ _ _

theorem search_end : search (.lineStart :: .skip space :: items) atStart [] = none := by
  rw [search]
  cases atStart with
  | false => rfl
  | true =>
    rw [run_line h, List.dropWhile_nil]
    exact h.nil true

theorem search_within {line t : List Char} (hline : '\n' ∉ line) (ht : LineEnd t) :
    search (.lineStart :: .skip space :: items) false (line ++ t) =
      search (.lineStart :: .skip space :: items) true t.tail := by
  induction line with
  | nil =>
    obtain rfl | ⟨t, rfl⟩ := lineEnd_cases ht
    · rw [List.append_nil, List.tail_nil, search_end h, search_end h]
    · rw [List.nil_append, search, run_within, Option.none_or]
      rfl
  | cons c line ih =>
    obtain ⟨hc, hline⟩ := not_or.1 fun hmem => hline (List.mem_cons.2 hmem)
    have hstart : (c == '\n') = false := beq_eq_false_iff_ne.2 (Ne.symm hc)
    rw [List.cons_append, search, run_within, Option.none_or, hstart, ih hline]

theorem search_blanks {blanks t : List Char} (hspace : space '\n')
    (hblanks : ∀ c ∈ blanks, space c) (ht : LineEnd t) (atStart : Bool) :
    search (.lineStart :: .skip space :: items) atStart (blanks ++ t) =
      search (.lineStart :: .skip space :: items) true t.tail := by
  have hline : ∀ s, (s.dropWhile space = t.tail.dropWhile space ∨ s = []) → ∀ start,
      (run (.lineStart :: .skip space :: items) start s).or
        (search (.lineStart :: .skip space :: items) true t.tail) =
          search (.lineStart :: .skip space :: items) true t.tail := by
    rintro s hs (_ | _)
    · rfl
    · rw [run_line h]
      obtain hs | rfl := hs
      · rw [hs, ← run_line h, run_or_search]
      · rw [List.dropWhile_nil, h.nil, Option.none_or]
  induction blanks generalizing atStart with
  | nil =>
    rw [List.nil_append]
    obtain rfl | ⟨t, rfl⟩ := lineEnd_cases ht
    · rw [List.tail_nil, search_end h, search_end h]
    · rw [search]
      exact hline ('\n' :: t) (.inl (List.dropWhile_cons_of_pos hspace)) atStart
  | cons c blanks ih =>
    have hc := hblanks c List.mem_cons_self
    have hrest : ∀ d ∈ blanks, space d := fun d hd => hblanks d (List.mem_cons_of_mem _ hd)
    rw [List.cons_append, search, ih hrest]
    apply hline
    left
    obtain rfl | ⟨t, rfl⟩ := lineEnd_cases ht
    · rw [List.append_nil, List.dropWhile_cons_of_pos hc, List.tail_nil, List.dropWhile_nil]
      exact List.dropWhile_eq_nil_iff.2 hrest
    · rw [List.dropWhile_cons_of_pos hc, List.dropWhile_append_of_pos hrest,
        List.dropWhile_cons_of_pos hspace]
      rfl

end

/-- A match that took only blanks of a text, up to the end of a line. -/
structure Ends (space : Char → Bool) (t : List Char) (m : Match) : Prop where
  blank : ∃ blanks, t = blanks ++ m.rest ∧ ∀ c ∈ blanks, space c
  lineEnd : LineEnd m.rest

theorem run_lineEnd {atStart : Bool} (h : run [.lineEnd] atStart s = some m) :
    m = ⟨[], atStart, s⟩ ∧ LineEnd s := by
  rw [run] at h
  split at h
  · next hs =>
    cases h
    refine ⟨rfl, fun c hc => ?_⟩
    rw [hc, Option.all_some, beq_iff_eq] at hs
    exact hs
  · cases h

theorem run_lineEnd_of (h : LineEnd s) (atStart : Bool) :
    run [.lineEnd] atStart s = some ⟨[], atStart, s⟩ := by
  obtain rfl | ⟨s, rfl⟩ := lineEnd_cases h
  · rfl
  · rfl

theorem greedy_lineEnd {taken : List Char} {atStart : Bool}
    (h : greedy space (fun _ => run [.lineEnd]) taken atStart s = some m) :
    m.groups = [] ∧ Ends space s m := by
  induction s generalizing taken atStart with
  | nil =>
    obtain ⟨rfl, hs⟩ := run_lineEnd h
    exact ⟨rfl, ⟨[], rfl, fun c hc => absurd hc List.not_mem_nil⟩, hs⟩
  | cons c s ih =>
    rw [greedy, Option.or_eq_some_iff] at h
    obtain h | ⟨-, h⟩ := h
    · split at h
      · next hc =>
        obtain ⟨hgroups, ⟨blanks, rfl, hblanks⟩, hend⟩ := ih h
        refine ⟨hgroups, ⟨c :: blanks, rfl, fun d hd => ?_⟩, hend⟩
        obtain rfl | hd := List.mem_cons.1 hd
        · exact hc
        · exact hblanks d hd
      · cases h
    · obtain ⟨rfl, hs⟩ := run_lineEnd h
      exact ⟨rfl, ⟨[], rfl, fun c hc => absurd hc List.not_mem_nil⟩, hs⟩

section
variable {space : Char → Bool} {line t : List Char} (hline : '\n' ∉ line) (ht : LineEnd t)
include hline ht

omit ht in
theorem Ends.of_line (h : Ends space (line ++ t) m) :
    (∀ c ∈ line, space c) ∧ Ends space t m := by
  obtain ⟨⟨blanks, he, hblanks⟩, hend⟩ := h
  obtain ⟨more, rfl, ht'⟩ | ⟨left, rfl, hrest⟩ := List.append_eq_append_iff.1 he
  · exact ⟨fun c hc => hblanks c (List.mem_append_left _ hc),
      ⟨more, ht', fun c hc => hblanks c (List.mem_append_right _ hc)⟩, hend⟩
  · cases left with
    | nil =>
      rw [List.append_nil] at hline ⊢
      exact ⟨hblanks, ⟨[], hrest.symm, fun c hc => absurd hc List.not_mem_nil⟩, hend⟩
    | cons c left =>
      rw [hrest] at hend
      cases hend c rfl
      exact absurd (List.mem_append_right _ List.mem_cons_self) hline

theorem run_end (hblank : ∀ c ∈ line, space c) (atStart : Bool) :
    ∃ m, run [.skip space, .lineEnd] atStart (line ++ t) = some m ∧ m.groups = [] ∧
      Ends space t m := by
  have hsome : ∀ taken, ∃ m, greedy space (fun _ => run [.lineEnd]) taken atStart (line ++ t) =
      some m := by
    intro taken
    clear hline
    induction line generalizing taken atStart with
    | nil =>
      rw [List.nil_append]
      cases ht' : t with
      | nil => exact ⟨_, rfl⟩
      | cons c u =>
        rw [greedy, ← ht', run_lineEnd_of ht]
        exact Option.isSome_iff_exists.1
          (by rw [Option.isSome_or, Option.isSome_some, Bool.or_true])
    | cons c line ih =>
      obtain ⟨m, hm⟩ := ih (fun d hd => hblank d (List.mem_cons_of_mem _ hd)) (c == '\n')
        (taken ++ [c])
      rw [List.cons_append, greedy, if_pos (hblank c List.mem_cons_self), hm]
      exact ⟨m, rfl⟩
  obtain ⟨m, hm⟩ := hsome []
  obtain ⟨hgroups, hends⟩ := greedy_lineEnd hm
  exact ⟨m, hm, hgroups, (Ends.of_line hline hends).2⟩

omit ht in
theorem run_end_none (hsolid : ∃ c ∈ line, ¬space c = true) (atStart : Bool) :
    run [.skip space, .lineEnd] atStart (line ++ t) = none := by
  cases hm : run [.skip space, .lineEnd] atStart (line ++ t) with
  | none => rfl
  | some m =>
    obtain ⟨c, hc, hspace⟩ := hsolid
    exact absurd ((Ends.of_line hline (greedy_lineEnd hm).2).1 c hc) hspace

omit hline ht in
theorem rdropWhile_cons (h : ∃ d ∈ c :: line, ¬space d = true) :
    (c :: line).rdropWhile space = c :: line.rdropWhile space := by
  rw [List.rdropWhile, List.reverse_cons, List.dropWhile_append]
  split
  · next hnil =>
    have hblank : ∀ d ∈ line, space d := by
      intro d hd
      exact List.dropWhile_eq_nil_iff.1 (List.isEmpty_iff.1 hnil) d (List.mem_reverse.2 hd)
    have hc : ¬space c = true := by
      obtain ⟨d, hd, hspace⟩ := h
      obtain rfl | hd := List.mem_cons.1 hd
      · exact hspace
      · exact absurd (hblank d hd) hspace
    rw [List.dropWhile_cons_of_neg hc, List.rdropWhile_eq_nil_iff.2 hblank]
    rfl
  · rw [List.reverse_append]
    rfl

theorem run_few (hp : ∀ c ∈ line, p c) (atStart : Bool) :
    ∃ m, run [.few p, .skip space, .lineEnd] atStart (line ++ t) = some m ∧
      m.groups = [line.rdropWhile space] ∧ Ends space t m := by
  have hgroup : ∀ taken, ∃ m, reluctant p (fun word atStart s =>
      (run [.skip space, .lineEnd] atStart s).map (Match.push word)) taken atStart (line ++ t) =
        some m ∧ m.groups = [taken ++ line.rdropWhile space] ∧ Ends space t m := by
    intro taken
    induction line generalizing taken atStart with
    | nil =>
      obtain ⟨m, hm, hgroups, hends⟩ := run_end hline ht
        (fun c hc => absurd hc List.not_mem_nil) atStart
      refine ⟨m.push taken, ?_, ?_, hends.1, hends.2⟩
      · rw [List.nil_append] at hm ⊢
        cases t with
        | nil => rw [reluctant, hm, Option.map_some]
        | cons c t => rw [reluctant, hm, Option.map_some, Option.some_or]
      · rw [Match.push, hgroups, List.rdropWhile_nil, List.append_nil]
    | cons c line ih =>
      by_cases hblank : ∀ d ∈ c :: line, space d
      · obtain ⟨m, hm, hgroups, hends⟩ := run_end hline ht hblank atStart
        refine ⟨m.push taken, ?_, ?_, hends.1, hends.2⟩
        · rw [List.cons_append] at hm ⊢
          rw [reluctant, hm, Option.map_some, Option.some_or]
        · rw [Match.push, hgroups, List.rdropWhile_eq_nil_iff.2 hblank, List.append_nil]
      · have hsolid : ∃ d ∈ c :: line, ¬space d = true := by
          simpa only [not_forall, exists_prop] using hblank
        obtain ⟨m, hm, hgroups, hends⟩ := ih (fun hd => hline (List.mem_cons_of_mem _ hd))
          (fun d hd => hp d (List.mem_cons_of_mem _ hd)) (c == '\n') (taken ++ [c])
        refine ⟨m, ?_, ?_, hends⟩
        · have hnone := run_end_none (t := t) hline hsolid atStart
          rw [List.cons_append] at hnone ⊢
          rw [reluctant, hnone, Option.map_none, Option.none_or, if_pos (hp c List.mem_cons_self)]
          exact hm
        · rw [hgroups, rdropWhile_cons hsolid, List.append_assoc]
          rfl
  exact hgroup []

end

end Pattern
