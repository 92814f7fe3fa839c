import BrunostJudge.ManifestText

namespace BrunostJudge
open Python Pattern
set_option autoImplicit true

theorem isKeyChar_cases {c : Char} (h : isKeyChar c = true) :
    (65 ≤ c.toNat ∧ c.toNat ≤ 90) ∨ (97 ≤ c.toNat ∧ c.toNat ≤ 122) ∨
      (48 ≤ c.toNat ∧ c.toNat ≤ 57) ∨ c.toNat = 95 ∨ c.toNat = 45 := by
  have hranges : ((((decide (c.val ≥ 65 ∧ c.val ≤ 90)) ||
      (decide (c.val ≥ 97) && decide (c.val ≤ 122))) ||
      (decide (c.val ≥ 48) && decide (c.val ≤ 57))) || c == '_' || c == '-') = true := h
  simp only [Bool.or_eq_true, Bool.and_eq_true, decide_eq_true_eq, beq_iff_eq] at hranges
  rcases hranges with (((⟨h, h'⟩ | ⟨h, h'⟩) | ⟨h, h'⟩) | rfl) | rfl
  · exact .inl ⟨h, h'⟩
  · exact .inr (.inl ⟨h, h'⟩)
  · exact .inr (.inr (.inl ⟨h, h'⟩))
  · decide
  · decide

theorem isKeyChar_not_space {c : Char} (h : isKeyChar c = true) : ¬isSpace c = true := by
  have hc := isKeyChar_cases h
  simp only [isSpace, Bool.or_eq_true, Bool.and_eq_true, decide_eq_true_eq, beq_iff_eq]
  omega

theorem isKeyChar_ascii {c : Char} (h : isKeyChar c = true) : c.toNat < 128 := by
  have hc := isKeyChar_cases h
  omega

/-- The key a line assigns to, and what follows its colon. -/
def assignment? (line : List Char) : Option (List Char × List Char) :=
  let key := (line.dropWhile isSpace).takeWhile isKeyChar
  match ((line.dropWhile isSpace).dropWhile isKeyChar).dropWhile isSpace with
  | c :: value => if c = ':' ∧ key ≠ [] then some (key, value) else none
  | [] => none

/-- A line of the flat subset of YAML: one that breaks nowhere, does not start with a colon, and
assigns no empty value. -/
structure PlainLine (line : List Char) : Prop where
  unbroken : ∀ c ∈ line, ¬isLineBreak c = true
  noColon : (line.dropWhile isSpace).head? ≠ some ':'
  value : ∀ key value, assignment? line = some (key, value) → trim value ≠ []

section
variable {line t : List Char}

theorem PlainLine.noNewline (h : PlainLine line) : '\n' ∉ line :=
  fun hmem => h.unbroken _ hmem rfl

theorem takeWhile_lineEnd {p : Char → Bool} (hp : ¬p '\n' = true) (ht : LineEnd t) (s : List Char) :
    (s ++ t).takeWhile p = s.takeWhile p := by
  induction s with
  | nil =>
    obtain rfl | ⟨t, rfl⟩ := lineEnd_cases ht
    · rfl
    · exact List.takeWhile_cons_of_neg hp
  | cons c s ih =>
    rw [List.cons_append, List.takeWhile_cons, List.takeWhile_cons, ih]

theorem dropWhile_lineEnd {p : Char → Bool} (hp : ¬p '\n' = true) (ht : LineEnd t) (s : List Char) :
    (s ++ t).dropWhile p = s.dropWhile p ++ t := by
  induction s with
  | nil =>
    obtain rfl | ⟨t, rfl⟩ := lineEnd_cases ht
    · rfl
    · exact List.dropWhile_cons_of_neg hp
  | cons c s ih =>
    rw [List.cons_append, List.dropWhile_cons, List.dropWhile_cons, ih]
    split
    · rfl
    · rfl

theorem dropWhile_append_solid {p : Char → Bool} {s : List Char} (h : s.dropWhile p ≠ [])
    (t : List Char) : (s ++ t).dropWhile p = s.dropWhile p ++ t := by
  rw [List.dropWhile_append, if_neg]
  rw [List.isEmpty_iff]
  exact h

theorem trim_ne_nil {s : List Char} (h : trim s ≠ []) : s.dropWhile isSpace ≠ [] := by
  intro hnil
  rw [trim, hnil] at h
  exact h rfl

end

theorem assignment?_some (h : assignment? line = some (key, value)) :
    (line.dropWhile isSpace).takeWhile isKeyChar ≠ [] ∧
    ((line.dropWhile isSpace).dropWhile isKeyChar).dropWhile isSpace = ':' :: value ∧
    key = (line.dropWhile isSpace).takeWhile isKeyChar := by
  rw [assignment?] at h
  split at h
  · next c rest hrest =>
    split at h
    · next hc =>
      obtain ⟨rfl, hkey⟩ := hc
      cases h
      exact ⟨hkey, hrest, rfl⟩
    · cases h
  · cases h

def fieldBody : List Item :=
  [.word isKeyChar, .skip isSpace, .char ':', .skip isSpace, .few (· != '\n'),
    .skip isSpace, .lineEnd]

theorem fieldPattern_eq : fieldPattern = .lineStart :: .skip isSpace :: fieldBody := rfl

theorem space_not_key {c : Char} (h : isSpace c = true) : ¬isKeyChar c = true :=
  fun hkey => isKeyChar_not_space hkey h

theorem space_ne_colon {c : Char} (h : isSpace c = true) : c ≠ ':' := by
  rintro rfl
  exact absurd h (by decide)

theorem key_ne_colon {c : Char} (h : isKeyChar c = true) : c ≠ ':' := by
  rintro rfl
  exact absurd h (by decide)

theorem fieldBody_solid : Solid fieldBody isSpace := .word fun _ => space_not_key

theorem run_colon (items : List Item) (atStart : Bool) (s : List Char) :
    run (.skip isSpace :: .char ':' :: items) atStart s =
      run (.char ':' :: items) true (s.dropWhile isSpace) := by
  rw [run_skip (.char fun _ => space_ne_colon)]
  cases s.dropWhile isSpace with
  | nil => rfl
  | cons c s => rfl

theorem refuses_colon (items : List Item) :
    Refuses (.skip isSpace :: .char ':' :: items) isKeyChar :=
  .skip (fun _ => isKeyChar_not_space) (.char fun _ => key_ne_colon)

section
variable {line t : List Char} (ht : LineEnd t)
include ht

theorem run_field (h : PlainLine line) (hentry : assignment? line = some (key, value)) :
    ∃ m, run fieldBody true ((line ++ t).dropWhile isSpace) = some m ∧
      m.groups = [key, trim value] ∧ Ends isSpace t m := by
  obtain ⟨hkey, hrest, rfl⟩ := assignment?_some hentry
  have hvalue := trim_ne_nil (h.value _ value hentry)
  have hmem : ∀ c ∈ value, c ∈ line := by
    intro c hc
    apply (List.dropWhile_sublist isSpace).mem
    apply (List.dropWhile_sublist isKeyChar).mem
    apply (List.dropWhile_sublist isSpace).mem
    rw [hrest]
    exact List.mem_cons_of_mem _ hc
  have hsolid : line.dropWhile isSpace ≠ [] := by
    intro hnil
    rw [hnil] at hkey
    exact hkey rfl
  have hnewline : '\n' ∉ value.dropWhile isSpace :=
    fun hc => h.noNewline (hmem _ ((List.dropWhile_sublist isSpace).mem hc))
  obtain ⟨m, hm, hgroups, hends⟩ := run_few (p := (· != '\n')) hnewline ht
    (fun c hc => bne_iff_ne.2 fun he => hnewline (he ▸ hc))
    (after false ((value ++ t).takeWhile isSpace))
  have hcolon : run fieldBody true ((line ++ t).dropWhile isSpace) =
      (run (.char ':' :: .skip isSpace :: [.few (· != '\n'), .skip isSpace, .lineEnd]) true
        (':' :: (value ++ t))).map (Match.push ((line.dropWhile isSpace).takeWhile isKeyChar)) := by
    rw [dropWhile_append_solid hsolid t, fieldBody, run_word (refuses_colon _),
      takeWhile_lineEnd (by decide) ht, dropWhile_lineEnd (by decide) ht, if_neg hkey, run_colon,
      dropWhile_append_solid (by rw [hrest]; exact List.cons_ne_nil _ _), hrest]
    rfl
  refine ⟨m.push ((line.dropWhile isSpace).takeWhile isKeyChar), ?_, ?_, hends.1, hends.2⟩
  · rw [hcolon, run, if_pos rfl, run_skip_first]
    · exact rfl
    · rw [dropWhile_append_solid hvalue]
      exact hm
  · rw [Match.push, hgroups]
    rfl

theorem run_field_none (hentry : assignment? line = none) (hsolid : line.dropWhile isSpace ≠ [])
    (hnext : (t.dropWhile isSpace).head? ≠ some ':') :
    run fieldBody true ((line ++ t).dropWhile isSpace) = none := by
  rw [dropWhile_append_solid hsolid t, fieldBody, run_word (refuses_colon _),
    takeWhile_lineEnd (by decide) ht, dropWhile_lineEnd (by decide) ht, run_colon]
  split
  · rfl
  · next hkey =>
    have hcolon : ((((line.dropWhile isSpace).dropWhile isKeyChar) ++ t).dropWhile isSpace).head? ≠
        some ':' := by
      rw [List.dropWhile_append]
      split
      · exact hnext
      · next hrest =>
        rw [List.isEmpty_iff] at hrest
        obtain ⟨c, rest, hrest⟩ := List.exists_cons_of_ne_nil hrest
        rw [assignment?, hrest] at hentry
        rw [hrest]
        intro hc
        cases hc
        dsimp only at hentry
        rw [if_pos ⟨rfl, hkey⟩] at hentry
        cases hentry
    cases hrest : (((line.dropWhile isSpace).dropWhile isKeyChar) ++ t).dropWhile isSpace with
    | nil => rfl
    | cons c rest =>
      rw [hrest] at hcolon
      rw [run, if_neg fun hc => hcolon (congrArg some hc)]
      rfl

theorem search_ends (hends : Ends isSpace t m) (hbody : Solid items isSpace) (atStart : Bool) :
    search (.lineStart :: .skip isSpace :: items) atStart m.rest =
      search (.lineStart :: .skip isSpace :: items) true t.tail := by
  obtain ⟨⟨blanks, he, hblanks⟩, hend⟩ := hends
  have hrest := search_blanks hbody (by decide) (fun c hc => absurd hc List.not_mem_nil)
    hend atStart
  have hline := search_blanks hbody (by decide) hblanks hend false
  rw [← he] at hline
  rw [← List.nil_append m.rest, hrest, ← hline, ← List.nil_append t,
    search_blanks hbody (by decide) (fun c hc => absurd hc List.not_mem_nil) ht]
  rfl

theorem search_skip (hbody : Solid items isSpace) (hline : '\n' ∉ line)
    (hnone : line.dropWhile isSpace ≠ [] →
      run items true ((line ++ t).dropWhile isSpace) = none) :
    search (.lineStart :: .skip isSpace :: items) true (line ++ t) =
      search (.lineStart :: .skip isSpace :: items) true t.tail := by
  by_cases hblank : line.dropWhile isSpace = []
  · exact search_blanks hbody (by decide) (List.dropWhile_eq_nil_iff.1 hblank) ht true
  · have hrun := hnone hblank
    cases line with
    | nil => exact absurd rfl hblank
    | cons c line =>
      obtain ⟨hc, hline⟩ := not_or.1 fun hmem => hline (List.mem_cons.2 hmem)
      have hstart : (c == '\n') = false := beq_eq_false_iff_ne.2 (Ne.symm hc)
      rw [← run_line hbody] at hrun
      rw [List.cons_append] at hrun ⊢
      rw [search, hrun, Option.none_or, hstart, search_within hbody hline ht]

theorem lineEnd_dropWhile : t.dropWhile isSpace = t.tail.dropWhile isSpace := by
  obtain rfl | ⟨t, rfl⟩ := lineEnd_cases ht
  · rfl
  · exact List.dropWhile_cons_of_pos (by decide)

end

def unlines (lines : List (List Char)) : List Char := ['\n'].intercalate lines

theorem unlines_cons (line : List Char) (lines : List (List Char)) :
    ∃ t, unlines (line :: lines) = line ++ t ∧ LineEnd t ∧ t.tail = unlines lines := by
  cases lines with
  | nil =>
    refine ⟨[], ?_, lineEnd_nil, rfl⟩
    rw [unlines, List.intercalate_singleton, List.append_nil]
  | cons next lines =>
    refine ⟨'\n' :: unlines (next :: lines), ?_, lineEnd_newline _, rfl⟩
    rw [unlines, List.intercalate_cons_cons, unlines, List.append_assoc]
    rfl

theorem unlines_noColon {lines : List (List Char)} (h : ∀ line ∈ lines, PlainLine line) :
    ((unlines lines).dropWhile isSpace).head? ≠ some ':' := by
  induction lines with
  | nil =>
    intro hc
    cases hc
  | cons line lines ih =>
    obtain ⟨t, htext, ht, htail⟩ := unlines_cons line lines
    have hrest := ih fun l hl => h l (List.mem_cons_of_mem _ hl)
    rw [htext, List.dropWhile_append]
    split
    · rw [lineEnd_dropWhile ht, htail]
      exact hrest
    · next hsolid =>
      rw [List.isEmpty_iff] at hsolid
      obtain ⟨c, rest, hc⟩ := List.exists_cons_of_ne_nil hsolid
      have hcolon := (h line List.mem_cons_self).noColon
      rw [hc] at hcolon ⊢
      exact hcolon

theorem findAll_unlines {lines : List (List Char)} (h : ∀ line ∈ lines, PlainLine line) {n : Nat}
    (hn : lines.length ≤ n) : findAll fieldPattern n true (unlines lines) =
      (lines.filterMap assignment?).map fun entry => [entry.1, trim entry.2] := by
  induction lines generalizing n with
  | nil =>
    cases n with
    | zero => rfl
    | succ n =>
      have hnone : search fieldPattern true (unlines []) = none := search_end fieldBody_solid
      rw [findAll, hnone]
      rfl
  | cons line lines ih =>
    obtain ⟨t, htext, ht, htail⟩ := unlines_cons line lines
    have hline := h line List.mem_cons_self
    have hlines : ∀ l ∈ lines, PlainLine l := fun l hl => h l (List.mem_cons_of_mem _ hl)
    rw [List.length_cons] at hn
    rw [htext]
    cases hentry : assignment? line with
    | none =>
      have hskip : search fieldPattern true (line ++ t) =
          search fieldPattern true (unlines lines) := by
        rw [← htail]
        apply search_skip ht fieldBody_solid hline.noNewline
        intro hsolid
        apply run_field_none ht hentry hsolid
        rw [lineEnd_dropWhile ht, htail]
        exact unlines_noColon hlines
      rw [findAll_congr hskip, ih hlines (by omega), List.filterMap_cons_none hentry]
    | some entry =>
      obtain ⟨m, hm, hgroups, hends⟩ := run_field ht hline hentry
      obtain ⟨n, rfl⟩ := Nat.exists_eq_succ_of_ne_zero (n := n) (by omega)
      have hfound : search fieldPattern true (line ++ t) = some m := by
        rw [← run_or_search, fieldPattern_eq, run_line fieldBody_solid, hm, Option.some_or]
      have hrest := search_ends ht hends fieldBody_solid m.atStart
      rw [htail] at hrest
      rw [findAll, hfound, List.filterMap_cons_some hentry, List.map_cons]
      dsimp only
      rw [hgroups, fieldPattern_eq, findAll_congr hrest, ← fieldPattern_eq, ih hlines (by omega)]

end BrunostJudge
