import BrunostJudge.PyText
import Mathlib.Data.List.DropRight
import Mathlib.Data.List.TakeWhile

namespace Python
set_option autoImplicit true

/-- `str.strip`, on the characters of a text. -/
def trim (s : List Char) : List Char :=
  ((s.dropWhile isSpace).reverse.dropWhile isSpace).reverse

/-- `str.strip` of some characters. -/
def stripOf (p : Char → Bool) (s : List Char) : List Char :=
  ((s.dropWhile p).reverse.dropWhile p).reverse

/-- The characters `str.splitlines` breaks at. -/
def isLineBreak (c : Char) : Bool :=
  let n := c.toNat
  (10 ≤ n && n ≤ 13) || (28 ≤ n && n ≤ 30) || n == 0x85 || n == 0x2028 || n == 0x2029

/-- The pieces between breaks, the last one only when it is not empty. -/
def splitlines (s : List Char) : List (List Char) :=
  let pieces := s.splitOnP isLineBreak
  if pieces.getLast? = some [] then pieces.dropLast else pieces

/-- `str.partition`, at a separator that occurs. -/
def partition? (separator : Char) (s : List Char) : Option (List Char × List Char) :=
  if separator ∈ s then some (s.takeWhile (· ≠ separator), (s.dropWhile (· ≠ separator)).tail)
  else none

/-- `str.replace` of a text that is not empty; the number bounds the length of what is searched. -/
def replaceText (old new : List Char) : Nat → List Char → List Char
  | 0, s => s
  | _, [] => []
  | n + 1, c :: s =>
    if old.isPrefixOf (c :: s) then new ++ replaceText old new n ((c :: s).drop old.length)
    else c :: replaceText old new n s

/-- `str.lower`. -/
structure Lower where
  lower : String → String
  ascii : ∀ s : String, (∀ c ∈ s.toList, c.toNat < 128) →
    lower s = String.ofList (s.toList.map Char.toLower)

theorem trim_eq (s : List Char) : trim s = (s.dropWhile isSpace).rdropWhile isSpace := rfl

theorem blank_takeWhile (s : List Char) : ∀ c ∈ s.takeWhile isSpace, isSpace c :=
  fun _ hc => List.mem_takeWhile_imp hc

theorem rdropWhile_append_blank {s blanks : List Char} (h : ∀ c ∈ blanks, isSpace c) :
    (s ++ blanks).rdropWhile isSpace = s.rdropWhile isSpace := by
  rw [List.rdropWhile, List.reverse_append, List.dropWhile_append_of_pos]
  · rfl
  · exact fun c hc => h c (List.mem_reverse.1 hc)

theorem rdropWhile_solid {s : List Char} (h : ∀ c ∈ s, ¬isSpace c = true) :
    s.rdropWhile isSpace = s := by
  rw [List.rdropWhile_eq_self_iff]
  exact fun hs => h _ (List.getLast_mem hs)

theorem trim_between {before s after : List Char} (hbefore : ∀ c ∈ before, isSpace c)
    (hs : ∀ c ∈ s, ¬isSpace c = true) (hafter : ∀ c ∈ after, isSpace c) :
    trim (before ++ (s ++ after)) = s := by
  rw [trim_eq, List.dropWhile_append_of_pos hbefore]
  cases s with
  | nil =>
    rw [List.nil_append, List.dropWhile_eq_nil_iff.2 hafter]
    rfl
  | cons c s =>
    rw [List.cons_append, List.dropWhile_cons_of_neg (hs c List.mem_cons_self), ← List.cons_append,
      rdropWhile_append_blank hafter, rdropWhile_solid hs]

theorem exists_trim (s : List Char) : ∃ before after, s = before ++ (trim s ++ after) ∧
    (∀ c ∈ before, isSpace c) ∧ ∀ c ∈ after, isSpace c := by
  refine ⟨s.takeWhile isSpace, (s.dropWhile isSpace).rtakeWhile isSpace, ?_, blank_takeWhile s, ?_⟩
  · rw [trim_eq, List.rdropWhile_append_rtakeWhile, List.takeWhile_append_dropWhile]
  · exact fun c hc => List.mem_rtakeWhile_imp hc

theorem trim_dropWhile (s : List Char) : trim (s.dropWhile isSpace) = trim s := by
  rw [trim_eq, trim_eq]
  congr 1
  exact List.dropWhile_idempotent isSpace s

theorem trim_append_blank {blanks : List Char} (h : ∀ c ∈ blanks, isSpace c) (s : List Char) :
    trim (s ++ blanks) = trim s := by
  rw [trim_eq, trim_eq, List.dropWhile_append]
  split
  · next hs =>
    rw [List.dropWhile_eq_nil_iff.2 h, List.isEmpty_iff.1 hs]
  · exact rdropWhile_append_blank h

theorem trim_rdropWhile (s : List Char) : trim (s.rdropWhile isSpace) = trim s := by
  have hblank : ∀ c ∈ s.rtakeWhile isSpace, isSpace c := fun c hc => List.mem_rtakeWhile_imp hc
  rw [← trim_append_blank hblank, List.rdropWhile_append_rtakeWhile]

theorem trim_trim (s : List Char) : trim (trim s) = trim s := by
  rw [trim_eq s, trim_rdropWhile, trim_dropWhile, trim_eq]

theorem partition?_append {separator : Char} {a : List Char} (ha : separator ∉ a) (b : List Char) :
    partition? separator (a ++ separator :: b) = some (a, b) := by
  have hpos : ∀ c ∈ a, decide (c ≠ separator) = true :=
    fun c hc => decide_eq_true fun he => ha (he ▸ hc)
  rw [partition?, if_pos (List.mem_append_right _ List.mem_cons_self),
    List.takeWhile_append_of_pos hpos, List.dropWhile_append_of_pos hpos,
    List.takeWhile_cons_of_neg (by simp), List.dropWhile_cons_of_neg (by simp), List.append_nil]
  rfl

theorem partition?_some {separator : Char} {s a b : List Char} :
    partition? separator s = some (a, b) ↔ s = a ++ separator :: b ∧ separator ∉ a := by
  constructor
  · intro h
    by_cases hmem : separator ∈ s
    · obtain ⟨before, rest, rfl, hbefore⟩ := List.eq_append_cons_of_mem hmem
      rw [partition?_append hbefore] at h
      cases h
      exact ⟨rfl, hbefore⟩
    · rw [partition?, if_neg hmem] at h
      cases h
  · rintro ⟨rfl, ha⟩
    exact partition?_append ha b

theorem partition?_none {separator : Char} {s : List Char} :
    partition? separator s = none ↔ separator ∉ s := by
  rw [partition?]
  split
  · next hmem => exact iff_of_false (fun h => by cases h) (not_not.2 hmem)
  · next hmem => exact iff_of_true rfl hmem

theorem partition?_trim {separator : Char} (hsep : ¬isSpace separator = true) {s a b : List Char}
    (h : partition? separator s = some (a, b)) :
    partition? separator (trim s) = some (a.dropWhile isSpace, b.rdropWhile isSpace) := by
  obtain ⟨rfl, ha⟩ := partition?_some.1 h
  have hleft : (a ++ separator :: b).dropWhile isSpace =
      a.dropWhile isSpace ++ separator :: b := by
    rw [List.dropWhile_append]
    split
    · next hnil =>
      rw [List.isEmpty_iff.1 hnil, List.dropWhile_cons_of_neg hsep, List.nil_append]
    · rfl
  have hright : ∀ c : List Char, (c ++ separator :: b).rdropWhile isSpace =
      c ++ separator :: b.rdropWhile isSpace := by
    intro c
    rw [List.rdropWhile, List.reverse_append, List.reverse_cons, List.append_assoc,
      List.dropWhile_append]
    split
    · next hnil =>
      rw [List.rdropWhile, List.isEmpty_iff.1 hnil, List.singleton_append,
        List.dropWhile_cons_of_neg hsep]
      simp
    · rw [List.rdropWhile]
      simp
  rw [trim_eq, hleft, hright]
  exact partition?_append (fun hc => ha ((List.dropWhile_sublist _).mem hc)) _

end Python
