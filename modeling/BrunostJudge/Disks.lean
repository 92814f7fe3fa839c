import Mathlib.Logic.Function.Basic
import Mathlib.Data.List.GetD

namespace Disks
set_option autoImplicit true

/-- The names in use, and the contents of the files that were ever made. -/
structure Disk (α β : Type) where
  name : α → Option Nat
  contents : List (List β)

namespace Disk

def empty : Disk α β := ⟨fun _ => none, []⟩

def content (d : Disk α β) (file : Nat) : List β := d.contents.getD file []

/-- What is written at an offset replaces what is there. A gap is filled. -/
def overwrite (gap : β) (text : List β) (offset : Nat) (chunk : List β) : List β :=
  (text ++ List.replicate (offset - text.length) gap).take offset ++ chunk ++
    text.drop (offset + chunk.length)

def write (gap : β) (d : Disk α β) (file offset : Nat) (chunk : List β) : Disk α β :=
  { d with contents := d.contents.set file (overwrite gap (d.content file) offset chunk) }

/-- Names that differ lead to different files, all of them made. -/
structure Named (d : Disk α β) : Prop where
  made : ∀ {path file}, d.name path = some file → file < d.contents.length
  one : ∀ {path path' file}, d.name path = some file → d.name path' = some file → path = path'

section
variable {d : Disk α β} {file other offset : Nat} {text chunk : List β} {gap : β}

theorem overwrite_end (h : text.length = offset) :
    overwrite gap text offset chunk = text ++ chunk := by
  subst h
  rw [overwrite, Nat.sub_self, List.replicate_zero, List.append_nil, List.take_length,
    List.drop_of_length_le (Nat.le_add_right _ _), List.append_nil]

theorem content_set (contents : List (List β)) (file other : Nat) (text : List β) :
    (contents.set file text).getD other [] =
      if file = other ∧ other < contents.length then text else contents.getD other [] := by
  rw [List.getD_eq_getElem?_getD, List.getD_eq_getElem?_getD, List.getElem?_set]
  by_cases heq : file = other
  · subst heq
    by_cases hlt : file < contents.length
    · simp [hlt]
    · simp [hlt]
  · simp [heq]

@[simp] theorem write_name : (write gap d file offset chunk).name = d.name := rfl

@[simp] theorem write_length :
    (write gap d file offset chunk).contents.length = d.contents.length :=
  List.length_set

theorem write_content (hmade : file < d.contents.length) :
    (write gap d file offset chunk).content file = overwrite gap (d.content file) offset chunk := by
  rw [content, write, content_set, if_pos ⟨rfl, hmade⟩]

theorem write_other (hne : file ≠ other) :
    (write gap d file offset chunk).content other = d.content other := by
  rw [content, write, content_set, if_neg fun h => hne h.1]
  rfl

theorem Named.empty : Named (empty : Disk α β) where
  made h := nomatch h
  one h := nomatch h

theorem Named.write (h : Named d) : Named (d.write gap file offset chunk) where
  made hp := by
    rw [write_length]
    exact h.made hp
  one hp hq := h.one hp hq

end

section
variable [DecidableEq α]

/-- `open(path, "wb")`. A file that is there is emptied. -/
def create (d : Disk α β) (path : α) : Nat × Disk α β :=
  match d.name path with
  | some file => (file, { d with contents := d.contents.set file [] })
  | none => (d.contents.length,
      { name := Function.update d.name path (some d.contents.length)
        contents := d.contents ++ [[]] })

/-- `os.replace(source, target)`. -/
def replace? (d : Disk α β) (source target : α) : Option (Disk α β) :=
  (d.name source).map fun file =>
    { d with name := Function.update (Function.update d.name target (some file)) source none }

variable {d d' : Disk α β} {path source target : α}

/-- A file is opened: it is empty, and no name but the one it was opened by leads to it. -/
structure Created (d : Disk α β) (path : α) (file : Nat) (d' : Disk α β) : Prop where
  name : d'.name path = some file
  made : file < d'.contents.length
  content : d'.content file = []
  names : ∀ other, other ≠ path → d'.name other = d.name other
  grows : d.contents.length ≤ d'.contents.length
  others : ∀ other < d.contents.length, d.name path ≠ some other →
    file ≠ other ∧ d'.content other = d.content other

theorem create_spec (h : Named d) : Created d path (d.create path).1 (d.create path).2 := by
  cases hname : d.name path with
  | some file =>
    have heq : d.create path = (file, { d with contents := d.contents.set file [] }) := by
      rw [create, hname]
    have hmade := h.made hname
    rw [heq]
    constructor
    · exact hname
    · rwa [List.length_set]
    · rw [content, content_set, if_pos ⟨rfl, hmade⟩]
    · exact fun _ _ => rfl
    · exact Nat.le_of_eq List.length_set.symm
    · intro other _ hne
      have hfile : file ≠ other := fun heq => hne (hname.trans (congrArg some heq))
      refine ⟨hfile, ?_⟩
      rw [content, content_set, if_neg fun h => hfile h.1]
      rfl
  | none =>
    have heq : d.create path = (d.contents.length,
        { name := Function.update d.name path (some d.contents.length)
          contents := d.contents ++ [[]] }) := by
      rw [create, hname]
    rw [heq]
    constructor
    · exact Function.update_self _ _ _
    · rw [List.length_append]
      exact Nat.lt_succ_self _
    · rw [content, List.getD_append_right _ _ _ _ (Nat.le_refl _), Nat.sub_self]
      rfl
    · exact fun other hne => Function.update_of_ne hne _ _
    · rw [List.length_append]
      exact Nat.le_add_right _ _
    · intro other hlt _
      refine ⟨(Nat.ne_of_lt hlt).symm, ?_⟩
      rw [content, List.getD_append _ _ _ _ hlt]
      rfl

theorem Created.named {file : Nat} (hcreated : Created d path file d') (h : Named d) :
    Named d' := by
  have hread : ∀ {p other}, d'.name p = some other → p ≠ path → d.name p = some other := by
    intro p other hp hne
    rwa [hcreated.names p hne] at hp
  have hclash : ∀ {p other}, d'.name p = some other → p ≠ path → file ≠ other := by
    intro p other hp hne
    have hold := hread hp hne
    refine (hcreated.others other (h.made hold) ?_).1
    exact fun hthere => hne (h.one hold hthere)
  constructor
  · intro p other hp
    by_cases heq : p = path
    · subst heq
      rw [hcreated.name] at hp
      cases hp
      exact hcreated.made
    · exact Nat.lt_of_lt_of_le (h.made (hread hp heq)) hcreated.grows
  · intro p q other hp hq
    by_cases hpp : p = path
    · by_cases hqp : q = path
      · exact hpp.trans hqp.symm
      · subst hpp
        rw [hcreated.name] at hp
        exact absurd (Option.some.inj hp) (hclash hq hqp)
    · by_cases hqp : q = path
      · subst hqp
        rw [hcreated.name] at hq
        exact absurd (Option.some.inj hq) (hclash hp hpp)
      · exact h.one (hread hp hpp) (hread hq hqp)

theorem replace?_ok (h : d.replace? source target = some d') :
    ∃ file, d.name source = some file ∧ d'.contents = d.contents ∧
      ∀ path, d'.name path =
        if path = source then none else if path = target then some file else d.name path := by
  obtain ⟨file, hfile, heq⟩ := Option.map_eq_some_iff.1 h
  subst heq
  refine ⟨file, hfile, rfl, ?_⟩
  intro path
  by_cases hsource : path = source
  · rw [if_pos hsource, hsource]
    exact Function.update_self _ _ _
  · rw [if_neg hsource]
    have hupdate := Function.update_of_ne hsource none
      (Function.update d.name target (some file))
    refine hupdate.trans ?_
    by_cases htarget : path = target
    · rw [if_pos htarget, htarget, Function.update_self]
    · rw [if_neg htarget, Function.update_of_ne htarget]

theorem Named.replace (h : Named d) (hreplace : d.replace? source target = some d') :
    Named d' := by
  obtain ⟨file, hfile, hcontents, hname⟩ := replace?_ok hreplace
  have hread : ∀ {path other}, d'.name path = some other →
      path = target ∧ other = file ∨ path ≠ source ∧ path ≠ target ∧ d.name path = some other := by
    intro path other hpath
    rw [hname] at hpath
    split at hpath
    · cases hpath
    · next hsource =>
      split at hpath
      · next htarget => exact .inl ⟨htarget, (Option.some.inj hpath).symm⟩
      · next htarget => exact .inr ⟨hsource, htarget, hpath⟩
  constructor
  · intro path other hpath
    rw [hcontents]
    rcases hread hpath with ⟨_, heq⟩ | ⟨_, _, hold⟩
    · rw [heq]
      exact h.made hfile
    · exact h.made hold
  · intro path path' other hpath hpath'
    rcases hread hpath with ⟨hp, heq⟩ | ⟨hp, _, hold⟩
    · rcases hread hpath' with ⟨hp', _⟩ | ⟨hp', _, hold'⟩
      · exact hp.trans hp'.symm
      · rw [heq] at hold'
        exact absurd (h.one hold' hfile) hp'
    · rcases hread hpath' with ⟨_, heq⟩ | ⟨_, _, hold'⟩
      · rw [heq] at hold
        exact absurd (h.one hold hfile) hp
      · exact h.one hold hold'

end

end Disk

end Disks
