import BrunostJudge.FlatManifests

namespace BrunostJudge
open Python Pattern
set_option autoImplicit true

/-- The text before the first colon of a line, and the value after it, as the readers that split
lines see them. -/
def keyed (line : List Char) : Option (String × String) :=
  (partition? ':' line).map fun (key, value) => (String.ofList (trim key), unquote value)

/-- A lower-case name that both kinds of readers recognise. -/
structure KeyName (name : String) : Prop where
  nonempty : name.toList ≠ []
  chars : ∀ c ∈ name.toList, isKeyChar c
  noDash : name.toList.head? ≠ some '-'
  lower : name.toList.map Char.toLower = name.toList

instance (name : String) : Decidable (KeyName name) :=
  decidable_of_iff (name.toList ≠ [] ∧ name.toList.all isKeyChar = true ∧
      name.toList.head? ≠ some '-' ∧ name.toList.map Char.toLower = name.toList)
    ⟨fun ⟨h₁, h₂, h₃, h₄⟩ => ⟨h₁, List.all_eq_true.1 h₂, h₃, h₄⟩,
      fun h => ⟨h.nonempty, List.all_eq_true.2 h.chars, h.noDash, h.lower⟩⟩

theorem KeyName.lower_eq (h : KeyName name) (host : Lower) : host.lower name = name := by
  rw [host.ascii name fun c hc => isKeyChar_ascii (h.chars c hc), h.lower, String.ofList_toList]

theorem unquote_trim (value : List Char) : unquote (trim value) = unquote value := by
  rw [unquote, trim_trim, unquote]

theorem unquote_rdropWhile (value : List Char) :
    unquote (value.rdropWhile isSpace) = unquote value := by
  rw [unquote, trim_rdropWhile, unquote]

theorem colon_not_space : ¬isSpace ':' = true := by decide

theorem assignment?_iff {line key value : List Char} : assignment? line = some (key, value) ↔
    ∃ before, partition? ':' line = some (before, value) ∧ trim before = key ∧ key ≠ [] ∧
      ∀ c ∈ key, isKeyChar c := by
  constructor
  · intro h
    obtain ⟨hkey, hrest, rfl⟩ := assignment?_some h
    have hchars : ∀ c ∈ (line.dropWhile isSpace).takeWhile isKeyChar, isKeyChar c :=
      fun c hc => List.mem_takeWhile_imp hc
    have hafter := blank_takeWhile ((line.dropWhile isSpace).dropWhile isKeyChar)
    have hline : line = (line.takeWhile isSpace ++ ((line.dropWhile isSpace).takeWhile isKeyChar ++
        ((line.dropWhile isSpace).dropWhile isKeyChar).takeWhile isSpace)) ++ ':' :: value := by
      rw [← hrest, List.append_assoc, List.append_assoc, List.takeWhile_append_dropWhile,
        List.takeWhile_append_dropWhile, List.takeWhile_append_dropWhile]
    refine ⟨_, partition?_some.2 ⟨hline, ?_⟩, ?_, hkey, hchars⟩
    · intro hcolon
      obtain hcolon | hcolon := List.mem_append.1 hcolon
      · exact space_ne_colon (blank_takeWhile _ _ hcolon) rfl
      · obtain hcolon | hcolon := List.mem_append.1 hcolon
        · exact key_ne_colon (hchars _ hcolon) rfl
        · exact space_ne_colon (hafter _ hcolon) rfl
    · exact trim_between (blank_takeWhile line)
        (fun c hc => isKeyChar_not_space (hchars c hc)) hafter
  · rintro ⟨before, hline, rfl, hkey, hchars⟩
    obtain ⟨rfl, -⟩ := partition?_some.1 hline
    obtain ⟨left, right, hbefore, hleft, hright⟩ := exists_trim before
    obtain ⟨c, key, hc⟩ := List.exists_cons_of_ne_nil hkey
    have hdrop : (before ++ ':' :: value).dropWhile isSpace =
        trim before ++ (right ++ ':' :: value) := by
      conv_lhs => rw [hbefore]
      rw [List.append_assoc, List.append_assoc, List.dropWhile_append_of_pos hleft, hc,
        List.cons_append, List.dropWhile_cons_of_neg]
      exact isKeyChar_not_space (hchars c (hc ▸ List.mem_cons_self))
    have hstop : ∀ c ∈ (right ++ ':' :: value).head?, ¬isKeyChar c = true := by
      intro c hc
      cases right with
      | nil =>
        cases hc
        decide
      | cons d right =>
        cases hc
        exact space_not_key (hright c List.mem_cons_self)
    have hrest : (right ++ ':' :: value).takeWhile isKeyChar = [] ∧
        (right ++ ':' :: value).dropWhile isKeyChar = right ++ ':' :: value := by
      cases hs : right ++ ':' :: value with
      | nil => exact ⟨rfl, rfl⟩
      | cons d rest =>
        have hd := hstop d (by rw [hs]; rfl)
        exact ⟨List.takeWhile_cons_of_neg hd, List.dropWhile_cons_of_neg hd⟩
    rw [assignment?, hdrop, List.takeWhile_append_of_pos hchars,
      List.dropWhile_append_of_pos hchars,
      hrest.1, hrest.2, List.dropWhile_append_of_pos hright,
      List.dropWhile_cons_of_neg colon_not_space, List.append_nil]
    dsimp only
    rw [if_pos ⟨rfl, hkey⟩]

theorem keyed_iff {line : List Char} {name value : String} (hname : KeyName name) :
    keyed line = some (name, value) ↔
      ∃ rest, assignment? line = some (name.toList, rest) ∧ unquote rest = value := by
  rw [keyed]
  constructor
  · intro h
    obtain ⟨⟨before, rest⟩, hline, h⟩ := Option.map_eq_some_iff.1 h
    obtain ⟨hbefore, rfl⟩ := Prod.mk.inj h
    have hkey : trim before = name.toList := by
      rw [← hbefore, String.toList_ofList]
    exact ⟨rest, assignment?_iff.2 ⟨before, hline, hkey, hname.nonempty, hname.chars⟩, rfl⟩
  · rintro ⟨rest, hentry, rfl⟩
    obtain ⟨before, hline, hkey, -, -⟩ := assignment?_iff.1 hentry
    rw [hline, Option.map_some]
    dsimp only
    rw [hkey, String.ofList_toList]

/-- What `_manifest` takes from a line. -/
def assigned (line : List Char) : Option (String × String) :=
  let stripped := trim line
  if stripped = [] ∨ stripped.head? = some '#' then none
  else
    match partition? ':' stripped with
    | none => none
    | some (key, value) =>
      let key := trim key
      if key = [] ∨ key.head? = some '-' then none else some (String.ofList key, unquote value)

theorem manifestAssignments_eq (text : List Char) :
    manifestAssignments text = (splitlines text).filterMap assigned := rfl

theorem assigned_iff {line : List Char} {name value : String} (hname : KeyName name) :
    assigned line = some (name, value) ↔ keyed line = some (name, value) := by
  rw [assigned, keyed]
  cases hline : partition? ':' line with
  | none =>
    have htrim : partition? ':' (trim line) = none := by
      rw [partition?_none] at hline ⊢
      obtain ⟨left, right, he, -, -⟩ := exists_trim line
      intro hmem
      rw [he] at hline
      exact hline (List.mem_append_right _ (List.mem_append_left _ hmem))
    rw [htrim, Option.map_none]
    split
    · rfl
    · rfl
  | some pieces =>
    obtain ⟨before, rest⟩ := pieces
    have htrim := partition?_trim colon_not_space hline
    obtain ⟨he, -⟩ := partition?_some.1 htrim
    rw [htrim, Option.map_some]
    dsimp only
    rw [trim_dropWhile, unquote_rdropWhile]
    by_cases hbefore : trim before = name.toList
    · obtain ⟨c, key, hc⟩ := List.exists_cons_of_ne_nil hname.nonempty
      have hhead : (before.dropWhile isSpace).head? = some c := by
        obtain ⟨more, hmore⟩ :=
          List.rdropWhile_prefix (p := isSpace) (l := before.dropWhile isSpace)
        rw [← hmore, ← trim_eq, hbefore, hc]
        rfl
      have hfirst : ¬(trim line = [] ∨ (trim line).head? = some '#') := by
        rw [he]
        rintro (hnil | hhash)
        · exact List.append_ne_nil_of_right_ne_nil _ (List.cons_ne_nil _ _) hnil
        · rw [List.head?_append, hhead] at hhash
          cases hhash
          exact absurd (hname.chars '#' (hc ▸ List.mem_cons_self)) (by decide)
      have hsecond : ¬(trim before = [] ∨ (trim before).head? = some '-') := by
        rw [hbefore]
        exact not_or.2 ⟨hname.nonempty, hname.noDash⟩
      rw [if_neg hfirst, if_neg hsecond]
    · have hother : ∀ v, some (String.ofList (trim before), v) ≠ some (name, value) := by
        intro v h
        apply hbefore
        rw [← (Prod.mk.inj (Option.some.inj h)).1, String.toList_ofList]
      apply iff_of_false
      · split
        · exact fun h => by cases h
        · split
          · exact fun h => by cases h
          · exact hother _
      · exact hother _

theorem splitOnP_congr {p q : Char → Bool} {s : List Char} (h : ∀ c ∈ s, p c = q c) :
    s.splitOnP p = s.splitOnP q := by
  induction s with
  | nil => rfl
  | cons c s ih =>
    rw [List.splitOnP_cons_eq_if_modifyHead, List.splitOnP_cons_eq_if_modifyHead,
      h c List.mem_cons_self, ih fun d hd => h d (List.mem_cons_of_mem _ hd)]

theorem mem_unlines {lines : List (List Char)} (h : c ∈ unlines lines) :
    c = '\n' ∨ ∃ line ∈ lines, c ∈ line := by
  induction lines with
  | nil => cases h
  | cons line lines ih =>
    obtain ⟨t, htext, ht, htail⟩ := unlines_cons line lines
    rw [htext] at h
    obtain h | h := List.mem_append.1 h
    · exact .inr ⟨line, List.mem_cons_self, h⟩
    · obtain rfl | ⟨t, rfl⟩ := lineEnd_cases ht
      · cases h
      · obtain h | h := List.mem_cons.1 h
        · exact .inl h
        · rw [List.tail_cons] at htail
          obtain h | ⟨l, hl, h⟩ := ih (htail ▸ h)
          · exact .inl h
          · exact .inr ⟨l, List.mem_cons_of_mem _ hl, h⟩

theorem unlines_splitOn (text : List Char) : unlines (text.splitOn '\n') = text :=
  List.intercalate_splitOn '\n'

theorem splitlines_plain {text : List Char} (h : ∀ line ∈ text.splitOn '\n', PlainLine line)
    {f : List Char → Option α} (hf : f [] = none) :
    (splitlines text).filterMap f = (text.splitOn '\n').filterMap f := by
  have hbreak : ∀ c ∈ text, isLineBreak c = (c == '\n') := by
    intro c hc
    rw [← unlines_splitOn text] at hc
    obtain rfl | ⟨line, hline, hc⟩ := mem_unlines hc
    · rfl
    · have hplain := (h line hline).unbroken c hc
      rw [Bool.eq_false_iff.2 hplain, Eq.comm, beq_eq_false_iff_ne]
      rintro rfl
      exact hplain rfl
  have hsplit : text.splitOnP isLineBreak = text.splitOn '\n' := by
    rw [splitOnP_congr hbreak, List.splitOn_eq_splitOnP]
  rw [splitlines, hsplit]
  split
  · next hlast =>
    obtain ⟨front, hfront⟩ := List.getLast?_eq_some_iff.1 hlast
    rw [hfront, List.dropLast_concat, List.filterMap_append, List.filterMap_cons_none hf,
      List.filterMap_nil, List.append_nil]
  · rfl

/-- The assignments of all lines. -/
def fieldsOf (text : List Char) : List (String × String) := (text.splitOn '\n').filterMap keyed

/-- The first value a text assigns to a name. -/
def flatValue (text : List Char) (name : String) : Option String :=
  ((fieldsOf text).find? fun field => field.1 = name).map Prod.snd

/-- A manifest of plain lines without repeated or empty fields. The validator reads the names of
fields in either case. -/
structure CleanManifest (host : Lower) (text : List Char) (names : List String) : Prop where
  plain : ∀ line ∈ text.splitOn '\n', PlainLine line
  once : ∀ name ∈ names, (fieldsOf text).countP (fun field => host.lower field.1 = name) ≤ 1
  value : ∀ field ∈ fieldsOf text, host.lower field.1 ∈ names → field.2 ≠ ""

/-- One that also gives these fields under their lower-case names, and its kind with the colon
attached. -/
structure FlatManifest (host : Lower) (text : List Char) (names : List String) : Prop extends
    CleanManifest host text names where
  spelled : ∀ field ∈ fieldsOf text, host.lower field.1 ∈ names → host.lower field.1 = field.1
  attached : ∀ line ∈ text.splitOn '\n', ∀ value, keyed line = some ("kind", value) →
    "kind:".toList.isPrefixOf (trim line)

instance (line : List Char) : Decidable (PlainLine line) :=
  decidable_of_iff (line.any isLineBreak = false ∧
      (line.dropWhile isSpace).head? ≠ some ':' ∧
      ∀ entry ∈ (assignment? line).toList, trim entry.2 ≠ [])
    ⟨fun ⟨h₁, h₂, h₃⟩ => ⟨List.any_eq_false.1 h₁, h₂, fun _ _ h => h₃ _ (Option.mem_toList.2 h)⟩,
      fun h => ⟨List.any_eq_false.2 h.unbroken, h.noColon,
        fun _ he => h.value _ _ (Option.mem_toList.1 he)⟩⟩

instance (host : Lower) (text : List Char) (names : List String) :
    Decidable (CleanManifest host text names) :=
  decidable_of_iff ((∀ line ∈ text.splitOn '\n', PlainLine line) ∧
      (∀ name ∈ names, (fieldsOf text).countP (fun field => host.lower field.1 = name) ≤ 1) ∧
      ∀ field ∈ fieldsOf text, host.lower field.1 ∈ names → field.2 ≠ "")
    ⟨fun ⟨h₁, h₂, h₃⟩ => ⟨h₁, h₂, h₃⟩, fun h => ⟨h.plain, h.once, h.value⟩⟩

instance (host : Lower) (text : List Char) (names : List String) :
    Decidable (FlatManifest host text names) :=
  decidable_of_iff (CleanManifest host text names ∧
      (∀ field ∈ fieldsOf text, host.lower field.1 ∈ names → host.lower field.1 = field.1) ∧
      ∀ line ∈ text.splitOn '\n', ∀ field ∈ (keyed line).toList, field.1 = "kind" →
        "kind:".toList.isPrefixOf (trim line))
    ⟨fun ⟨h₁, h₂, h₃⟩ => ⟨h₁, h₂, fun line hline _ hkeyed =>
        h₃ line hline _ (Option.mem_toList.2 hkeyed) rfl⟩,
      fun h => ⟨h.toCleanManifest, h.spelled, fun line hline field hfield hkind =>
        h.attached line hline field.2 (hkind ▸ Option.mem_toList.1 hfield)⟩⟩

theorem flatValue_some (h : flatValue text name = some value) : (name, value) ∈ fieldsOf text := by
  obtain ⟨field, hfind, rfl⟩ := Option.map_eq_some_iff.1 h
  have hname := List.find?_some hfind
  rw [decide_eq_true_eq] at hname
  rw [← hname]
  exact List.mem_of_find?_eq_some hfind

theorem find?_reverse_of_once {p : α → Bool} {l : List α} (h : l.countP p ≤ 1) :
    l.reverse.find? p = l.find? p := by
  induction l with
  | nil => rfl
  | cons a l ih =>
    rw [List.reverse_cons, List.find?_append]
    cases ha : p a with
    | true =>
      rw [List.countP_cons_of_pos ha] at h
      have hnone : l.reverse.find? p = none := by
        rw [List.find?_eq_none]
        have hzero := List.countP_eq_zero.1 (Nat.le_zero.1 (Nat.le_of_succ_le_succ h))
        exact fun b hb => hzero b (List.mem_reverse.1 hb)
      rw [hnone, List.find?_cons_of_pos ha, List.find?_cons_of_pos ha, Option.none_or]
    | false =>
      rw [List.countP_cons_of_neg (Bool.eq_false_iff.1 ha)] at h
      rw [ih h, List.find?_cons_of_neg (Bool.eq_false_iff.1 ha),
        List.find?_cons_of_neg (Bool.eq_false_iff.1 ha), List.find?_nil, Option.or_none]

theorem find?_filterMap_map {f : α → Option β} {p : β → Bool} {g : β → γ} (l : List α) :
    ((l.filterMap f).find? p).map g = l.findSome? fun a => ((f a).filter p).map g := by
  induction l with
  | nil => rfl
  | cons a l ih =>
    rw [List.findSome?_cons]
    cases ha : f a with
    | none =>
      rw [List.filterMap_cons_none ha]
      exact ih
    | some b =>
      rw [List.filterMap_cons_some ha, List.find?_cons, Option.filter_some]
      cases p b with
      | true => rfl
      | false => exact ih

theorem findSome?_congr_mem {f g : α → Option β} {l : List α} (h : ∀ a ∈ l, f a = g a) :
    l.findSome? f = l.findSome? g := by
  induction l with
  | nil => rfl
  | cons a l ih =>
    rw [List.findSome?_cons, List.findSome?_cons, h a List.mem_cons_self,
      ih fun b hb => h b (List.mem_cons_of_mem _ hb)]

theorem length_splitOn_le (text : List Char) : (text.splitOn c).length ≤ text.length + 1 := by
  induction text with
  | nil => exact Nat.le_refl _
  | cons d text ih =>
    rw [List.splitOn_cons_eq_if_modifyHead, List.length_cons]
    split
    · rw [List.length_cons]
      omega
    · rw [List.length_modifyHead]
      omega

theorem unique_of_countP {p : α → Bool} {l : List α} (h : l.countP p ≤ 1) (ha : a ∈ l) (hpa : p a)
    (hb : b ∈ l) (hpb : p b) : a = b := by
  induction l with
  | nil => cases ha
  | cons c l ih =>
    have hmore : ∀ x ∈ l, p x → 0 < l.countP p := fun x hx hpx => List.countP_pos_iff.2 ⟨x, hx, hpx⟩
    rw [List.countP_cons] at h
    obtain hac | hal := List.mem_cons.1 ha
    · obtain hbc | hbl := List.mem_cons.1 hb
      · rw [hac, hbc]
      · have hpos := hmore b hbl hpb
        rw [if_pos (hac ▸ hpa)] at h
        omega
    · obtain hbc | hbl := List.mem_cons.1 hb
      · have hpos := hmore a hal hpa
        rw [if_pos (hbc ▸ hpb)] at h
        omega
      · exact ih (by omega) hal hbl

/-- The value a line gives to a field, as the regular expression of the validator matches it. -/
def matched (host : ManifestHost) (name : String) (line : List Char) : Option String :=
  (assignment? line).bind fun (key, rest) =>
    if host.lower (String.ofList key) = name then some (unquote rest) else none

theorem matched_some {host : ManifestHost} (h : matched host name line = some value) :
    ∃ key, keyed line = some (key, value) ∧ host.lower key = name := by
  obtain ⟨⟨key, rest⟩, hentry, hvalue⟩ := Option.bind_eq_some_iff.1 h
  obtain ⟨before, hpieces, rfl, -, -⟩ := assignment?_iff.1 hentry
  dsimp only at hvalue
  split at hvalue
  · next hlower =>
    obtain rfl := Option.some.inj hvalue
    exact ⟨_, by rw [keyed, hpieces, Option.map_some], hlower⟩
  · cases hvalue

theorem matched_of_keyed {host : ManifestHost} (hname : KeyName name)
    (h : keyed line = some (name, value)) : matched host name line = some value := by
  obtain ⟨rest, hentry, rfl⟩ := (keyed_iff hname).1 h
  rw [matched, hentry, Option.bind_some]
  dsimp only
  rw [String.ofList_toList, if_pos (hname.lower_eq host.toLower)]

theorem manifestField_plain {host : ManifestHost} {text : List Char}
    (h : ∀ line ∈ text.splitOn '\n', PlainLine line) :
    manifestField host text name = (text.splitOn '\n').findSome? (matched host name) := by
  have hmatches := findAll_unlines h (length_splitOn_le text)
  rw [unlines_splitOn] at hmatches
  rw [manifestField, hmatches, List.findSome?_map, ← List.head?_filterMap,
    List.filterMap_filterMap, List.head?_filterMap]
  apply findSome?_congr_mem
  intro line _
  rw [matched]
  apply congrArg (Option.bind (assignment? line))
  funext entry
  change (if host.lower (String.ofList entry.1) = name then
    some (unquote (trim entry.2)) else none) = _
  rw [unquote_trim]

section
variable {host : ManifestHost} {text : List Char} {names : List String}
  {name : String} (hmem : name ∈ names) (hname : KeyName name)

section
variable (h : CleanManifest host.toLower text names)
include h hmem hname

theorem CleanManifest.count : (fieldsOf text).countP (fun field => field.1 = name) ≤ 1 := by
  apply Nat.le_trans _ (h.once name hmem)
  apply List.countP_mono_left
  intro field _ hfield
  rw [decide_eq_true_eq] at hfield ⊢
  rw [hfield]
  exact hname.lower_eq host.toLower

theorem manifestValue_clean : manifestValue text name = flatValue text name := by
  have hline : ∀ line, (assigned line).filter (fun field => field.1 = name) =
      (keyed line).filter (fun field => field.1 = name) := by
    intro line
    apply Option.ext
    rintro ⟨key, value⟩
    rw [Option.filter_eq_some_iff, Option.filter_eq_some_iff]
    apply and_congr_left
    intro hkey
    obtain rfl : key = name := of_decide_eq_true hkey
    exact assigned_iff hname
  have hassigned : (manifestAssignments text).filter (fun field => field.1 = name) =
      (fieldsOf text).filter (fun field => field.1 = name) := by
    rw [manifestAssignments_eq, splitlines_plain h.plain rfl, fieldsOf, List.filter_filterMap,
      List.filter_filterMap]
    exact List.filterMap_congr fun line _ => hline line
  have honce := h.count hmem hname
  rw [manifestValue, flatValue, ← List.head?_filter, List.filter_reverse, hassigned,
    ← List.filter_reverse, List.head?_filter, find?_reverse_of_once honce]

theorem flatValue_nonempty (hvalue : flatValue text name = some value) : value ≠ "" :=
  h.value (name, value) (flatValue_some hvalue) (by rwa [hname.lower_eq])

theorem manifestField_clean (hvalue : flatValue text name = some value) :
    manifestField host text name = some value := by
  have hfield := flatValue_some hvalue
  obtain ⟨line, hline, hkeyed⟩ := List.mem_filterMap.1 hfield
  have hmatched : matched host name line = some value := matched_of_keyed hname hkeyed
  rw [manifestField_plain h.plain]
  cases hfind : (text.splitOn '\n').findSome? (matched host name) with
  | none =>
    rw [List.findSome?_eq_none_iff.1 hfind line hline] at hmatched
    cases hmatched
  | some other =>
    obtain ⟨line', hline', hother⟩ := List.exists_of_findSome?_eq_some hfind
    obtain ⟨key, hkeyed', hlower⟩ := matched_some hother
    have hsame := unique_of_countP (h.once name hmem)
      (List.mem_filterMap.2 ⟨line', hline', hkeyed'⟩) (decide_eq_true hlower) hfield
      (decide_eq_true (hname.lower_eq host.toLower))
    rw [(Prod.mk.inj hsame).2]

end

section
variable (h : FlatManifest host.toLower text names)
include h hmem hname

theorem manifestField_flat : manifestField host text name = flatValue text name := by
  cases hvalue : flatValue text name with
  | some value => exact manifestField_clean hmem hname h.toCleanManifest hvalue
  | none =>
    rw [manifestField_plain h.plain, List.findSome?_eq_none_iff]
    intro line hline
    cases hmatched : matched host name line with
    | none => rfl
    | some value =>
      obtain ⟨key, hkeyed, hlower⟩ := matched_some hmatched
      have hfield : (key, value) ∈ fieldsOf text := List.mem_filterMap.2 ⟨line, hline, hkeyed⟩
      have hspelled := h.spelled _ hfield (hlower ▸ hmem)
      rw [flatValue, Option.map_eq_none_iff, List.find?_eq_none] at hvalue
      exact absurd (decide_eq_true (hspelled.symm.trans hlower)) (hvalue _ hfield)

end

end

theorem taskRuntime_flat {host : ManifestHost} (h : FlatManifest host.toLower text names)
    (hmem : "runtime" ∈ names) :
    taskRuntime host text = (given (flatValue text "runtime")).getD "python-3.13" := by
  have hline : ∀ line ∈ text.splitOn '\n',
      ((keyed line).bind fun field =>
        if host.lower field.1 = "runtime" then some field.2 else none) =
      ((keyed line).filter fun field => field.1 = "runtime").map Prod.snd := by
    intro line hline
    cases hkeyed : keyed line with
    | none => rfl
    | some field =>
      rw [Option.bind_some, Option.filter_some]
      have hfield : field ∈ fieldsOf text := List.mem_filterMap.2 ⟨line, hline, hkeyed⟩
      by_cases hkey : field.1 = "runtime"
      · rw [if_pos, if_pos (decide_eq_true hkey), Option.map_some]
        rw [hkey]
        exact KeyName.lower_eq (by decide) host.toLower
      · rw [if_neg, if_neg (by simpa using hkey), Option.map_none]
        intro hlower
        exact hkey (h.spelled field hfield (hlower ▸ hmem) ▸ hlower)
  have hreader : taskRuntime host text = (given ((splitlines text).findSome? fun line =>
      (keyed line).bind fun field =>
        if host.lower field.1 = "runtime" then some field.2 else none)).getD "python-3.13" := by
    rw [taskRuntime]
    congr 2
    apply findSome?_congr_mem
    intro line _
    rw [keyed]
    cases partition? ':' line with
    | none => rfl
    | some pieces => rfl
  rw [hreader, ← List.head?_filterMap, splitlines_plain h.plain rfl, List.head?_filterMap,
    findSome?_congr_mem hline, flatValue, fieldsOf, find?_filterMap_map]

theorem run_char_some (h : run (.char c :: items) atStart s = some m) :
    ∃ s', s = c :: s' ∧ run items (c == '\n') s' = some m := by
  cases s with
  | nil => cases h
  | cons d s =>
    rw [run] at h
    split at h
    · next hd => exact ⟨s, by rw [hd], h⟩
    · cases h

theorem append_eq_cons_of_lineEnd {u t : List Char} (ht : LineEnd t) (hc : c ≠ '\n')
    (h : u ++ t = c :: s) : ∃ u', u = c :: u' ∧ s = u' ++ t := by
  cases u with
  | nil =>
    rw [List.nil_append] at h
    exact absurd (ht c (by rw [h]; rfl)) hc
  | cons d u =>
    obtain ⟨rfl, rfl⟩ := List.cons.inj h
    exact ⟨u, rfl, rfl⟩

def kindBody : List Item :=
  [.char 'k', .char 'i', .char 'n', .char 'd', .skip isSpace, .char ':', .skip isSpace,
    .word isKeyChar, .skip isSpace, .lineEnd]

theorem kindPattern_eq : kindPattern = .lineStart :: .skip isSpace :: kindBody := rfl

theorem kindBody_solid : Solid kindBody isSpace := by
  apply Solid.char
  rintro d hd rfl
  exact absurd hd (by decide)

theorem run_char_line {u t : List Char} (ht : LineEnd t) (hc : c ≠ '\n')
    (h : run (.char c :: items) atStart (u ++ t) = some m) :
    ∃ u', u = c :: u' ∧ run items (c == '\n') (u' ++ t) = some m := by
  obtain ⟨s, hs, h⟩ := run_char_some h
  obtain ⟨u', rfl, rfl⟩ := append_eq_cons_of_lineEnd ht hc hs
  exact ⟨u', rfl, h⟩

theorem run_kind {line t : List Char} (h : PlainLine line) (ht : LineEnd t)
    (hnext : (t.dropWhile isSpace).head? ≠ some ':') (hsolid : line.dropWhile isSpace ≠ [])
    (hrun : run kindBody true ((line ++ t).dropWhile isSpace) = some m) :
    ∃ rest, assignment? line = some ("kind".toList, rest) ∧ m.groups = [trim rest] ∧
      ∀ c ∈ trim rest, isKeyChar c := by
  rw [dropWhile_append_solid hsolid] at hrun
  obtain ⟨u₁, hu₁, hk⟩ := run_char_line ht (by decide) hrun
  obtain ⟨u₂, hu₂, hi⟩ := run_char_line ht (by decide) hk
  obtain ⟨u₃, hu₃, hn⟩ := run_char_line ht (by decide) hi
  obtain ⟨u, hu, hd⟩ := run_char_line ht (by decide) hn
  have hword : line.dropWhile isSpace = "kind".toList ++ u := by
    rw [hu₁, hu₂, hu₃, hu]
    rfl
  rw [run_colon] at hd
  obtain ⟨s, hs, hmore⟩ := run_char_some hd
  have hcolon : u.dropWhile isSpace ≠ [] := by
    intro hnil
    rw [List.dropWhile_append, if_pos (List.isEmpty_iff.2 hnil)] at hs
    rw [hs] at hnext
    exact hnext rfl
  rw [dropWhile_append_solid hcolon] at hs
  obtain ⟨rest, hrest, rfl⟩ := append_eq_cons_of_lineEnd ht (by decide) hs
  have hline : line = (line.takeWhile isSpace ++ ("kind".toList ++ u.takeWhile isSpace)) ++
      ':' :: rest := by
    rw [← hrest, List.append_assoc, List.append_assoc, List.takeWhile_append_dropWhile, ← hword,
      List.takeWhile_append_dropWhile]
  have hentry : assignment? line = some ("kind".toList, rest) := by
    rw [assignment?_iff]
    refine ⟨_, partition?_some.2 ⟨hline, ?_⟩, trim_between (blank_takeWhile line) ?_
      (blank_takeWhile u), List.cons_ne_nil _ _, List.all_eq_true.1 (by decide)⟩
    · intro hcolon
      obtain hcolon | hcolon := List.mem_append.1 hcolon
      · exact space_ne_colon (blank_takeWhile _ _ hcolon) rfl
      · obtain hcolon | hcolon := List.mem_append.1 hcolon
        · exact absurd hcolon (by decide)
        · exact space_ne_colon (blank_takeWhile _ _ hcolon) rfl
    · exact List.any_eq_false.1 (by decide)
  have hvalue := trim_ne_nil (h.value _ _ hentry)
  have hnewline : '\n' ∉ (rest.dropWhile isSpace).dropWhile isKeyChar := by
    intro hmem
    apply h.noNewline
    rw [hline]
    apply List.mem_append_right
    apply List.mem_cons_of_mem
    exact (List.dropWhile_sublist _).mem ((List.dropWhile_sublist _).mem hmem)
  have hrefuses : Refuses [.skip isSpace, .lineEnd] isKeyChar :=
    .skip (fun _ => isKeyChar_not_space) (.lineEnd (by decide))
  rw [run_skip (.word fun _ => space_not_key), dropWhile_append_solid hvalue, run_word hrefuses,
    takeWhile_lineEnd (by decide) ht, dropWhile_lineEnd (by decide) ht] at hmore
  split at hmore
  · cases hmore
  · next hsome =>
    obtain ⟨m', hm', rfl⟩ := Option.map_eq_some_iff.1 hmore
    obtain ⟨hgroups, hends⟩ := greedy_lineEnd hm'
    have hblank := (Ends.of_line hnewline hends).1
    have htrim : trim rest = (rest.dropWhile isSpace).takeWhile isKeyChar := by
      rw [trim_eq]
      conv_lhs =>
        rw [← List.takeWhile_append_dropWhile (p := isKeyChar) (l := rest.dropWhile isSpace)]
      rw [rdropWhile_append_blank hblank, rdropWhile_solid]
      exact fun c hc => isKeyChar_not_space (List.mem_takeWhile_imp hc)
    refine ⟨rest, hentry, ?_, ?_⟩
    · rw [Match.push, hgroups, htrim]
    · rw [htrim]
      exact fun c hc => List.mem_takeWhile_imp hc

theorem search_kind {lines : List (List Char)} (h : ∀ line ∈ lines, PlainLine line)
    (hsearch : search kindPattern true (unlines lines) = some m) :
    ∃ line ∈ lines, ∃ rest, assignment? line = some ("kind".toList, rest) ∧ m.groups = [trim rest] ∧
      ∀ c ∈ trim rest, isKeyChar c := by
  induction lines with
  | nil =>
    rw [kindPattern_eq, unlines, List.intercalate_nil, search_end kindBody_solid] at hsearch
    cases hsearch
  | cons line lines ih =>
    obtain ⟨t, htext, ht, htail⟩ := unlines_cons line lines
    have hlines : ∀ l ∈ lines, PlainLine l := fun l hl => h l (List.mem_cons_of_mem _ hl)
    have hline := h line List.mem_cons_self
    have hnext : (t.dropWhile isSpace).head? ≠ some ':' := by
      rw [lineEnd_dropWhile ht, htail]
      exact unlines_noColon hlines
    rw [htext, kindPattern_eq] at hsearch
    by_cases hfound : ∃ m', line.dropWhile isSpace ≠ [] ∧
        run kindBody true ((line ++ t).dropWhile isSpace) = some m'
    · obtain ⟨m', hsolid, hrun⟩ := hfound
      rw [← run_or_search, run_line kindBody_solid, hrun, Option.some_or] at hsearch
      cases hsearch
      obtain ⟨rest, hentry⟩ := run_kind hline ht hnext hsolid hrun
      exact ⟨line, List.mem_cons_self, rest, hentry⟩
    · rw [search_skip ht kindBody_solid hline.noNewline, htail, ← kindPattern_eq] at hsearch
      · obtain ⟨l, hl, hrest⟩ := ih hlines hsearch
        exact ⟨l, List.mem_cons_of_mem _ hl, hrest⟩
      · intro hsolid
        cases hrun : run kindBody true ((line ++ t).dropWhile isSpace) with
        | none => rfl
        | some m' => exact absurd ⟨m', hsolid, hrun⟩ hfound

theorem isKeyChar_not_quote {c : Char} (h : isKeyChar c = true) :
    ¬isDoubleQuote c = true ∧ ¬isSingleQuote c = true := by
  have hc := isKeyChar_cases h
  simp only [isDoubleQuote, isSingleQuote, beq_iff_eq]
  omega

theorem stripOf_of_not {p : Char → Bool} {s : List Char} (h : ∀ c ∈ s, ¬p c = true) :
    stripOf p s = s := by
  have hdrop : ∀ l : List Char, (∀ c ∈ l, ¬p c = true) → l.dropWhile p = l := by
    intro l hl
    cases l with
    | nil => rfl
    | cons c l => exact List.dropWhile_cons_of_neg (hl c List.mem_cons_self)
  rw [stripOf, hdrop s h, hdrop s.reverse fun c hc => h c (List.mem_reverse.1 hc),
    List.reverse_reverse]

theorem keyed_of_kind {line : List Char} (h : "kind:".toList.isPrefixOf (trim line) = true) :
    ∃ value, keyed line = some ("kind", value) := by
  obtain ⟨rest, hrest⟩ := List.isPrefixOf_iff_prefix.1 h
  obtain ⟨before, after, hline, hbefore, -⟩ := exists_trim line
  have hpieces : partition? ':' line = some (before ++ "kind".toList, rest ++ after) := by
    rw [partition?_some]
    constructor
    · conv_lhs => rw [hline, ← hrest]
      simp
    · intro hcolon
      obtain hcolon | hcolon := List.mem_append.1 hcolon
      · exact space_ne_colon (hbefore _ hcolon) rfl
      · exact absurd hcolon (by decide)
  have hkey : trim (before ++ "kind".toList) = "kind".toList := by
    rw [← List.append_nil "kind".toList]
    exact trim_between hbefore (List.any_eq_false.1 (by decide)) fun c hc =>
      absurd hc List.not_mem_nil
  refine ⟨unquote (rest ++ after), ?_⟩
  rw [keyed, hpieces, Option.map_some]
  dsimp only
  rw [hkey, String.ofList_toList]

theorem manifestKind_flat {host : ManifestHost} (h : FlatManifest host.toLower text names)
    (hmem : "kind" ∈ names) (hkind : manifestKind host text = some kind) :
    taskKind host text = kind ∧
      ∃ value, flatValue text "kind" = some value ∧ host.lower value = kind := by
  obtain ⟨m, hsearch, hgroup⟩ := Option.bind_eq_some_iff.1 hkind
  rw [← unlines_splitOn text] at hsearch
  obtain ⟨line, hline, rest, hentry, hgroups, hchars⟩ := search_kind h.plain hsearch
  rw [hgroups, List.head?_cons, Option.map_some, Option.some.injEq] at hgroup
  have hunquote : unquote rest = String.ofList (trim rest) := by
    rw [unquote, stripOf_of_not fun c hc => (isKeyChar_not_quote (hchars c hc)).1,
      stripOf_of_not fun c hc => (isKeyChar_not_quote (hchars c hc)).2]
  have hname : KeyName "kind" := by decide
  have hkeyed : keyed line = some ("kind", unquote rest) := (keyed_iff hname).2 ⟨rest, hentry, rfl⟩
  have honce := h.toCleanManifest.count hmem hname
  have hlines : (text.splitOn '\n').countP
      (fun l => ((keyed l).map fun field => decide (field.1 = "kind")).getD false) ≤ 1 := by
    rw [fieldsOf, List.countP_filterMap] at honce
    exact honce
  have hunique : ∀ l ∈ text.splitOn '\n', ∀ value, keyed l = some ("kind", value) → l = line := by
    intro l hl value hvalue
    apply unique_of_countP hlines hl _ hline
    · rw [hkeyed]
      rfl
    · rw [hvalue]
      rfl
  refine ⟨?_, unquote rest, ?_, by rw [hunquote, hgroup]⟩
  · have hpre := h.attached line hline _ hkeyed
    have hfind : (text.splitOn '\n').find? (fun l => "kind:".toList.isPrefixOf (trim l)) =
        some line := by
      cases hfind : (text.splitOn '\n').find? (fun l => "kind:".toList.isPrefixOf (trim l)) with
      | none => exact absurd hpre (List.find?_eq_none.1 hfind line hline)
      | some l =>
        obtain ⟨value, hvalue⟩ := keyed_of_kind (List.find?_some (p := fun l =>
          "kind:".toList.isPrefixOf (trim l)) hfind)
        rw [hunique l (List.mem_of_find?_eq_some hfind) value hvalue]
    obtain ⟨before, hpieces, -⟩ := assignment?_iff.1 hentry
    rw [taskKind, hfind, Option.bind_some, hpieces]
    dsimp only
    rw [stripOf_of_not, hgroup]
    intro c hc
    rw [Bool.or_eq_true, not_or]
    exact isKeyChar_not_quote (hchars c hc)
  · have hfield : ("kind", unquote rest) ∈ fieldsOf text :=
      List.mem_filterMap.2 ⟨line, hline, hkeyed⟩
    rw [flatValue]
    cases hfind : (fieldsOf text).find? (fun field => field.1 = "kind") with
    | none => exact absurd (decide_eq_true rfl) (List.find?_eq_none.1 hfind _ hfield)
    | some field =>
      rw [unique_of_countP honce (List.mem_of_find?_eq_some hfind)
        (List.find?_some (p := fun (field : String × String) => decide (field.1 = "kind")) hfind)
        hfield
        (decide_eq_true rfl)]
      rfl

end BrunostJudge
