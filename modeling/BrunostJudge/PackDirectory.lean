import BrunostJudge.PyEncoding
import BrunostJudge.SafeExtract
import Mathlib.Data.List.Lex

namespace BrunostJudge
open Python Relational FileTree
set_option autoImplicit true

/-- `(st_ino, st_dev)`. -/
abbrev Inode := Nat × Nat

/-- What `lstat` says of an entry, and the bytes of a regular file. -/
inductive EntryKind where
  | directory (mode : Nat)
  | regular (mode : Nat) (inode : Inode) (data : Bytes)
  | symlink
  | special
deriving DecidableEq

structure SourceEntry where
  path : List PyStr
  kind : EntryKind
deriving DecidableEq

instance : Keyed SourceEntry (List PyStr) := ⟨SourceEntry.path⟩

/-- A name that a directory can hold. -/
structure EntryName (name : PyStr) : Prop where
  single : FileName name
  below : name ≠ PyStr.ofString ".."
  plain : nul ∉ name

instance (name : PyStr) : Decidable (EntryName name) :=
  decidable_of_iff (FileName name ∧ name ≠ PyStr.ofString ".." ∧ nul ∉ name)
    ⟨fun h => ⟨h.1, h.2.1, h.2.2⟩, fun h => ⟨h.single, h.below, h.plain⟩⟩

/-- A directory by what `rglob("*")` finds below it. -/
structure SourceTree where
  entries : Table SourceEntry
  named : ∀ e ∈ entries.rows, e.path ≠ [] ∧ ∀ part ∈ e.path, EntryName part
  rooted : ∀ e ∈ entries.rows, ∀ path, path ≠ [] → path <+: e.path → path ≠ e.path →
    ∃ mode, ⟨path, .directory mode⟩ ∈ entries.rows

def packable (path : List PyStr) : Bool :=
  !path.any fun part =>
    part = PyStr.ofString "__pycache__" || (PyStr.ofString ".pyc").isSuffixOf part

namespace SourceEntry

def posix (e : SourceEntry) : PyStr := PyStr.join [slash] e.path

def inode? (e : SourceEntry) : Option Inode :=
  match e.kind with
  | .regular _ inode _ => some inode
  | _ => none

/-- The bytes of a regular file. -/
def data? (e : SourceEntry) : Option Bytes :=
  match e.kind with
  | .regular _ _ data => some data
  | _ => none

/-- What `gettarinfo` makes of an entry whose inode it has not recorded. -/
def member (e : SourceEntry) : Member :=
  match e.kind with
  | .directory mode => ⟨e.posix, .directory, mode, []⟩
  | .regular mode _ data => ⟨e.posix, .regular, mode, data⟩
  | .symlink => ⟨e.posix, .symlink, 0, []⟩
  | .special => ⟨e.posix, .special, 0, []⟩

end SourceEntry

/-- The archive so far, the inodes that `gettarinfo` has recorded, and the bytes of the files. -/
structure Packing where
  members : List Member
  inodes : List Inode
  totalBytes : Nat

/-- One round of `pack_directory` on an entry that is to be packed. -/
def packItem (root : PyStr) (maxBytes : Option Int) (packing : Packing) (item : SourceEntry) :
    Except PyStr Packing :=
  let itemText := (if root = [slash] then root else root ++ [slash]) ++ item.posix
  match item.kind with
  | .symlink => throw (PyStr.ofString "symlinks are not allowed in artifacts: " ++ itemText)
  | .special => throw (PyStr.ofString "special files are not allowed in artifacts: " ++ itemText)
  | .directory _ => pure { packing with members := packing.members ++ [item.member] }
  | .regular mode inode data => do
    let totalBytes := packing.totalBytes + data.length
    if let some maxBytes := maxBytes then
      if (totalBytes : Int) > maxBytes then
        throw (PyStr.ofString ("artifact source exceeds " ++ toString maxBytes ++ " bytes"))
    -- a second path to an inode is a hard link to the first, and has no bytes of its own
    if inode ∈ packing.inodes then
      pure ⟨packing.members ++ [⟨item.posix, .hardlink, mode, []⟩], packing.inodes, totalBytes⟩
    else pure ⟨packing.members ++ [item.member], packing.inodes ++ [inode], totalBytes⟩

/-- `sorted(root.rglob("*"))`, without what is not packed. -/
def SourceTree.packItems (tree : SourceTree) : List SourceEntry :=
  (tree.entries.rows.insertionSort fun a b => a.path ≤ b.path).filter fun item => packable item.path

def checkMaxBytes : Option Int → Except PyStr Unit
  | none => pure ()
  | some maxBytes =>
    if maxBytes < 1 then throw (PyStr.ofString "max_bytes must be positive") else pure ()

/-- `pack_directory`, up to the bytes of the archive with these members. -/
def packDirectory (root : PyStr) (maxBytes : Option Int) (tree : SourceTree) :
    Except PyStr (List Member) := do
  checkMaxBytes maxBytes
  let packing ← tree.packItems.foldlM (packItem root maxBytes) ⟨[], [], 0⟩
  pure packing.members

/-- What `task_digest` reads of an entry: its path, and the bytes of a regular file. -/
structure Listed where
  path : List PyStr
  data? : Option Bytes

/-- `value.to_bytes(8, "big")`. -/
def toBytes8 (value : Nat) : Except PyError Bytes :=
  if value < 2 ^ 64 then
    pure ((List.range 8).map fun i => UInt8.ofNat (value / 256 ^ (7 - i)))
  else throw .overflowError

/-- One round of `task_digest`. -/
def digestItem (digest : Bytes) (item : Listed) : Except PyError Bytes :=
  match item.data? with
  | none => pure digest
  | some content => do
    let some encoded := (PyStr.join [slash] item.path).encode? | throw .unicodeEncodeError
    let relative : Bytes := encoded.toUTF8.data.toList
    if packable item.path then
      pure (digest ++ (← toBytes8 relative.length) ++ relative ++ (← toBytes8 content.length) ++
        content)
    else pure digest

/-- `task_digest`. -/
def taskDigest (sha256 : Bytes → PyStr) (items : List Listed) : Except PyError PyStr := do
  let digest ← (items.insertionSort fun a b => a.path ≤ b.path).foldlM digestItem []
  pure (sha256 digest)

def SourceTree.listing (tree : SourceTree) : List Listed :=
  tree.entries.rows.map fun e => ⟨e.path, e.data?⟩

/-- What `rglob("*")` finds below a directory that was extracted. -/
def extractedListing (files : ArtifactFiles) : List Listed :=
  (files.rows.filter fun row => row.path ≠ []).map fun row =>
    ⟨row.path, match row.node with
      | .directory => none
      | .file content => some content.data⟩

/-- What a directory holds of what is packed. -/
def SourceTree.packed (tree : SourceTree) : List SourceEntry :=
  tree.entries.rows.filter fun item => packable item.path

def SourceEntry.node? (e : SourceEntry) : Option (Node FileContent) :=
  match e.kind with
  | .directory _ => some .directory
  | .regular _ _ _ => some (.file e.member.content)
  | _ => none

/-- The tree that an extraction has to reproduce. -/
def SourceTree.kept (tree : SourceTree) (path : List PyStr) : Option (Node FileContent) :=
  if path = [] then some .directory
  else if packable path then (tree.entries.find? path).bind SourceEntry.node? else none

/-- What is packed is within the limits of an extraction. -/
structure SourceTree.Within (limits : ExtractLimits) (tree : SourceTree) : Prop where
  members_positive : 1 ≤ limits.maxMembers
  bytes_positive : 1 ≤ limits.maxMemberBytes
  expanded_positive : 1 ≤ limits.maxExpandedBytes
  count : (tree.packed.length : Int) ≤ limits.maxMembers
  size : ∀ e ∈ tree.packed, (e.member.size : Int) ≤ limits.maxMemberBytes
  total : (((tree.packed.map fun e => e.member.size).sum : Nat) : Int) ≤ limits.maxExpandedBytes

/-- Every name has a UTF-8 encoding. -/
def SourceTree.Utf8 (tree : SourceTree) : Prop :=
  ∀ e ∈ tree.entries.rows, ∃ encoded, e.posix.encode? = some encoded

/-- No two packed files are one file. -/
def SourceTree.Unlinked (tree : SourceTree) : Prop :=
  (tree.packed.filterMap SourceEntry.inode?).Nodup

/-- What was packed is extracted. -/
structure RoundTrips (limits : ExtractLimits) (tree : SourceTree) (members : List Member) :
    Prop where
  succeeds : (safeExtract limits members).outcome = .ok ()
  reproduces : ∀ path, node? (safeExtract limits members).files path = tree.kept path
  digest : ∀ sha256, taskDigest sha256 (extractedListing (safeExtract limits members).files) =
    taskDigest sha256 tree.listing

section
variable {root : PyStr} {maxBytes : Option Int} {packing packing' : Packing} {item e : SourceEntry}
  {items : List SourceEntry} {tree : SourceTree} {limits : ExtractLimits} {members : List Member}

theorem packItem_ok (h : packItem root maxBytes packing item = .ok packing') :
    item.node? ≠ none ∧
    ((item.inode? = none ∧ packing'.members = packing.members ++ [item.member] ∧
      packing'.inodes = packing.inodes) ∨
    ∃ inode, item.inode? = some inode ∧
      ((inode ∈ packing.inodes ∧ packing'.inodes = packing.inodes ∧
        ∃ link : Member, link.kind = .hardlink ∧
          packing'.members = packing.members ++ [link]) ∨
      (inode ∉ packing.inodes ∧ packing'.inodes = packing.inodes ++ [inode] ∧
        packing'.members = packing.members ++ [item.member]))) := by
  obtain ⟨path, kind⟩ := item
  cases kind with
  | symlink => cases h
  | special => cases h
  | directory mode =>
    cases h
    exact ⟨Option.some_ne_none _, .inl ⟨rfl, rfl, rfl⟩⟩
  | regular mode inode data =>
    refine ⟨Option.some_ne_none _, .inr ⟨inode, rfl, ?_⟩⟩
    rw [packItem] at h
    dsimp only at h
    have hlinked : (if inode ∈ packing.inodes then
          (pure ⟨packing.members ++ [⟨SourceEntry.posix ⟨path, .regular mode inode data⟩, .hardlink,
            mode, []⟩], packing.inodes, packing.totalBytes + data.length⟩ : Except PyStr Packing)
        else pure ⟨packing.members ++ [SourceEntry.member ⟨path, .regular mode inode data⟩],
          packing.inodes ++ [inode], packing.totalBytes + data.length⟩) = .ok packing' := by
      cases maxBytes with
      | none => exact h
      | some limit => exact (guard_ok.1 h).2
    split at hlinked
    · next hmem =>
      cases hlinked
      exact .inl ⟨hmem, rfl, _, rfl, rfl⟩
    · next hmem =>
      cases hlinked
      exact .inr ⟨hmem, rfl, rfl⟩

/-- A pass keeps what it has packed, and packs every entry as it is, or one as a hard link. -/
theorem packItems_ok (h : items.foldlM (packItem root maxBytes) packing = .ok packing')
    (hrecorded : packing.inodes.Nodup) :
    (∀ m ∈ packing.members, m ∈ packing'.members) ∧ (∀ e ∈ items, e.node? ≠ none) ∧
    (((packing.inodes ++ items.filterMap SourceEntry.inode?).Nodup ∧
      packing'.members = packing.members ++ items.map SourceEntry.member) ∨
    (¬(packing.inodes ++ items.filterMap SourceEntry.inode?).Nodup ∧
      ∃ m ∈ packing'.members, m.kind = .hardlink)) := by
  induction items generalizing packing with
  | nil =>
    cases h
    refine ⟨fun m hm => hm, fun e he => absurd he List.not_mem_nil, .inl ⟨?_, ?_⟩⟩
    · simpa using hrecorded
    · rw [List.map_nil, List.append_nil]
  | cons item items ih =>
    rw [List.foldlM_cons, bind_ok] at h
    obtain ⟨middle, hitem, h⟩ := h
    obtain ⟨hnode, ⟨hinode, hmembers, hinodes⟩ | ⟨inode, hinode, hcase⟩⟩ := packItem_ok hitem
    · obtain ⟨hkept, hnodes, hrest⟩ := ih h (hinodes ▸ hrecorded)
      rw [hmembers] at hkept
      rw [hinodes, hmembers, List.append_assoc] at hrest
      refine ⟨fun m hm => hkept m (List.mem_append_left _ hm),
        List.forall_mem_cons.2 ⟨hnode, hnodes⟩, ?_⟩
      rwa [List.filterMap_cons_none hinode]
    · rw [List.filterMap_cons_some hinode]
      obtain ⟨hmem, hinodes, link, hlink, hmembers⟩ | ⟨hmem, hinodes, hmembers⟩ := hcase
      · obtain ⟨hkept, hnodes, _⟩ := ih h (hinodes ▸ hrecorded)
        rw [hmembers] at hkept
        refine ⟨fun m hm => hkept m (List.mem_append_left _ hm),
          List.forall_mem_cons.2 ⟨hnode, hnodes⟩, .inr ⟨?_, link, ?_, hlink⟩⟩
        · intro hnodup
          exact (List.nodup_append.1 hnodup).2.2 inode hmem inode List.mem_cons_self rfl
        · exact hkept link (List.mem_append_right _ List.mem_cons_self)
      · have hnodup : middle.inodes.Nodup := by
          rw [hinodes]
          exact List.nodup_append.2 ⟨hrecorded, List.nodup_singleton _, fun a ha b hb hab =>
            hmem (List.mem_singleton.1 hb ▸ hab ▸ ha)⟩
        obtain ⟨hkept, hnodes, hrest⟩ := ih h hnodup
        rw [hmembers] at hkept
        rw [hinodes, hmembers, List.append_assoc, List.append_assoc] at hrest
        exact ⟨fun m hm => hkept m (List.mem_append_left _ hm),
          List.forall_mem_cons.2 ⟨hnode, hnodes⟩, hrest⟩

theorem packItems_perm (tree : SourceTree) : tree.packItems.Perm tree.packed :=
  (List.perm_insertionSort _ _).filter _

theorem packDirectory_ok (h : packDirectory root maxBytes tree = .ok members) :
    (∀ e ∈ tree.packed, e.node? ≠ none) ∧
    ((tree.Unlinked ∧ members.Perm (tree.packed.map SourceEntry.member)) ∨
      (¬tree.Unlinked ∧ ∃ m ∈ members, m.kind = .hardlink)) := by
  obtain ⟨_, _, h⟩ := bind_ok.1 h
  obtain ⟨packing, hpacking, hmembers⟩ := bind_ok.1 h
  rw [pure_ok] at hmembers
  obtain ⟨_, hnodes, hcase⟩ := packItems_ok hpacking List.nodup_nil
  have hperm := packItems_perm tree
  refine ⟨fun e he => hnodes e (hperm.mem_iff.2 he), ?_⟩
  have hunlinked : ([] ++ tree.packItems.filterMap SourceEntry.inode?).Nodup ↔ tree.Unlinked :=
    (hperm.filterMap _).nodup_iff
  rw [hunlinked, hmembers, List.nil_append] at hcase
  obtain ⟨hnodup, hall⟩ | hlinked := hcase
  · rw [hall]
    exact .inl ⟨hnodup, hperm.map _⟩
  · exact .inr hlinked

theorem SourceEntry.member_name (e : SourceEntry) : e.member.name = e.posix := by
  rw [SourceEntry.member]
  split <;> rfl

theorem packable_prefix {path path' : List PyStr} (h : packable path' = true)
    (hpre : path <+: path') : packable path = true := by
  rw [packable, Bool.not_eq_true', List.any_eq_false] at h ⊢
  exact fun part hpart => h part (hpre.subset hpart)

theorem SourceTree.mem_packed : e ∈ tree.packed ↔ e ∈ tree.entries.rows ∧ packable e.path = true :=
  List.mem_filter

theorem SourceTree.member_parts (he : e ∈ tree.packed) : e.member.parts = e.path := by
  obtain ⟨hne, hparts⟩ := tree.named e (SourceTree.mem_packed.1 he).1
  rw [Member.parts, SourceEntry.member_name]
  exact pathParts_join hne fun part hpart => (hparts part hpart).single

theorem SourceTree.packed_inj {e' : SourceEntry} (he : e ∈ tree.packed) (he' : e' ∈ tree.packed)
    (h : e.path = e'.path) : e = e' :=
  List.inj_on_of_nodup_map tree.entries.distinct (SourceTree.mem_packed.1 he).1
    (SourceTree.mem_packed.1 he').1 h

theorem SourceTree.packed_rooted {path : List PyStr} (he : e ∈ tree.packed) (hpath : path ≠ [])
    (hpre : path <+: e.path) (hproper : path ≠ e.path) :
    ∃ mode, ⟨path, .directory mode⟩ ∈ tree.packed := by
  obtain ⟨hrow, hpackable⟩ := SourceTree.mem_packed.1 he
  obtain ⟨mode, hmode⟩ := tree.rooted e hrow path hpath hpre hproper
  exact ⟨mode, SourceTree.mem_packed.2 ⟨hmode, packable_prefix hpackable hpre⟩⟩

theorem SourceEntry.member_kind (h : e.node? ≠ none) :
    e.member.kind = .directory ∧ e.node? = some .directory ∨
      e.member.kind = .regular ∧ e.node? = some (.file e.member.content) := by
  obtain ⟨path, kind⟩ := e
  cases kind with
  | directory mode => exact .inl ⟨rfl, rfl⟩
  | regular mode inode data => exact .inr ⟨rfl, rfl⟩
  | symlink => exact absurd rfl h
  | special => exact absurd rfl h

theorem SourceTree.packed_apart {e' : SourceEntry} (he : e ∈ tree.packed) (he' : e' ∈ tree.packed)
    (hpaths : e.path ≠ e'.path) (hkind : e.member.kind = .regular) : ¬e.path <+: e'.path := by
  intro hpre
  have hpath := (tree.named e (SourceTree.mem_packed.1 he).1).1
  obtain ⟨mode, hdirectory⟩ := SourceTree.packed_rooted he' hpath hpre hpaths
  have heq := SourceTree.packed_inj he hdirectory rfl
  rw [heq] at hkind
  cases hkind

theorem regularBytes_sum (h : ∀ m ∈ members, m.kind ≠ .regular → m.size = 0) :
    regularBytes members = (members.map Member.size).sum := by
  induction members with
  | nil => rfl
  | cons m members ih =>
    obtain ⟨hfirst, hrest⟩ := List.forall_mem_cons.1 h
    rw [← List.singleton_append, regularBytes_append, regularBytes_singleton, ih hrest,
      List.singleton_append, List.map_cons, List.sum_cons]
    split
    · rfl
    · next hkind => rw [hfirst hkind]

theorem SourceTree.packed_extractable (hnodes : ∀ e ∈ tree.packed, e.node? ≠ none)
    (hwithin : tree.Within limits) : Extractable limits (tree.packed.map SourceEntry.member) := by
  refine ⟨⟨hwithin.members_positive, hwithin.bytes_positive, hwithin.expanded_positive, ?_⟩, ?_, ?_,
    ?_⟩
  · rw [List.length_map]
    exact hwithin.count
  · intro m hm
    obtain ⟨e, he, rfl⟩ := List.mem_map.1 hm
    obtain ⟨hne, hparts⟩ := tree.named e (SourceTree.mem_packed.1 he).1
    have hpaths := SourceTree.member_parts he
    refine ⟨?_, hpaths ▸ hne, ?_, ?_, ?_, fun _ => hwithin.size e he⟩
    · rw [SourceEntry.member_name]
      exact isAbsolutePath_join fun part hpart => (hparts part hpart).single
    · rw [hpaths]
      exact fun hmem => (hparts _ hmem).below rfl
    · rw [SourceEntry.member_name]
      intro hnul
      obtain hslash | ⟨part, hpart, hnul⟩ := mem_join hnul
      · have hne : nul ≠ slash := by decide
        exact hne (List.mem_singleton.1 hslash)
      · exact (hparts part hpart).plain hnul
    · obtain ⟨hkind, _⟩ | ⟨hkind, _⟩ := SourceEntry.member_kind (hnodes e he)
      · exact .inl hkind
      · exact .inr hkind
  · have hdistinct : tree.packed.Pairwise fun a b => a.path ≠ b.path :=
      (List.pairwise_map.1 tree.entries.distinct).filter _
    rw [List.pairwise_map]
    apply hdistinct.imp_of_mem
    intro a b ha hb hpaths
    rw [← SourceTree.member_parts ha, ← SourceTree.member_parts hb] at hpaths
    have hclear := hpaths
    rw [SourceTree.member_parts ha, SourceTree.member_parts hb] at hclear
    refine ⟨hpaths, fun hkind => ?_, fun hkind => ?_⟩
    · rw [SourceTree.member_parts ha, SourceTree.member_parts hb]
      exact SourceTree.packed_apart ha hb hclear hkind
    · rw [SourceTree.member_parts ha, SourceTree.member_parts hb]
      exact SourceTree.packed_apart hb ha hclear.symm hkind
  · rw [regularBytes_sum, List.map_map]
    · exact hwithin.total
    · intro m hm hkind
      obtain ⟨e, he, rfl⟩ := List.mem_map.1 hm
      obtain ⟨path, kind⟩ := e
      cases kind with
      | regular mode inode data => exact absurd rfl hkind
      | _ => rfl

theorem SourceTree.described_packed (hnodes : ∀ e ∈ tree.packed, e.node? ≠ none)
    (hperm : members.Perm (tree.packed.map SourceEntry.member)) (path : List PyStr) :
    described members path = tree.kept path := by
  have hmem : ∀ m, m ∈ members ↔ ∃ e ∈ tree.packed, e.member = m := by
    intro m
    rw [hperm.mem_iff, List.mem_map]
  rw [SourceTree.kept]
  split
  · next hroot =>
    rw [described_directory, if_pos (.inl hroot)]
    intro m hm _ hparts
    obtain ⟨e, he, rfl⟩ := (hmem m).1 hm
    rw [SourceTree.member_parts he, hroot] at hparts
    exact (tree.named e (SourceTree.mem_packed.1 he).1).1 hparts
  next hroot =>
  by_cases hfound : ∃ e ∈ tree.packed, e.path = path
  · obtain ⟨e, he, rfl⟩ := hfound
    obtain ⟨hrow, hpackable⟩ := SourceTree.mem_packed.1 he
    have hfind : tree.entries.find? e.path = some e := Table.find?_mem hrow
    have hsame : ∀ m ∈ members, m.parts = e.path → m = e.member := by
      intro m hm hparts
      obtain ⟨e', he', rfl⟩ := (hmem m).1 hm
      rw [SourceTree.member_parts he'] at hparts
      rw [SourceTree.packed_inj he' he hparts]
    rw [if_pos hpackable, hfind, Option.bind_some, ← SourceTree.member_parts he]
    obtain ⟨hkind, hnode⟩ | ⟨hkind, hnode⟩ := SourceEntry.member_kind (hnodes e he)
    · have hthere : ∃ m ∈ members, e.member.parts <+: m.parts :=
        ⟨e.member, (hmem _).2 ⟨e, he, rfl⟩, List.prefix_refl _⟩
      rw [hnode, described_directory, if_pos (.inr hthere)]
      intro m hm hregular hparts
      rw [hsame m hm (hparts.trans (SourceTree.member_parts he)), hkind] at hregular
      cases hregular
    · rw [hnode]
      exact described_of_mem ((hmem _).2 ⟨e, he, rfl⟩)
        (fun m hm _ hparts => hsame m hm (hparts.trans (SourceTree.member_parts he))) hkind
  · have hnone :
        (if packable path then (tree.entries.find? path).bind SourceEntry.node? else none) =
          none := by
      split
      · next hpackable =>
        cases hfind : tree.entries.find? path with
        | none => rfl
        | some e =>
          obtain ⟨hrow, rfl⟩ := Table.find?_eq_some.1 hfind
          exact absurd ⟨e, SourceTree.mem_packed.2 ⟨hrow, hpackable⟩, rfl⟩ hfound
      · rfl
    rw [hnone, described_none]
    refine ⟨hroot, ?_⟩
    intro m hm hpre
    obtain ⟨e, he, rfl⟩ := (hmem m).1 hm
    rw [SourceTree.member_parts he] at hpre
    obtain ⟨mode, hdirectory⟩ := SourceTree.packed_rooted he hroot hpre
      fun heq => hfound ⟨e, he, heq.symm⟩
    exact hfound ⟨_, hdirectory, rfl⟩

/-- What `task_digest` covers. -/
def Listed.covered (item : Listed) : Bool := packable item.path && item.data?.isSome

instance : Std.Total fun a b : Listed => a.path ≤ b.path := ⟨fun a b => le_total a.path b.path⟩

instance : IsTrans Listed fun a b => a.path ≤ b.path := ⟨fun _ _ _ h h' => le_trans h h'⟩

/-- Every name that is listed has a UTF-8 encoding. -/
def Encodable (items : List Listed) : Prop :=
  ∀ item ∈ items, ∃ encoded, (PyStr.join [slash] item.path).encode? = some encoded

theorem digest_pass {items : List Listed} (hitems : (items.map Listed.path).Nodup)
    (hutf8 : Encodable items) :
    (items.insertionSort fun a b => a.path ≤ b.path).foldlM digestItem [] =
      ((items.filter Listed.covered).insertionSort fun a b => a.path ≤ b.path).foldlM
        digestItem [] := by
  rw [orderBy_filter]
  · apply foldlM_filter
    intro item hitem hnot digest
    obtain ⟨encoded, hencoded⟩ := hutf8 item ((List.mem_insertionSort _).1 hitem)
    rw [digestItem]
    split
    · rfl
    · next content hcontent =>
      rw [Listed.covered, hcontent, Option.isSome_some, Bool.and_true] at hnot
      rw [hencoded]
      dsimp only
      rw [if_neg (ne_true_of_eq_false hnot)]
  · intro a ha b hb hab hba
    exact List.inj_on_of_nodup_map hitems ha hb (le_antisymm hab hba)

theorem covered_sort {items items' : List Listed}
    (hcovered : (items.filter Listed.covered).Perm (items'.filter Listed.covered))
    (hitems : (items.map Listed.path).Nodup) :
    (items.filter Listed.covered).insertionSort (fun a b => a.path ≤ b.path) =
      (items'.filter Listed.covered).insertionSort fun a b => a.path ≤ b.path := by
  apply orderBy_perm hcovered
  intro a ha b hb hab hba
  exact List.inj_on_of_nodup_map hitems (List.mem_filter.1 ha).1 (List.mem_filter.1 hb).1
    (le_antisymm hab hba)

theorem taskDigest_congr (sha256 : Bytes → PyStr) {items items' : List Listed}
    (hcovered : (items.filter Listed.covered).Perm (items'.filter Listed.covered))
    (hitems : (items.map Listed.path).Nodup) (hitems' : (items'.map Listed.path).Nodup)
    (hutf8 : Encodable items) (hutf8' : Encodable items') :
    taskDigest sha256 items = taskDigest sha256 items' := by
  rw [taskDigest, taskDigest, digest_pass hitems hutf8, digest_pass hitems' hutf8',
    covered_sort hcovered hitems]

theorem SourceTree.kept_file {path : List PyStr} {content : FileContent} :
    tree.kept path = some (.file content) ↔ ∃ e ∈ tree.packed, e.path = path ∧
      e.data? = some content.data ∧ e.node? = some (.file content) := by
  constructor
  · intro h
    rw [SourceTree.kept] at h
    split at h
    · cases h
    split at h
    · next hpackable =>
      obtain ⟨e, he, hnode⟩ := Option.bind_eq_some_iff.1 h
      obtain ⟨hrow, rfl⟩ := Table.find?_eq_some.1 he
      refine ⟨e, SourceTree.mem_packed.2 ⟨hrow, hpackable⟩, rfl, ?_, hnode⟩
      obtain ⟨path, kind⟩ := e
      cases kind with
      | regular mode inode data =>
        cases hnode
        rfl
      | _ => cases hnode
    · cases h
  · rintro ⟨e, he, rfl, _, hnode⟩
    obtain ⟨hrow, hpackable⟩ := SourceTree.mem_packed.1 he
    have hfind : tree.entries.find? e.path = some e := Table.find?_mem hrow
    rw [SourceTree.kept, if_neg (tree.named e hrow).1, if_pos hpackable, hfind, Option.bind_some,
      hnode]

theorem SourceTree.mem_covered {item : Listed} : item ∈ tree.listing.filter Listed.covered ↔
    ∃ content, item = ⟨item.path, some content.data⟩ ∧
      tree.kept item.path = some (.file content) := by
  simp only [SourceTree.kept_file, List.mem_filter, SourceTree.listing, List.mem_map,
    Listed.covered, Bool.and_eq_true]
  constructor
  · rintro ⟨⟨e, hrow, rfl⟩, hpackable, hdata⟩
    obtain ⟨path, kind⟩ := e
    cases kind with
    | regular mode inode data =>
      exact ⟨_, rfl, _, SourceTree.mem_packed.2 ⟨hrow, hpackable⟩, rfl, rfl, rfl⟩
    | _ => cases hdata
  · rintro ⟨content, hitem, e, he, hpath, hdata, _⟩
    obtain ⟨hrow, hpackable⟩ := SourceTree.mem_packed.1 he
    rw [hitem]
    refine ⟨⟨e, hrow, ?_⟩, hpath ▸ hpackable, rfl⟩
    rw [hpath, hdata]

theorem mem_extractedListing {files : ArtifactFiles} {item : Listed} {data : Bytes} :
    item ∈ extractedListing files ∧ item.data? = some data ↔ item = ⟨item.path, some data⟩ ∧
      ∃ executable, node? files item.path = some (.file ⟨data, executable⟩) := by
  simp only [extractedListing, List.mem_map, List.mem_filter, decide_eq_true_eq, node?]
  constructor
  · rintro ⟨⟨row, ⟨hrow, hpath⟩, rfl⟩, hdata⟩
    obtain ⟨path, node⟩ := row
    cases node with
    | directory => cases hdata
    | file content =>
      obtain ⟨bytes, executable⟩ := content
      have hfind : files.find? path = some ⟨path, .file ⟨bytes, executable⟩⟩ := Table.find?_mem hrow
      cases hdata
      refine ⟨rfl, executable, ?_⟩
      rw [if_neg hpath, hfind]
      rfl
  · rintro ⟨hitem, executable, hnode⟩
    split at hnode
    · cases hnode
    · next hpath =>
      obtain ⟨row, hrow, hfile⟩ := Option.map_eq_some_iff.1 hnode
      obtain ⟨hmem, hkey⟩ := Table.find?_eq_some.1 hrow
      obtain ⟨path, node⟩ := row
      cases hfile
      refine ⟨⟨_, ⟨hmem, ?_⟩, ?_⟩, by rw [hitem]⟩
      · exact fun hroot => hpath (hkey.symm.trans hroot)
      · rw [hitem]
        exact congrArg (fun path => Listed.mk path (some data)) hkey

theorem SourceTree.listing_nodup (tree : SourceTree) : (tree.listing.map Listed.path).Nodup := by
  rw [SourceTree.listing, List.map_map]
  exact tree.entries.distinct

theorem extractedListing_nodup (files : ArtifactFiles) :
    ((extractedListing files).map Listed.path).Nodup := by
  rw [extractedListing, List.map_map]
  exact files.distinct.sublist (List.filter_sublist.map Row.path)

theorem digest_reproduced {files : ArtifactFiles} (hutf8 : tree.Utf8)
    (h : ∀ path, node? files path = tree.kept path) (sha256 : Bytes → PyStr) :
    taskDigest sha256 (extractedListing files) = taskDigest sha256 tree.listing := by
  have hmem : ∀ item, item ∈ (extractedListing files).filter Listed.covered ↔
      item ∈ tree.listing.filter Listed.covered := by
    intro item
    rw [SourceTree.mem_covered, List.mem_filter]
    constructor
    · rintro ⟨hitem, hcovered⟩
      obtain ⟨data, hdata⟩ := Option.isSome_iff_exists.1 (Bool.and_eq_true_iff.1 hcovered).2
      obtain ⟨heq, executable, hnode⟩ := mem_extractedListing.1 ⟨hitem, hdata⟩
      exact ⟨⟨data, executable⟩, heq, (h _).symm.trans hnode⟩
    · rintro ⟨content, heq, hkept⟩
      obtain ⟨hitem, hdata⟩ := mem_extractedListing.2 ⟨heq, content.executable, (h _).trans hkept⟩
      obtain ⟨e, he, hpath, _⟩ := SourceTree.kept_file.1 hkept
      refine ⟨hitem, Bool.and_eq_true_iff.2 ⟨?_, ?_⟩⟩
      · exact hpath ▸ (SourceTree.mem_packed.1 he).2
      · rw [hdata]
        rfl
  have hencoded : ∀ e ∈ tree.entries.rows, ∃ encoded,
      (PyStr.join [slash] e.path).encode? = some encoded := hutf8
  apply taskDigest_congr sha256 ?_ (extractedListing_nodup files) tree.listing_nodup
  · intro item hitem
    obtain ⟨row, hrow, rfl⟩ := List.mem_map.1 hitem
    obtain ⟨hrow, hpath⟩ := List.mem_filter.1 hrow
    have hfind : files.find? row.path = some row := Table.find?_mem hrow
    have hkept := h row.path
    rw [node?, if_neg (of_decide_eq_true hpath), hfind, SourceTree.kept,
      if_neg (of_decide_eq_true hpath)] at hkept
    split at hkept
    · obtain ⟨e, he, _⟩ := Option.bind_eq_some_iff.1 hkept.symm
      obtain ⟨hmem, hkey⟩ := Table.find?_eq_some.1 he
      have hpaths : e.path = row.path := hkey
      exact hpaths ▸ hencoded e hmem
    · cases hkept
  · intro item hitem
    obtain ⟨e, he, rfl⟩ := List.mem_map.1 hitem
    exact hencoded e he
  · exact (List.perm_ext_iff_of_nodup ((extractedListing_nodup files).of_map.filter _)
      (tree.listing_nodup.of_map.filter _)).2 hmem

/-- Packing and extracting is a round trip just where no two packed files are one file. -/
theorem round_trip_iff (root : PyStr) (maxBytes : Option Int) (limits : ExtractLimits)
    (tree : SourceTree) (members : List Member)
    (h : packDirectory root maxBytes tree = .ok members) (hutf8 : tree.Utf8)
    (hwithin : tree.Within limits) : RoundTrips limits tree members ↔ tree.Unlinked := by
  obtain ⟨hnodes, ⟨hunlinked, hperm⟩ | ⟨hlinked, link, hlink, hkind⟩⟩ := packDirectory_ok h
  · apply iff_of_true ?_ hunlinked
    have hextractable := (SourceTree.packed_extractable hnodes hwithin).perm hperm
    have hok := (extracted_iff limits members).2 hextractable
    obtain ⟨⟨_, herror⟩, _⟩ | ⟨⟨_, herror⟩, _⟩ | ⟨_, hwritten, _⟩ :=
      safeExtract_cases limits members
    · cases hok.symm.trans herror
    · cases hok.symm.trans herror
    · have hreproduced : ∀ path,
          node? (safeExtract limits members).files path = tree.kept path := by
        intro path
        rw [hwritten, SourceTree.described_packed hnodes hperm]
      exact ⟨hok, hreproduced, digest_reproduced hutf8 hreproduced⟩
  · apply iff_of_false ?_ hlinked
    intro hround
    obtain hdirectory | hregular :=
      (((extracted_iff limits members).1 hround.succeeds).sound link hlink).kind
    · cases hkind.symm.trans hdirectory
    · cases hkind.symm.trans hregular

end

namespace Sample

/-- A directory without others below it. -/
def flatTree (entries : List SourceEntry) (hdistinct : (entries.map SourceEntry.path).Nodup)
    (hnamed : ∀ e ∈ entries, e.path.length = 1 ∧ ∀ part ∈ e.path, EntryName part) : SourceTree where
  entries := ⟨entries, hdistinct⟩
  named := by
    intro e he
    exact ⟨List.ne_nil_of_length_pos (hnamed e he).1.ge, (hnamed e he).2⟩
  rooted := by
    intro e he path hpath hpre hproper
    have hlength := hpre.length_le
    have hone := (hnamed e he).1
    have hpos := List.length_pos_iff.2 hpath
    exact absurd (hpre.eq_of_length (by omega)) hproper

/-- A package with a directory, a script and a file that is not packed. -/
def package : SourceTree :=
  flatTree [⟨["run"], .regular 0o750 (4, 1) [0x78]⟩, ⟨["m.pyc"], .regular 0o600 (4, 1) [0x79]⟩,
    ⟨["data"], .directory 0o700⟩] (by decide +kernel) (by decide +kernel)

/-- One file with two names. -/
def linkedPackage : SourceTree :=
  flatTree [⟨["b"], .regular 0o644 (4, 1) [0x78]⟩, ⟨["a"], .regular 0o644 (4, 1) [0x78]⟩]
    (by decide +kernel) (by decide +kernel)

end Sample

theorem round_trip_sample : RoundTrips Sample.roomy Sample.package
    [⟨"data", .directory, 0o700, []⟩, ⟨"run", .regular, 0o750, [0x78]⟩] := by
  refine (round_trip_iff "/package" none _ _ _ ?_ ?_ ?_).2 ?_
  · rfl
  · intro e he
    rw [← Option.isSome_iff_exists, PyStr.encode?_isSome]
    revert e he
    decide +kernel
  · exact ⟨by decide, by decide, by decide, by decide +kernel, by decide +kernel,
      by decide +kernel⟩
  · unfold SourceTree.Unlinked
    decide +kernel

/-- The second name of a file is packed as a hard link, which an extraction refuses. -/
theorem linked_package_sample :
    packDirectory "/package" none Sample.linkedPackage =
      .ok [⟨"a", .regular, 0o644, [0x78]⟩, ⟨"b", .hardlink, 0o644, []⟩] ∧
    (safeExtract Sample.roomy
      [⟨"a", .regular, 0o644, [0x78]⟩, ⟨"b", .hardlink, 0o644, []⟩]).outcome =
        .error (.artifactError "artifact contains an unsupported link or special file") ∧
    ¬RoundTrips Sample.roomy Sample.linkedPackage
      [⟨"a", .regular, 0o644, [0x78]⟩, ⟨"b", .hardlink, 0o644, []⟩] := by
  have houtcome : (safeExtract Sample.roomy
      [⟨"a", .regular, 0o644, [0x78]⟩, ⟨"b", .hardlink, 0o644, []⟩]).outcome =
        .error (.artifactError "artifact contains an unsupported link or special file") := by
    rfl
  refine ⟨by rfl, houtcome, ?_⟩
  intro h
  cases houtcome.symm.trans h.succeeds

end BrunostJudge
