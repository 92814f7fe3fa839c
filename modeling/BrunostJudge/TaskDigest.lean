import BrunostJudge.LengthPrefix
import BrunostJudge.PackDirectory
import BrunostJudge.PyDumpsSize
import Mathlib.Data.Set.Basic

namespace BrunostJudge
open Python Relational
set_option autoImplicit true

/-- The bytes that `task_digest` hashes. -/
def digestInput (items : List Listed) : Except PyError Bytes :=
  (items.insertionSort fun a b => a.path ≤ b.path).foldlM digestItem []

/-- The paths and contents of the files that are packed. -/
def SourceTree.contents (tree : SourceTree) : Set (List PyStr × Bytes) :=
  {file | ∃ e ∈ tree.packed, e.path = file.1 ∧ e.data? = some file.2}

/-- The files and their names are shorter than 2^64 bytes. -/
def SourceTree.Short (tree : SourceTree) : Prop :=
  ∀ e ∈ tree.entries.rows, ∀ data, e.data? = some data → data.length < 2 ^ 64 ∧
    ∀ encoded, e.posix.encode? = some encoded → encoded.utf8ByteSize < 2 ^ 64

def bytes8 (value : Nat) : Bytes :=
  (List.range 8).map fun i => UInt8.ofNat (value / 256 ^ (7 - i))

theorem toBytes8_ok {value : Nat} (h : value < 2 ^ 64) : toBytes8 value = .ok (bytes8 value) := by
  rw [toBytes8, if_pos h]
  rfl

theorem mod_pow_eq_of_digits {a b base : Nat} (k : Nat)
    (h : ∀ i < k, a / base ^ i % base = b / base ^ i % base) : a % base ^ k = b % base ^ k := by
  induction k with
  | zero => rw [Nat.pow_zero, Nat.mod_one, Nat.mod_one]
  | succ k ih =>
    have hlast := h k (Nat.lt_succ_self k)
    have hrest := ih fun i hi => h i (Nat.lt_succ_of_lt hi)
    rw [Nat.mod_pow_succ, Nat.mod_pow_succ, hlast, hrest]

theorem bytes8_headers : LengthPrefix.Headers bytes8 8 (2 ^ 64) := by
  refine ⟨by decide, fun n _ => by simp [bytes8], ?_⟩
  intro m hm n hn h
  have hbytes : ∀ i < 8, m / 256 ^ i % 256 = n / 256 ^ i % 256 := by
    intro i hi
    rw [bytes8, bytes8, List.map_inj_left] at h
    have hbyte := congrArg UInt8.toNat (h (7 - i) (List.mem_range.2 (by omega)))
    rwa [UInt8.toNat_ofNat', UInt8.toNat_ofNat', show 7 - (7 - i) = i by omega] at hbyte
  have hmod := mod_pow_eq_of_digits 8 hbytes
  have hpow : 256 ^ 8 = 2 ^ 64 := by decide
  rwa [hpow, Nat.mod_eq_of_lt hm, Nat.mod_eq_of_lt hn] at hmod

/-- The name of a listed file, in UTF-8. -/
def Listed.nameBytes (item : Listed) : Bytes :=
  (((PyStr.join [slash] item.path).encode?.map fun encoded => encoded.toUTF8.data.toList).getD [])

/-- The two fields of a listed file. -/
def Listed.fields (item : Listed) : List Bytes := [item.nameBytes, item.data?.getD []]

/-- A listed file that `task_digest` can hash. -/
structure Listed.Sound (item : Listed) : Prop where
  covered : item.covered = true
  named : item.path ≠ [] ∧ ∀ part ∈ item.path, slash ∉ part
  encodable : ∃ encoded, (PyStr.join [slash] item.path).encode? = some encoded
  name_short : item.nameBytes.length < 2 ^ 64
  short : (item.data?.getD []).length < 2 ^ 64

theorem digestItem_sound {item : Listed} (h : item.Sound) (digest : Bytes) :
    digestItem digest item = .ok (digest ++ LengthPrefix.stream bytes8 item.fields) := by
  obtain ⟨hpackable, hdata⟩ := Bool.and_eq_true_iff.1 h.covered
  obtain ⟨content, hcontent⟩ := Option.isSome_iff_exists.1 hdata
  obtain ⟨encoded, hencoded⟩ := h.encodable
  have hname : item.nameBytes = encoded.toUTF8.data.toList := by
    rw [Listed.nameBytes, hencoded]
    rfl
  have hshort := h.name_short
  have hshort' := h.short
  rw [hname] at hshort
  rw [hcontent, Option.getD_some] at hshort'
  rw [digestItem, hcontent, hencoded, Listed.fields, hcontent, hname]
  dsimp only
  rw [if_pos hpackable, toBytes8_ok hshort, toBytes8_ok hshort']
  simp [LengthPrefix.stream, LengthPrefix.field, bind, Except.bind, pure, Except.pure]

theorem digest_sound (items : List Listed) (h : ∀ item ∈ items, item.Sound) (digest : Bytes) :
    items.foldlM digestItem digest =
      .ok (digest ++ LengthPrefix.stream bytes8 (items.flatMap Listed.fields)) := by
  induction items generalizing digest with
  | nil =>
    rw [List.flatMap_nil, LengthPrefix.stream, List.flatMap_nil, List.append_nil]
    rfl
  | cons item items ih =>
    obtain ⟨hfirst, hrest⟩ := List.forall_mem_cons.1 h
    rw [List.foldlM_cons, digestItem_sound hfirst]
    have hbind := ih hrest (digest ++ LengthPrefix.stream bytes8 item.fields)
    rw [List.append_assoc, ← LengthPrefix.stream_append] at hbind
    exact hbind

theorem Listed.Sound.fields_inj {item item' : Listed} (h : item.Sound) (h' : item'.Sound)
    (hname : item.nameBytes = item'.nameBytes) (hdata : item.data?.getD [] = item'.data?.getD []) :
    item = item' := by
  obtain ⟨encoded, hencoded⟩ := h.encodable
  obtain ⟨encoded', hencoded'⟩ := h'.encodable
  rw [Listed.nameBytes, Listed.nameBytes, hencoded, hencoded', Option.map_some, Option.map_some,
    Option.getD_some, Option.getD_some] at hname
  have hbytes : encoded.toByteArray = encoded'.toByteArray :=
    ByteArray.ext (Array.toList_inj.1 hname)
  have hjoin : PyStr.join [slash] item.path = PyStr.join [slash] item'.path :=
    PyStr.encode?_inj hencoded (String.toByteArray_inj.1 hbytes ▸ hencoded')
  have hpath := join_slash_inj h.named.1 h'.named.1 h.named.2 h'.named.2 hjoin
  obtain ⟨data, hcontent⟩ :=
    Option.isSome_iff_exists.1 (Bool.and_eq_true_iff.1 h.covered).2
  obtain ⟨data', hcontent'⟩ :=
    Option.isSome_iff_exists.1 (Bool.and_eq_true_iff.1 h'.covered).2
  rw [hcontent, hcontent'] at hdata
  cases item
  cases item'
  dsimp only at hpath hcontent hcontent'
  rw [hpath, hcontent, hcontent']
  exact congrArg (fun d => Listed.mk _ (some d)) hdata

theorem fields_flatMap_inj {items items' : List Listed} (h : ∀ item ∈ items, item.Sound)
    (h' : ∀ item ∈ items', item.Sound)
    (heq : items.flatMap Listed.fields = items'.flatMap Listed.fields) : items = items' := by
  induction items generalizing items' with
  | nil =>
    cases items' with
    | nil => rfl
    | cons item' items' => cases heq
  | cons item items ih =>
    cases items' with
    | nil => cases heq
    | cons item' items' =>
      obtain ⟨hfirst, hrest⟩ := List.forall_mem_cons.1 h
      obtain ⟨hfirst', hrest'⟩ := List.forall_mem_cons.1 h'
      rw [List.flatMap_cons, List.flatMap_cons, Listed.fields, Listed.fields] at heq
      obtain ⟨hname, heq⟩ := List.cons.inj heq
      obtain ⟨hdata, heq⟩ := List.cons.inj heq
      rw [hfirst.fields_inj hfirst' hname hdata, ih hrest hrest' heq]

section
variable {tree tree' : SourceTree}

theorem SourceTree.mem_listing_covered {item : Listed} :
    item ∈ tree.listing.filter Listed.covered ↔
      ∃ content, item = ⟨item.path, some content⟩ ∧ (item.path, content) ∈ tree.contents := by
  rw [List.mem_filter, SourceTree.listing, List.mem_map]
  constructor
  · rintro ⟨⟨e, he, rfl⟩, hcovered⟩
    obtain ⟨hpackable, hdata⟩ := Bool.and_eq_true_iff.1 hcovered
    obtain ⟨content, hcontent⟩ := Option.isSome_iff_exists.1 hdata
    dsimp only at hcontent
    refine ⟨content, by rw [hcontent], e, SourceTree.mem_packed.2 ⟨he, hpackable⟩, rfl, hcontent⟩
  · rintro ⟨content, hitem, e, he, hpath, hdata⟩
    obtain ⟨hrow, hpackable⟩ := SourceTree.mem_packed.1 he
    dsimp only at hpath hdata
    rw [hitem]
    refine ⟨⟨e, hrow, by rw [hpath, hdata]⟩, Bool.and_eq_true_iff.2 ⟨hpath ▸ hpackable, rfl⟩⟩

theorem SourceTree.listed_sound (hutf8 : tree.Utf8) (hshort : tree.Short) :
    ∀ item ∈ tree.listing.filter Listed.covered, item.Sound := by
  intro item hitem
  obtain ⟨hlisted, hcovered⟩ := List.mem_filter.1 hitem
  obtain ⟨e, he, rfl⟩ := List.mem_map.1 hlisted
  obtain ⟨hne, hnames⟩ := tree.named e he
  obtain ⟨encoded, hencoded⟩ := hutf8 e he
  obtain ⟨data, hdata⟩ := Option.isSome_iff_exists.1 (Bool.and_eq_true_iff.1 hcovered).2
  dsimp only at hdata
  obtain ⟨hcontent, hname⟩ := hshort e he data hdata
  have hjoin : (PyStr.join [slash] e.path).encode? = some encoded := hencoded
  refine ⟨hcovered, ⟨hne, fun part hpart => (hnames part hpart).single.2.2⟩, ⟨encoded, hjoin⟩, ?_,
    ?_⟩
  · rw [Listed.nameBytes, hjoin]
    exact hname encoded hencoded
  · rw [hdata]
    exact hcontent

/-- The files of a package in the order in which they are hashed. -/
def SourceTree.hashed (tree : SourceTree) : List Listed :=
  (tree.listing.filter Listed.covered).insertionSort fun a b => a.path ≤ b.path

theorem SourceTree.hashed_sound (hutf8 : tree.Utf8) (hshort : tree.Short) :
    ∀ item ∈ tree.hashed, item.Sound := by
  intro item hitem
  exact SourceTree.listed_sound hutf8 hshort item ((List.mem_insertionSort _).1 hitem)

theorem digestInput_listing (hutf8 : tree.Utf8) (hshort : tree.Short) :
    digestInput tree.listing =
      .ok (LengthPrefix.stream bytes8 (tree.hashed.flatMap Listed.fields)) := by
  have hencodable : Encodable tree.listing := by
    intro item hitem
    obtain ⟨e, he, rfl⟩ := List.mem_map.1 hitem
    exact hutf8 e he
  rw [digestInput, digest_pass tree.listing_nodup hencodable]
  exact digest_sound _ (SourceTree.hashed_sound hutf8 hshort) []

theorem fields_short {items : List Listed} (h : ∀ item ∈ items, item.Sound) :
    ∀ x ∈ items.flatMap Listed.fields, x.length < 2 ^ 64 := by
  intro x hx
  obtain ⟨item, hitem, hmem⟩ := List.mem_flatMap.1 hx
  obtain rfl | hmem := List.mem_cons.1 hmem
  · exact (h item hitem).name_short
  · rw [List.mem_singleton.1 hmem]
    exact (h item hitem).short

/-- What is hashed of a package is hashed of no other. -/
theorem hashed_eq_iff (hutf8 : tree.Utf8) (hshort : tree.Short) (hutf8' : tree'.Utf8)
    (hshort' : tree'.Short) :
    digestInput tree.listing = digestInput tree'.listing ↔ tree.contents = tree'.contents := by
  have hsound := SourceTree.hashed_sound hutf8 hshort
  have hsound' := SourceTree.hashed_sound hutf8' hshort'
  rw [digestInput_listing hutf8 hshort, digestInput_listing hutf8' hshort']
  constructor
  · intro h
    have hfields := bytes8_headers.stream_inj (fields_short hsound) (fields_short hsound')
      (Except.ok.inj h)
    have heq : tree.hashed = tree'.hashed := fields_flatMap_inj hsound hsound' hfields
    have hlisted : ∀ item, item ∈ tree.listing.filter Listed.covered ↔
        item ∈ tree'.listing.filter Listed.covered := by
      intro item
      have hmem : item ∈ tree.hashed ↔ item ∈ tree'.hashed := by rw [heq]
      rwa [SourceTree.hashed, SourceTree.hashed, List.mem_insertionSort,
        List.mem_insertionSort] at hmem
    have hcontents : ∀ tree : SourceTree, ∀ file, file ∈ tree.contents ↔
        (⟨file.1, some file.2⟩ : Listed) ∈ tree.listing.filter Listed.covered := by
      intro tree file
      rw [SourceTree.mem_listing_covered]
      constructor
      · intro hfile
        exact ⟨file.2, rfl, hfile⟩
      · rintro ⟨content, hitem, hfile⟩
        obtain rfl : file.2 = content := Option.some.inj (congrArg Listed.data? hitem)
        exact hfile
    ext file
    rw [hcontents, hcontents, hlisted]
  · intro h
    have hperm : (tree.listing.filter Listed.covered).Perm
        (tree'.listing.filter Listed.covered) := by
      apply (List.perm_ext_iff_of_nodup (tree.listing_nodup.of_map.filter _)
        (tree'.listing_nodup.of_map.filter _)).2
      intro item
      rw [SourceTree.mem_listing_covered, SourceTree.mem_listing_covered, h]
    rw [SourceTree.hashed, SourceTree.hashed, covered_sort hperm tree.listing_nodup]

end

/-- A task digest is taken of bytes that identify what is packed, whatever the order in which it is
listed; where the hash tells two packages' bytes apart, so does the digest. -/
theorem task_digest_identifies (tree tree' : SourceTree) (hutf8 : tree.Utf8) (hutf8' : tree'.Utf8)
    (hshort : tree.Short) (hshort' : tree'.Short) :
    ((∃ bytes, digestInput tree.listing = .ok bytes ∧ digestInput tree'.listing = .ok bytes) ↔
      tree.contents = tree'.contents) ∧
    ∀ sha256 : Bytes → PyStr,
      (∀ bytes bytes', digestInput tree.listing = .ok bytes →
        digestInput tree'.listing = .ok bytes' → sha256 bytes = sha256 bytes' → bytes = bytes') →
      (taskDigest sha256 tree.listing = taskDigest sha256 tree'.listing ↔
        tree.contents = tree'.contents) := by
  have hinput := digestInput_listing hutf8 hshort
  have hinput' := digestInput_listing hutf8' hshort'
  have heq := hashed_eq_iff hutf8 hshort hutf8' hshort'
  constructor
  · rw [← heq]
    constructor
    · rintro ⟨bytes, h, h'⟩
      rw [h, h']
    · intro h
      exact ⟨_, hinput, h ▸ hinput⟩
  · intro sha256 hfree
    have hdigest : ∀ tree : SourceTree, ∀ bytes, digestInput tree.listing = .ok bytes →
        taskDigest sha256 tree.listing = .ok (sha256 bytes) := by
      intro tree bytes h
      exact bind_ok.2 ⟨bytes, h, rfl⟩
    rw [← heq, hdigest tree _ hinput, hdigest tree' _ hinput']
    constructor
    · intro h
      rw [hinput, hinput', hfree _ _ hinput hinput' (Except.ok.inj h)]
    · intro h
      rw [hinput, hinput'] at h
      rw [Except.ok.inj h]

namespace Sample

/-- The package without the file that is not packed. -/
def cleanPackage : SourceTree :=
  flatTree [⟨["data"], .directory 0o755⟩, ⟨["run"], .regular 0o755 (9, 2) [0x78]⟩]
    (by decide +kernel) (by decide +kernel)

end Sample

theorem task_digest_identifies_sample :
    (∃ bytes, digestInput Sample.package.listing = .ok bytes ∧
      digestInput Sample.cleanPackage.listing = .ok bytes) ↔
    Sample.package.contents = Sample.cleanPackage.contents := by
  have hutf8 : ∀ tree : SourceTree, (tree.entries.rows.all fun e => e.posix.encodable) = true →
      tree.Utf8 := by
    intro tree h e he
    rw [← Option.isSome_iff_exists, PyStr.encode?_isSome]
    exact List.all_eq_true.1 h e he
  have hshort : ∀ tree : SourceTree, (tree.entries.rows.all fun e =>
        e.posix.encodable && decide (e.posix.length < 2 ^ 62) &&
          decide ((e.data?.getD []).length < 2 ^ 64)) = true → tree.Short := by
    intro tree h e he data hdata
    have hall := List.all_eq_true.1 h e he
    rw [Bool.and_eq_true, Bool.and_eq_true, hdata] at hall
    refine ⟨of_decide_eq_true hall.2, ?_⟩
    intro encoded hencoded
    have hsize := encode?_size_le hencoded
    have hlength := of_decide_eq_true hall.1.2
    omega
  exact (task_digest_identifies Sample.package Sample.cleanPackage (hutf8 _ (by decide +kernel))
    (hutf8 _ (by decide +kernel)) (hshort _ (by decide +kernel))
    (hshort _ (by decide +kernel))).1

end BrunostJudge
