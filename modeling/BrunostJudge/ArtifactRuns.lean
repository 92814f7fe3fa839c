import BrunostJudge.ArtifactStore

namespace BrunostJudge
open Python Disks Transition
open ArtifactStore (artifactId)
set_option autoImplicit true

section
variable {sha256 : ByteArray → String} {store : ArtifactStore} {s : ArtifactState}

/-- Where a bundle is kept. -/
def targetPath (artifact : PyStr) : List PyStr :=
  [artifact.take 2, artifact ++ PyStr.ofString ".tar.gz"]

theorem path_ok {artifact : PyStr} {target : List PyStr} :
    ArtifactStore.path artifact = .ok target ↔
      safeId artifact = .ok artifact ∧ target = targetPath artifact := by
  rw [ArtifactStore.path, bind_ok]
  constructor
  · rintro ⟨value, hvalue, heq⟩
    have hsame : value = artifact := by
      rw [safeId] at hvalue
      split at hvalue
      · cases hvalue
      · exact (Except.ok.inj hvalue).symm
    subst hsame
    exact ⟨hvalue, (pure_ok.1 heq).symm⟩
  · rintro ⟨hsafe, rfl⟩
    exact ⟨artifact, hsafe, rfl⟩

theorem targetPath_inj {a b : PyStr} (h : targetPath a = targetPath b) : a = b := by
  obtain ⟨_, hname⟩ := List.cons.inj h
  exact List.append_cancel_right (List.cons.inj hname).1

theorem withSuffix_target (artifact suffix : PyStr) :
    withSuffix (targetPath artifact) suffix =
      [artifact.take 2, artifact ++ PyStr.ofString ".tar" ++ suffix] := by
  have hsplit : artifact ++ PyStr.ofString ".tar.gz" =
      (artifact ++ PyStr.ofString ".tar") ++ dot :: PyStr.ofString "gz" := by
    rw [List.append_assoc]
    rfl
  have hstem : stem (artifact ++ PyStr.ofString ".tar.gz") = artifact ++ PyStr.ofString ".tar" := by
    rw [hsplit]
    apply stem_append
    · exact List.append_ne_nil_of_right_ne_nil _ (by decide)
    · decide
    · decide
  rw [withSuffix, targetPath]
  exact congrArg (fun name => [artifact.take 2, name ++ suffix]) hstem

theorem temporary_ne_target (artifact other : PyStr) (pid : Nat) :
    withSuffix (targetPath artifact) (PyStr.ofString ".tmp-" ++ decimal pid) ≠
      targetPath other := by
  rw [withSuffix_target]
  intro h
  have hname := (List.cons.inj (List.cons.inj h).2).1
  have hlast := congrArg List.getLast? hname
  rw [← List.append_assoc, List.getLast?_append_of_ne_nil _ (decimal_ne_nil pid),
    List.getLast?_append_of_ne_nil _ (by decide)] at hlast
  have hdigit := decimal_isDigit pid _ (List.mem_of_getLast? hlast)
  revert hdigit
  decide

theorem artifactId_length (hhex : HexDigest sha256) (data : ByteArray) :
    (artifactId sha256 data).length = 64 := by
  rw [artifactId, PyStr.ofString, List.length_map]
  exact (hhex data).1

theorem temporary_inj (hhex : HexDigest sha256) {data data' : ByteArray} {pid pid' : Nat}
    (h : withSuffix (targetPath (artifactId sha256 data)) (PyStr.ofString ".tmp-" ++ decimal pid) =
      withSuffix (targetPath (artifactId sha256 data'))
        (PyStr.ofString ".tmp-" ++ decimal pid')) :
    artifactId sha256 data = artifactId sha256 data' ∧ pid = pid' := by
  rw [withSuffix_target, withSuffix_target] at h
  have hname := (List.cons.inj (List.cons.inj h).2).1
  rw [List.append_assoc, List.append_assoc] at hname
  have hlength : (artifactId sha256 data).length = (artifactId sha256 data').length := by
    rw [artifactId_length hhex, artifactId_length hhex]
  obtain ⟨hid, hrest⟩ := List.append_inj hname hlength
  exact ⟨hid, decimal_inj (List.append_cancel_left (List.append_cancel_left hrest))⟩

theorem compare_ok {identifier : PyStr} {expectedId : Option PyStr}
    (h : ArtifactStore.compare identifier expectedId = .ok ()) :
    ∀ id, expectedId = some id → id ≠ [] → identifier = id := by
  intro id hid hne
  have hfilter : expectedId.filter (· ≠ []) = some id := by
    rw [hid]
    exact Option.filter_some_pos (by simpa using hne)
  rw [ArtifactStore.compare, hfilter] at h
  obtain ⟨value, hvalue, h⟩ := bind_ok.1 h
  split at h
  · next heq =>
    rw [safeId] at hvalue
    split at hvalue
    · cases hvalue
    · exact heq.symm.trans (Except.ok.inj hvalue).symm
  · cases h

theorem accept_ok {data : ByteArray} {expectedId : Option PyStr} {target : List PyStr}
    (h : store.accept sha256 data expectedId = .ok target) :
    data.size ≤ store.maxBytes ∧
      (∀ id, expectedId = some id → id ≠ [] → artifactId sha256 data = id) ∧
      target = targetPath (artifactId sha256 data) := by
  rw [ArtifactStore.accept] at h
  split at h
  · cases h
  · next hsize =>
    obtain ⟨_, hcompare, hpath⟩ := bind_ok.1 h
    exact ⟨Nat.le_of_not_lt hsize, compare_ok hcompare, (path_ok.1 hpath).2⟩

/-- The call that a `put` is of. -/
def PutCalled (sha256 : ByteArray → String) (store : ArtifactStore) (history : List ArtifactEvent)
    (k : Nat) (process : Process) (data : ByteArray) : Prop :=
  ∃ expectedId, ArtifactEvent.called k process data expectedId ∈ history ∧
    data.size ≤ store.maxBytes ∧
    ∀ id, expectedId = some id → id ≠ [] → artifactId sha256 data = id

/-- A file has all the bytes of a bundle that was put, and nobody can open it to write. -/
structure Complete (sha256 : ByteArray → String) (store : ArtifactStore)
    (history : List ArtifactEvent) (disk : Disk (List PyStr) UInt8) (file : Nat)
    (artifact : PyStr) : Prop where
  made : file < disk.contents.length
  places : ∀ path, disk.name path = some file → ∃ other, path = targetPath other
  bytes : ∃ k process data, PutCalled sha256 store history k process data ∧
    disk.content file = data.data.toList ∧ artifactId sha256 data = artifact

/-- A call of `put` has written what it says. -/
structure PutFits (sha256 : ByteArray → String) (store : ArtifactStore)
    (history : List ArtifactEvent) (disk : Disk (List PyStr) UInt8) (k : Nat) (put : Put) :
    Prop where
  target : put.target = targetPath (artifactId sha256 put.data)
  accepted : PutCalled sha256 store history k put.process put.data
  writing : ∀ {file n}, put.stage = .writing file n →
    disk.name put.temporary = some file ∧ disk.content file = put.bytes.take n ∧
      n ≤ put.bytes.length

/-- A call of `get` reads a complete file. -/
structure GetFits (sha256 : ByteArray → String) (store : ArtifactStore)
    (history : List ArtifactEvent) (disk : Disk (List PyStr) UInt8) (get : Get) : Prop where
  target : get.target = targetPath get.identifier
  safe : safeId get.identifier = .ok get.identifier
  reading : ∀ {file bytes}, get.stage = .reading file bytes →
    Complete sha256 store history disk file get.identifier ∧ bytes <+: disk.content file

structure Consistent (sha256 : ByteArray → String) (store : ArtifactStore)
    (history : List ArtifactEvent) (s : ArtifactState) : Prop where
  named : s.disk.Named
  exclusive : Exclusive s
  published : ∀ {artifact file}, s.disk.name (targetPath artifact) = some file →
    Complete sha256 store history s.disk file artifact
  puts : ∀ {k put}, s.puts k = some put → PutFits sha256 store history s.disk k put
  gets : ∀ {g get}, s.gets g = some get → GetFits sha256 store history s.disk get
  stored : ∀ {k receipt}, ArtifactEvent.stored k receipt ∈ history →
    s.disk.name (targetPath receipt.artifactId) ≠ none

variable {history : List ArtifactEvent} {disk disk' : Disk (List PyStr) UInt8}
  {e : ArtifactEvent} {file other : Nat} {artifact : PyStr} {path : List PyStr} {put : Put}
  {get : Get} {k : Nat}

theorem PutCalled.later {process : Process} {data : ByteArray}
    (h : PutCalled sha256 store history k process data) :
    PutCalled sha256 store (e :: history) k process data := by
  obtain ⟨expectedId, hmem, hrest⟩ := h
  exact ⟨expectedId, List.mem_cons_of_mem _ hmem, hrest⟩

theorem Complete.later (h : Complete sha256 store history disk file artifact) :
    Complete sha256 store (e :: history) disk file artifact := by
  obtain ⟨k, process, data, haccepted, hrest⟩ := h.bytes
  exact ⟨h.made, h.places, k, process, data, haccepted.later, hrest⟩

theorem PutFits.later (h : PutFits sha256 store history disk k put) :
    PutFits sha256 store (e :: history) disk k put :=
  ⟨h.target, h.accepted.later, h.writing⟩

theorem GetFits.later (h : GetFits sha256 store history disk get) :
    GetFits sha256 store (e :: history) disk get :=
  ⟨h.target, h.safe, fun hstage => ⟨(h.reading hstage).1.later, (h.reading hstage).2⟩⟩

theorem Complete.apart (h : Complete sha256 store history disk file artifact)
    (hname : disk.name path = some other) (hpath : ∀ id, path ≠ targetPath id) : other ≠ file := by
  intro heq
  subst heq
  obtain ⟨id, hid⟩ := h.places path hname
  exact hpath id hid

theorem Complete.create (h : Complete sha256 store history disk file artifact)
    (hpath : ∀ id, path ≠ targetPath id) (hcreated : disk.Created path other disk') :
    Complete sha256 store history disk' file artifact ∧ disk'.content file = disk.content file := by
  obtain ⟨hother, hcontent⟩ := hcreated.others file h.made fun hname => h.apart hname hpath rfl
  refine ⟨⟨Nat.lt_of_lt_of_le h.made hcreated.grows, ?_, ?_⟩, hcontent⟩
  · intro p hp
    by_cases heq : p = path
    · rw [heq, hcreated.name] at hp
      exact absurd (Option.some.inj hp) hother
    · rw [hcreated.names p heq] at hp
      exact h.places p hp
  · rw [hcontent]
    exact h.bytes

theorem Complete.write {offset : Nat} {chunk : List UInt8}
    (h : Complete sha256 store history disk file artifact) (hother : other ≠ file) :
    Complete sha256 store history (disk.write 0 other offset chunk) file artifact := by
  refine ⟨?_, h.places, ?_⟩
  · rw [Disk.write_length]
    exact h.made
  · rw [Disk.write_other hother]
    exact h.bytes

theorem Complete.replace {target : List PyStr}
    (h : Complete sha256 store history disk file artifact) (hpath : ∀ id, path ≠ targetPath id)
    (hreplace : disk.replace? path target = some disk') :
    Complete sha256 store history disk' file artifact := by
  obtain ⟨moved, hmoved, hcontents, hname⟩ := Disk.replace?_ok hreplace
  refine ⟨?_, ?_, ?_⟩
  · rw [hcontents]
    exact h.made
  · intro p hp
    rw [hname] at hp
    split at hp
    · cases hp
    · split at hp
      · exact absurd (Option.some.inj hp) (h.apart hmoved hpath)
      · exact h.places p hp
  · rw [Disk.content, hcontents]
    exact h.bytes

theorem PutFits.temporary_ne (h : PutFits sha256 store history disk k put) (id : PyStr) :
    put.temporary ≠ targetPath id := by
  rw [Put.temporary, h.target]
  exact temporary_ne_target _ _ _

theorem PutFits.temporary_inj (hhex : HexDigest sha256) {k' : Nat} {put' : Put}
    (h : PutFits sha256 store history disk k put)
    (h' : PutFits sha256 store history disk k' put') (heq : put.temporary = put'.temporary) :
    put.process.pid = put'.process.pid ∧ put.target = put'.target := by
  rw [Put.temporary, Put.temporary, h.target, h'.target] at heq
  obtain ⟨hid, hpid⟩ := BrunostJudge.temporary_inj hhex heq
  refine ⟨hpid, ?_⟩
  rw [h.target, h'.target, hid]

theorem update_some {f : Nat → Option γ} {i j : Nat} {value : Option γ} {x : γ} :
    Function.update f i value j = some x ↔ j = i ∧ value = some x ∨ j ≠ i ∧ f j = some x := by
  by_cases heq : j = i
  · subst heq
    rw [Function.update_self]
    simp
  · rw [Function.update_of_ne heq]
    simp [heq]

variable {s' : ArtifactState}

theorem Consistent.same (h : Consistent sha256 store history s) (hdisk : s'.disk = s.disk)
    (hexclusive : Exclusive s')
    (hputs : ∀ {k put}, s'.puts k = some put → PutFits sha256 store (e :: history) s.disk k put)
    (hgets : ∀ {g get}, s'.gets g = some get → GetFits sha256 store (e :: history) s.disk get)
    (hstored : ∀ k receipt, e = .stored k receipt →
      s.disk.name (targetPath receipt.artifactId) ≠ none) :
    Consistent sha256 store (e :: history) s' := by
  constructor
  · rw [hdisk]
    exact h.named
  · exact hexclusive
  · intro artifact file hname
    rw [hdisk] at hname ⊢
    exact (h.published hname).later
  · intro k put hput
    rw [hdisk]
    exact hputs hput
  · intro g get hget
    rw [hdisk]
    exact hgets hget
  · intro k receipt hmem
    rw [hdisk]
    rcases List.mem_cons.1 hmem with heq | hold
    · exact hstored k receipt heq.symm
    · exact h.stored hold

theorem Consistent.updatePuts {value : Option Put} {j : Nat}
    (h : Consistent sha256 store history s)
    (hvalue : ∀ put, value = some put → PutFits sha256 store (e :: history) s.disk k put)
    (hput : Function.update s.puts k value j = some put) :
    PutFits sha256 store (e :: history) s.disk j put := by
  rcases update_some.1 hput with ⟨rfl, hnew⟩ | ⟨_, hold⟩
  · exact hvalue put hnew
  · exact (h.puts hold).later

theorem Consistent.updateGets {value : Option Get} {i j : Nat}
    (h : Consistent sha256 store history s)
    (hvalue : ∀ get, value = some get → GetFits sha256 store (e :: history) s.disk get)
    (hget : Function.update s.gets i value j = some get) :
    GetFits sha256 store (e :: history) s.disk get := by
  rcases update_some.1 hget with ⟨_, hnew⟩ | ⟨_, hold⟩
  · exact hvalue get hnew
  · exact (h.gets hold).later

theorem Consistent.openTemporary (hhex : HexDigest sha256)
    (h : Consistent sha256 store history s) (hput : s.puts k = some put)
    (hexclusive : Exclusive { s with
      disk := (s.disk.create put.temporary).2
      puts := Function.update s.puts k
        (some { put with stage := .writing (s.disk.create put.temporary).1 0 }) }) :
    Consistent sha256 store (.opened k :: history) { s with
      disk := (s.disk.create put.temporary).2
      puts := Function.update s.puts k
        (some { put with stage := .writing (s.disk.create put.temporary).1 0 }) } := by
  have hcreated : s.disk.Created put.temporary _ _ := Disk.create_spec h.named
  have hfits := h.puts hput
  have hpath := hfits.temporary_ne
  have hplace : ∀ id, (s.disk.create put.temporary).2.name (targetPath id) =
      s.disk.name (targetPath id) := fun id => hcreated.names _ (hpath id).symm
  constructor
  · exact hcreated.named h.named
  · exact hexclusive
  · intro artifact file hname
    rw [hplace] at hname
    exact ((h.published hname).create hpath hcreated).1.later
  · intro j other hother
    rcases update_some.1 hother with ⟨rfl, hnew⟩ | ⟨hne, hold⟩
    · cases hnew
      refine ⟨hfits.target, hfits.accepted.later, ?_⟩
      intro file n hstage
      cases hstage
      refine ⟨hcreated.name, ?_, Nat.zero_le _⟩
      rw [hcreated.content]
      rfl
    · have hothers := h.puts hold
      refine ⟨hothers.target, hothers.accepted.later, ?_⟩
      intro file n hstage
      obtain ⟨hname, hcontent, hn⟩ := hothers.writing hstage
      have hapart : other.temporary ≠ put.temporary := by
        intro heq
        obtain ⟨hpid, htarget⟩ := hothers.temporary_inj hhex hfits heq
        exact hne (hexclusive j k other _ file _ n 0 hother (Function.update_self _ _ _) hstage rfl
          hpid htarget)
      have hkeep := hcreated.others file (h.named.made hname) fun hthere =>
        hapart (h.named.one hname hthere)
      exact ⟨(hcreated.names _ hapart).trans hname, hkeep.2.trans hcontent, hn⟩
  · intro g get hget
    have hreads := h.gets hget
    refine ⟨hreads.target, hreads.safe, ?_⟩
    intro file bytes hstage
    obtain ⟨hcomplete, hbytes⟩ := hreads.reading hstage
    obtain ⟨hcomplete', hcontent⟩ := hcomplete.create hpath hcreated
    refine ⟨hcomplete'.later, ?_⟩
    rw [hcontent]
    exact hbytes
  · intro j receipt hmem
    rw [hplace]
    rcases List.mem_cons.1 hmem with heq | hold
    · cases heq
    · exact h.stored hold

theorem Consistent.writeBytes (hhex : HexDigest sha256) {written n : Nat}
    (h : Consistent sha256 store history s) (hput : s.puts k = some put)
    (hstage : put.stage = .writing file written) (hmore : written < n)
    (hend : n ≤ put.bytes.length)
    (hexclusive : Exclusive { s with
      disk := s.disk.write 0 file written ((put.bytes.take n).drop written)
      puts := Function.update s.puts k (some { put with stage := .writing file n }) }) :
    Consistent sha256 store (.wrote k n :: history) { s with
      disk := s.disk.write 0 file written ((put.bytes.take n).drop written)
      puts := Function.update s.puts k (some { put with stage := .writing file n }) } := by
  have hfits := h.puts hput
  have hpath := hfits.temporary_ne
  obtain ⟨hname, hcontent, hwritten⟩ := hfits.writing hstage
  have hgrown : (s.disk.write 0 file written ((put.bytes.take n).drop written)).content file =
      put.bytes.take n := by
    have hlength : (put.bytes.take written).length = written := by
      rw [List.length_take, Nat.min_eq_left hwritten]
    have htake : put.bytes.take written = (put.bytes.take n).take written := by
      rw [List.take_take, Nat.min_eq_left (Nat.le_of_lt hmore)]
    rw [Disk.write_content (h.named.made hname), hcontent, Disk.overwrite_end hlength, htake]
    exact List.take_append_drop _ _
  constructor
  · exact h.named.write
  · exact hexclusive
  · intro artifact other hother
    have hcomplete := h.published hother
    exact (hcomplete.write (hcomplete.apart hname hpath)).later
  · intro j other hother
    rcases update_some.1 hother with ⟨rfl, hnew⟩ | ⟨hne, hold⟩
    · cases hnew
      refine ⟨hfits.target, hfits.accepted.later, ?_⟩
      intro file' n' hstage'
      cases hstage'
      exact ⟨hname, hgrown, hend⟩
    · have hothers := h.puts hold
      refine ⟨hothers.target, hothers.accepted.later, ?_⟩
      intro file' n' hstage'
      obtain ⟨hname', hcontent', hn'⟩ := hothers.writing hstage'
      have hapart : file ≠ file' := by
        intro heq
        subst heq
        obtain ⟨hpid, htarget⟩ := hothers.temporary_inj hhex hfits (h.named.one hname' hname)
        exact hne (h.exclusive j k other put _ _ _ _ hold hput hstage' hstage hpid htarget)
      exact ⟨hname', (Disk.write_other hapart).trans hcontent', hn'⟩
  · intro g get hget
    have hreads := h.gets hget
    refine ⟨hreads.target, hreads.safe, ?_⟩
    intro other bytes hstage'
    obtain ⟨hcomplete, hbytes⟩ := hreads.reading hstage'
    have hapart := hcomplete.apart hname hpath
    refine ⟨(hcomplete.write hapart).later, ?_⟩
    rw [Disk.write_other hapart]
    exact hbytes
  · intro j receipt hmem
    rcases List.mem_cons.1 hmem with heq | hold
    · cases heq
    · exact h.stored hold

/-- The bundle gets its place. Those that read another copy of it are not disturbed. -/
theorem Consistent.replace (hhex : HexDigest sha256) (h : Consistent sha256 store history s)
    (hput : s.puts k = some put) (hstage : put.stage = .writing file put.bytes.length)
    (hreplace : s.disk.replace? put.temporary put.target = some disk')
    (hexclusive : Exclusive { s with disk := disk', puts := Function.update s.puts k none }) :
    Consistent sha256 store (.stored k (.of sha256 put.data) :: history)
      { s with disk := disk', puts := Function.update s.puts k none } := by
  have hfits := h.puts hput
  have hpath := hfits.temporary_ne
  obtain ⟨hname, hcontent, _⟩ := hfits.writing hstage
  rw [List.take_length] at hcontent
  obtain ⟨moved, hmoved, hcontents, hnames⟩ := Disk.replace?_ok hreplace
  rw [hname] at hmoved
  cases hmoved
  rw [hfits.target] at hnames
  have hread : ∀ other, disk'.content other = s.disk.content other := by
    intro other
    rw [Disk.content, hcontents]
    rfl
  have hplaced : Complete sha256 store history disk' file (artifactId sha256 put.data) := by
    refine ⟨?_, ?_, k, put.process, put.data, hfits.accepted, ?_, rfl⟩
    · rw [hcontents]
      exact h.named.made hname
    · intro p hp
      rw [hnames] at hp
      split at hp
      · cases hp
      · next hne =>
        split at hp
        · next heq => exact ⟨_, heq⟩
        · exact absurd (h.named.one hp hname) hne
    · rw [hread, hcontent]
      rfl
  have hthere : ∀ id, s.disk.name (targetPath id) ≠ none →
      disk'.name (targetPath id) ≠ none := by
    intro id hid
    rw [hnames, if_neg (hpath id).symm]
    split
    · exact Option.some_ne_none _
    · exact hid
  constructor
  · exact h.named.replace hreplace
  · exact hexclusive
  · intro artifact other hother
    rw [hnames, if_neg (hpath artifact).symm] at hother
    split at hother
    · next heq =>
      cases hother
      rw [targetPath_inj heq]
      exact hplaced.later
    · exact ((h.published hother).replace hpath hreplace).later
  · intro j other hother
    rcases update_some.1 hother with ⟨_, hnone⟩ | ⟨hne, hold⟩
    · cases hnone
    · have hothers := h.puts hold
      refine ⟨hothers.target, hothers.accepted.later, ?_⟩
      intro file' n' hstage'
      obtain ⟨hname', hcontent', hn'⟩ := hothers.writing hstage'
      have hapart : other.temporary ≠ put.temporary := by
        intro heq
        obtain ⟨hpid, htarget⟩ := hothers.temporary_inj hhex hfits heq
        exact hne (h.exclusive j k other put _ _ _ _ hold hput hstage' hstage hpid htarget)
      refine ⟨?_, (hread file').trans hcontent', hn'⟩
      rw [hnames, if_neg hapart, if_neg (hothers.temporary_ne _)]
      exact hname'
  · intro g get hget
    have hreads := h.gets hget
    refine ⟨hreads.target, hreads.safe, ?_⟩
    intro other bytes hstage'
    obtain ⟨hcomplete, hbytes⟩ := hreads.reading hstage'
    refine ⟨(hcomplete.replace hpath hreplace).later, ?_⟩
    rw [hread]
    exact hbytes
  · intro j receipt hmem
    rcases List.mem_cons.1 hmem with heq | hold
    · cases heq
      dsimp only [Receipt.of]
      rw [hnames, if_neg (hpath _).symm, if_pos rfl]
      exact Option.some_ne_none _
    · exact hthere _ (h.stored hold)

theorem Consistent.step (hhex : HexDigest sha256) (h : Consistent sha256 store history s)
    (hstep : ArtifactStep sha256 store s e s') (hexclusive : Exclusive s') :
    Consistent sha256 store (e :: history) s' := by
  have hputs : ∀ {j put}, s.puts j = some put →
      PutFits sha256 store (e :: history) s.disk j put := fun hold => (h.puts hold).later
  have hgets : ∀ {j get}, s.gets j = some get →
      GetFits sha256 store (e :: history) s.disk get := fun hold => (h.gets hold).later
  cases hstep with
  | refuse => exact h.same rfl hexclusive hputs hgets (fun _ _ heq => nomatch heq)
  | @call k process data expectedId target haccept =>
    obtain ⟨hsize, hexpected, htarget⟩ := accept_ok haccept
    refine h.same rfl hexclusive ?_ hgets (fun _ _ heq => nomatch heq)
    refine h.updatePuts ?_
    intro put heq
    cases heq
    refine ⟨htarget, ⟨expectedId, List.mem_cons_self, hsize, hexpected⟩, ?_⟩
    intro file n hstage
    cases hstage
  | @present k put hput _ hthere =>
    refine h.same rfl hexclusive (h.updatePuts fun _ heq => nomatch heq) hgets ?_
    intro j receipt heq
    cases heq
    rw [(h.puts hput).target] at hthere
    exact Option.ne_none_iff_isSome.2 hthere
  | absent hput =>
    refine h.same rfl hexclusive (h.updatePuts ?_) hgets (fun _ _ heq => nomatch heq)
    intro put heq
    cases heq
    exact ⟨(h.puts hput).target, (h.puts hput).accepted.later, fun hstage => nomatch hstage⟩
  | openTemporary hput => exact h.openTemporary hhex hput hexclusive
  | writeBytes hput hstage hmore hend =>
    exact h.writeBytes hhex hput hstage hmore hend hexclusive
  | replace hput hstage hreplace => exact h.replace hhex hput hstage hreplace hexclusive
  | fail =>
    exact h.same rfl hexclusive (h.updatePuts fun _ heq => nomatch heq) hgets
      (fun _ _ heq => nomatch heq)
  | reject => exact h.same rfl hexclusive hputs hgets (fun _ _ heq => nomatch heq)
  | miss => exact h.same rfl hexclusive hputs hgets (fun _ _ heq => nomatch heq)
  | find hpath =>
    obtain ⟨hsafe, htarget⟩ := path_ok.1 hpath
    refine h.same rfl hexclusive hputs (h.updateGets ?_) (fun _ _ heq => nomatch heq)
    intro get heq
    cases heq
    exact ⟨htarget, hsafe, fun hstage => nomatch hstage⟩
  | enter hget _ hname =>
    have hreads := h.gets hget
    refine h.same rfl hexclusive hputs (h.updateGets ?_) (fun _ _ heq => nomatch heq)
    intro get heq
    cases heq
    refine ⟨hreads.target, hreads.safe, ?_⟩
    intro file bytes hstage
    cases hstage
    rw [hreads.target] at hname
    exact ⟨(h.published hname).later, List.nil_prefix⟩
  | vanish =>
    exact h.same rfl hexclusive hputs (h.updateGets fun _ heq => nomatch heq)
      (fun _ _ heq => nomatch heq)
  | @readBytes g get file bytes n hget hstage hmore hend =>
    have hreads := h.gets hget
    obtain ⟨hcomplete, hbytes⟩ := hreads.reading hstage
    refine h.same rfl hexclusive hputs (h.updateGets ?_) (fun _ _ heq => nomatch heq)
    intro get' heq
    cases heq
    refine ⟨hreads.target, hreads.safe, ?_⟩
    intro file' bytes' hstage'
    cases hstage'
    refine ⟨hcomplete.later, ?_⟩
    have hread : bytes = ((s.disk.content file).take n).take bytes.length := by
      rw [List.take_take, Nat.min_eq_left (Nat.le_of_lt hmore)]
      exact List.prefix_iff_eq_take.1 hbytes
    have hgrown := List.take_append_drop bytes.length ((s.disk.content file).take n)
    rw [← hread] at hgrown
    rw [hgrown]
    exact List.take_prefix _ _
  | finish =>
    exact h.same rfl hexclusive hputs (h.updateGets fun _ heq => nomatch heq)
      (fun _ _ heq => nomatch heq)
  | crash =>
    refine h.same rfl hexclusive ?_ ?_ (fun _ _ heq => nomatch heq)
    · intro k put hput
      exact hputs (Option.filter_eq_some_iff.1 hput).1
    · intro g get hget
      exact hgets (Option.filter_eq_some_iff.1 hget).1

theorem artifactRun_consistent (hhex : HexDigest sha256)
    (h : ArtifactRun sha256 store history s) : Consistent sha256 store history s := by
  induction h with
  | start hstart =>
    subst hstart
    constructor
    · exact Disk.Named.empty
    · intro k k' put put' file file' n n' hput
      cases hput
    · intro artifact file hname
      cases hname
    · intro k put hput
      cases hput
    · intro g get hget
      cases hget
    · intro k receipt hmem
      cases hmem
  | next _ hstep ih => exact ih.step hhex hstep.1 hstep.2

theorem bundle_check_ok {identifier : PyStr} {data : ByteArray}
    (hsafe : safeId identifier = .ok identifier) (hid : artifactId sha256 data = identifier) :
    ArtifactStore.check sha256 identifier data = .ok data := by
  rw [ArtifactStore.check, hsafe]
  exact if_pos hid

/-- Under every interleaving of the calls, and whichever processes end on the way: a receipt is
for bytes that were put. From then on the bundle is not missing. What is read under an identifier
is read without an error, and was put whole. -/
theorem artifacts_durable (hhex : HexDigest sha256) (h : ArtifactRun sha256 store history s)
    {before : List ArtifactEvent} (hsuffix : e :: before <:+ history) :
    (∀ k receipt, e = .stored k receipt → ∃ process data,
      PutCalled sha256 store before k process data ∧ receipt = .of sha256 data) ∧
    (∀ identifier, e = .missing identifier → ∀ k receipt,
      ArtifactEvent.stored k receipt ∈ before → receipt.artifactId ≠ identifier) ∧
    (∀ identifier outcome, e = .got identifier outcome → ∃ k process data,
      PutCalled sha256 store before k process data ∧ artifactId sha256 data = identifier ∧
        outcome = .ok data) := by
  obtain ⟨after, rfl⟩ := hsuffix
  obtain ⟨s', hrun, _⟩ := h.split
  cases hrun with
  | @next _ s _ _ hbefore hstep =>
    have hconsistent := artifactRun_consistent hhex hbefore
    refine ⟨?_, ?_, ?_⟩
    · intro k receipt heq
      subst heq
      cases hstep.1 with
      | present hput => exact ⟨_, _, (hconsistent.puts hput).accepted, rfl⟩
      | replace hput => exact ⟨_, _, (hconsistent.puts hput).accepted, rfl⟩
    · intro identifier heq k receipt hmem hid
      subst heq
      have hthere := hconsistent.stored hmem
      rw [hid] at hthere
      cases hstep.1 with
      | miss hpath hnone =>
        rw [(path_ok.1 hpath).2] at hnone
        exact hthere hnone
      | vanish hget _ hnone =>
        rw [(hconsistent.gets hget).target] at hnone
        exact hthere hnone
    · intro identifier outcome heq
      subst heq
      cases hstep.1 with
      | @finish g get file bytes hget hstage hend =>
        have hreads := hconsistent.gets hget
        obtain ⟨hcomplete, hbytes⟩ := hreads.reading hstage
        obtain ⟨k, process, data, hcalled, hcontent, hid⟩ := hcomplete.bytes
        have hwhole : bytes = data.data.toList :=
          (hbytes.eq_of_length_le hend).trans hcontent
        refine ⟨k, process, data, hcalled, hid, ?_⟩
        subst hwhole
        exact bundle_check_ok hreads.safe hid

theorem ArtifactStep.process {k' : Nat} {put' : Put} (hstep : ArtifactStep sha256 store s e s')
    (hput' : s'.puts k' = some put') :
    (∃ data expectedId, e = .called k' put'.process data expectedId) ∨
      ∃ put, s.puts k' = some put ∧ put.process = put'.process := by
  have hupdate : ∀ {k put stage}, s.puts k = some put →
      Function.update s.puts k (some { put with stage := stage }) k' = some put' →
        ∃ put, s.puts k' = some put ∧ put.process = put'.process := by
    intro k put stage hput hnew
    rcases update_some.1 hnew with ⟨rfl, heq⟩ | ⟨_, hold⟩
    · cases heq
      exact ⟨put, hput, rfl⟩
    · exact ⟨put', hold, rfl⟩
  have hremove : ∀ {k}, Function.update s.puts k none k' = some put' →
      ∃ put, s.puts k' = some put ∧ put.process = put'.process := by
    intro k hnew
    rcases update_some.1 hnew with ⟨_, heq⟩ | ⟨_, hold⟩
    · cases heq
    · exact ⟨put', hold, rfl⟩
  cases hstep with
  | call =>
    rcases update_some.1 hput' with ⟨rfl, heq⟩ | ⟨_, hold⟩
    · cases heq
      exact .inl ⟨_, _, rfl⟩
    · exact .inr ⟨put', hold, rfl⟩
  | absent hput => exact .inr (hupdate hput hput')
  | openTemporary hput => exact .inr (hupdate hput hput')
  | writeBytes hput => exact .inr (hupdate hput hput')
  | present => exact .inr (hremove hput')
  | replace => exact .inr (hremove hput')
  | fail => exact .inr (hremove hput')
  | crash => exact .inr ⟨put', (Option.filter_eq_some_iff.1 hput').1, rfl⟩
  | _ => exact .inr ⟨put', hput', rfl⟩

/-- Process numbers that make one call of `put` each do not get in the way of each other. -/
theorem exclusive_run (calls : Nat → Nat)
    (h : Run (· = .empty) (ArtifactStep sha256 store) history s)
    (hcalls : ∀ k process data expectedId,
      ArtifactEvent.called k process data expectedId ∈ history →
      k = calls process.pid) :
    ArtifactRun sha256 store history s := by
  have hlive : ArtifactRun sha256 store history s ∧
      ∀ k put, s.puts k = some put → k = calls put.process.pid := by
    induction h with
    | start hstart =>
      refine ⟨.start hstart, ?_⟩
      intro k put hput
      rw [hstart] at hput
      cases hput
    | @next history s e s' _ hstep ih =>
      obtain ⟨hrun, hold⟩ := ih fun k process data expectedId hmem =>
        hcalls k process data expectedId (List.mem_cons_of_mem _ hmem)
      have hnew : ∀ k put, s'.puts k = some put → k = calls put.process.pid := by
        intro k put hput
        rcases hstep.process hput with ⟨data, expectedId, heq⟩ | ⟨put', hput', hpid⟩
        · exact hcalls k put.process data expectedId (heq ▸ List.mem_cons_self)
        · rw [← hpid]
          exact hold k put' hput'
      refine ⟨.next hrun ⟨hstep, ?_⟩, hnew⟩
      intro k k' put put' _ _ _ _ hput hput' _ _ hpid _
      rw [hnew k put hput, hnew k' put' hput', hpid]
  exact hlive.1

end

namespace Sample

/-- SHA-256 of `abc`, and of nothing. -/
def abcSha256 (data : ByteArray) : String :=
  if data.data.toList = [97, 98, 99] then
    "ba7816bf8f01cfea414140de5dae2223b00361a396177a9cb410ff61f20015ad"
  else "e3b0c44298fc1c149afbf4c8996fb92427ae41e4649b934ca495991b7852b855"

theorem hex_of_all {digest : String}
    (h : digest.toList.length = 64 ∧ digest.toList.all ("0123456789abcdef".toList.contains ·)) :
    digest.toList.length = 64 ∧ ∀ c ∈ digest.toList, c ∈ "0123456789abcdef".toList := by
  obtain ⟨hlength, hall⟩ := h
  refine ⟨hlength, ?_⟩
  intro c hc
  exact List.contains_iff_mem.1 (List.all_eq_true.1 hall c hc)

theorem abcSha256_hex : HexDigest abcSha256 := by
  intro data
  rw [abcSha256]
  apply hex_of_all
  split
  · decide +kernel
  · decide +kernel

def abc : ByteArray := ⟨#[97, 98, 99]⟩

def abcId : PyStr := artifactId abcSha256 abc

def abcPut (stage : PutStage) : Put := ⟨⟨"api", 1⟩, abc, targetPath abcId, stage⟩

def abcGet (stage : GetStage) : Get := ⟨⟨"worker", 1⟩, abcId, targetPath abcId, stage⟩

/-- `abc` is put by one process, in two chunks, and then read by another. -/
def abcHistory : List ArtifactEvent :=
  [.got abcId (.ok abc), .read 0, .entered 0, .found 0 ⟨"worker", 1⟩ abcId,
    .stored 0 (.of abcSha256 abc),
    .wrote 0 3, .wrote 0 1, .opened 0, .absent 0, .called 0 ⟨"api", 1⟩ abc (some abcId)]

def abcWriting (disk : Disk (List PyStr) UInt8) (stage : PutStage) : ArtifactState :=
  ⟨disk, Function.update (fun _ => none) 0 (some (abcPut stage)), fun _ => none⟩

def abcOpened : Disk (List PyStr) UInt8 := (Disk.empty.create (abcPut .absent).temporary).2

def abcWritten : Disk (List PyStr) UInt8 := (abcOpened.write 0 0 0 [97]).write 0 0 1 [98, 99]

def abcStored : Disk (List PyStr) UInt8 :=
  { abcWritten with
    name := Function.update (Function.update abcWritten.name (targetPath abcId) (some 0))
      (abcPut .absent).temporary none }

def abcReading (stage : GetStage) : ArtifactState :=
  ⟨abcStored, fun _ => none, Function.update (fun _ => none) 0 (some (abcGet stage))⟩

theorem abcWriting_next (disk disk' : Disk (List PyStr) UInt8) (stage stage' : PutStage) :
    { abcWriting disk stage with
      disk := disk'
      puts := Function.update (abcWriting disk stage).puts 0 (some (abcPut stage')) } =
      abcWriting disk' stage' :=
  congrArg (ArtifactState.mk disk' · _) (Function.update_idem _ _ _)

theorem abcReading_next (stage stage' : GetStage) :
    { abcReading stage with
      gets := Function.update (abcReading stage).gets 0 (some (abcGet stage')) } =
      abcReading stage' :=
  congrArg (ArtifactState.mk _ _) (Function.update_idem _ _ _)

theorem abc_put_run : Run (· = .empty) (ArtifactStep abcSha256 ⟨3⟩)
    [.stored 0 (.of abcSha256 abc), .wrote 0 3, .wrote 0 1, .opened 0, .absent 0,
      .called 0 ⟨"api", 1⟩ abc (some abcId)] ⟨abcStored, fun _ => none, fun _ => none⟩ := by
  have haccept : (ArtifactStore.mk 3).accept abcSha256 abc (some abcId) =
      .ok (targetPath abcId) := by
    decide +kernel
  have hmoved : abcWritten.name (abcPut .absent).temporary = some 0 := by decide +kernel
  have hcalled : ArtifactStep abcSha256 ⟨3⟩ .empty (.called 0 ⟨"api", 1⟩ abc (some abcId))
      (abcWriting .empty .admitted) := .call haccept rfl
  have habsent : ArtifactStep abcSha256 ⟨3⟩ (abcWriting .empty .admitted) (.absent 0)
      (abcWriting .empty .absent) := by
    rw [← abcWriting_next .empty .empty .admitted .absent]
    exact @ArtifactStep.absent _ _ _ 0 (abcPut .admitted) rfl rfl rfl
  have hopened : ArtifactStep abcSha256 ⟨3⟩ (abcWriting .empty .absent) (.opened 0)
      (abcWriting abcOpened (.writing 0 0)) := by
    rw [← abcWriting_next .empty abcOpened .absent (.writing 0 0)]
    exact @ArtifactStep.openTemporary _ _ _ 0 (abcPut .absent) rfl rfl
  have hfirst : ArtifactStep abcSha256 ⟨3⟩ (abcWriting abcOpened (.writing 0 0)) (.wrote 0 1)
      (abcWriting (abcOpened.write 0 0 0 [97]) (.writing 0 1)) := by
    rw [← abcWriting_next abcOpened (abcOpened.write 0 0 0 [97]) (.writing 0 0) (.writing 0 1)]
    exact @ArtifactStep.writeBytes _ _ _ 0 (abcPut (.writing 0 0)) 0 0 1 rfl rfl (by decide)
      (by decide)
  have hsecond : ArtifactStep abcSha256 ⟨3⟩
      (abcWriting (abcOpened.write 0 0 0 [97]) (.writing 0 1)) (.wrote 0 3)
      (abcWriting abcWritten (.writing 0 3)) := by
    rw [← abcWriting_next (abcOpened.write 0 0 0 [97]) abcWritten (.writing 0 1) (.writing 0 3)]
    exact @ArtifactStep.writeBytes _ _ _ 0 (abcPut (.writing 0 1)) 0 1 3 rfl rfl (by decide)
      (by decide)
  have hstored : ArtifactStep abcSha256 ⟨3⟩ (abcWriting abcWritten (.writing 0 3))
      (.stored 0 (.of abcSha256 abc)) ⟨abcStored, fun _ => none, fun _ => none⟩ := by
    have hdone : Function.update (abcWriting abcWritten (.writing 0 3)).puts 0 none =
        fun _ => none :=
      (Function.update_idem _ _ _).trans (Function.update_eq_self 0 _)
    rw [← hdone]
    exact @ArtifactStep.replace _ _ _ 0 (abcPut (.writing 0 3)) 0 _ rfl rfl
      (congrArg (Option.map _) hmoved)
  exact .next (.next (.next (.next (.next (.next (.start rfl) hcalled) habsent) hopened) hfirst)
    hsecond) hstored

theorem abc_run : ArtifactRun abcSha256 ⟨3⟩ abcHistory
    ⟨abcStored, fun _ => none, fun _ => none⟩ := by
  have hpath : ArtifactStore.path abcId = .ok (targetPath abcId) := by decide +kernel
  have hplace : abcStored.name (targetPath abcId) = some 0 := by decide +kernel
  have hbytes : abcStored.content 0 = abc.data.toList := by decide +kernel
  have hchecked : ArtifactStore.check abcSha256 abcId abc = .ok abc :=
    bundle_check_ok (path_ok.1 hpath).1 rfl
  have hfound : ArtifactStep abcSha256 ⟨3⟩ ⟨abcStored, fun _ => none, fun _ => none⟩
      (.found 0 ⟨"worker", 1⟩ abcId) (abcReading .found) :=
    .find hpath (Option.isSome_iff_exists.2 ⟨0, hplace⟩) rfl
  have hentered : ArtifactStep abcSha256 ⟨3⟩ (abcReading .found) (.entered 0)
      (abcReading (.reading 0 [])) := by
    rw [← abcReading_next .found (.reading 0 [])]
    exact @ArtifactStep.enter _ _ _ 0 (abcGet .found) 0 rfl rfl hplace
  have hread : ArtifactStep abcSha256 ⟨3⟩ (abcReading (.reading 0 [])) (.read 0)
      (abcReading (.reading 0 abc.data.toList)) := by
    have hstep := @ArtifactStep.readBytes abcSha256 ⟨3⟩ (abcReading (.reading 0 [])) 0
      (abcGet (.reading 0 [])) 0 [] 3 rfl rfl (by decide) (by decide +kernel)
    rw [show (abcReading (.reading 0 [])).disk.content 0 = abc.data.toList from hbytes] at hstep
    rw [← abcReading_next (.reading 0 []) (.reading 0 abc.data.toList)]
    exact hstep
  have hgot : ArtifactStep abcSha256 ⟨3⟩ (abcReading (.reading 0 abc.data.toList))
      (.got abcId (.ok abc)) ⟨abcStored, fun _ => none, fun _ => none⟩ := by
    have hdone : Function.update (abcReading (.reading 0 abc.data.toList)).gets 0 none =
        fun _ => none :=
      (Function.update_idem _ _ _).trans (Function.update_eq_self 0 _)
    rw [← hdone, ← hchecked]
    exact @ArtifactStep.finish _ _ _ 0 (abcGet (.reading 0 abc.data.toList)) 0 abc.data.toList rfl
      rfl (by decide +kernel)
  have hcalls : ∀ k process data expectedId,
      ArtifactEvent.called k process data expectedId ∈ abcHistory → k = 0 := by
    intro k process data expectedId hmem
    simp only [abcHistory, List.mem_cons, reduceCtorEq, false_or, ArtifactEvent.called.injEq,
      List.not_mem_nil, or_false] at hmem
    exact hmem.1
  have hrun := Run.next (Run.next (Run.next (Run.next abc_put_run hfound) hentered) hread) hgot
  exact exclusive_run (fun _ => 0) hrun hcalls

end Sample

theorem artifacts_durable_abc : ∃ k process data,
    PutCalled Sample.abcSha256 ⟨3⟩ Sample.abcHistory.tail k process data ∧
      artifactId Sample.abcSha256 data = Sample.abcId ∧
      (.ok Sample.abc : Except PyStr ByteArray) = .ok data :=
  (artifacts_durable Sample.abcSha256_hex Sample.abc_run (List.suffix_refl _)).2.2 _ _ rfl

end BrunostJudge
