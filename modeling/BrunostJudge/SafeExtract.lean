import BrunostJudge.AgentProtocol
import BrunostJudge.FileTree
import BrunostJudge.PyPath
import BrunostJudge.Raising
import Mathlib.Algebra.BigOperators.Group.List.Basic
import Mathlib.Algebra.GroupWithZero.Nat

namespace BrunostJudge
open Python Relational FileTree
set_option autoImplicit true

inductive MemberKind where
  | directory
  | regular
  | symlink
  | hardlink
  | special
deriving DecidableEq

/-- A member of an archive, as `tarfile` lists it. -/
structure Member where
  name : PyStr
  kind : MemberKind
  mode : Nat
  data : Bytes
deriving DecidableEq

namespace Member

def size (member : Member) : Nat := member.data.length

def parts (member : Member) : List PyStr := pathParts member.name

/-- Some execute bit of the mode is set. -/
def executable (member : Member) : Bool := member.mode &&& 0o111 ≠ 0

end Member

/-- A regular file: its bytes, and whether it may be executed. -/
structure FileContent where
  data : Bytes
  executable : Bool
deriving DecidableEq

def Member.content (member : Member) : FileContent := ⟨member.data, member.executable⟩

/-- What `safe_extract` raises: an `ArtifactError`, or anything else by its type. -/
inductive ExtractError where
  | artifactError (message : String)
  | raised (type : String)
deriving DecidableEq

structure ExtractLimits where
  maxMembers : Int
  maxMemberBytes : Int
  maxExpandedBytes : Int

/-- `_positive_limit`. -/
def positiveLimit (value : Int) (name : String) : Except ExtractError Unit :=
  if value < 1 then throw (.artifactError (name ++ " must be positive")) else pure ()

/-- What the first pass keeps: the names it has seen and whether they are directories, and the bytes
of the regular members. -/
structure Screening where
  names : List (List PyStr × Bool)
  expandedBytes : Nat

def nul : CodePoint := .ofChar (Char.ofNat 0)

/-- One round of the first pass. A relative name is known by its parts. In an empty destination no
link leads a target elsewhere, so a name without `..` stays below it. -/
def screenMember (limits : ExtractLimits) (seen : Screening) (member : Member) :
    Except ExtractError Screening := do
  let relative := member.parts
  if isAbsolutePath member.name ∨ relative = [] ∨ PyStr.ofString ".." ∈ relative then
    throw (.artifactError "artifact contains a path traversal")
  if seen.names.any fun name => name.1 = relative then
    throw (.artifactError "artifact contains duplicate member names")
  if seen.names.any fun name => name.1.isPrefixOf relative && !name.2 then
    throw (.artifactError "artifact contains a file/directory collision")
  -- `resolve` refuses the name
  if nul ∈ member.name then
    throw (.raised "ValueError")
  if member.kind ≠ .directory ∧ member.kind ≠ .regular then
    throw (.artifactError "artifact contains an unsupported link or special file")
  let names := seen.names ++ [(relative, decide (member.kind = .directory))]
  if member.kind = .regular then
    if (member.size : Int) > limits.maxMemberBytes then
      throw (.artifactError
        ("artifact member exceeds " ++ toString limits.maxMemberBytes ++ " bytes"))
    if ((seen.expandedBytes + member.size : Nat) : Int) > limits.maxExpandedBytes then
      throw (.artifactError
        ("artifact expands beyond " ++ toString limits.maxExpandedBytes ++ " bytes"))
    pure ⟨names, seen.expandedBytes + member.size⟩
  else pure ⟨names, seen.expandedBytes⟩

def checkLimits (limits : ExtractLimits) (members : List Member) : Except ExtractError Unit := do
  positiveLimit limits.maxMembers "max_members"
  positiveLimit limits.maxMemberBytes "max_member_bytes"
  positiveLimit limits.maxExpandedBytes "max_expanded_bytes"
  if (members.length : Int) > limits.maxMembers then
    throw (.artifactError
      ("artifact contains too many members (maximum " ++ toString limits.maxMembers ++ ")"))

/-- Everything that is checked before anything is written. -/
def screen (limits : ExtractLimits) (members : List Member) : Except ExtractError Screening := do
  checkLimits limits members
  members.foldlM (screenMember limits) ⟨[], 0⟩

abbrev ArtifactFiles := Files PyStr FileContent

/-- One round of the second pass. What was made before an error stays. -/
def writeMember (files : ArtifactFiles) (member : Member) :
    Except (ArtifactFiles × ExtractError) ArtifactFiles :=
  if member.kind = .directory then
    match mkdirs files member.parts with
    | some files => .ok files
    | none => .error (files, .raised "FileExistsError")
  else
    match mkdirs files member.parts.dropLast with
    | none => .error (files, .raised "FileExistsError")
    | some files =>
      match create files member.parts member.content with
      | some files => .ok files
      | none => .error (files, .raised "FileExistsError")

/-- How `safe_extract` ends, and what is below its destination then. -/
structure Extraction where
  files : ArtifactFiles
  outcome : Except ExtractError Unit

/-- `safe_extract` into an empty directory. -/
def safeExtract (limits : ExtractLimits) (members : List Member) : Extraction :=
  match screen limits members with
  | .error err => ⟨.empty, .error err⟩
  | .ok _ =>
    match members.foldlM writeMember Table.empty with
    | .ok files => ⟨files, .ok ()⟩
    | .error (files, err) => ⟨files, .error err⟩

/-- The bytes of the regular members. -/
def regularBytes (members : List Member) : Nat :=
  ((members.filter fun m => m.kind = .regular).map Member.size).sum

/-- The name of a member is one below the destination, and after the names before it neither taken
nor below a file. -/
structure Placed (before : List Member) (member : Member) : Prop where
  relative : isAbsolutePath member.name = false
  named : member.parts ≠ []
  below : PyStr.ofString ".." ∉ member.parts
  fresh : ∀ e ∈ before, e.parts ≠ member.parts
  apart : ∀ e ∈ before, e.kind ≠ .directory → ¬e.parts <+: member.parts

/-- A member passes every check after those before it. -/
structure Admitted (limits : ExtractLimits) (before : List Member) (member : Member) : Prop
    extends Placed before member where
  plain : nul ∉ member.name
  kind : member.kind = .directory ∨ member.kind = .regular
  size : member.kind = .regular → (member.size : Int) ≤ limits.maxMemberBytes
  total : member.kind = .regular →
    ((regularBytes before + member.size : Nat) : Int) ≤ limits.maxExpandedBytes

/-- Every member passes every check in its turn. -/
def AdmittedAfter (limits : ExtractLimits) : List Member → List Member → Prop
  | _, [] => True
  | before, member :: rest =>
    Admitted limits before member ∧ AdmittedAfter limits (before ++ [member]) rest

def screening (before : List Member) : Screening :=
  ⟨before.map fun m => (m.parts, decide (m.kind = .directory)), regularBytes before⟩

section
variable {limits : ExtractLimits} {before rest members : List Member} {member : Member}

theorem regularBytes_append (before rest : List Member) :
    regularBytes (before ++ rest) = regularBytes before + regularBytes rest := by
  rw [regularBytes, List.filter_append, List.map_append, List.sum_append]
  rfl

theorem regularBytes_singleton (member : Member) :
    regularBytes [member] = if member.kind = .regular then member.size else 0 := by
  by_cases h : member.kind = .regular <;> simp [regularBytes, h]

theorem screening_snoc (before : List Member) (member : Member) :
    screening (before ++ [member]) =
      ⟨(screening before).names ++ [(member.parts, decide (member.kind = .directory))],
        (screening before).expandedBytes + if member.kind = .regular then member.size else 0⟩ := by
  rw [screening, List.map_append, regularBytes_append, regularBytes_singleton]
  rfl

theorem seen_taken : ((screening before).names.any fun name => name.1 = member.parts) = true ↔
    ∃ e ∈ before, e.parts = member.parts := by
  simp [screening]

theorem seen_file : ((screening before).names.any fun name =>
      name.1.isPrefixOf member.parts && !name.2) = true ↔
    ∃ e ∈ before, e.kind ≠ .directory ∧ e.parts <+: member.parts := by
  simp [screening, and_comm]

theorem placed_iff : Placed before member ↔
    ¬(isAbsolutePath member.name ∨ member.parts = [] ∨ PyStr.ofString ".." ∈ member.parts) ∧
    ¬((screening before).names.any fun name => name.1 = member.parts) = true ∧
    ¬((screening before).names.any fun name =>
      name.1.isPrefixOf member.parts && !name.2) = true := by
  rw [seen_taken, seen_file]
  constructor
  · intro h
    refine ⟨?_, ?_, ?_⟩
    · rintro (habsolute | hempty | hparent)
      · rw [h.relative] at habsolute
        cases habsolute
      · exact h.named hempty
      · exact h.below hparent
    · rintro ⟨e, he, heq⟩
      exact h.fresh e he heq
    · rintro ⟨e, he, hkind, hpre⟩
      exact h.apart e he hkind hpre
  · rintro ⟨hname, hfresh, hapart⟩
    rw [not_or, not_or] at hname
    refine ⟨by simpa using hname.1, hname.2.1, hname.2.2, ?_, ?_⟩
    · exact fun e he heq => hfresh ⟨e, he, heq⟩
    · exact fun e he hkind hpre => hapart ⟨e, he, hkind, hpre⟩

theorem screenMember_ok {seen : Screening} :
    screenMember limits (screening before) member = .ok seen ↔
      Admitted limits before member ∧ seen = screening (before ++ [member]) := by
  rw [screenMember]
  dsimp only
  rw [guard_ok, guard_ok, guard_ok, guard_ok, guard_ok]
  constructor
  · rintro ⟨hname, hfresh, hapart, hplain, hkind, h⟩
    have hplaced := placed_iff.2 ⟨hname, hfresh, hapart⟩
    have hkinds : member.kind = .directory ∨ member.kind = .regular := by
      by_contra hnot
      exact hkind (not_or.1 hnot)
    rw [screening_snoc]
    split at h
    · next hregular =>
      obtain ⟨hsize, h⟩ := guard_ok.1 h
      obtain ⟨htotal, h⟩ := guard_ok.1 h
      rw [if_pos hregular]
      exact ⟨⟨hplaced, hplain, hkinds, fun _ => Int.not_lt.1 hsize, fun _ => Int.not_lt.1 htotal⟩,
        (pure_ok.1 h).symm⟩
    · next hregular =>
      rw [if_neg hregular]
      exact ⟨⟨hplaced, hplain, hkinds, fun h => absurd h hregular, fun h => absurd h hregular⟩,
        (pure_ok.1 h).symm⟩
  · rintro ⟨h, heq⟩
    obtain ⟨hname, hfresh, hapart⟩ := placed_iff.1 h.toPlaced
    refine ⟨hname, hfresh, hapart, h.plain, fun hnot => h.kind.elim hnot.1 hnot.2, ?_⟩
    rw [heq, screening_snoc]
    split
    · next hregular =>
      exact guard_ok.2 ⟨Int.not_lt.2 (h.size hregular),
        guard_ok.2 ⟨Int.not_lt.2 (h.total hregular), rfl⟩⟩
    · rfl

/-- A round raises anything but an `ArtifactError` only for a name that `resolve` refuses. -/
theorem screenMember_raised :
    (∃ type, screenMember limits (screening before) member = .error (.raised type)) ↔
      Placed before member ∧ nul ∈ member.name := by
  rw [screenMember]
  dsimp only
  constructor
  · rintro ⟨type, h⟩
    obtain ⟨_, h⟩ | ⟨hname, h⟩ := guard_error.1 h
    · cases h
    obtain ⟨_, h⟩ | ⟨hfresh, h⟩ := guard_error.1 h
    · cases h
    obtain ⟨_, h⟩ | ⟨hapart, h⟩ := guard_error.1 h
    · cases h
    obtain ⟨hnul, _⟩ | ⟨_, h⟩ := guard_error.1 h
    · exact ⟨placed_iff.2 ⟨hname, hfresh, hapart⟩, hnul⟩
    obtain ⟨_, h⟩ | ⟨_, h⟩ := guard_error.1 h
    · cases h
    split at h
    · obtain ⟨_, h⟩ | ⟨_, h⟩ := guard_error.1 h
      · cases h
      obtain ⟨_, h⟩ | ⟨_, h⟩ := guard_error.1 h
      · cases h
      · cases h
    · cases h
  · rintro ⟨hplaced, hnul⟩
    obtain ⟨hname, hfresh, hapart⟩ := placed_iff.1 hplaced
    exact ⟨_, guard_error.2 (.inr ⟨hname, guard_error.2 (.inr ⟨hfresh,
      guard_error.2 (.inr ⟨hapart, guard_error.2 (.inl ⟨hnul, rfl⟩)⟩)⟩)⟩)⟩

theorem admittedAfter_append {later : List Member} :
    AdmittedAfter limits before (rest ++ later) ↔
      AdmittedAfter limits before rest ∧ AdmittedAfter limits (before ++ rest) later := by
  induction rest generalizing before with
  | nil => simp [AdmittedAfter]
  | cons member rest ih =>
    rw [List.cons_append, AdmittedAfter, AdmittedAfter, ih, and_assoc, List.append_assoc]
    rfl

theorem screening_ok (before : List Member) {seen : Screening} :
    rest.foldlM (screenMember limits) (screening before) = .ok seen ↔
      AdmittedAfter limits before rest ∧ seen = screening (before ++ rest) := by
  induction rest generalizing before with
  | nil =>
    rw [List.foldlM_nil, pure_ok, List.append_nil, AdmittedAfter, true_and]
    exact eq_comm
  | cons member rest ih =>
    rw [List.foldlM_cons, bind_ok, AdmittedAfter]
    constructor
    · rintro ⟨middle, hmiddle, h⟩
      obtain ⟨hadmitted, heq⟩ := screenMember_ok.1 hmiddle
      rw [heq, ih, List.append_assoc] at h
      exact ⟨⟨hadmitted, h.1⟩, h.2⟩
    · rintro ⟨⟨hadmitted, hrest⟩, heq⟩
      refine ⟨_, screenMember_ok.2 ⟨hadmitted, rfl⟩, (ih _).2 ⟨hrest, ?_⟩⟩
      rw [heq, List.append_assoc]
      rfl

theorem screening_raised (before : List Member) :
    (∃ type, rest.foldlM (screenMember limits) (screening before) = .error (.raised type)) ↔
      ∃ earlier member later, rest = earlier ++ member :: later ∧
        AdmittedAfter limits before earlier ∧ Placed (before ++ earlier) member ∧
        nul ∈ member.name := by
  induction rest generalizing before with
  | nil =>
    apply iff_of_false
    · rintro ⟨type, h⟩
      cases h
    · rintro ⟨earlier, member, later, h, _⟩
      exact List.append_ne_nil_of_right_ne_nil _ (List.cons_ne_nil _ _) h.symm
  | cons first rest ih =>
    simp only [List.foldlM_cons, bind_error, exists_or]
    constructor
    · rintro (hraised | ⟨type, middle, hmiddle, h⟩)
      · obtain ⟨hplaced, hnul⟩ := screenMember_raised.1 hraised
        exact ⟨[], first, rest, rfl, trivial, by rwa [List.append_nil], hnul⟩
      · obtain ⟨hadmitted, heq⟩ := screenMember_ok.1 hmiddle
        rw [heq] at h
        obtain ⟨earlier, member, later, hsplit, hearlier, hplaced, hnul⟩ := (ih _).1 ⟨type, h⟩
        refine ⟨first :: earlier, member, later, by rw [hsplit, List.cons_append],
          ⟨hadmitted, hearlier⟩, ?_, hnul⟩
        rwa [List.append_assoc] at hplaced
    · rintro ⟨earlier, member, later, hsplit, hearlier, hplaced, hnul⟩
      cases earlier with
      | nil =>
        obtain ⟨heq, _⟩ := List.cons.inj hsplit
        subst heq
        rw [List.append_nil] at hplaced
        exact .inl (screenMember_raised.2 ⟨hplaced, hnul⟩)
      | cons first' earlier =>
        obtain ⟨heq, hrest⟩ := List.cons.inj hsplit
        subst heq
        obtain ⟨hadmitted, hearlier⟩ := hearlier
        have hlater : ∃ earlier member later, rest = earlier ++ member :: later ∧
            AdmittedAfter limits (before ++ [first]) earlier ∧
            Placed (before ++ [first] ++ earlier) member ∧ nul ∈ member.name := by
          refine ⟨earlier, member, later, hrest, hearlier, ?_, hnul⟩
          rwa [List.append_assoc]
        obtain ⟨type, h⟩ := (ih _).2 hlater
        exact .inr ⟨type, _, screenMember_ok.2 ⟨hadmitted, rfl⟩, h⟩

/-- No regular member goes where an earlier member made a directory. -/
def Unobstructed : List Member → List Member → Prop
  | _, [] => True
  | before, member :: rest =>
    (member.kind = .regular → ∀ e ∈ before, ¬member.parts <+: e.parts) ∧
      Unobstructed (before ++ [member]) rest

/-- The tree that an archive describes. -/
def described (members : List Member) (path : List PyStr) : Option (Node FileContent) :=
  match members.find? fun m => m.kind = .regular ∧ m.parts = path with
  | some m => some (.file m.content)
  | none =>
    if path = [] ∨ ∃ m ∈ members, path <+: m.parts then some .directory else none

theorem described_file {content : FileContent} (h : described members path = some (.file content)) :
    ∃ m ∈ members, m.kind = .regular ∧ m.parts = path ∧ m.content = content := by
  rw [described] at h
  split at h
  · next m hm =>
    cases h
    have hprop := List.find?_some hm
    obtain ⟨hkind, hparts⟩ := of_decide_eq_true hprop
    exact ⟨m, List.mem_of_find?_eq_some hm, hkind, hparts, rfl⟩
  · split at h
    · cases h
    · cases h

theorem described_of_mem (hmem : member ∈ members) (hdistinct : ∀ e ∈ members,
      e.kind = .regular → e.parts = member.parts → e = member) (hkind : member.kind = .regular) :
    described members member.parts = some (.file member.content) := by
  rw [described]
  split
  · next m hm =>
    have hprop := List.find?_some hm
    obtain ⟨hkind', hparts⟩ := of_decide_eq_true hprop
    rw [hdistinct m (List.mem_of_find?_eq_some hm) hkind' hparts]
  · next hnone =>
    have hnot := List.find?_eq_none.1 hnone member hmem
    exact absurd (decide_eq_true ⟨hkind, rfl⟩) hnot

theorem described_directory (hfile : ∀ m ∈ members, m.kind = .regular → m.parts ≠ path) :
    described members path = if path = [] ∨ ∃ m ∈ members, path <+: m.parts then some .directory
      else none := by
  rw [described, List.find?_eq_none.2]
  intro m hm hdecide
  obtain ⟨hkind, hparts⟩ := of_decide_eq_true hdecide
  exact hfile m hm hkind hparts

theorem described_none : described members path = none ↔
    path ≠ [] ∧ ∀ m ∈ members, ¬path <+: m.parts := by
  constructor
  · intro h
    rw [described] at h
    split at h
    · cases h
    · split at h
      · cases h
      · next hnot =>
        obtain ⟨hpath, hmembers⟩ := not_or.1 hnot
        exact ⟨hpath, fun m hm hpre => hmembers ⟨m, hm, hpre⟩⟩
  · rintro ⟨hpath, hmembers⟩
    rw [described_directory, if_neg]
    · rintro (hempty | ⟨m, hm, hpre⟩)
      · exact hpath hempty
      · exact hmembers m hm hpre
    · rintro m hm _ rfl
      exact hmembers m hm (List.prefix_refl _)

theorem described_append_file (later : List Member)
    (h : ∃ e ∈ before, e.kind = .regular ∧ e.parts = path) :
    described (before ++ later) path = described before path := by
  rw [described, described, List.find?_append]
  cases hfind : before.find? fun m => m.kind = .regular ∧ m.parts = path with
  | some m => rfl
  | none =>
    obtain ⟨e, he, hprop⟩ := h
    exact absurd (decide_eq_true hprop) (List.find?_eq_none.1 hfind e he)

theorem described_snoc_directory (hkind : member.kind = .directory)
    (hapart : ∀ e ∈ before, e.kind = .regular → ¬e.parts <+: member.parts) (path : List PyStr) :
    described (before ++ [member]) path =
      if path <+: member.parts then some .directory else described before path := by
  by_cases hfile : ∃ e ∈ before, e.kind = .regular ∧ e.parts = path
  · rw [described_append_file _ hfile, if_neg]
    obtain ⟨e, he, hregular, hparts⟩ := hfile
    rw [← hparts]
    exact hapart e he hregular
  · have hbefore : ∀ e ∈ before, e.kind = .regular → e.parts ≠ path :=
      fun e he hregular hparts => hfile ⟨e, he, hregular, hparts⟩
    rw [described_directory hbefore, described_directory]
    · simp only [List.mem_append, List.mem_singleton, or_and_right, exists_or, exists_eq_left]
      by_cases hpre : path <+: member.parts
      · rw [if_pos hpre, if_pos (.inr (.inr hpre))]
      · rw [if_neg hpre]
        simp only [hpre, or_false]
    · intro e he hregular
      obtain he | he := List.mem_append.1 he
      · exact hbefore e he hregular
      · rw [List.mem_singleton.1 he, hkind] at hregular
        cases hregular

theorem described_snoc_regular (hkind : member.kind = .regular) (hnamed : member.parts ≠ [])
    (hapart : ∀ e ∈ before, e.kind = .regular → ¬e.parts <+: member.parts)
    (hfree : ∀ e ∈ before, ¬member.parts <+: e.parts) (path : List PyStr) :
    described (before ++ [member]) path =
      if path = member.parts then some (.file member.content)
      else if path <+: member.parts.dropLast then some .directory else described before path := by
  by_cases hself : path = member.parts
  · rw [if_pos hself, hself]
    apply described_of_mem (List.mem_append_right _ List.mem_cons_self) ?_ hkind
    intro e he _ hparts
    obtain he | he := List.mem_append.1 he
    · exact absurd (hparts ▸ List.prefix_refl _) (hfree e he)
    · exact List.mem_singleton.1 he
  · have hpre : path <+: member.parts ↔ path <+: member.parts.dropLast := by
      conv_lhs => rw [← List.dropLast_append_getLast hnamed, List.prefix_concat_iff,
        List.dropLast_append_getLast hnamed]
      exact or_iff_right hself
    rw [if_neg hself]
    simp only [← hpre]
    by_cases hfile : ∃ e ∈ before, e.kind = .regular ∧ e.parts = path
    · rw [described_append_file _ hfile, if_neg]
      obtain ⟨e, he, hregular, hparts⟩ := hfile
      rw [← hparts]
      exact hapart e he hregular
    · have hbefore : ∀ e ∈ before, e.kind = .regular → e.parts ≠ path :=
        fun e he hregular hparts => hfile ⟨e, he, hregular, hparts⟩
      rw [described_directory hbefore, described_directory]
      · simp only [List.mem_append, List.mem_singleton, or_and_right, exists_or, exists_eq_left]
        by_cases hpre : path <+: member.parts
        · rw [if_pos hpre, if_pos (.inr (.inr hpre))]
        · rw [if_neg hpre]
          simp only [hpre, or_false]
      · intro e he hregular
        obtain he | he := List.mem_append.1 he
        · exact hbefore e he hregular
        · rw [List.mem_singleton.1 he]
          exact Ne.symm hself

/-- A file tree is the one that the members written so far describe. -/
def Written (files : ArtifactFiles) (members : List Member) : Prop :=
  ∀ path, node? files path = described members path

theorem Admitted.apart_regular (h : Admitted limits before member) :
    ∀ e ∈ before, e.kind = .regular → ¬e.parts <+: member.parts := by
  intro e he hregular
  apply h.apart e he
  rw [hregular]
  exact fun heq => MemberKind.noConfusion heq

theorem Admitted.way_free (h : Admitted limits before member) (hwritten : Written files before) :
    ∀ q, q <+: member.parts → ∀ content, node? files q ≠ some (.file content) := by
  intro q hq content hnode
  rw [hwritten] at hnode
  obtain ⟨e, he, hregular, hparts, _⟩ := described_file hnode
  exact h.apart_regular e he hregular (hparts ▸ hq)

theorem Admitted.parents_made (h : Admitted limits before member)
    (hwritten : Written files before) :
    ∃ middle, mkdirs files member.parts.dropLast = some middle ∧ ∀ q, node? middle q =
      if q <+: member.parts.dropLast then some .directory else described before q := by
  have hfree : ∀ q, q <+: member.parts.dropLast → ∀ content, node? files q ≠ some (.file content) :=
    fun q hq => h.way_free hwritten q (hq.trans (List.dropLast_prefix _))
  obtain ⟨middle, hmiddle, hnode⟩ := mkdirs_free hfree
  refine ⟨middle, hmiddle, ?_⟩
  intro q
  rw [hnode, hwritten]

theorem not_prefix_dropLast {path : List PyStr} (h : path ≠ []) : ¬path <+: path.dropLast := by
  intro hpre
  have hlength := hpre.length_le
  rw [List.length_dropLast] at hlength
  have hpos := List.length_pos_iff.2 h
  omega

theorem regular_ne_directory (h : member.kind = .regular) : ¬member.kind = .directory := by
  rw [h]
  exact fun heq => MemberKind.noConfusion heq

theorem writeMember_ok (hwritten : Written files before) (h : Admitted limits before member)
    (hfree : member.kind = .regular → ∀ e ∈ before, ¬member.parts <+: e.parts) :
    ∃ files', writeMember files member = .ok files' ∧ Written files' (before ++ [member]) := by
  rw [writeMember]
  obtain hkind | hkind := h.kind
  · obtain ⟨files', hfiles', hnode⟩ := mkdirs_free (h.way_free hwritten)
    rw [if_pos hkind, hfiles']
    refine ⟨files', rfl, ?_⟩
    intro path
    rw [hnode, described_snoc_directory hkind h.apart_regular, hwritten]
  · obtain ⟨middle, hmiddle, hnode⟩ := h.parents_made hwritten
    have hnone : node? middle member.parts = none := by
      rw [hnode, if_neg (not_prefix_dropLast h.named), described_none]
      exact ⟨h.named, hfree hkind⟩
    obtain ⟨files', hfiles', hnode'⟩ := create_fresh member.content hnone
    rw [if_neg (regular_ne_directory hkind), hmiddle]
    dsimp only
    rw [hfiles']
    refine ⟨files', rfl, ?_⟩
    intro path
    rw [hnode', hnode, described_snoc_regular hkind h.named h.apart_regular (hfree hkind)]

/-- A regular member where an earlier one made a directory cannot be written, and the directory
stays. -/
theorem writeMember_error (hwritten : Written files before) (h : Admitted limits before member)
    (hkind : member.kind = .regular) (he : e ∈ before) (hpre : member.parts <+: e.parts) :
    ∃ files' type, writeMember files member = .error (files', .raised type) ∧
      node? files' member.parts ≠ none := by
  obtain ⟨middle, hmiddle, hnode⟩ := h.parents_made hwritten
  have htaken : node? middle member.parts ≠ none := by
    rw [hnode, if_neg (not_prefix_dropLast h.named)]
    exact fun hnone => (described_none.1 hnone).2 e he hpre
  rw [writeMember, if_neg (regular_ne_directory hkind), hmiddle]
  dsimp only
  rw [create_taken _ htaken]
  exact ⟨middle, _, rfl, htaken⟩

/-- The second pass writes what the archive describes, or fails with some of it written. -/
theorem writing_cases (hwritten : Written files before) (h : AdmittedAfter limits before rest) :
    (Unobstructed before rest ∧ ∃ files', rest.foldlM writeMember files = .ok files' ∧
      Written files' (before ++ rest)) ∨
    (¬Unobstructed before rest ∧ ∃ files' type path, path ≠ [] ∧
      rest.foldlM writeMember files = .error (files', .raised type) ∧
      node? files' path ≠ none) := by
  induction rest generalizing before files with
  | nil => exact .inl ⟨trivial, files, rfl, by rwa [List.append_nil]⟩
  | cons member rest ih =>
    obtain ⟨hadmitted, hrest⟩ := h
    rw [List.foldlM_cons]
    by_cases hfree : member.kind = .regular → ∀ e ∈ before, ¬member.parts <+: e.parts
    · obtain ⟨middle, hmiddle, hwritten'⟩ := writeMember_ok hwritten hadmitted hfree
      rw [hmiddle]
      obtain ⟨hclear, files', hfiles', hlast⟩ | ⟨hnot, files', type, path, hpath, hfiles', hnode⟩ :=
        ih hwritten' hrest
      · rw [List.append_assoc] at hlast
        exact .inl ⟨⟨hfree, hclear⟩, files', hfiles', hlast⟩
      · exact .inr ⟨fun hclear => hnot hclear.2, files', type, path, hpath, hfiles', hnode⟩
    · obtain ⟨hkind, hblocked⟩ := Classical.not_imp.1 hfree
      simp only [not_forall, not_not, exists_prop] at hblocked
      obtain ⟨e, he, hpre⟩ := hblocked
      obtain ⟨files', type, hfiles', hnode⟩ := writeMember_error hwritten hadmitted hkind he hpre
      rw [hfiles']
      exact .inr ⟨fun hclear => hfree hclear.1, files', type, member.parts, hadmitted.named, rfl,
        hnode⟩

/-- The limits are limits, and the archive has few enough members. -/
structure LimitsMet (limits : ExtractLimits) (members : List Member) : Prop where
  members_positive : 1 ≤ limits.maxMembers
  bytes_positive : 1 ≤ limits.maxMemberBytes
  expanded_positive : 1 ≤ limits.maxExpandedBytes
  count : (members.length : Int) ≤ limits.maxMembers

/-- A member that can be extracted alone. -/
structure SoundMember (limits : ExtractLimits) (member : Member) : Prop where
  relative : isAbsolutePath member.name = false
  named : member.parts ≠ []
  below : PyStr.ofString ".." ∉ member.parts
  plain : nul ∉ member.name
  kind : member.kind = .directory ∨ member.kind = .regular
  size : member.kind = .regular → (member.size : Int) ≤ limits.maxMemberBytes

/-- Two members have different names, and neither is a file on the way to the other. -/
structure Clear (e m : Member) : Prop where
  fresh : e.parts ≠ m.parts
  apart : e.kind = .regular → ¬e.parts <+: m.parts
  free : m.kind = .regular → ¬m.parts <+: e.parts

/-- An archive that can be extracted, whatever the order of its members. -/
structure Extractable (limits : ExtractLimits) (members : List Member) : Prop where
  met : LimitsMet limits members
  sound : ∀ m ∈ members, SoundMember limits m
  clear : members.Pairwise Clear
  total : (regularBytes members : Int) ≤ limits.maxExpandedBytes

theorem Clear.symm (h : Clear e m) : Clear m e := ⟨h.fresh.symm, h.free, h.apart⟩

theorem regularBytes_perm {members' : List Member} (h : members'.Perm members) :
    regularBytes members' = regularBytes members :=
  ((h.filter _).map _).sum_eq

theorem Extractable.perm {members' : List Member} (h : members'.Perm members)
    (hmembers : Extractable limits members) : Extractable limits members' := by
  obtain ⟨hlimits, hsound, hclear, htotal⟩ := hmembers
  refine ⟨⟨hlimits.1, hlimits.2, hlimits.3, ?_⟩, fun m hm => hsound m (h.mem_iff.1 hm), ?_, ?_⟩
  · rw [h.length_eq]
    exact hlimits.count
  · exact (h.pairwise_iff Clear.symm).2 hclear
  · rw [regularBytes_perm h]
    exact htotal

/-- A member is admitted and nothing is in its way, when it is sound, clear of those before it and
within the total with them. -/
theorem admitted_free_iff (hbefore : ∀ e ∈ before, e.kind = .directory ∨ e.kind = .regular)
    (htotal : (regularBytes before : Int) ≤ limits.maxExpandedBytes) :
    (Admitted limits before member ∧
      (member.kind = .regular → ∀ e ∈ before, ¬member.parts <+: e.parts)) ↔
      SoundMember limits member ∧ (∀ e ∈ before, Clear e member) ∧
        (regularBytes (before ++ [member]) : Int) ≤ limits.maxExpandedBytes := by
  rw [regularBytes_append, regularBytes_singleton]
  constructor
  · rintro ⟨h, hfree⟩
    refine ⟨⟨h.relative, h.named, h.below, h.plain, h.kind, h.size⟩, ?_, ?_⟩
    · intro e he
      exact ⟨h.fresh e he, h.apart_regular e he, fun hkind => hfree hkind e he⟩
    · split
      · next hkind => exact h.total hkind
      · exact htotal
  · rintro ⟨h, hclear, hsum⟩
    refine ⟨⟨⟨h.relative, h.named, h.below, fun e he => (hclear e he).fresh, ?_⟩, h.plain, h.kind,
      h.size, ?_⟩, fun hkind e he => (hclear e he).free hkind⟩
    · intro e he hkind
      exact (hclear e he).apart ((hbefore e he).resolve_left hkind)
    · intro hkind
      rwa [if_pos hkind] at hsum

theorem SoundMember.kinds_snoc (h : SoundMember limits member)
    (hbefore : ∀ e ∈ before, e.kind = .directory ∨ e.kind = .regular) :
    ∀ e ∈ before ++ [member], e.kind = .directory ∨ e.kind = .regular := by
  intro e he
  obtain he | he := List.mem_append.1 he
  · exact hbefore e he
  · rw [List.mem_singleton.1 he]
    exact h.kind

/-- Both passes succeed just for members that are sound, clear of one another and within the
total. -/
theorem admitted_unobstructed_iff (hbefore : ∀ e ∈ before, e.kind = .directory ∨ e.kind = .regular)
    (htotal : (regularBytes before : Int) ≤ limits.maxExpandedBytes) :
    AdmittedAfter limits before rest ∧ Unobstructed before rest ↔
      (∀ m ∈ rest, SoundMember limits m) ∧ (∀ e ∈ before, ∀ m ∈ rest, Clear e m) ∧
        rest.Pairwise Clear ∧ (regularBytes (before ++ rest) : Int) ≤ limits.maxExpandedBytes := by
  induction rest generalizing before with
  | nil => simp [AdmittedAfter, Unobstructed, htotal]
  | cons member rest ih =>
    have hsplit : before ++ member :: rest = before ++ [member] ++ rest := by simp
    rw [AdmittedAfter, Unobstructed, and_and_and_comm, admitted_free_iff hbefore htotal, hsplit]
    constructor
    · rintro ⟨⟨hsound, hclear, hsum⟩, hrest⟩
      have hkinds := hsound.kinds_snoc hbefore
      obtain ⟨hsounds, hclears, hpairwise, hall⟩ := (ih hkinds hsum).1 hrest
      refine ⟨List.forall_mem_cons.2 ⟨hsound, hsounds⟩, ?_, ?_, hall⟩
      · intro e he
        exact List.forall_mem_cons.2 ⟨hclear e he, hclears e (List.mem_append_left _ he)⟩
      · exact List.pairwise_cons.2
          ⟨hclears member (List.mem_append_right _ List.mem_cons_self), hpairwise⟩
    · rintro ⟨hsounds, hclears, hpairwise, hall⟩
      obtain ⟨hsound, hsounds⟩ := List.forall_mem_cons.1 hsounds
      obtain ⟨hfirst, hpairwise⟩ := List.pairwise_cons.1 hpairwise
      have hsum : (regularBytes (before ++ [member]) : Int) ≤ limits.maxExpandedBytes := by
        rw [regularBytes_append] at hall
        omega
      have hkinds := hsound.kinds_snoc hbefore
      refine ⟨⟨hsound, fun e he => hclears e he member List.mem_cons_self, hsum⟩,
        (ih hkinds hsum).2 ⟨hsounds, ?_, hpairwise, hall⟩⟩
      intro e he m hm
      obtain he | he := List.mem_append.1 he
      · exact hclears e he m (List.mem_cons_of_mem _ hm)
      · rw [List.mem_singleton.1 he]
        exact hfirst m hm

theorem positiveLimit_ok {value : Int} {name : String} :
    positiveLimit value name = .ok () ↔ 1 ≤ value := by
  rw [positiveLimit]
  split
  · next h => exact iff_of_false (fun h => (throw_ok.1 h).elim) (Int.not_le.2 h)
  · next h => exact iff_of_true rfl (Int.not_lt.1 h)

theorem positiveLimit_error {value : Int} {name : String}
    (h : positiveLimit value name = .error err) : ∃ message, err = .artifactError message := by
  rw [positiveLimit] at h
  split at h
  · cases h
    exact ⟨_, rfl⟩
  · cases h

theorem checkLimits_ok : checkLimits limits members = .ok () ↔ LimitsMet limits members := by
  constructor
  · intro h
    obtain ⟨⟨⟩, hmembers, h⟩ := bind_ok.1 h
    obtain ⟨⟨⟩, hbytes, h⟩ := bind_ok.1 h
    obtain ⟨⟨⟩, hexpanded, h⟩ := bind_ok.1 h
    split at h
    · exact (throw_ok.1 h).elim
    · next hcount =>
      exact ⟨positiveLimit_ok.1 hmembers, positiveLimit_ok.1 hbytes, positiveLimit_ok.1 hexpanded,
        Int.not_lt.1 hcount⟩
  · rintro ⟨hmembers, hbytes, hexpanded, hcount⟩
    exact bind_ok.2 ⟨(), positiveLimit_ok.2 hmembers, bind_ok.2 ⟨(), positiveLimit_ok.2 hbytes,
      bind_ok.2 ⟨(), positiveLimit_ok.2 hexpanded, if_neg (Int.not_lt.2 hcount)⟩⟩⟩

theorem checkLimits_error (h : checkLimits limits members = .error err) :
    ∃ message, err = .artifactError message := by
  obtain h | ⟨_, _, h⟩ := bind_error.1 h
  · exact positiveLimit_error h
  obtain h | ⟨_, _, h⟩ := bind_error.1 h
  · exact positiveLimit_error h
  obtain h | ⟨_, _, h⟩ := bind_error.1 h
  · exact positiveLimit_error h
  split at h
  · cases h
    exact ⟨_, rfl⟩
  · cases h

theorem screen_ok (limits : ExtractLimits) (members : List Member) :
    (∃ seen, screen limits members = .ok seen) ↔
    LimitsMet limits members ∧ AdmittedAfter limits [] members := by
  constructor
  · rintro ⟨seen, h⟩
    obtain ⟨⟨⟩, hlimits, hscreening⟩ := bind_ok.1 h
    exact ⟨checkLimits_ok.1 hlimits, ((screening_ok []).1 hscreening).1⟩
  · rintro ⟨hlimits, hadmitted⟩
    exact ⟨_, bind_ok.2
      ⟨(), checkLimits_ok.2 hlimits, (screening_ok []).2 ⟨hadmitted, rfl⟩⟩⟩

theorem screen_raised (limits : ExtractLimits) (members : List Member) :
    (∃ type, screen limits members = .error (.raised type)) ↔
    LimitsMet limits members ∧ ∃ earlier member later, members = earlier ++ member :: later ∧
      AdmittedAfter limits [] earlier ∧ Placed earlier member ∧ nul ∈ member.name := by
  constructor
  · rintro ⟨type, h⟩
    obtain h | ⟨⟨⟩, hlimits, h⟩ := bind_error.1 h
    · obtain ⟨message, heq⟩ := checkLimits_error h
      cases heq
    · exact ⟨checkLimits_ok.1 hlimits, (screening_raised []).1 ⟨type, h⟩⟩
  · rintro ⟨hlimits, hnul⟩
    obtain ⟨type, h⟩ := (screening_raised []).2 hnul
    exact ⟨type, bind_error.2 (.inr ⟨(), checkLimits_ok.2 hlimits, h⟩)⟩

/-- Below the destination is what the archive describes, within the limits. -/
structure Extracted (limits : ExtractLimits) (members : List Member) (files : ArtifactFiles) :
    Prop where
  directories : ∀ m ∈ members, m.kind = .directory → node? files m.parts = some .directory
  regular : ∀ m ∈ members, m.kind = .regular → node? files m.parts = some (.file m.content)
  kinds : ∀ m ∈ members, m.kind = .directory ∨ m.kind = .regular
  only : ∀ path, path ≠ [] → node? files path ≠ none → ∃ m ∈ members, path <+: m.parts
  inside : ∀ m ∈ members, isAbsolutePath m.name = false ∧ m.parts ≠ [] ∧
    PyStr.ofString ".." ∉ m.parts
  distinct : (members.map Member.parts).Nodup
  count : (members.length : Int) ≤ limits.maxMembers
  size : ∀ m ∈ members, m.kind = .regular → (m.size : Int) ≤ limits.maxMemberBytes
  total : (regularBytes members : Int) ≤ limits.maxExpandedBytes

/-- An archive is refused by an `ArtifactError` that leaves nothing, or extracted. -/
def AllOrNothing (limits : ExtractLimits) (members : List Member) : Prop :=
  ((∃ message, (safeExtract limits members).outcome = .error (.artifactError message)) ∧
    (safeExtract limits members).files = Table.empty) ∨
  ((safeExtract limits members).outcome = .ok () ∧
    Extracted limits members (safeExtract limits members).files)

/-- No name that `resolve` refuses is the first thing that is wrong with an archive, and where
nothing is, no regular member goes where an earlier member made a directory. -/
structure Covered (limits : ExtractLimits) (members : List Member) : Prop where
  plain : LimitsMet limits members → ∀ earlier member later, members = earlier ++ member :: later →
    AdmittedAfter limits [] earlier → Placed earlier member → nul ∉ member.name
  unobstructed : LimitsMet limits members → AdmittedAfter limits [] members →
    Unobstructed [] members

theorem extractable_iff : Extractable limits members ↔
    LimitsMet limits members ∧ AdmittedAfter limits [] members ∧ Unobstructed [] members := by
  constructor
  · rintro ⟨hlimits, hsound, hclear, htotal⟩
    exact ⟨hlimits, (admitted_unobstructed_iff (fun _ he => absurd he List.not_mem_nil)
      (hlimits.expanded_positive.trans' (by decide))).2
        ⟨hsound, fun _ he => absurd he List.not_mem_nil, hclear, htotal⟩⟩
  · rintro ⟨hlimits, hboth⟩
    obtain ⟨hsound, _, hclear, htotal⟩ :=
      (admitted_unobstructed_iff (fun _ he => absurd he List.not_mem_nil)
        (hlimits.expanded_positive.trans' (by decide))).1 hboth
    exact ⟨hlimits, hsound, hclear, htotal⟩

theorem Written.extracted (hwritten : Written files members) (h : Extractable limits members) :
    Extracted limits members files := by
  have hfresh : members.Pairwise fun a b => a.parts ≠ b.parts := h.clear.imp fun h => h.fresh
  have hdistinct : (members.map Member.parts).Nodup := List.pairwise_map.2 hfresh
  have hinj : ∀ m ∈ members, ∀ e ∈ members, e.parts = m.parts → e = m :=
    fun m hm e he hparts => List.inj_on_of_nodup_map hdistinct he hm hparts
  refine ⟨?_, ?_, fun m hm => (h.sound m hm).kind, ?_, ?_, hdistinct, h.met.count,
    fun m hm => (h.sound m hm).size, h.total⟩
  · intro m hm hkind
    rw [hwritten, described_directory, if_pos (.inr ⟨m, hm, List.prefix_refl _⟩)]
    intro e he hregular hparts
    rw [hinj m hm e he hparts, hkind] at hregular
    cases hregular
  · intro m hm hkind
    rw [hwritten]
    exact described_of_mem hm (fun e he _ hparts => hinj m hm e he hparts) hkind
  · intro path hpath hnode
    rw [hwritten] at hnode
    by_contra hnot
    apply hnode
    exact described_none.2 ⟨hpath, fun m hm hpre => hnot ⟨m, hm, hpre⟩⟩
  · intro m hm
    exact ⟨(h.sound m hm).relative, (h.sound m hm).named, (h.sound m hm).below⟩

theorem written_empty : Written Table.empty [] := by
  intro path
  by_cases hpath : path = []
  · subst hpath
    rfl
  · rw [node?_empty hpath, described_none.2]
    exact ⟨hpath, fun _ hm => absurd hm List.not_mem_nil⟩

theorem safeExtract_cases (limits : ExtractLimits) (members : List Member) :
    ((∃ message, (safeExtract limits members).outcome = .error (.artifactError message)) ∧
      (safeExtract limits members).files = Table.empty ∧ Covered limits members ∧
      ¬Extractable limits members) ∨
    ((∃ type, (safeExtract limits members).outcome = .error (.raised type)) ∧
      ¬Covered limits members ∧ ¬Extractable limits members) ∨
    ((safeExtract limits members).outcome = .ok () ∧
      Written (safeExtract limits members).files members ∧ Covered limits members ∧
      Extractable limits members) := by
  have hscreen := screen_ok limits members
  have hraised := screen_raised limits members
  rw [extractable_iff, safeExtract]
  cases hresult : screen limits members with
  | error err =>
    have hnot : ¬(LimitsMet limits members ∧ AdmittedAfter limits [] members) := by
      rw [← hscreen, hresult]
      rintro ⟨_, h⟩
      cases h
    have hextractable : ¬(LimitsMet limits members ∧ AdmittedAfter limits [] members ∧
        Unobstructed [] members) := fun h => hnot ⟨h.1, h.2.1⟩
    cases err with
    | artifactError message =>
      refine .inl ⟨⟨message, rfl⟩, rfl, ⟨?_, fun hlimits h => absurd ⟨hlimits, h⟩ hnot⟩,
        hextractable⟩
      intro hlimits earlier member later hsplit hearlier hplaced hnul
      obtain ⟨type, h⟩ := hraised.2
        ⟨hlimits, earlier, member, later, hsplit, hearlier, hplaced, hnul⟩
      cases hresult.symm.trans h
    | raised type =>
      obtain ⟨hlimits, earlier, member, later, hsplit, hearlier, hplaced, hnul⟩ :=
        hraised.1 ⟨type, hresult⟩
      exact .inr (.inl ⟨⟨type, rfl⟩, fun hcovered =>
        hcovered.plain hlimits earlier member later hsplit hearlier hplaced hnul, hextractable⟩)
  | ok seen =>
    obtain ⟨hlimits, hadmitted⟩ := hscreen.1 ⟨seen, hresult⟩
    have hplain : ∀ earlier member later, members = earlier ++ member :: later →
        nul ∉ member.name := by
      intro earlier member later hsplit
      rw [hsplit] at hadmitted
      exact (admittedAfter_append.1 hadmitted).2.1.plain
    dsimp only
    obtain ⟨hclear, files, hfiles, hwritten⟩ | ⟨hnot, files, type, path, hpath, hfiles, hnode⟩ :=
      writing_cases written_empty hadmitted
    · rw [hfiles]
      exact .inr (.inr ⟨rfl, hwritten, ⟨fun _ earlier member later hsplit _ _ =>
        hplain earlier member later hsplit, fun _ _ => hclear⟩, hlimits, hadmitted, hclear⟩)
    · rw [hfiles]
      exact .inr (.inl ⟨⟨type, rfl⟩, fun hcovered => hnot (hcovered.unobstructed hlimits hadmitted),
        fun h => hnot h.2.2⟩)

/-- An archive is extracted just where it is extractable. -/
theorem extracted_iff (limits : ExtractLimits) (members : List Member) :
    (safeExtract limits members).outcome = .ok () ↔ Extractable limits members := by
  obtain ⟨⟨message, h⟩, _, _, hnot⟩ | ⟨⟨type, h⟩, _, hnot⟩ | ⟨h, _, _, hextractable⟩ :=
    safeExtract_cases limits members
  · rw [h]
    exact iff_of_false (fun h => by cases h) hnot
  · rw [h]
    exact iff_of_false (fun h => by cases h) hnot
  · exact iff_of_true h hextractable

end

namespace Sample

def fileMember (name : PyStr) : Member := ⟨name, .regular, 0o644, [0x78]⟩

def roomy : ExtractLimits := ⟨10, 10, 10⟩

end Sample

end BrunostJudge
