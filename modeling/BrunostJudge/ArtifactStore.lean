import BrunostJudge.Disks
import BrunostJudge.PyDumpsInjective
import BrunostJudge.PyPath
import BrunostJudge.Raising
import BrunostJudge.StoreRun

namespace BrunostJudge
open Python Disks Transition
set_option autoImplicit true

def idAlphabet : PyStr :=
  ("abcdefghijklmnopqrstuvwxyzABCDEFGHIJKLMNOPQRSTUVWXYZ0123456789._-" : String)

/-- `_safe_id`. The error is the text of an `ArtifactError`. -/
def safeId (value : PyStr) : Except PyStr PyStr :=
  if value = [] ∨ 128 < value.length ∨ value.any (fun c => !idAlphabet.contains c) then
    .error ("artifact_id contains unsupported characters" : String)
  else .ok value

def ArtifactStore.artifactId (sha256 : ByteArray → String) (data : ByteArray) : PyStr := sha256 data

/-- What `hexdigest` returns of a SHA-256 digest. -/
def HexDigest (sha256 : ByteArray → String) : Prop :=
  ∀ data, (sha256 data).toList.length = 64 ∧
    ∀ c ∈ (sha256 data).toList, c ∈ "0123456789abcdef".toList

/-- `path.with_suffix(suffix)`. -/
def withSuffix (path : List PyStr) (suffix : PyStr) : List PyStr :=
  path.dropLast ++ [stem (path.getLast?.getD []) ++ suffix]

/-- What `put` returns. -/
structure Receipt where
  artifactId : PyStr
  sizeBytes : Nat
  sha256 : PyStr
deriving DecidableEq

def Receipt.of (sha256 : ByteArray → String) (data : ByteArray) : Receipt :=
  ⟨ArtifactStore.artifactId sha256 data, data.size, ArtifactStore.artifactId sha256 data⟩

/-- Paths are below the root of the store. -/
structure ArtifactStore where
  maxBytes : Nat

namespace ArtifactStore

def path (artifact : PyStr) : Except PyStr (List PyStr) := do
  let value ← safeId artifact
  pure [value.take 2, value ++ PyStr.ofString ".tar.gz"]

variable (sha256 : ByteArray → String)

/-- The identifier that the caller of `put` expects, if he gives one. -/
def compare (identifier : PyStr) (expectedId : Option PyStr) : Except PyStr Unit :=
  match expectedId.filter (· ≠ []) with
  | none => pure ()
  | some expected => do
    let value ← safeId expected
    if value = identifier then pure ()
    else throw (PyStr.ofString "artifact_id does not match the uploaded bytes")

/-- What `put` checks before it looks at the disk. -/
def accept (store : ArtifactStore) (data : ByteArray) (expectedId : Option PyStr) :
    Except PyStr (List PyStr) :=
  if store.maxBytes < data.size then
    throw (PyStr.ofString "artifact exceeds " ++ decimal store.maxBytes ++
      PyStr.ofString " bytes")
  else do
    compare (artifactId sha256 data) expectedId
    path (artifactId sha256 data)

/-- What `get` makes of the bytes it has read. -/
def check (identifier : PyStr) (data : ByteArray) : Except PyStr ByteArray := do
  let value ← safeId identifier
  if artifactId sha256 data = value then pure data
  else throw (PyStr.ofString "artifact checksum mismatch")

end ArtifactStore

inductive PutStage where
  | admitted
  | absent
  | writing (file written : Nat)
deriving DecidableEq

/-- A process. Processes of two containers may have the same number. -/
structure Process where
  container : String
  pid : Nat
deriving DecidableEq

/-- A `put` that has not returned. -/
structure Put where
  process : Process
  data : ByteArray
  target : List PyStr
  stage : PutStage

/-- The temporary file for a bundle, named by the number of the process. -/
def Put.temporary (put : Put) : List PyStr :=
  withSuffix put.target (PyStr.ofString ".tmp-" ++ decimal put.process.pid)

def Put.bytes (put : Put) : List UInt8 := put.data.data.toList

inductive GetStage where
  | found
  | reading (file : Nat) (bytes : List UInt8)
deriving DecidableEq

/-- A `get` that has not returned. -/
structure Get where
  process : Process
  identifier : PyStr
  target : List PyStr
  stage : GetStage

/-- The disk, and the calls that are under way on it. -/
structure ArtifactState where
  disk : Disk (List PyStr) UInt8
  puts : Nat → Option Put
  gets : Nat → Option Get

def ArtifactState.empty : ArtifactState := ⟨.empty, fun _ => none, fun _ => none⟩

inductive ArtifactEvent where
  | refused (data : ByteArray) (expectedId : Option PyStr) (err : PyStr)
  | called (k : Nat) (process : Process) (data : ByteArray) (expectedId : Option PyStr)
  | absent (k : Nat)
  | opened (k : Nat)
  | wrote (k written : Nat)
  | stored (k : Nat) (receipt : Receipt)
  | failed (k : Nat)
  | rejected (identifier err : PyStr)
  | missing (identifier : PyStr)
  | found (g : Nat) (process : Process) (identifier : PyStr)
  | entered (g : Nat)
  | read (g : Nat)
  | got (identifier : PyStr) (outcome : Except PyStr ByteArray)
  | crashed (process : Process)

section
variable (sha256 : ByteArray → String) (store : ArtifactStore)

/-- One system call of one of the processes, or the end of a process. Files are written and read
in chunks of any size. -/
inductive ArtifactStep : ArtifactState → ArtifactEvent → ArtifactState → Prop
  | refuse {s data expectedId err} : store.accept sha256 data expectedId = .error err →
      ArtifactStep s (.refused data expectedId err) s
  | call {s k process data expectedId target} : store.accept sha256 data expectedId = .ok target →
      s.puts k = none →
      ArtifactStep s (.called k process data expectedId)
        { s with puts := Function.update s.puts k (some ⟨process, data, target, .admitted⟩) }
  | present {s k put} : s.puts k = some put → put.stage = .admitted →
      (s.disk.name put.target).isSome →
      ArtifactStep s (.stored k (.of sha256 put.data))
        { s with puts := Function.update s.puts k none }
  | absent {s k put} : s.puts k = some put → put.stage = .admitted →
      s.disk.name put.target = none →
      ArtifactStep s (.absent k)
        { s with puts := Function.update s.puts k (some { put with stage := .absent }) }
  | openTemporary {s k put} : s.puts k = some put → put.stage = .absent →
      ArtifactStep s (.opened k)
        { s with
          disk := (s.disk.create put.temporary).2
          puts := Function.update s.puts k
            (some { put with stage := .writing (s.disk.create put.temporary).1 0 }) }
  | writeBytes {s k put file written n} : s.puts k = some put →
      put.stage = .writing file written → written < n → n ≤ put.bytes.length →
      ArtifactStep s (.wrote k n)
        { s with
          disk := s.disk.write 0 file written ((put.bytes.take n).drop written)
          puts := Function.update s.puts k (some { put with stage := .writing file n }) }
  | replace {s k put file disk} : s.puts k = some put →
      put.stage = .writing file put.bytes.length →
      s.disk.replace? put.temporary put.target = some disk →
      ArtifactStep s (.stored k (.of sha256 put.data))
        { s with disk := disk, puts := Function.update s.puts k none }
  | fail {s k put} : s.puts k = some put →
      ArtifactStep s (.failed k) { s with puts := Function.update s.puts k none }
  | reject {s identifier err} : ArtifactStore.path identifier = .error err →
      ArtifactStep s (.rejected identifier err) s
  | miss {s identifier target} : ArtifactStore.path identifier = .ok target →
      s.disk.name target = none → ArtifactStep s (.missing identifier) s
  | find {s g process identifier target} : ArtifactStore.path identifier = .ok target →
      (s.disk.name target).isSome → s.gets g = none →
      ArtifactStep s (.found g process identifier)
        { s with gets := Function.update s.gets g (some ⟨process, identifier, target, .found⟩) }
  | enter {s g get file} : s.gets g = some get → get.stage = .found →
      s.disk.name get.target = some file →
      ArtifactStep s (.entered g)
        { s with gets := Function.update s.gets g (some { get with stage := .reading file [] }) }
  | vanish {s g get} : s.gets g = some get → get.stage = .found →
      s.disk.name get.target = none →
      ArtifactStep s (.missing get.identifier) { s with gets := Function.update s.gets g none }
  | readBytes {s g get file bytes n} : s.gets g = some get → get.stage = .reading file bytes →
      bytes.length < n → n ≤ (s.disk.content file).length →
      ArtifactStep s (.read g)
        { s with gets := Function.update s.gets g (some { get with
            stage := .reading file (bytes ++ ((s.disk.content file).take n).drop bytes.length) }) }
  | finish {s g get file bytes} : s.gets g = some get → get.stage = .reading file bytes →
      (s.disk.content file).length ≤ bytes.length →
      ArtifactStep s (.got get.identifier (ArtifactStore.check sha256 get.identifier ⟨⟨bytes⟩⟩))
        { s with gets := Function.update s.gets g none }
  | crash {s process} :
      ArtifactStep s (.crashed process)
        { s with
          puts := fun k => (s.puts k).filter (·.process ≠ process)
          gets := fun g => (s.gets g).filter (·.process ≠ process) }

end

/-- No two calls write one bundle at once under the same process number. -/
def Exclusive (s : ArtifactState) : Prop :=
  ∀ k k' put put' file file' n n', s.puts k = some put → s.puts k' = some put' →
    put.stage = .writing file n → put'.stage = .writing file' n' →
    put.process.pid = put'.process.pid → put.target = put'.target → k = k'

/-- The runs from an empty root in which no two calls write one bundle at once under the same
process number. -/
abbrev ArtifactRun (sha256 : ByteArray → String) (store : ArtifactStore) :
    List ArtifactEvent → ArtifactState → Prop :=
  Run (· = .empty) fun s e s' => ArtifactStep sha256 store s e s' ∧ Exclusive s'

end BrunostJudge
