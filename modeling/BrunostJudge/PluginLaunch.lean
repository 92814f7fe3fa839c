import BrunostJudge.Participation

namespace BrunostJudge
open Python Relational Transition JudgeStore
set_option autoImplicit true

/-- A word of a command line. -/
abbrev Word := { word : PyStr // word ≠ [] }

structure Argv where
  words : List Word
  nonempty : words ≠ []

def argvError : PyError := .valueError ("command must contain non-empty argv strings" : String)

def word : Json → Except PyError Word
  | .str word => if h : word ≠ [] then pure ⟨word, h⟩ else throw argvError
  | _ => throw argvError

/-- The check on a command in `AgentSpec.__post_init__`. -/
def Argv.ofItems (items : List Json) : Except PyError Argv := do
  let words ← items.mapM word
  if nonempty : words ≠ [] then pure ⟨words, nonempty⟩ else throw argvError

/-- One seat's immutable artifact and optional argv override. -/
structure AgentSpec where
  agentId : PyStr
  seat : Int
  artifactPath : PyStr
  command : Option Argv
  seed : Int
  metadata : Dict
  named : agentId ≠ []
  seated : 0 ≤ seat
  located : artifactPath ≠ []

def AgentSpec.new (agentId : PyStr) (seat : Int) (artifactPath : PyStr)
    (command : Option (List Json)) (seed : Int) (metadata : Dict) : Except PyError AgentSpec :=
  if named : agentId = [] then throw (.valueError ("agent_id is required" : String))
  else if seated : seat < 0 then throw (.valueError ("seat must be non-negative" : String))
  else if located : artifactPath = [] then
    throw (.valueError ("artifact_path is required" : String))
  else do
    let command ← command.elim (pure none) fun items => (Argv.ofItems items).map some
    pure ⟨agentId, seat, artifactPath, command, seed, metadata, named, Int.not_lt.1 seated, located⟩

/-- The specs of the agents at a match, by their seats. -/
structure AgentRuntime where
  specs : List AgentSpec
  seed : Int
  occupied : specs ≠ []
  ordered : specs.Pairwise fun a b => a.seat < b.seat

theorem seats_ordered {specs : List AgentSpec} (h : (specs.map AgentSpec.seat).Nodup) :
    (specs.insertionSort fun a b => a.seat ≤ b.seat).Pairwise fun a b => a.seat < b.seat := by
  have : Std.Total fun a b : AgentSpec => a.seat ≤ b.seat := ⟨fun a b => le_total a.seat b.seat⟩
  have : IsTrans AgentSpec fun a b => a.seat ≤ b.seat := ⟨fun _ _ _ => le_trans⟩
  have hsorted := List.pairwise_insertionSort (fun a b : AgentSpec => a.seat ≤ b.seat) specs
  have hperm := List.perm_insertionSort (fun a b : AgentSpec => a.seat ≤ b.seat) specs
  have hdistinct := (hperm.map AgentSpec.seat).nodup_iff.2 h
  rw [List.Nodup, List.pairwise_map] at hdistinct
  exact (hsorted.and hdistinct).imp fun h => lt_of_le_of_ne h.1 h.2

/-- `AgentRuntime.__init__`. -/
def AgentRuntime.new (specs : List AgentSpec) (seed : Int) : Except PyError AgentRuntime :=
  if occupied : specs = [] then
    throw (.valueError ("at least one agent seat is required" : String))
  else if distinct : (specs.map AgentSpec.seat).Nodup then
    pure ⟨specs.insertionSort fun a b => a.seat ≤ b.seat, seed,
      fun h => occupied (List.perm_nil.1 (h ▸ (List.perm_insertionSort _ specs).symm)),
      seats_ordered distinct⟩
  else throw (.valueError ("agent seats must be unique" : String))

/-- What `isinstance(value, int)` lets through. -/
def int? : Json → Option Int
  | .num (.int i) => some i
  | .bool b => some (if b then 1 else 0)
  | _ => none

/-- `value if isinstance(value, dict) else {}`. -/
def object : Json → Dict
  | .obj fields => fields
  | _ => []

/-- How Python prints a value, and how `shlex` splits a command line. -/
structure PluginPython where
  repr : Json → PyStr
  split : PyStr → Except PyError (List PyStr)

/-- The file system of an evaluation: what comes of unpacking an artifact into the bundle, where a
path below the bundle ends, and the paths of the sandbox. -/
structure PluginFiles where
  materialize : PyStr → Except PyStr Bool
  resolve : PyStr → PyStr
  taskPath : PyStr
  submissionPath : PyStr
  outputPath : PyStr

def PluginFiles.access (files : PluginFiles) (python : PluginPython) : ArtifactAccess :=
  ⟨python.repr, files.materialize⟩

def PluginFiles.resolvedParticipants (files : PluginFiles) (participants : Dict) : Dict :=
  participants.filterMap fun f => match f.2 with
    | .str relative => some (f.1, .str (files.resolve relative))
    | _ => none

/-- A seat of the manifest with the path it has in the sandbox. -/
def PluginFiles.resolvedSeat (files : PluginFiles) : Json → Option Dict
  | .obj seat => match Dict.get seat "path" with
    | .str path => some (Dict.set seat "path" (.str (files.resolve path)))
    | _ => none
  | _ => none

/-- Where the agent that is staged at an index goes. -/
def participantPath (index : Nat) : String := "participants/agent-" ++ toString index

/-- The paths of the participants. The last of several agents of one name stays. -/
def participantPaths (staged : List Participant) : Dict :=
  staged.zipIdx.foldl (fun paths p => paths.set p.1.agentId (.text (participantPath p.2))) []

structure RunnerContext where
  executionId : PyStr
  taskRef : PyStr
  evaluationKind : String
  taskPath : PyStr
  submissionPath : PyStr
  participants : Dict
  seats : List Dict
  seed : Json
  outputPath : PyStr
  metadata : Dict

def RunnerContext.asDict (context : RunnerContext) : Dict :=
  [("protocol_version", .num (.int 1)),
    ("execution_id", .str context.executionId),
    ("task_ref", .str context.taskRef),
    ("evaluation_kind", .text context.evaluationKind),
    ("task_path", .str context.taskPath),
    ("submission_path", .str context.submissionPath),
    ("participants", .obj context.participants),
    ("seats", .arr (context.seats.map Json.obj)),
    ("seed", context.seed),
    ("output_path", .str context.outputPath),
    ("metadata", .obj context.metadata)]

namespace PluginPython
variable (python : PluginPython)

/-- `str(value)`. -/
def str : Json → PyStr
  | .str s => s
  | value => python.repr value

/-- The manifest that `_stage_plugin_submission` writes beside the participants. -/
def pluginManifest (executionId taskRef taskKind : String) (metadata : Dict)
    (staged : List Participant) : Dict :=
  [("version", .num (.int 1)),
    ("execution_id", .text executionId),
    ("task_ref", .text taskRef),
    ("task_kind", .text taskKind),
    ("evaluation_kind", .str (python.str ((metadata.get "evaluation_kind").or
      (.text (if taskKind = "game" then "match" else "agent"))))),
    ("participants", .obj (participantPaths staged)),
    ("seats", .arr (staged.map fun p => .obj p.seat)),
    ("seed", metadata.get "seed"),
    ("metadata", .obj (metadata.filter fun f => f.1 ≠ PyStr.ofString "agent_definitions"))]

/-- The context that `_run_plugin` makes of the manifest. -/
def runPlugin (files : PluginFiles) (manifest : Dict) : Except PyError RunnerContext := do
  let items ← (manifest.getD "seats" (.arr [])).iter
  pure {
    executionId := python.str ((manifest.get "execution_id").or (.text "local-plugin-execution"))
    taskRef := python.str ((manifest.get "task_ref").or (.text "local-plugin-task"))
    evaluationKind := if manifest.get "evaluation_kind" = .text "match" then "match" else "agent"
    taskPath := files.taskPath
    submissionPath := files.submissionPath
    participants := files.resolvedParticipants (object (manifest.getD "participants" (.obj [])))
    seats := items.filterMap files.resolvedSeat
    seed := if (int? (manifest.get "seed")).isSome then manifest.get "seed" else .null
    outputPath := files.outputPath
    metadata := object (manifest.get "metadata") }

/-- The argument vector in a seat's command, before it is checked. -/
def seatCommand : Json → Except PyError (Option (List Json))
  | .str command => (python.split command).map fun words => some (words.map Json.str)
  | .arr items => pure (some items)
  | _ => pure none

/-- One round of the loop over the seats of a context. -/
def seatSpec (participants : Dict) (seed : Int) : Json → Except PyError AgentSpec
  | .obj item =>
    match Dict.get item "agent_id", int? (Dict.get item "seat") with
    | .str agentId, some seat =>
      match participants.get agentId with
      | .str path => do
        let metadata := object (Dict.get item "metadata")
        let command ← python.seatCommand
          (Dict.getD item "command" (Dict.get metadata "command"))
        AgentSpec.new agentId seat path command seed metadata
      | _ => throw .typeError
    | _, _ => throw .typeError
  | _ => throw .typeError

/-- `AgentRuntime.from_context`. -/
def fromContext (context : Dict) : Except PyError AgentRuntime :=
  match context.get "participants", context.get "seats" with
  | .obj participants, .arr seats => do
    let seed := (int? (context.get "seed")).getD 0
    let specs ← seats.mapM (python.seatSpec participants seed)
    AgentRuntime.new specs seed
  | _, _ => throw .typeError

/-- From the manifest to the specs of the agents. The text of the manifest has its keys in order. -/
def launch (files : PluginFiles) (manifest : Dict) : Except PyError AgentRuntime := do
  let context ← python.runPlugin files manifest.sortKeys
  python.fromContext context.asDict

end PluginPython

theorem word_ok {item : Json} {w : Word} (h : word item = .ok w) : .str w.val = item := by
  cases item with
  | str text =>
    rw [word] at h
    split at h
    · cases pure_ok.1 h
      rfl
    · exact (throw_ok.1 h).elim
  | null => exact (throw_ok.1 h).elim
  | bool => exact (throw_ok.1 h).elim
  | num => exact (throw_ok.1 h).elim
  | arr => exact (throw_ok.1 h).elim
  | obj => exact (throw_ok.1 h).elim

theorem argv_words {items : List Json} (h : Argv.ofItems items = .ok argv) :
    argv.words.map (fun w => .str w.val) = items := by
  obtain ⟨words, hwords, h⟩ := bind_ok.1 h
  have hitems := mapM_map (g := fun item => item) (fun _ _ => word_ok) hwords
  split at h
  · cases pure_ok.1 h
    rw [hitems, List.map_id']
  · exact (throw_ok.1 h).elim

section
variable {python : PluginPython} {files : PluginFiles} {agents : List Dict}

/-- The command that a seat names beside its metadata. -/
def namedCommand : Json → Option Json
  | .str command => some (.str command)
  | .arr command => some (.arr command)
  | _ => none

theorem seatEntry_lookup (index : Nat) (agentId : PyStr) (metadata : Json) :
    let seat := ArtifactAccess.seatEntry index agentId metadata
    seat.lookup? "agent_id" = some (.str agentId) ∧
    seat.lookup? "seat" = some (.num (.int index)) ∧
    seat.lookup? "path" = some (.text (participantPath index)) ∧
    object (seat.get "metadata") = object metadata ∧
    seat.lookup? "command" = namedCommand (Dict.get (object metadata) "command") := by
  cases metadata with
  | obj fields =>
    simp only [ArtifactAccess.seatEntry, object]
    split
    · next hcommand =>
      simp only [Dict.lookup?_set_text, Dict.lookup?_set_self, Dict.lookup?_cons_self, hcommand,
        Dict.lookup?_cons_text, Dict.get_eq _ "metadata", ne_eq, String.reduceEq, not_false_eq_true]
      exact ⟨trivial, trivial, rfl, rfl, rfl⟩
    · next hcommand =>
      simp only [Dict.lookup?_set_text, Dict.lookup?_set_self, Dict.lookup?_cons_self, hcommand,
        Dict.lookup?_cons_text, Dict.get_eq _ "metadata", ne_eq, String.reduceEq, not_false_eq_true]
      exact ⟨trivial, trivial, rfl, rfl, rfl⟩
    · next hstr harr =>
      simp only [Dict.lookup?_set_text, Dict.lookup?_set_self, Dict.lookup?_cons_self,
        Dict.lookup?_cons_text, Dict.get_eq _ "metadata", ne_eq, String.reduceEq, not_false_eq_true]
      refine ⟨trivial, trivial, rfl, rfl, ?_⟩
      cases hcommand : Dict.get fields "command" with
      | str command => exact (hstr command hcommand).elim
      | arr command => exact (harr command hcommand).elim
      | null => rfl
      | bool => rfl
      | num => rfl
      | obj => rfl
  | null => exact ⟨rfl, rfl, rfl, rfl, rfl⟩
  | bool => exact ⟨rfl, rfl, rfl, rfl, rfl⟩
  | num => exact ⟨rfl, rfl, rfl, rfl, rfl⟩
  | str => exact ⟨rfl, rfl, rfl, rfl, rfl⟩
  | arr => exact ⟨rfl, rfl, rfl, rfl, rfl⟩

theorem object_sortKeys (value : Json) : object value.sortKeys = Dict.sortKeys (object value) := by
  cases value with
  | obj fields => rw [Json.sortKeys_obj, object, object]
  | null => rfl
  | bool => rfl
  | num => rfl
  | str => rfl
  | arr => rfl

theorem seatCommand_named (python : PluginPython) (value : Json) :
    python.seatCommand (((namedCommand value).map Json.sortKeys).getD value.sortKeys) =
      python.seatCommand value.sortKeys := by
  cases value with
  | str => rfl
  | arr => rfl
  | null => rfl
  | bool => rfl
  | num => rfl
  | obj => rfl

/-- The entry of a seat with the path it has in the sandbox. -/
def sandboxSeat (files : PluginFiles) (index : Nat) (agentId : PyStr) (metadata : Json) : Dict :=
  Dict.set (Dict.sortKeys (ArtifactAccess.seatEntry index agentId metadata)) "path"
    (.str (files.resolve (participantPath index)))

theorem resolvedSeat_entry (index : Nat) (agentId : PyStr) (metadata : Json) :
    files.resolvedSeat (.obj (Dict.sortKeys (ArtifactAccess.seatEntry index agentId metadata))) =
      some (sandboxSeat files index agentId metadata) := by
  obtain ⟨_, _, hpath, _⟩ := seatEntry_lookup index agentId metadata
  have hget : Dict.get (Dict.sortKeys (ArtifactAccess.seatEntry index agentId metadata)) "path" =
      .text (participantPath index) := by
    rw [Dict.get_sortKeys, Dict.get_eq, hpath]
    rfl
  rw [PluginFiles.resolvedSeat, hget]
  rfl

theorem seatSpec_sandbox (paths : Dict) (seed : Int) (index : Nat) (agentId : PyStr)
    {metadata : Json} (hsorted : metadata.sortKeys = metadata) {path : PyStr}
    (hpath : paths.get agentId = .str path) :
    python.seatSpec paths seed (.obj (sandboxSeat files index agentId metadata)) =
      (python.seatCommand (Dict.get (object metadata) "command")).bind fun command =>
        AgentSpec.new agentId index path command seed (object metadata) := by
  obtain ⟨hid, hseat, _, hmetadata, hcommand⟩ := seatEntry_lookup index agentId metadata
  have hlookup {key : String} (hkey : "path" ≠ key) :
      (sandboxSeat files index agentId metadata).lookup? key =
        ((ArtifactAccess.seatEntry index agentId metadata).lookup? key).map Json.sortKeys := by
    rw [sandboxSeat, Dict.lookup?_set_text _ _ hkey, Dict.lookup?_sortKeys]
  have hobject : Dict.sortKeys (object metadata) = object metadata := by
    rw [← object_sortKeys, hsorted]
  have hget : object (Dict.get (sandboxSeat files index agentId metadata) "metadata") =
      object metadata := by
    rw [Dict.get_eq, hlookup (by decide), ← hobject, ← hmetadata, ← object_sortKeys, Dict.get_eq]
    cases (ArtifactAccess.seatEntry index agentId metadata).lookup? "metadata" with
    | none => rfl
    | some value => rfl
  have hnamed : python.seatCommand ((sandboxSeat files index agentId metadata).getD "command"
      (Dict.get (object metadata) "command")) =
        python.seatCommand (Dict.get (object metadata) "command") := by
    have hget : Dict.get (object metadata) "command" =
        (Dict.get (object metadata) "command").sortKeys := by
      rw [← Dict.get_sortKeys, hobject]
    calc python.seatCommand ((sandboxSeat files index agentId metadata).getD "command"
          (Dict.get (object metadata) "command"))
        = python.seatCommand (((namedCommand (Dict.get (object metadata) "command")).map
            Json.sortKeys).getD (Dict.get (object metadata) "command")) := by
          rw [← hcommand, ← hlookup (by decide)]
          rfl
      _ = python.seatCommand (Dict.get (object metadata) "command") := by
          have h := seatCommand_named python (Dict.get (object metadata) "command")
          rwa [← hget] at h
  rw [PluginPython.seatSpec, Dict.get_eq _ "agent_id", Dict.get_eq _ "seat", hlookup (by decide),
    hlookup (by decide), hid, hseat]
  simp only [Option.map_some, Option.getD_some, Json.sortKeys, int?, hpath, hget, hnamed]
  rfl

/-- The name that a bundle gives to an agent. -/
def PluginPython.agentName (python : PluginPython) (agent : Dict) : PyStr :=
  python.str ((Dict.get agent "agent_id").or (.text ""))

def PluginPython.agentArtifact (python : PluginPython) (agent : Dict) : PyStr :=
  python.str (Dict.get agent "artifact_path")

/-- What staging requires of the definition of an agent. -/
structure Stageable (python : PluginPython) (agent : Dict) : Prop where
  named : python.agentName agent ≠ []
  packed : (Dict.get agent "artifact_path").truthy

/-- The agent that is staged at an index by its definition. -/
def PluginPython.participant (python : PluginPython) (agent : Dict × Nat) : Participant :=
  ⟨python.agentName agent.1, python.agentArtifact agent.1,
    ArtifactAccess.seatEntry agent.2 (python.agentName agent.1) (Dict.get agent.1 "metadata")⟩

theorem access_str (value : Json) : (files.access python).str value = python.str value := by
  cases value <;> rfl

theorem stageParticipant_iff (index : Nat) (agent : Dict) :
    (files.access python).stageParticipant index (.obj agent) = .ok p ↔
      Stageable python agent ∧ files.materialize (python.agentArtifact agent) = .ok true ∧
        p = python.participant (agent, index) := by
  simp only [ArtifactAccess.stageParticipant, access_str]
  rw [guard_ok, bind_ok]
  constructor
  · rintro ⟨hguard, directory, hdirectory, h⟩
    obtain ⟨htrue, h⟩ := guard_ok.1 h
    obtain ⟨hnamed, hpacked⟩ := not_or.1 hguard
    have hpacked : (Dict.get agent "artifact_path").truthy = true := by simpa using hpacked
    have htrue : directory = true := by simpa using htrue
    rw [htrue] at hdirectory
    exact ⟨⟨hnamed, hpacked⟩, hdirectory, (pure_ok.1 h).symm⟩
  · rintro ⟨⟨hnamed, hpacked⟩, hdirectory, heq⟩
    refine ⟨?_, true, hdirectory, guard_ok.2 ⟨by decide, pure_ok.2 heq.symm⟩⟩
    rintro (hnone | hfalse)
    · exact hnamed hnone
    · rw [hpacked] at hfalse
      cases hfalse

theorem stageParticipants_iff (index : Nat) (definitions : List Json) :
    (files.access python).stageParticipants index definitions = .ok staged ↔
      ∃ agents : List Dict, definitions = agents.map Json.obj ∧
        (∀ agent ∈ agents, Stageable python agent ∧
          files.materialize (python.agentArtifact agent) = .ok true) ∧
        staged = (agents.zipIdx index).map python.participant := by
  induction definitions generalizing index staged with
  | nil =>
    constructor
    · intro h
      cases h
      exact ⟨[], rfl, fun _ h => absurd h List.not_mem_nil, rfl⟩
    · rintro ⟨agents, hagents, _, heq⟩
      cases List.map_eq_nil_iff.1 hagents.symm
      rw [heq]
      rfl
  | cons definition definitions ih =>
    constructor
    · intro h
      obtain ⟨participant, hparticipant, h⟩ := bind_ok.1 h
      obtain ⟨participants, hparticipants, h⟩ := bind_ok.1 h
      cases pure_ok.1 h
      obtain ⟨agents, hagents, hall, hrest⟩ := (ih (index + 1)).1 hparticipants
      cases definition with
      | obj agent =>
        obtain ⟨hstageable, hdirectory, hfirst⟩ := (stageParticipant_iff index agent).1 hparticipant
        refine ⟨agent :: agents, by rw [hagents, List.map_cons], ?_, ?_⟩
        · exact List.forall_mem_cons.2 ⟨⟨hstageable, hdirectory⟩, hall⟩
        · rw [hfirst, hrest, List.zipIdx_cons, List.map_cons]
      | null => exact (throw_ok.1 hparticipant).elim
      | bool => exact (throw_ok.1 hparticipant).elim
      | num => exact (throw_ok.1 hparticipant).elim
      | str => exact (throw_ok.1 hparticipant).elim
      | arr => exact (throw_ok.1 hparticipant).elim
    · rintro ⟨agents, hagents, hall, heq⟩
      cases agents with
      | nil => cases hagents
      | cons agent agents =>
        obtain ⟨hdefinition, hdefinitions⟩ := List.cons.inj hagents
        obtain ⟨⟨hstageable, hdirectory⟩, hrest⟩ := List.forall_mem_cons.1 hall
        rw [hdefinition, heq, List.zipIdx_cons, List.map_cons]
        apply bind_ok.2
        refine ⟨_, (stageParticipant_iff index agent).2 ⟨hstageable, hdirectory, rfl⟩, ?_⟩
        exact bind_ok.2 ⟨_, (ih (index + 1)).2 ⟨agents, hdefinitions, hrest, rfl⟩, rfl⟩

theorem participantPaths_lookup (staged : List Participant) (agentId : PyStr)
    (h : ∃ p ∈ staged, p.agentId = agentId) :
    ∃ index p, staged[index]? = some p ∧ p.agentId = agentId ∧
      (participantPaths staged).lookup? agentId = some (.text (participantPath index)) := by
  induction staged using List.reverseRecOn with
  | nil =>
    obtain ⟨p, hp, _⟩ := h
    exact absurd hp List.not_mem_nil
  | append_singleton staged last ih =>
    have hpaths : participantPaths (staged ++ [last]) =
        (participantPaths staged).set last.agentId (.text (participantPath staged.length)) := by
      rw [participantPaths, List.zipIdx_append, List.foldl_append, participantPaths]
      simp
    rw [hpaths, Dict.lookup?_set]
    by_cases hlast : last.agentId = agentId
    · refine ⟨staged.length, last, ?_, hlast, if_pos hlast⟩
      simp
    · obtain ⟨p, hp, hid⟩ := h
      obtain hp | hp := List.mem_append.1 hp
      · obtain ⟨index, q, hq, hqid, hpath⟩ := ih ⟨p, hp, hid⟩
        refine ⟨index, q, ?_, hqid, ?_⟩
        · rw [List.getElem?_append_left (List.getElem?_eq_some_iff.1 hq).1, hq]
        · rw [if_neg hlast, hpath]
      · rw [List.mem_singleton.1 hp] at hid
        exact absurd hid hlast

theorem resolvedParticipants_lookup {paths : Dict} (h : paths.lookup? key = some (.str relative)) :
    (files.resolvedParticipants paths).lookup? key = some (.str (files.resolve relative)) := by
  induction paths with
  | nil => cases h
  | cons f paths ih =>
    obtain ⟨k, value⟩ := f
    by_cases hk : k = key
    · subst hk
      rw [Dict.lookup?_cons_self] at h
      cases Option.some.inj h
      exact Dict.lookup?_cons_self _ _ _
    · have hrest := ih (by rwa [Dict.lookup?_cons_ne _ _ hk] at h)
      cases value with
      | str relative => exact (Dict.lookup?_cons_ne _ _ hk).trans hrest
      | null => exact hrest
      | bool => exact hrest
      | num => exact hrest
      | arr => exact hrest
      | obj => exact hrest

/-- The seats of the agents in the sandbox. -/
def sandboxSeats (python : PluginPython) (files : PluginFiles) (agents : List Dict) : List Json :=
  agents.zipIdx.map fun agent => .obj
    (sandboxSeat files agent.2 (python.agentName agent.1) (Dict.get agent.1 "metadata"))

/-- The paths of the agents in the sandbox, by their names. -/
def sandboxPaths (python : PluginPython) (files : PluginFiles) (agents : List Dict) : Dict :=
  files.resolvedParticipants
    (Dict.sortKeys (participantPaths (agents.zipIdx.map python.participant)))

theorem fromContext_asDict (context : RunnerContext) :
    python.fromContext context.asDict = (do
      let seed := (int? context.seed).getD 0
      let specs ← (context.seats.map Json.obj).mapM (python.seatSpec context.participants seed)
      AgentRuntime.new specs seed) := by
  have hparticipants : context.asDict.lookup? "participants" =
      some (.obj context.participants) := by
    simp only [RunnerContext.asDict, Dict.lookup?_cons_text, Dict.lookup?_cons_self, ne_eq,
      String.reduceEq, not_false_eq_true]
  have hseats : context.asDict.lookup? "seats" = some (.arr (context.seats.map Json.obj)) := by
    simp only [RunnerContext.asDict, Dict.lookup?_cons_text, Dict.lookup?_cons_self, ne_eq,
      String.reduceEq, not_false_eq_true]
  have hseed : context.asDict.lookup? "seed" = some context.seed := by
    simp only [RunnerContext.asDict, Dict.lookup?_cons_text, Dict.lookup?_cons_self, ne_eq,
      String.reduceEq, not_false_eq_true]
  rw [PluginPython.fromContext, Dict.get_eq, Dict.get_eq, hparticipants, hseats]
  simp only [Option.getD_some, Dict.get_eq, hseed]

theorem int?_sortKeys (value : Json) : int? value.sortKeys = int? value := by
  cases value <;> rfl

theorem runPlugin_staged (executionId taskRef taskKind : String) (metadata : Dict)
    (agents : List Dict) :
    ∃ context, python.runPlugin files (Dict.sortKeys (python.pluginManifest executionId taskRef
        taskKind metadata (agents.zipIdx.map python.participant))) = .ok context ∧
      context.participants = sandboxPaths python files agents ∧
      context.seats.map Json.obj = sandboxSeats python files agents ∧
      int? context.seed = int? (metadata.get "seed") := by
  have hfields (manifest : Dict) (hmanifest : manifest = python.pluginManifest executionId taskRef
      taskKind metadata (agents.zipIdx.map python.participant)) :
      manifest.lookup? "participants" =
        some (.obj (participantPaths (agents.zipIdx.map python.participant))) ∧
      manifest.lookup? "seats" =
        some (.arr ((agents.zipIdx.map python.participant).map fun p => .obj p.seat)) ∧
      manifest.lookup? "seed" = some (metadata.get "seed") := by
    simp only [hmanifest, PluginPython.pluginManifest, Dict.lookup?_cons_text,
      Dict.lookup?_cons_self, ne_eq, String.reduceEq, not_false_eq_true, and_self]
  generalize hmanifest : python.pluginManifest executionId taskRef taskKind metadata
    (agents.zipIdx.map python.participant) = manifest
  obtain ⟨hparticipants, hseats, hseed⟩ := hfields manifest hmanifest.symm
  have hitems : Json.iter (Dict.getD manifest.sortKeys "seats" (.arr [])) =
      .ok ((agents.zipIdx.map python.participant).map fun p => .obj (Dict.sortKeys p.seat)) := by
    have hget : Dict.getD manifest.sortKeys "seats" (.arr []) =
        ((manifest.sortKeys).lookup? "seats").getD (.arr []) := rfl
    rw [hget, Dict.lookup?_sortKeys, hseats, Option.map_some, Option.getD_some, Json.sortKeys,
      Json.sortKeysItems_eq, List.map_map]
    simp only [Function.comp_def, Json.sortKeys_obj, Json.iter]
  refine ⟨_, bind_ok.2 ⟨_, hitems, rfl⟩, ?_, ?_, ?_⟩
  · have hget : Dict.getD manifest.sortKeys "participants" (.obj []) =
        ((manifest.sortKeys).lookup? "participants").getD (.obj []) := rfl
    dsimp only
    rw [hget, Dict.lookup?_sortKeys, hparticipants, Option.map_some, Option.getD_some,
      Json.sortKeys_obj]
    rfl
  · have hseat (agent : Dict × Nat) : files.resolvedSeat
        (.obj (Dict.sortKeys (python.participant agent).seat)) = some (sandboxSeat files agent.2
          (python.agentName agent.1) (Dict.get agent.1 "metadata")) :=
      resolvedSeat_entry agent.2 _ _
    dsimp only
    rw [List.map_map, List.filterMap_map]
    simp only [Function.comp_def, hseat]
    rw [List.filterMap_eq_map', List.map_map, sandboxSeats]
    rfl
  · dsimp only
    have hint : int? (Dict.get manifest.sortKeys "seed") = int? (metadata.get "seed") := by
      rw [Dict.get_eq, Dict.lookup?_sortKeys, hseed]
      exact int?_sortKeys _
    split
    · exact hint
    · next hnone =>
      rw [hint, Option.not_isSome_iff_eq_none] at hnone
      rw [hnone]
      rfl

theorem launch_staged (executionId taskRef taskKind : String) (metadata : Dict)
    (agents : List Dict) :
    python.launch files (python.pluginManifest executionId taskRef taskKind metadata
        (agents.zipIdx.map python.participant)) = (do
      let seed := (int? (metadata.get "seed")).getD 0
      let specs ← (sandboxSeats python files agents).mapM
        (python.seatSpec (sandboxPaths python files agents) seed)
      AgentRuntime.new specs seed) := by
  obtain ⟨context, hcontext, hparticipants, hseats, hseed⟩ :=
    runPlugin_staged executionId taskRef taskKind metadata agents
  rw [PluginPython.launch, hcontext]
  exact (fromContext_asDict context).trans (by rw [hparticipants, hseats, hseed])

theorem sandboxPaths_get (python : PluginPython) (files : PluginFiles) {agent : Dict}
    (hagent : agent ∈ agents) :
    ∃ index source, agents[index]? = some source ∧
      python.agentName source = python.agentName agent ∧
      (sandboxPaths python files agents).get (python.agentName agent) =
        .str (files.resolve (participantPath index)) := by
  obtain ⟨i, hi⟩ := List.mem_iff_getElem?.1 hagent
  have hstaged : (agents.zipIdx.map python.participant)[i]? =
      some (python.participant (agent, i)) := by
    simp [List.getElem?_map, hi]
  obtain ⟨index, p, hp, hname, hlookup⟩ := participantPaths_lookup
    (agents.zipIdx.map python.participant) (python.agentName agent)
    ⟨_, List.mem_of_getElem? hstaged, rfl⟩
  rw [List.getElem?_map, List.getElem?_zipIdx, Option.map_eq_some_iff] at hp
  obtain ⟨q, hq, hp⟩ := hp
  obtain ⟨source, hsource, hq⟩ := Option.map_eq_some_iff.1 hq
  subst hq hp
  refine ⟨index, source, hsource, hname, ?_⟩
  have hpath : (Dict.sortKeys (participantPaths (agents.zipIdx.map python.participant))).lookup?
      (python.agentName agent) = some (.str (PyStr.ofString (participantPath index))) := by
    rw [Dict.lookup?_sortKeys, hlookup]
    rfl
  rw [Dict.get_eq, sandboxPaths, resolvedParticipants_lookup hpath]
  rfl

def Argv.items (argv : Argv) : List Json := argv.words.map fun w => .str w.val

theorem agentSpec_ok {command : Option (List Json)}
    (h : AgentSpec.new agentId seat path command seed metadata = .ok spec) :
    spec.agentId = agentId ∧ spec.seat = seat ∧ spec.artifactPath = path ∧
      spec.command.map Argv.items = command ∧ spec.seed = seed ∧ spec.metadata = metadata := by
  rw [AgentSpec.new] at h
  split at h
  · exact (throw_ok.1 h).elim
  split at h
  · exact (throw_ok.1 h).elim
  split at h
  · exact (throw_ok.1 h).elim
  obtain ⟨argv, hargv, h⟩ := bind_ok.1 h
  cases pure_ok.1 h
  refine ⟨rfl, rfl, rfl, ?_, rfl, rfl⟩
  cases command with
  | none =>
    cases pure_ok.1 hargv
    rfl
  | some items =>
    obtain ⟨argv, hitems, heq⟩ := map_ok.1 hargv
    cases heq
    exact congrArg some (argv_words hitems)

/-- The spec that the sandbox makes for an agent at its seat. -/
structure Seated (python : PluginPython) (files : PluginFiles) (agents : List Dict) (seed : Int)
    (agent : Dict × Nat) (spec : AgentSpec) : Prop where
  agentId : spec.agentId = python.agentName agent.1
  seat : spec.seat = agent.2
  metadata : spec.metadata = object (Dict.get agent.1 "metadata")
  command : python.seatCommand (Dict.get spec.metadata "command") =
    .ok (spec.command.map Argv.items)
  seed : spec.seed = seed
  artifact : ∃ index source, agents[index]? = some source ∧
    python.agentName source = python.agentName agent.1 ∧
    spec.artifactPath = files.resolve (participantPath index)

theorem seated_of_spec {agent : Dict × Nat} (hagent : agent.1 ∈ agents)
    (hsorted : (Dict.get agent.1 "metadata").sortKeys = Dict.get agent.1 "metadata")
    (h : python.seatSpec (sandboxPaths python files agents) seed (.obj (sandboxSeat files agent.2
      (python.agentName agent.1) (Dict.get agent.1 "metadata"))) = .ok spec) :
    Seated python files agents seed agent spec := by
  obtain ⟨index, source, hsource, hname, hpath⟩ := sandboxPaths_get python files hagent
  rw [seatSpec_sandbox _ _ _ _ hsorted hpath] at h
  obtain ⟨command, hcommand, h⟩ := bind_ok.1 h
  obtain ⟨hid, hseat, hartifact, hargv, hseed, hmetadata⟩ := agentSpec_ok h
  refine ⟨hid, hseat, hmetadata, ?_, hseed, index, source, hsource, hname, hartifact⟩
  rw [hmetadata, hargv]
  exact hcommand

theorem runtime_ok (hordered : specs.Pairwise fun a b : AgentSpec => a.seat < b.seat)
    (h : AgentRuntime.new specs seed = .ok runtime) :
    runtime.specs = specs ∧ runtime.seed = seed := by
  rw [AgentRuntime.new] at h
  split at h
  · exact (throw_ok.1 h).elim
  split at h
  · cases pure_ok.1 h
    exact ⟨(hordered.imp le_of_lt).insertionSort_eq, rfl⟩
  · exact (throw_ok.1 h).elim

theorem seated_ordered {pairs : List (Dict × Nat)} (hpairs : pairs.Pairwise fun a b => a.2 < b.2)
    (h : List.Forall₂ (Seated python files agents seed) pairs specs) :
    specs.Pairwise fun a b => a.seat < b.seat := by
  induction h with
  | nil => exact .nil
  | cons hfirst hrest ih =>
    obtain ⟨hlt, hpairs⟩ := List.pairwise_cons.1 hpairs
    refine List.pairwise_cons.2 ⟨?_, ih hpairs⟩
    intro spec hspec
    obtain ⟨pair, hpair, hseated⟩ := forall₂_mem hrest hspec
    rw [hfirst.seat, hseated.seat]
    exact Int.ofNat_lt.2 (hlt pair hpair)

theorem zipIdx_ordered (agents : List Dict) : agents.zipIdx.Pairwise fun a b => a.2 < b.2 := by
  rw [← List.pairwise_map, List.zipIdx_map_snd]
  exact List.pairwise_lt_range'

theorem seats_of_specs
    (hsorted : ∀ agent ∈ agents, (Dict.get agent "metadata").sortKeys = Dict.get agent "metadata")
    (h : List.Forall₂ (fun agent spec => python.seatSpec (sandboxPaths python files agents) seed
      (.obj (sandboxSeat files agent.2 (python.agentName agent.1)
        (Dict.get agent.1 "metadata"))) = .ok spec) agents.zipIdx specs) :
    List.Forall₂ (Seated python files agents seed) agents.zipIdx specs := by
  apply List.Forall₂.imp ?_ ((List.forall₂_and_left _ _).2 ⟨fun _ hagent => hagent, h⟩)
  rintro agent spec ⟨hagent, hspec⟩
  have hmem := List.fst_mem_of_mem_zipIdx hagent
  exact seated_of_spec hmem (hsorted _ hmem) hspec

theorem launch_ok {executionId taskRef taskKind : String} {metadata : Dict}
    (hsorted : ∀ agent ∈ agents, (Dict.get agent "metadata").sortKeys = Dict.get agent "metadata")
    (h : python.launch files (python.pluginManifest executionId taskRef taskKind metadata
      (agents.zipIdx.map python.participant)) = .ok runtime) :
    List.Forall₂ (Seated python files agents runtime.seed) agents.zipIdx runtime.specs ∧
      runtime.seed = (int? (metadata.get "seed")).getD 0 := by
  rw [launch_staged] at h
  obtain ⟨specs, hspecs, h⟩ := bind_ok.1 h
  have hseats := List.forall₂_map_left_iff.1 (mapM_forall₂ hspecs)
  have hseated := seats_of_specs hsorted hseats
  obtain ⟨heq, hseed⟩ := runtime_ok (seated_ordered (zipIdx_ordered agents) hseated) h
  rw [heq, hseed]
  exact ⟨hseated, rfl⟩

/-- What the runtime requires of the definition of an agent besides. -/
structure LaunchableAgent (python : PluginPython) (agent : Dict) : Prop
    extends Stageable python agent where
  commanded : ∃ command : Option Argv, python.seatCommand
    (Dict.get (object (Dict.get agent "metadata")) "command") = .ok (command.map Argv.items)

theorem word_str (w : Word) : word (.str w.val) = .ok w := by
  rw [word, dif_pos w.property]
  rfl

theorem argv_items (argv : Argv) : Argv.ofItems argv.items = .ok argv := by
  have hwords : argv.items.mapM word = .ok argv.words := by
    rw [Argv.items]
    induction argv.words with
    | nil => rfl
    | cons w words ih =>
      rw [List.map_cons, List.mapM_cons, word_str]
      exact bind_ok.2 ⟨_, rfl, bind_ok.2 ⟨_, ih, rfl⟩⟩
  apply bind_ok.2
  refine ⟨_, hwords, ?_⟩
  rw [dif_pos argv.nonempty]
  rfl

theorem seatSpec_exists {agent : Dict × Nat} (hagent : agent.1 ∈ agents)
    (hlaunchable : LaunchableAgent python agent.1)
    (hsorted : (Dict.get agent.1 "metadata").sortKeys = Dict.get agent.1 "metadata")
    (hresolve : ∀ path, files.resolve path ≠ []) :
    ∃ spec, python.seatSpec (sandboxPaths python files agents) seed (.obj (sandboxSeat files agent.2
      (python.agentName agent.1) (Dict.get agent.1 "metadata"))) = .ok spec := by
  obtain ⟨index, _, _, _, hpath⟩ := sandboxPaths_get python files hagent
  obtain ⟨command, hcommand⟩ := hlaunchable.commanded
  rw [seatSpec_sandbox _ _ _ _ hsorted hpath, hcommand, Except.bind, AgentSpec.new,
    dif_neg hlaunchable.named, dif_neg (Int.not_lt.2 (Int.natCast_nonneg _)), dif_neg (hresolve _)]
  cases command with
  | none => exact ⟨_, rfl⟩
  | some argv =>
    rw [Option.map_some, Option.elim_some, argv_items]
    exact ⟨_, rfl⟩

theorem launch_agents (files : PluginFiles) {executionId taskRef taskKind : String}
    {metadata : Dict} (hagents : agents ≠ [])
    (hlaunchable : ∀ agent ∈ agents, LaunchableAgent python agent)
    (hsorted : ∀ agent ∈ agents, (Dict.get agent "metadata").sortKeys = Dict.get agent "metadata")
    (hresolve : ∀ path, files.resolve path ≠ []) :
    ∃ runtime, python.launch files (python.pluginManifest executionId taskRef taskKind metadata
      (agents.zipIdx.map python.participant)) = .ok runtime := by
  rw [launch_staged]
  have hspecs : ∃ specs, (sandboxSeats python files agents).mapM (python.seatSpec
      (sandboxPaths python files agents) ((int? (metadata.get "seed")).getD 0)) = .ok specs := by
    apply mapM_exists
    intro item hitem
    obtain ⟨agent, hagent, heq⟩ := List.mem_map.1 hitem
    have hmem := List.fst_mem_of_mem_zipIdx hagent
    rw [← heq]
    exact seatSpec_exists hmem (hlaunchable _ hmem) (hsorted _ hmem) hresolve
  obtain ⟨specs, hspecs⟩ := hspecs
  have hseats := List.forall₂_map_left_iff.1 (mapM_forall₂ hspecs)
  have hseated := seats_of_specs hsorted hseats
  have hdistinct : (specs.map AgentSpec.seat).Nodup := by
    rw [List.Nodup, List.pairwise_map]
    exact (seated_ordered (zipIdx_ordered agents) hseated).imp ne_of_lt
  have hnonempty : specs ≠ [] := by
    intro hempty
    rw [hempty, List.forall₂_nil_right_iff, List.zipIdx_eq_nil_iff] at hseats
    exact hagents hseats
  have hnew : ∃ runtime, AgentRuntime.new specs ((int? (metadata.get "seed")).getD 0) =
      .ok runtime := by
    rw [AgentRuntime.new, dif_neg hnonempty, dif_pos hdistinct]
    exact ⟨_, rfl⟩
  obtain ⟨runtime, hruntime⟩ := hnew
  exact ⟨runtime, bind_ok.2 ⟨specs, hspecs, hruntime⟩⟩

end

/-- The body of `register_agent`, its artifact resolved. -/
structure AgentDefinitionModel where
  agentId : String
  name : String
  version : String
  artifactPath : Option String
  protocol : String
  resourceProfile : Dict
  requiredCapabilities : List String
  metadata : Dict
  named : agentId ≠ ""

/-- The definition that `register_agent` registers. -/
def AgentDefinitionModel.definition (agent : AgentDefinitionModel) : Definition where
  definitionType := "agent"
  definitionId := agent.agentId
  payload :=
    [("agent_id", .text agent.agentId),
      ("name", .text agent.name),
      ("version", .text agent.version),
      ("artifact_path", .textOrNull agent.artifactPath),
      ("protocol", .text agent.protocol),
      ("resource_profile", .obj agent.resourceProfile),
      ("required_capabilities", .arr (agent.requiredCapabilities.map Json.text)),
      ("metadata", .obj agent.metadata),
      ("resource_profile_mode", .text "planning_only")]

/-- Agents are registered over the API alone. -/
def AgentsRegistered (store : JudgeStore) : Prop :=
  ∀ definition ∈ store.definitions.rows, definition.definitionType = "agent" →
    ∃ agent : AgentDefinitionModel, definition = agent.definition

/-- The command that the metadata of an agent gives it. -/
def PluginPython.givenCommand (python : PluginPython) (metadata : Dict) : Option (List Json) :=
  match Dict.get metadata "command" with
  | .str command => (python.split command).toOption.map fun words => words.map Json.str
  | .arr items => some items
  | _ => none

/-- The spec of a seat is that of the agent the request names there. -/
structure SeatFaithful (python : PluginPython) (files : PluginFiles) (store : JudgeStore)
    (staged : List Participant) (ref : String × Nat) (spec : AgentSpec) : Prop where
  agentId : spec.agentId = PyStr.ofString ref.1
  seat : spec.seat = ref.2
  registered : ∃ agent metadata, store.getDefinition "agent" ref.1 = some agent ∧
    Dict.get agent "metadata" = .obj metadata ∧ spec.metadata = Dict.sortKeys metadata ∧
    spec.command.map Argv.items = python.givenCommand spec.metadata ∧
    -- the directory that was copied to the path of the spec
    ∃ index participant, staged[index]? = some participant ∧
      spec.artifactPath = files.resolve (participantPath index) ∧
      participant.artifactPath = python.str (Dict.get agent "artifact_path")

/-- Whenever a bundle is staged and launched, it seats the agents that the request names. -/
def SeatsFaithful (python : PluginPython) (store : JudgeStore) (payload : SubmitPayload)
    (executionId taskKind : String) (metadata : Dict) : Prop :=
  ∀ (files : PluginFiles) staged runtime,
    (files.access python).stagePluginSubmission taskKind metadata = .ok staged →
    python.launch files
      (python.pluginManifest executionId payload.taskRef taskKind metadata staged) = .ok runtime →
    List.Forall₂ (SeatFaithful python files store staged) payload.agentRefs.zipIdx runtime.specs ∧
      ∀ seed, payload.seed = some seed →
        runtime.seed = seed ∧ ∀ spec ∈ runtime.specs, spec.seed = seed

/-- The metadata holds agents that a worker stages and a sandbox launches. -/
def BringsAgents (python : PluginPython) (metadata : Dict) : Prop :=
  ∃ agents : List Dict, agents ≠ [] ∧
    (Dict.get metadata "agent_definitions").sortKeys = .arr (agents.map Json.obj) ∧
    ∀ agent ∈ agents, LaunchableAgent python agent

section
variable {d : Deployment} {sha256 : ByteArray → String} {server server₁ later : Server}
  {payload : SubmitPayload} {r : Execution} {h : List ServerEvent} {now : Instant}
  {task : TaskRecord} {store : JudgeStore} {python : PluginPython} {files : PluginFiles}

theorem registered_agent (python : PluginPython) (hstore : AgentsRegistered store)
    (h : store.getDefinition "agent" ref = some agent) :
    python.agentName (Dict.sortKeys agent) = PyStr.ofString ref ∧
      (∃ metadata, Dict.get agent "metadata" = .obj metadata) ∧
      ∃ path, Dict.get agent "artifact_path" = .textOrNull path := by
  obtain ⟨row, hrow, hagent⟩ := Option.map_eq_some_iff.1 h
  obtain ⟨hmem, hkey⟩ := Table.find?_eq_some.1 hrow
  obtain ⟨htype, href⟩ := Prod.mk.inj hkey
  obtain ⟨model, hmodel⟩ := hstore row hmem htype
  subst hmodel hagent href
  have hid : Dict.get (definitionDict model.definition) "agent_id" = .text model.agentId := by
    simp only [definitionDict, AgentDefinitionModel.definition, Dict.update, List.foldl_cons,
      List.foldl_nil, Dict.get_set_text, Dict.get_set_self, ne_eq, String.reduceEq,
      not_false_eq_true]
  have hmetadata : Dict.get (definitionDict model.definition) "metadata" = .obj model.metadata := by
    simp only [definitionDict, AgentDefinitionModel.definition, Dict.update, List.foldl_cons,
      List.foldl_nil, Dict.get_set_text, Dict.get_set_self, ne_eq, String.reduceEq,
      not_false_eq_true]
  have hartifact : Dict.get (definitionDict model.definition) "artifact_path" =
      .textOrNull model.artifactPath := by
    simp only [definitionDict, AgentDefinitionModel.definition, Dict.update, List.foldl_cons,
      List.foldl_nil, Dict.get_set_text, Dict.get_set_self, ne_eq, String.reduceEq,
      not_false_eq_true]
  refine ⟨?_, ⟨model.metadata, hmetadata⟩, model.artifactPath, hartifact⟩
  have hsorted : (Json.text model.agentId).sortKeys = .text model.agentId := rfl
  rw [PluginPython.agentName, Dict.get_sortKeys, hid, hsorted, Json.or,
    if_pos (Json.text_truthy.2 model.named)]
  rfl

theorem accepted_seed (hinj : Function.Injective sha256) (hdigest : ∀ b, sha256 b ≠ "")
    (hrun : ServerRun d sha256 h server)
    (haccept : submitExecution d sha256 server now E header snapshot payload = (.ok reply, server₁))
    (hlater : Path (ServerStep d sha256) server₁ l later)
    (hr : later.store.executions.find? reply.executionId = some r)
    (hseed : payload.seed = some seed) :
    r.storedMetadata.lookup? "seed" = some (.num (.int seed)) := by
  obtain ⟨task, path, request, _, _, hrequest, hlookup⟩ :=
    accepted_metadata hinj hdigest hrun haccept hlater hr
  obtain ⟨_, kind, agents, game, _, capabilities, _, _, _, _, _, hfields⟩ :=
    executionRequest_ok hrequest
  have hmetadata : request.metadata = evaluationMetadata payload kind agents game capabilities := by
    rw [hfields]
  rw [hlookup _ (by decide), hmetadata, evaluationMetadata, Dict.lookup?_setSome_self, hseed]
  rfl

theorem givenCommand_eq {metadata : Dict} {command : Option (List Json)}
    (h : python.seatCommand (Dict.get metadata "command") = .ok command) :
    python.givenCommand metadata = command := by
  rw [PluginPython.givenCommand]
  cases hcommand : Dict.get metadata "command" with
  | str text =>
    rw [hcommand] at h
    obtain ⟨words, hwords, heq⟩ := map_ok.1 h
    dsimp only
    rw [hwords, ← heq]
    rfl
  | arr items =>
    rw [hcommand] at h
    exact pure_ok.1 h
  | null =>
    rw [hcommand] at h
    exact pure_ok.1 h
  | bool =>
    rw [hcommand] at h
    exact pure_ok.1 h
  | num =>
    rw [hcommand] at h
    exact pure_ok.1 h
  | obj =>
    rw [hcommand] at h
    exact pure_ok.1 h

/-- A spec made for a registered agent is that of the agent that the request names. -/
theorem seatFaithful {refs : List String} {agents : List Dict} {ref : String × Nat} {agent : Dict}
    (hstore : AgentsRegistered store)
    (hagents : List.Forall₂ (fun ref agent => store.getDefinition "agent" ref = some agent)
      refs agents)
    (hagent : store.getDefinition "agent" ref.1 = some agent)
    (h : Seated python files (agents.map Dict.sortKeys) seed (Dict.sortKeys agent, ref.2) spec) :
    SeatFaithful python files store
      ((agents.map Dict.sortKeys).zipIdx.map python.participant) ref spec := by
  obtain ⟨hname, ⟨metadata, hmetadata⟩, path, hpath⟩ :=
    registered_agent python hstore hagent
  refine ⟨h.agentId.trans hname, h.seat, agent, metadata, hagent, hmetadata, ?_, ?_, ?_⟩
  · have hspec := h.metadata
    rwa [Dict.get_sortKeys, hmetadata, Json.sortKeys_obj] at hspec
  · exact (givenCommand_eq h.command).symm
  · obtain ⟨index, source, hsource, hsame, hartifact⟩ := h.artifact
    rw [List.getElem?_map, Option.map_eq_some_iff] at hsource
    obtain ⟨agent', hagent', heq⟩ := hsource
    obtain ⟨ref', _, href'⟩ := forall₂_mem hagents (List.mem_of_getElem? hagent')
    obtain ⟨hname', _⟩ := registered_agent python hstore href'
    -- one name, one definition
    have hrefs : ref' = ref.1 := by
      rw [← PyStr.ofString_inj, ← hname', ← hname, heq]
      exact hsame
    subst hrefs
    cases Option.some.inj (href'.symm.trans hagent)
    subst heq
    refine ⟨index, python.participant (Dict.sortKeys agent, index), ?_, hartifact, ?_⟩
    · simp [List.getElem?_map, hagent']
    · rw [PluginPython.participant, PluginPython.agentArtifact, Dict.get_sortKeys, hpath]
      cases path <;> rfl

theorem forall₂_zipIdx {R : α → β → Prop} {l : List α} {m : List β} (h : List.Forall₂ R l m)
    (k : Nat) : List.Forall₂ (fun a b => R a.1 b.1 ∧ a.2 = b.2) (l.zipIdx k) (m.zipIdx k) := by
  induction h generalizing k with
  | nil => exact .nil
  | cons hab _ ih => exact .cons ⟨hab, rfl⟩ (ih (k + 1))

theorem forall₂_trans {R : α → β → Prop} {S : β → γ → Prop} {T : α → γ → Prop}
    (hRS : ∀ a b c, R a b → S b c → T a c) {l : List α} {m : List β} {n : List γ}
    (h : List.Forall₂ R l m) (h' : List.Forall₂ S m n) : List.Forall₂ T l n := by
  induction h generalizing n with
  | nil =>
    cases h'
    exact .nil
  | cons hab _ ih =>
    cases h' with
    | cons hbc hrest => exact .cons (hRS _ _ _ hab hbc) (ih hrest)

/-- Seats are faithful where the agents in the metadata are those the request names. -/
theorem SeatsFaithful.of_registered {executionId taskKind : String} {metadata : Dict}
    {agents : List Dict} (hstore : AgentsRegistered store)
    (hagents : List.Forall₂ (fun ref agent => store.getDefinition "agent" ref = some agent)
      payload.agentRefs agents)
    (hdefinitions : (Dict.get metadata "agent_definitions").or (.arr []) =
      .arr ((agents.map Dict.sortKeys).map Json.obj))
    (hplugin : needsPluginRunner taskKind metadata = true)
    (hseed : ∀ seed, payload.seed = some seed → Dict.get metadata "seed" = .num (.int seed)) :
    SeatsFaithful python store payload executionId taskKind metadata := by
  intro files staged runtime hstaged hlaunch
  rw [ArtifactAccess.stagePluginSubmission, if_pos hplugin, hdefinitions] at hstaged
  obtain ⟨agents', heq, _, hstaged⟩ := (stageParticipants_iff 0 _).1 hstaged
  have hobj : Function.Injective Json.obj := fun _ _ h => Json.obj.inj h
  cases hobj.list_map heq
  have hsorted : ∀ agent ∈ agents.map Dict.sortKeys,
      (Dict.get agent "metadata").sortKeys = Dict.get agent "metadata" := by
    intro agent hagent
    obtain ⟨agent, _, heq⟩ := List.mem_map.1 hagent
    rw [← heq, Dict.get_sortKeys, Json.sortKeys_sortKeys]
  subst hstaged
  obtain ⟨hseated, hruntime⟩ := launch_ok hsorted hlaunch
  constructor
  · rw [List.zipIdx_map, List.forall₂_map_left_iff] at hseated
    apply forall₂_trans ?_ (forall₂_zipIdx hagents 0) hseated
    rintro ref ⟨agent, index⟩ spec ⟨hagent, hindex⟩ hspec
    dsimp only at hagent hindex
    subst hindex
    exact seatFaithful hstore hagents hagent hspec
  · intro seed hgiven
    have hseed : runtime.seed = seed := by
      rw [hruntime, hseed seed hgiven]
      rfl
    refine ⟨hseed, ?_⟩
    intro spec hspec
    obtain ⟨_, _, hspec⟩ := forall₂_mem hseated hspec
    exact hspec.seed.trans hseed

theorem metadata_sorted {value : Json} {agents : List Dict}
    (h : value.sortKeys = .arr (agents.map Json.obj)) :
    ∀ agent ∈ agents, (Dict.get agent "metadata").sortKeys = Dict.get agent "metadata" := by
  have hsorted := Json.sortKeys_sortKeys value
  rw [h, sortKeys_objects, Json.arr.injEq, List.map_inj_left] at hsorted
  intro agent hagent
  rw [← Dict.get_sortKeys, Json.obj.inj (hsorted agent hagent)]

/-- A file system on which artifacts are directories and paths lead somewhere. -/
def plainFiles : PluginFiles where
  materialize _ := .ok true
  resolve path := PyStr.ofString "/bundle/" ++ path
  taskPath := ("/task" : String)
  submissionPath := ("/bundle" : String)
  outputPath := ("/tmp/brunost-output/artifacts" : String)

theorem bringsAgents_of_launch {executionId taskRef taskKind : String} {stored metadata : Dict}
    (hdefinitions : Dict.get stored "agent_definitions" =
      (Dict.get metadata "agent_definitions").sortKeys)
    (hplugin : needsPluginRunner taskKind stored = true)
    (hstaged : (files.access python).stagePluginSubmission taskKind stored = .ok staged)
    (hlaunch : python.launch files
      (python.pluginManifest executionId taskRef taskKind stored staged) = .ok runtime) :
    BringsAgents python metadata := by
  rw [ArtifactAccess.stagePluginSubmission, if_pos hplugin] at hstaged
  split at hstaged
  · next definitions hitems =>
    obtain ⟨agents, heq, hall, hparticipants⟩ := (stageParticipants_iff 0 _).1 hstaged
    subst heq hparticipants
    have hmetadata : agents = [] ∨
        (Dict.get metadata "agent_definitions").sortKeys = .arr (agents.map Json.obj) := by
      rw [Json.or, hdefinitions] at hitems
      split at hitems
      · exact .inr hitems
      · exact .inl (List.map_eq_nil_iff.1 (Json.arr.inj hitems).symm)
    have hsorted : ∀ agent ∈ agents,
        (Dict.get agent "metadata").sortKeys = Dict.get agent "metadata" := by
      obtain hempty | hmetadata := hmetadata
      · rw [hempty]
        exact fun _ hagent => absurd hagent List.not_mem_nil
      · exact metadata_sorted hmetadata
    obtain ⟨hseated, _⟩ := launch_ok hsorted hlaunch
    have hnonempty : agents ≠ [] := by
      intro hempty
      rw [hempty] at hseated
      exact runtime.occupied (List.forall₂_nil_left_iff.1 hseated)
    refine ⟨agents, hnonempty, hmetadata.resolve_left hnonempty, ?_⟩
    intro agent hagent
    obtain ⟨index, hindex⟩ := List.mem_iff_getElem?.1 hagent
    have hmem : (agent, index) ∈ agents.zipIdx := List.mem_zipIdx_iff_getElem?.2 hindex
    obtain ⟨spec, _, hspec⟩ := forall₂_mem hseated.flip hmem
    exact ⟨(hall agent hagent).1, spec.command, hspec.metadata ▸ hspec.command⟩
  · exact (throw_ok.1 hstaged).elim

/-- An accepted evaluation with agents seats those that its request names, just where the request
names some or its client brings none. -/
theorem seats_faithful_iff (hinj : Function.Injective sha256) (hdigest : ∀ b, sha256 b ≠ "")
    (hrun : ServerRun d sha256 h server) (hagents : AgentsRegistered server.store)
    (haccept : submitExecution d sha256 server now E header snapshot payload = (.ok reply, server₁))
    (hlater : Path (ServerStep d sha256) server₁ l later)
    (hr : later.store.executions.find? reply.executionId = some r)
    (htask : server.store.tasks.find? payload.taskRef = some task)
    (hplugin : needsPluginRunner task.kind r.storedMetadata = true) (python : PluginPython) :
    SeatsFaithful python server.store payload r.executionId task.kind r.storedMetadata ↔
      payload.agentRefs ≠ [] ∨ ¬BringsAgents python payload.metadata := by
  obtain ⟨task', kind, htask', _, hrecords⟩ := accepted_records hinj hdigest hrun haccept hlater hr
  cases Option.some.inj (htask'.symm.trans htask)
  obtain ⟨agents, hregistered, hlookup⟩ := hrecords.agents
  constructor
  · intro hfaithful
    by_contra hnot
    obtain ⟨hrefs, hbrings⟩ := not_or.1 hnot
    obtain ⟨brought, hbrought, hdefinitions, hlaunchable⟩ := not_not.1 hbrings
    have hstored : Dict.get r.storedMetadata "agent_definitions" = .arr (brought.map Json.obj) := by
      rw [← hdefinitions, Dict.get_eq, hlookup, if_pos (not_not.1 hrefs), Option.none_or,
        Dict.get_eq]
      cases payload.metadata.lookup? "agent_definitions" with
      | none => rfl
      | some value => rfl
    have hstaged : (plainFiles.access python).stagePluginSubmission task.kind r.storedMetadata =
        .ok (brought.zipIdx.map python.participant) := by
      have htruthy : (Json.arr (brought.map Json.obj)).truthy = true := by
        cases brought with
        | nil => exact absurd rfl hbrought
        | cons => rfl
      rw [ArtifactAccess.stagePluginSubmission, if_pos hplugin, hstored, Json.or, if_pos htruthy]
      exact (stageParticipants_iff 0 _).2
        ⟨brought, rfl, fun agent hagent => ⟨(hlaunchable agent hagent).toStageable, rfl⟩, rfl⟩
    obtain ⟨runtime, hlaunch⟩ := launch_agents plainFiles hbrought hlaunchable
      (metadata_sorted hdefinitions)
      (fun path => List.append_ne_nil_of_left_ne_nil (by decide) path)
    obtain ⟨hseats, _⟩ := hfaithful plainFiles _ runtime hstaged hlaunch
    rw [not_not.1 hrefs] at hseats
    exact runtime.occupied (List.forall₂_nil_left_iff.1 hseats)
  · intro hcondition
    by_cases hrefs : payload.agentRefs = []
    · obtain hsome | hbrings := hcondition
      · exact absurd hrefs hsome
      · intro files staged runtime hstaged hlaunch
        refine absurd (bringsAgents_of_launch ?_ hplugin hstaged hlaunch) hbrings
        rw [Dict.get_eq, hlookup, if_pos hrefs, Option.none_or, Dict.get_eq]
        cases payload.metadata.lookup? "agent_definitions" with
        | none => rfl
        | some value => rfl
    · apply SeatsFaithful.of_registered hagents hregistered ?_ hplugin
      · intro seed hseed
        rw [Dict.get_eq, accepted_seed hinj hdigest hrun haccept hlater hr hseed]
        rfl
      · rw [Dict.get_eq, hlookup, if_neg hrefs, Option.some_or, Option.getD_some, List.map_map]
        cases agents with
        | nil => exact absurd (List.forall₂_nil_right_iff.1 hregistered) hrefs
        | cons agent agents => rfl

end

namespace Sample

def player (agentId : String) (hnamed : agentId ≠ "") : AgentDefinitionModel where
  agentId := agentId
  name := agentId
  version := "1"
  artifactPath := some ("artifact://" ++ artifact)
  protocol := "stdio"
  resourceProfile := []
  requiredCapabilities := []
  metadata := [("command", .text "play")]
  named := hnamed

def players : List Definition :=
  [(player "left" (by decide)).definition, (player "right" (by decide)).definition]

def stadiumSetup : List (Instant × Op) :=
  [(clock 0, .registerTask arena), (clock 0, .registerDefinition duel)] ++
    players.map fun definition => (clock 0, .registerDefinition definition)

/-- The arena with agents that were registered over the API. -/
def stadium : Server := ⟨(performAll sha256 .empty stadiumSetup).2, [artifact]⟩

theorem stadium_run : ∃ h, ServerRun deployment sha256 h stadium := by
  have hstart : ServerRun deployment sha256 [] .empty := .start rfl
  have hupload : ServerRun deployment sha256 [.upload artifact] ⟨.empty, [artifact]⟩ :=
    hstart.next .upload
  have hsetup : ∀ o ∈ stadiumSetup, ∀ E request, o.2 ≠ .submit E request := by
    intro o ho E request hop
    simp only [stadiumSetup, players, List.map_cons, List.map_nil, List.cons_append,
      List.nil_append, List.mem_cons, List.not_mem_nil, or_false] at ho
    rcases ho with ho | ho | ho | ho <;> rw [ho] at hop <;> cases hop
  exact ⟨_, hupload.append (performAll_server _ stadiumSetup hsetup)⟩

theorem stadium_agents : AgentsRegistered stadium.store := by
  have hrows : stadium.store.definitions.rows = duel :: players := by decide +kernel
  intro definition hmem htype
  rw [hrows, players, List.mem_cons, List.mem_cons, List.mem_singleton] at hmem
  obtain hduel | hleft | hright := hmem
  · rw [hduel] at htype
    exact absurd htype (by decide)
  · exact ⟨_, hleft⟩
  · exact ⟨_, hright⟩

/-- Every value prints as nothing, and a command line is one word. -/
def pluginPython : PluginPython := ⟨fun _ => [], fun command => .ok [command]⟩

/-- One agent plays against itself and another. -/
def threeSeats : SubmitPayload :=
  { payload "key-1" [] with
    taskRef := "arena"
    evaluationKind := "match"
    gameRef := some "duel"
    agentRefs := ["right", "left", "right"]
    seed := some 7 }

end Sample

theorem seats_faithful_iff_sample : ∃ r,
    Sample.recorded (Sample.requested Sample.stadium (.execution none Sample.threeSeats)) = some r ∧
    SeatsFaithful Sample.pluginPython Sample.stadium.store Sample.threeSeats r.executionId "game"
      r.storedMetadata := by
  obtain ⟨_, hrun⟩ := Sample.stadium_run
  have hrecorded : (Sample.recorded
      (Sample.requested Sample.stadium (.execution none Sample.threeSeats))).isSome = true := by
    decide +kernel
  obtain ⟨r, hrecorded⟩ := Option.isSome_iff_exists.1 hrecorded
  obtain ⟨reply, server₁, hrequest, hr⟩ := Sample.recorded_some hrecorded
  have htask : Sample.stadium.store.tasks.find? "arena" = some Sample.arena := by decide +kernel
  refine ⟨r, hrecorded, (seats_faithful_iff Sample.sha256_injective Sample.sha256_nonempty hrun
    Sample.stadium_agents (submitRequest_ok rfl hrequest) .refl hr htask rfl _).2 (.inl ?_)⟩
  exact List.cons_ne_nil _ _

/-- A match that names no agents seats the one its client describes. -/
theorem unnamed_seat_sample : ∃ h server payload reply server₁ r runtime,
    ServerRun Sample.deployment Sample.sha256 h server ∧ AgentsRegistered server.store ∧
    submitRequest Sample.deployment Sample.parseInt Sample.sha256 server (Sample.clock 1) "e1"
      Sample.noDirectory (.execution none payload) = (.ok reply, server₁) ∧
    server₁.store.executions.find? reply.executionId = some r ∧ payload.agentRefs = [] ∧
    ((plainFiles.access Sample.pluginPython).stagePluginSubmission "game" r.storedMetadata).bind
      (fun staged => (Sample.pluginPython.launch plainFiles (Sample.pluginPython.pluginManifest
        r.executionId "arena" "game" r.storedMetadata staged)).mapError fun _ => []) = .ok runtime ∧
    runtime.specs.map AgentSpec.agentId = [PyStr.ofString "mallory"] ∧
    ¬SeatsFaithful Sample.pluginPython server.store payload r.executionId "game"
      r.storedMetadata := by
  obtain ⟨h, hrun⟩ := Sample.stadium_run
  have hlaunched : (Sample.recorded (Sample.requested Sample.stadium
      (.execution none Sample.emptyMatch))).any (fun r =>
        ((plainFiles.access Sample.pluginPython).stagePluginSubmission "game"
          r.storedMetadata).toOption.any fun staged =>
            (Sample.pluginPython.launch plainFiles (Sample.pluginPython.pluginManifest
              r.executionId "arena" "game" r.storedMetadata staged)).toOption.any fun runtime =>
              runtime.specs.map AgentSpec.agentId = [PyStr.ofString "mallory"]) = true := by
    decide +kernel
  obtain ⟨r, hrecorded, hlaunched⟩ := (Option.any_eq_true _ _).1 hlaunched
  obtain ⟨staged, hstaged, hlaunched⟩ := (Option.any_eq_true _ _).1 hlaunched
  obtain ⟨runtime, hlaunch, hmallory⟩ := (Option.any_eq_true _ _).1 hlaunched
  have hstaged := toOption_eq_some.1 hstaged
  have hlaunch := toOption_eq_some.1 hlaunch
  have hmallory := of_decide_eq_true hmallory
  obtain ⟨reply, server₁, hrequest, hr⟩ := Sample.recorded_some hrecorded
  refine ⟨h, Sample.stadium, Sample.emptyMatch, reply, server₁, r, runtime, hrun,
    Sample.stadium_agents, hrequest, hr, rfl, ?_, hmallory, ?_⟩
  · rw [hstaged, Except.bind, hlaunch]
    rfl
  · intro hfaithful
    obtain ⟨hseats, _⟩ := hfaithful plainFiles staged runtime hstaged hlaunch
    exact runtime.occupied (List.forall₂_nil_left_iff.1 hseats)

end BrunostJudge
