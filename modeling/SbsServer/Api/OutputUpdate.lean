import SbsServer.Api.OutputHandlers
import SbsServer.Config.Lifetime
import SbsServer.Engine.EncoderReconfigure

/-!
# Updates of running outputs

`output.update` stops a running output and starts it again with its new settings.
The sink branch of the shared encoder is removed at once.  The entry of a worker
stays until the exit of its process is seen, and as long as it stays the
supervisor refuses a new one; so an update keeps a worker's output running only
if no process is running for it.
-/

namespace SbsServer
namespace Api

open CLib SceneGraph Config Supervisor Engine

section

variable {manager : EncoderManager}

@[simp] theorem branches_teardownPipeline
    (manager : EncoderManager) :
    manager.teardownPipeline.branches = manager.branches := by
  unfold EncoderManager.teardownPipeline
  split
  · rfl
  · rfl

/-- A removed branch is gone. -/
theorem contains_removeSink
    (manager : EncoderManager)
    (outputId : String) :
    (manager.removeSink outputId).2.branches.contains outputId = false := by
  unfold EncoderManager.removeSink
  split
  next =>
    have erased : (manager.branches.erase outputId).contains outputId = false := by
      simp [SinkTable.contains, SinkTable.erase]
    dsimp only
    split
    · rw [branches_teardownPipeline]
      exact erased
    · exact erased
  next absent => exact eq_false_of_ne_true absent

/-- The encoder and the pipeline can be made. -/
def Builds (answers : BuildAnswers) : Prop :=
  answers.createsEncoder = true ∧ answers.buildsPipeline = true

instance (answers : BuildAnswers) : Decidable (Builds answers) :=
  inferInstanceAs (Decidable (_ ∧ _))

theorem ensurePipeline_ok_iff
    {answers : BuildAnswers} :
    (manager.ensurePipeline answers).1 = .ok ↔
      manager.pipelineActive = true ∨ Builds answers := by
  unfold EncoderManager.ensurePipeline Builds
  cases active : manager.pipelineActive with
  | true => simp
  | false =>
      cases creates : answers.createsEncoder with
      | false => simp
      | true =>
          cases builds : answers.buildsPipeline with
          | false => simp
          | true => simp

/-- When a new branch is added. -/
theorem addSink_ok_iff
    {answers : BuildAnswers}
    {config : SinkBranchConfig}
    (absent : manager.branches.contains config.outputId = false) :
    (manager.addSink answers config).1 = .ok ↔
      (manager.pipelineActive = true ∨ Builds answers) ∧
        answers.links config.outputId = .ok := by
  rw [← ensurePipeline_ok_iff, EncoderManager.addSink, dif_neg (by simp [absent])]
  dsimp only
  split
  next fails =>
    constructor
    · exact fun ok => absurd ok fails
    · intro starts
      exact absurd starts.1 fails
  next builds =>
    split
    next refused =>
      constructor
      · exact fun ok => absurd ok refused
      · intro starts
        exact absurd starts.2 refused
    next links => exact ⟨fun _ => ⟨not_not.mp builds, not_not.mp links⟩, fun _ => rfl⟩

/-- A branch that is added has its settings. -/
theorem settings_of_addSink
    {answers : BuildAnswers}
    {config : SinkBranchConfig}
    (ok : (manager.addSink answers config).1 = .ok) :
    ∃ branch ∈ (manager.addSink answers config).2.branches.entries,
      branch.settings = config.settings := by
  unfold EncoderManager.addSink at ok ⊢
  split at ok
  next => cases ok
  next absent =>
    rw [dif_neg absent]
    dsimp only at ok ⊢
    split at ok
    next fails => exact absurd ok fails
    next builds =>
      rw [if_neg builds]
      split at ok
      next refused => exact absurd ok refused
      next links =>
        rw [if_neg links]
        exact ⟨_, List.mem_append_right _ (List.mem_singleton_self _), rfl⟩

/-- The shared encoder has the codec that is asked for. -/
def KeepsCodec
    (manager : EncoderManager)
    (codec : Option CStr) : Prop :=
  ∀ wanted ∈ codec, manager.codec = managerText wanted

instance (manager : EncoderManager) (codec : Option CStr) :
    Decidable (KeepsCodec manager codec) :=
  inferInstanceAs (Decidable (∀ wanted ∈ codec, _))

theorem ensureSharedEncoderCodec_of_keepsCodec
    {codec : Option CStr}
    (keeps : KeepsCodec manager codec)
    (answers : BuildAnswers) :
    ensureSharedEncoderCodec manager codec answers = (.ok, none, manager) := by
  cases codec with
  | none => rfl
  | some wanted =>
      unfold ensureSharedEncoderCodec
      dsimp only
      rw [if_pos (keeps wanted rfl)]

/-- Another codec for an encoder without branches. -/
theorem updateConfig_codec
    {answers : BuildAnswers}
    {codec : String}
    (other : manager.codec ≠ codec)
    (unused : manager.branches.entries = []) :
    let config := { manager.getConfig with codec := some codec }
    ((manager.updateConfig answers config).1 = .ok ↔ Builds answers) ∧
      ((manager.updateConfig answers config).1 = .ok →
        (manager.updateConfig answers config).2.pipelineActive = true ∧
          (manager.updateConfig answers config).2.branches.entries = []) := by
  intro config
  have changed : manager.unchangedBy config = false := by
    have codecs : (manager.codec == config.newCodec) = false := beq_eq_false_iff_ne.mpr other
    simp [EncoderManager.unchangedBy, codecs]
  have rebuilt : ((manager.stopForUpdate config).ensurePipeline answers).1 = .ok ↔
      Builds answers := by
    rw [ensurePipeline_ok_iff, EncoderManager.stopForUpdate_pipelineActive]
    simp
  unfold EncoderManager.updateConfig
  rw [if_neg (by simp [changed])]
  dsimp only
  rw [unused]
  split
  next fails =>
    exact ⟨⟨fun ok => absurd ok fails, fun builds => absurd (rebuilt.mpr builds) fails⟩,
      fun ok => absurd ok fails⟩
  next builds =>
    have ok := not_not.mp builds
    obtain ⟨active, noBranches, -, -⟩ := EncoderManager.rebuilt_spec ok
    exact ⟨⟨fun _ => rebuilt.mp ok, fun _ => rfl⟩, fun _ => ⟨active, noBranches⟩⟩

/-- Another codec is possible only for an encoder without branches that can be made again. -/
theorem ensureSharedEncoderCodec_of_not_keepsCodec
    {codec : Option CStr}
    (changes : ¬ KeepsCodec manager codec)
    (answers : BuildAnswers) :
    ((ensureSharedEncoderCodec manager codec answers).1 = .ok ↔
        manager.branches.entries = [] ∧ Builds answers) ∧
      ((ensureSharedEncoderCodec manager codec answers).1 = .ok →
        (ensureSharedEncoderCodec manager codec answers).2.2.pipelineActive = true ∧
          (ensureSharedEncoderCodec manager codec answers).2.2.branches.entries = []) := by
  cases codec with
  | none => exact absurd nofun changes
  | some wanted =>
      have other : manager.codec ≠ managerText wanted := by
        intro same
        apply changes
        rintro _ ⟨⟩
        exact same
      unfold ensureSharedEncoderCodec
      dsimp only
      rw [if_neg other]
      split
      next used =>
        have used : manager.branches.entries ≠ [] := List.ne_nil_of_length_pos used
        exact ⟨⟨nofun, fun ⟨unused, _⟩ => absurd unused used⟩, nofun⟩
      next unused =>
        have unused : manager.branches.entries = [] :=
          List.eq_nil_of_length_eq_zero (Nat.eq_zero_of_not_pos unused)
        have updates := @updateConfig_codec manager answers _ other unused
        dsimp only at updates
        generalize manager.updateConfig answers
          { manager.getConfig with codec := some (managerText wanted) } = result at updates ⊢
        obtain ⟨code, updated⟩ := result
        simp only [unused, true_and]
        cases code with
        | ok => exact ⟨⟨fun _ => updates.1.mp rfl, fun _ => rfl⟩, fun _ => updates.2 rfl⟩
        | _ => exact ⟨⟨nofun, fun builds => absurd (updates.1.mpr builds) nofun⟩, nofun⟩

/-- When a branch is added after its codec was prepared, from the manager that is left when the
old branch is removed. -/
structure NewSinkStarts
    (stopped : EncoderManager)
    (output : OutputState)
    (answers : OutputAnswers) : Prop where
  links : answers.add.links (managerText output.id) = .ok
  keeps : KeepsCodec stopped (wantedCodec output) →
    stopped.pipelineActive = true ∨ Builds answers.add
  changes : ¬ KeepsCodec stopped (wantedCodec output) →
    stopped.branches.entries = [] ∧ Builds answers.prepare

/-- The configuration of the branch of an output. -/
def updatedBranch (output : OutputState) : SinkBranchConfig :=
  (sinkOptions none output.encoder).branchConfig output.id

/-- The two calls behind the removal of a branch. -/
theorem newSinkStarts_iff
    {stopped : EncoderManager}
    {output : OutputState}
    {answers : OutputAnswers}
    (absent : stopped.branches.contains (managerText output.id) = false) :
    NewSinkStarts stopped output answers ↔
      (ensureSharedEncoderCodec stopped (wantedCodec output) answers.prepare).1 = .ok ∧
        ((ensureSharedEncoderCodec stopped (wantedCodec output) answers.prepare).2.2.addSink
          answers.add (updatedBranch output)).1 = .ok := by
  by_cases keeps : KeepsCodec stopped (wantedCodec output)
  · rw [ensureSharedEncoderCodec_of_keepsCodec keeps answers.prepare]
    dsimp only
    rw [addSink_ok_iff absent]
    constructor
    · exact fun starts => ⟨rfl, starts.keeps keeps, starts.links⟩
    · exact fun ⟨_, builds, links⟩ => ⟨links, fun _ => builds, fun changes => absurd keeps changes⟩
  · obtain ⟨possible, left⟩ := ensureSharedEncoderCodec_of_not_keepsCodec keeps answers.prepare
    constructor
    · intro starts
      have ok := possible.mpr (starts.changes keeps)
      obtain ⟨active, unused⟩ := left ok
      refine ⟨ok, (addSink_ok_iff ?_).mpr ⟨.inl active, starts.links⟩⟩
      rw [SinkTable.contains, unused]
      rfl
    · intro ⟨ok, added⟩
      obtain ⟨active, unused⟩ := left ok
      have links := ((addSink_ok_iff (by
        rw [SinkTable.contains, unused]
        rfl)).mp added).2
      exact ⟨links, fun isKept => absurd isKept keeps, fun _ => possible.mp ok⟩

end

namespace OutputServer

variable {server : OutputServer} {id : CStr} {output : OutputState} {answers : OutputAnswers}

/-- Every handler that ends a restart notes whether the output is running. -/
theorem running_restarted
    (server : OutputServer)
    (id : CStr)
    (running : Bool) :
    ((restarted server id running).2.graph.outputs.lookup id).map (·.running) =
      (server.graph.outputs.lookup id).map fun _ => running := by
  dsimp only [restarted, succeeded, publish, markDirty, modifyOutput]
  rw [HashTable.lookup_modify, if_pos rfl, Option.map_map]
  rfl

/-- A restart that succeeds. -/
theorem restartSink_of_starts
    {manager : EncoderManager}
    (named : output.id = id)
    (starts : NewSinkStarts (manager.removeSink (managerText id)).2 output answers) :
    ∃ added : EncoderManager,
      (∃ branch ∈ added.branches.entries, branch.settings = (updatedBranch output).settings) ∧
      server.restartSink manager id output answers =
        restarted { server with encoderManager := some added } id true := by
  obtain ⟨ok, adds⟩ := (newSinkStarts_iff (named ▸ contains_removeSink manager _)).mp starts
  unfold restartSink
  dsimp only
  generalize ensureSharedEncoderCodec (manager.removeSink (managerText id)).2 (wantedCodec output)
    answers.prepare = result at ok adds ⊢
  obtain ⟨code, error, prepared⟩ := result
  obtain rfl : code = .ok := ok
  have settings := settings_of_addSink adds
  dsimp only at adds settings ⊢
  unfold updatedBranch at adds settings ⊢
  generalize prepared.addSink answers.add ((sinkOptions none output.encoder).branchConfig
    output.id) = result at adds settings ⊢
  obtain ⟨code, added⟩ := result
  obtain rfl : code = .ok := adds
  exact ⟨added, settings, rfl⟩

/-- A restart that fails: the handler reports a success all the same. -/
theorem restartSink_of_not_starts
    {manager : EncoderManager}
    (named : output.id = id)
    (fails : ¬ NewSinkStarts (manager.removeSink (managerText id)).2 output answers) :
    (server.restartSink manager id output answers).1.code = .ok ∧
      ((server.restartSink manager id output answers).2.graph.outputs.lookup id).map
          (·.running) =
        (server.graph.outputs.lookup id).map fun _ => false := by
  have notAdded := (newSinkStarts_iff (named ▸ contains_removeSink manager _)).not.mp fails
  unfold restartSink
  dsimp only
  generalize ensureSharedEncoderCodec (manager.removeSink (managerText id)).2 (wantedCodec output)
    answers.prepare = result at notAdded ⊢
  obtain ⟨code, error, prepared⟩ := result
  split
  next prepared same =>
    cases same
    split
    next added isAdded => exact absurd ⟨rfl, congrArg Prod.fst isAdded⟩ notAdded
    next left _ => exact ⟨rfl, running_restarted _ id false⟩
  next =>
    refine ⟨rfl, ?_⟩
    dsimp only [markDirty, publish, modifyOutput]
    rw [HashTable.lookup_modify, if_pos rfl, Option.map_map]
    rfl

/-- When a new worker is started: no process is running for the output, and one can be
made. -/
def NewWorkerStarts
    (outputs : OutputTable)
    (id : CStr)
    (launch : OutputLaunch) : Prop :=
  (∀ entry ∈ outputs.lookup id, entry.pid = none) ∧ launch.isSome

/-- A restart that succeeds. -/
theorem restartWorker_of_starts
    (named : output.id = id)
    (starts : NewWorkerStarts server.outputSup id answers.launch) :
    ∃ outputs,
      HasWorker outputs (server.updatedConfig output) ∧
      server.restartWorker id output answers =
        restarted { server with outputSup := outputs } id true := by
  have ok : (startOutput (stopOutput server.outputSup id).2 (server.updatedConfig output)
      answers.launch).1 = .ok :=
    startOutput_ok_iff.mpr ⟨named ▸ contains_stopOutput.mpr (named ▸ starts.1), starts.2⟩
  have worker := hasWorker_startOutput ok
  unfold restartWorker
  dsimp only
  generalize startOutput (stopOutput server.outputSup id).2 (server.updatedConfig output)
    answers.launch = result at ok worker ⊢
  obtain ⟨code, outputs⟩ := result
  obtain rfl : code = .ok := ok
  exact ⟨outputs, worker, rfl⟩

/-- A restart that fails: the handler reports a success all the same. -/
theorem restartWorker_of_not_starts
    (named : output.id = id)
    (fails : ¬ NewWorkerStarts server.outputSup id answers.launch) :
    ∃ outputs,
      server.restartWorker id output answers =
        restarted { server with outputSup := outputs } id false := by
  unfold restartWorker
  dsimp only
  split
  next outputs started =>
    obtain ⟨absent, launches⟩ := startOutput_ok_iff.mp (congrArg Prod.fst started)
    subst named
    exact absurd ⟨contains_stopOutput.mp absent, launches⟩ fails
  next => exact ⟨_, rfl⟩

/-! ## What an update should leave -/

/-- A sink branch or a worker with exactly the settings of an output. -/
def HasStream
    (server : OutputServer)
    (output : OutputState) : Prop :=
  (∃ manager ∈ server.encoderManager, ∃ branch ∈ manager.branches.entries,
    branch.settings = (updatedBranch output).settings) ∨
  HasWorker server.outputSup (server.updatedConfig output)

/-- The output is noted as running. -/
def IsRunning
    (server : OutputServer)
    (id : CStr) : Prop :=
  (server.graph.outputs.lookup id).map (·.running) = some true

/-- Any sink branch or worker of an output. -/
def HasAnyStream
    (server : OutputServer)
    (id : CStr) : Prop :=
  (∃ manager ∈ server.encoderManager, ∃ branch ∈ manager.branches.entries,
    branch.outputId = managerText id) ∨
  ∃ entry ∈ server.outputSup.lookup id, entry.Alive

/-- A request that names an output and gives nothing else. -/
def idOnly (id : CStr) : Option CJson := some (.object [("id", .string id)])

/-- The server after `output.stop`, with the exit of the worker seen and the settings of an
update in place. -/
def stoppedWith
    (server : OutputServer)
    (params : Option CJson)
    (members : List (CStr × CJson))
    (id : CStr) : OutputServer :=
  let stopped := (server.outputStop (idOnly id)).2
  modifyOutput { stopped with outputSup := stopped.outputSup.remove id } id
    (updatedOutput params members)

/-- `output.start` would succeed with the new settings. -/
def Startable
    (server : OutputServer)
    (params : Option CJson)
    (members : List (CStr × CJson))
    (id : CStr)
    (answers : OutputAnswers) : Prop :=
  ((server.stoppedWith params members id).outputStart (idOnly id) answers).1.code = .ok

/-- After the update, in every order of the callbacks: with settings that can be started a
stream with just these settings exists, the output is running and there is a result; with others
a success is not reported for an output that has no stream or is not running. -/
def UpdateKeepsRunning
    (server : OutputServer)
    (params : Option CJson)
    (members : List (CStr × CJson))
    (id : CStr)
    (output : OutputState)
    (answers : OutputAnswers) : Prop :=
  (server.outputUpdate params answers).1.code = .ok →
    ∀ outputs,
      (outputSystem (server.outputUpdate params answers).2.outputSup).ReachableWhen
          KeepsTrying outputs →
        let later := { (server.outputUpdate params answers).2 with outputSup := outputs }
        (server.Startable params members id answers →
          later.HasStream (updatedOutput params members output) ∧ later.IsRunning id ∧
            (server.outputUpdate params answers).1.result.isSome) ∧
        (¬ server.Startable params members id answers →
          later.HasAnyStream id ∧ later.IsRunning id)

/-- When the new stream is started: the branch can be added again in place of the old one, or
the output has no branch, no process is running for it and one can be made. -/
def NewStreamStarts
    (server : OutputServer)
    (id : CStr)
    (output : OutputState)
    (answers : OutputAnswers) : Prop :=
  match server.encoderManager.filter (·.branches.contains (managerText id)) with
  | some manager =>
      NewSinkStarts (manager.removeSink (managerText id)).2 output answers
  | none => NewWorkerStarts server.outputSup id answers.launch

/-- The restart of a running output, by its back end. -/
theorem restartOutput_eq
    (server : OutputServer)
    (id : CStr)
    (output : OutputState)
    (answers : OutputAnswers) :
    server.restartOutput id output answers =
      match server.encoderManager.filter (·.branches.contains (managerText id)) with
      | some manager => server.restartSink manager id output answers
      | none => server.restartWorker id output answers := by
  unfold restartOutput
  cases server.encoderManager with
  | none => rfl
  | some manager =>
      cases has : manager.branches.contains (managerText id) with
      | true => simp [Option.filter, has]
      | false => simp [Option.filter, has]

/-- A stream with the settings of an output is a stream of the output. -/
theorem HasStream.any
    {server : OutputServer}
    {output : OutputState}
    (stream : server.HasStream output) :
    server.HasAnyStream output.id := by
  obtain ⟨manager, isManager, branch, present, settings⟩ | ⟨entry, found, alive, -⟩ := stream
  · exact .inl ⟨manager, isManager, branch, present, congrArg SinkSettings.outputId settings⟩
  · exact .inr ⟨entry, found, alive⟩

/-- The graph of a restart that notes the output as running. -/
theorem isRunning_restarted
    {running : Bool}
    (found : (server.graph.outputs.lookup id).isSome) :
    (restarted server id running).2.IsRunning id ↔ running = true := by
  obtain ⟨output, found⟩ := Option.isSome_iff_exists.mp found
  rw [IsRunning, running_restarted, found]
  exact Option.some_inj

/-- What a restart that succeeds leaves. -/
theorem restartOutput_of_starts
    (named : output.id = id)
    (found : (server.graph.outputs.lookup id).isSome)
    (starts : server.NewStreamStarts id output answers)
    {outputs : OutputTable}
    (reachable :
      (outputSystem (server.restartOutput id output answers).2.outputSup).ReachableWhen
        KeepsTrying outputs) :
    let later := { (server.restartOutput id output answers).2 with outputSup := outputs }
    later.HasStream output ∧ later.IsRunning id ∧
      (server.restartOutput id output answers).1.result.isSome := by
  rw [restartOutput_eq] at reachable ⊢
  unfold NewStreamStarts at starts
  cases manages : server.encoderManager.filter (·.branches.contains (managerText id)) with
  | some manager =>
      rw [manages] at starts
      dsimp only at starts ⊢
      obtain ⟨added, hasBranch, result⟩ :=
        @restartSink_of_starts server id output answers manager named starts
      rw [result]
      exact ⟨.inl ⟨added, rfl, hasBranch⟩, (isRunning_restarted found).mpr rfl, rfl⟩
  | none =>
      rw [manages] at starts reachable
      dsimp only at starts reachable ⊢
      obtain ⟨started, worker, result⟩ := restartWorker_of_starts named starts
      rw [result] at reachable ⊢
      exact ⟨.inr (worker.of_reachable reachable), (isRunning_restarted found).mpr rfl, rfl⟩

/-- What a restart that fails leaves: a success, and an output that is not running. -/
theorem restartOutput_of_not_starts
    (named : output.id = id)
    (fails : ¬ server.NewStreamStarts id output answers) :
    (server.restartOutput id output answers).1.code = .ok ∧
      ¬ (server.restartOutput id output answers).2.IsRunning id := by
  have stopped : ∀ outcome : Option Bool,
      outcome = (server.graph.outputs.lookup id).map (fun _ => false) → outcome ≠ some true := by
    rintro _ rfl
    cases server.graph.outputs.lookup id with
    | none => exact nofun
    | some output => exact nofun
  rw [restartOutput_eq]
  unfold NewStreamStarts at fails
  cases manages : server.encoderManager.filter (·.branches.contains (managerText id)) with
  | some manager =>
      rw [manages] at fails
      obtain ⟨ok, noted⟩ := @restartSink_of_not_starts server id output answers manager named fails
      exact ⟨ok, stopped _ noted⟩
  | none =>
      rw [manages] at fails
      obtain ⟨outputs, result⟩ := @restartWorker_of_not_starts server id output answers named fails
      dsimp only
      rw [result]
      exact ⟨rfl, stopped _ (running_restarted _ id false)⟩

/-- The update of a running output with an encoder object. -/
theorem outputUpdate_eq
    {params : Option CJson}
    {members : List (CStr × CJson)}
    (isId : CJson.str params "id" = some id)
    (found : server.graph.outputs.lookup id = some output)
    (running : output.running = true)
    (given : CJson.getObjectItem params "encoder" = some (.object members)) :
    server.outputUpdate params answers =
      (server.modifyOutput id (updatedOutput params members)).restartOutput id
        (updatedOutput params members output) answers := by
  unfold outputUpdate
  rw [isId]
  dsimp only
  rw [found]
  dsimp only
  rw [given]
  dsimp only
  rw [if_pos running]

/-- An update does not touch the id. -/
theorem id_updatedOutput
    (params : Option CJson)
    (members : List (CStr × CJson)) :
    (updatedOutput params members output).id = output.id := by
  dsimp only [updatedOutput]
  unfold rename
  split
  · rfl
  · rfl

/-- An update of a running output keeps it running exactly if the new stream starts. -/
theorem update_keeps_running_iff
    {params : Option CJson}
    {members : List (CStr × CJson)}
    (alive : lifetime.Reachable server.graph)
    (isId : CJson.str params "id" = some id)
    (found : server.graph.outputs.lookup id = some output)
    (running : output.running = true)
    (given : CJson.getObjectItem params "encoder" = some (.object members)) :
    server.UpdateKeepsRunning params members id output answers ↔
      server.NewStreamStarts id (updatedOutput params members output) answers := by
  have named : (updatedOutput params members output).id = id :=
    (id_updatedOutput params members).trans
      ((storable_of_reachable alive).outputs id output found).named
  have present : ((server.modifyOutput id (updatedOutput params members)).graph.outputs.lookup
      id).isSome := by
    dsimp only [modifyOutput]
    rw [HashTable.lookup_modify, if_pos rfl, found]
    rfl
  rw [UpdateKeepsRunning, outputUpdate_eq isId found running given]
  constructor
  · intro keeps
    by_contra fails
    obtain ⟨ok, stopped⟩ := @restartOutput_of_not_starts
      (server.modifyOutput id (updatedOutput params members)) id _ answers named fails
    obtain ⟨ifStartable, ifNot⟩ := keeps ok _ (.initial rfl)
    by_cases startable : server.Startable params members id answers
    · exact stopped (ifStartable startable).2.1
    · exact stopped (ifNot startable).2
  · intro starts _ outputs reachable
    obtain ⟨stream, isRunning, result⟩ := @restartOutput_of_starts
      (server.modifyOutput id (updatedOutput params members)) id _ answers named present starts
      outputs reachable
    exact ⟨fun _ => ⟨stream, isRunning, result⟩, fun _ => ⟨named ▸ stream.any, isRunning⟩⟩

/-- A change of what the graph leaves to handlers is an event of the graph. -/
theorem reachable_modifyOutput
    (alive : lifetime.Reachable server.graph)
    (id : CStr)
    {change : OutputState → OutputState}
    (kept : ∀ output, writtenOutput (change output) output = change output) :
    lifetime.Reachable (server.modifyOutput id change).graph := by
  cases found : server.graph.outputs.lookup id with
  | none =>
      have unchanged : server.graph.outputs.modify id change = server.graph.outputs := by
        apply HashTable.modify_eq_self
        intro output isOutput
        rw [found] at isOutput
        cases isOutput
      rw [modifyOutput, unchanged]
      exact alive
  | some output =>
      have written : server.graph.outputs.modify id change =
          server.graph.outputs.modify id (writtenOutput (change output)) := by
        apply HashTable.modify_congr
        intro stored isStored
        rw [found] at isStored
        cases isStored
        exact (kept output).symm
      have event : lifetime.Reachable (graphAfter server.graph (.writeOutput id (change output))) :=
        alive.step trivial rfl
      rw [modifyOutput, written]
      exact event

/-- A started output. -/
theorem reachable_started
    (alive : lifetime.Reachable server.graph)
    (id : CStr)
    (entries : List (CStr × CStr))
    (runtimeState : CStr) :
    lifetime.Reachable (server.started id entries runtimeState).2.graph :=
  reachable_modifyOutput alive id fun _ => rfl

/-- The graph of a server stays a graph of its life when an output is started. -/
theorem reachable_outputStart
    (alive : lifetime.Reachable server.graph)
    (params : Option CJson)
    (answers : OutputAnswers) :
    lifetime.Reachable (server.outputStart params answers).2.graph := by
  unfold outputStart
  split
  · exact alive
  · split
    · exact alive
    · split
      · exact alive
      · split
        · unfold startSink
          dsimp only
          split
          · split
            · exact reachable_started alive _ _ _
            · exact alive
          · exact alive
        · unfold startWorker
          dsimp only
          split
          · exact reachable_started alive _ _ _
          · exact alive

/-- The graph of a server with one output. -/
def outputGraph : SceneGraph :=
  graphAfter newDefault (.call (.createOutput (some
    { id := some "program", name := none, enabled := true, autostart := false })))

/-- A server whose output is not started. -/
def idleServer (encoderManager : Option EncoderManager) : OutputServer where
  graph := outputGraph
  encoderManager := encoderManager
  outputSup := .empty
  compThread := true
  saveTimeout := false
  published := []

/-- Everything that is asked for can be made. -/
def allAnswers : OutputAnswers where
  prepare := { createsEncoder := true, buildsPipeline := true, links := fun _ => .ok }
  add := { createsEncoder := true, buildsPipeline := true, links := fun _ => .ok }
  launch := some 42

/-- A server whose output runs. -/
def runningServer (encoderManager : Option EncoderManager) : OutputServer :=
  ((idleServer encoderManager).outputStart (idOnly "program") allAnswers).2

/-- The graph of such a server is one of its life. -/
theorem reachable_runningServer (encoderManager : Option EncoderManager) :
    lifetime.Reachable (runningServer encoderManager).graph := by
  have started : lifetime.Reachable newDefault := .initial rfl
  have created : lifetime.Reachable outputGraph := started.step trivial rfl
  exact @reachable_outputStart (idleServer encoderManager) created _ _

/-- An encoder manager without branches. -/
def idleManager : EncoderManager :=
  .new 1920 1080 60 1
    { codec := none, bitrateKbps := 0, gopSize := 60, gopPattern := 0, rcMode := 0
      encoder := none, hdr10 := false }

/-- The members of the encoder object of a request. -/
def bitrateMembers : List (CStr × CJson) :=
  [("bitrate_kbps", .number (.ofInt 8000))]

/-- A request for another bitrate. -/
def bitrateParams : Option CJson :=
  some (.object [("id", .string "program"), ("encoder", .object bitrateMembers)])

/-- The only sink of the shared encoder goes on running under another bitrate. -/
theorem update_keeps_running_bitrate :
    ∃ output,
      (runningServer (some idleManager)).UpdateKeepsRunning bitrateParams bitrateMembers
        "program" output allAnswers := by
  have running : ((runningServer (some idleManager)).graph.outputs.lookup "program").map
      (·.running) = some true := by
    decide +kernel
  obtain ⟨output, found, isRunning⟩ := Option.map_eq_some_iff.mp running
  have alone : ∃ manager, (runningServer (some idleManager)).encoderManager.filter
      (·.branches.contains (managerText "program")) = some manager ∧
        (manager.removeSink (managerText "program")).2.branches.entries = [] := by
    have isAlone : (((runningServer (some idleManager)).encoderManager.filter
        (·.branches.contains (managerText "program"))).map fun manager =>
          (manager.removeSink (managerText "program")).2.branches.entries.length) = some 0 := by
      decide +kernel
    obtain ⟨manager, manages, unused⟩ := Option.map_eq_some_iff.mp isAlone
    exact ⟨manager, manages, List.eq_nil_of_length_eq_zero unused⟩
  obtain ⟨manager, manages, unused⟩ := alone
  have starts : (runningServer (some idleManager)).NewStreamStarts "program"
      (updatedOutput bitrateParams bitrateMembers output) allAnswers := by
    rw [NewStreamStarts, manages]
    exact ⟨rfl, fun _ => .inr ⟨rfl, rfl⟩, fun _ => ⟨unused, rfl, rfl⟩⟩
  exact ⟨output, (update_keeps_running_iff (reachable_runningServer _) (by decide +kernel)
    found isRunning rfl).mpr starts⟩

/-- A worker that runs is stopped by an update that could be started. -/
theorem update_stops_worker :
    ¬∀ (server : OutputServer) (params : Option CJson) (members : List (CStr × CJson)) (id : CStr)
      (output : OutputState) (answers : OutputAnswers),
      lifetime.Reachable server.graph →
      CJson.str params "id" = some id →
      server.graph.outputs.lookup id = some output →
      output.running = true →
      CJson.getObjectItem params "encoder" = some (.object members) →
      server.UpdateKeepsRunning params members id output answers := by
  intro keeps
  have running : ((runningServer none).graph.outputs.lookup "program").map (·.running) =
      some true := by
    decide +kernel
  obtain ⟨output, found, isRunning⟩ := Option.map_eq_some_iff.mp running
  have updates := keeps (runningServer none) bitrateParams bitrateMembers "program" output
    allAnswers (reachable_runningServer none) (by decide +kernel) found isRunning rfl
  have startable : (runningServer none).Startable bitrateParams bitrateMembers "program"
      allAnswers := by
    unfold Startable
    decide +kernel
  have ok : ((runningServer none).outputUpdate bitrateParams allAnswers).1.code = .ok := by
    decide +kernel
  have stopped : ¬ ((runningServer none).outputUpdate bitrateParams allAnswers).2.IsRunning
      "program" := by
    unfold IsRunning
    decide +kernel
  exact stopped ((updates ok _ (.initial rfl)).1 startable).2.1

/-- A sink that cannot be linked again is gone, and the request succeeds. -/
example :
    let refused := { allAnswers with add := { allAnswers.add with links := fun _ => .io } }
    let update := (runningServer (some idleManager)).outputUpdate bitrateParams refused
    update.1.code = .ok ∧
      update.2.encoderManager.map (·.branches.entries.length) = some 0 ∧
      (update.2.graph.outputs.lookup "program").map (·.running) = some false := by
  decide +kernel

end OutputServer
end Api
end SbsServer
