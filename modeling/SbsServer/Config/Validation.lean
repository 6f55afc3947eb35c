import SbsServer.Config.Loader
import SbsServer.SceneGraph.Invariant

/-!
# What the validator promises to the loader

The loader skips entries with an invalid or repeated key and items whose
explicit id is taken, and it copies the selected scene ids without a check.
The validator looks at none of these.  The result below says for every accepted
bundle exactly when it is loaded completely.
-/

namespace SbsServer
namespace Config

open CLib SceneGraph

/-- The entries of a member of the state object. -/
def entries (state : CJson) (key : CStr) : List (Option CStr × CJson) :=
  CJson.children (CJson.getObjectItem (some state) key)

/-- The items of a scene entry. -/
def sceneItems (entry : CJson) : List CJson :=
  CJson.arrayItems (CJson.getObjectItem (some entry) "items")

/-- The id of a scene that the selection of a bundle names. -/
def selectedScene (state : CJson) (key : CStr) : Option CStr :=
  CJson.str (CJson.getObjectItem (some state) "state") key

/-- The loader succeeded, created every listed source, scene and item, and left
no dangling reference. -/
structure FullyLoaded (state : CJson) (result : SbsResult × SceneGraph) : Prop where
  /-- The loader returned `SBS_OK`. -/
  succeeded : result.1 = .ok
  /-- The sources are the listed ones. -/
  sources : (result.2.sources.keys.map some).Perm ((entries state "sources").map Prod.fst)
  /-- The scenes are the listed ones. -/
  scenes : (result.2.scenes.keys.map some).Perm ((entries state "scenes").map Prod.fst)
  /-- Every scene has the listed items. -/
  items : ∀ id entry, (some id, entry) ∈ entries state "scenes" →
    ∃ scene, result.2.scenes.lookup id = some scene ∧
      (scene.items.map fun item => (item.id, some item.sourceId)).Perm
        ((sceneItems entry).map fun item =>
          (effectiveId item, CJson.str (some item) "source_id"))
  /-- Every item shows an existing source. -/
  itemSourcesExist : result.2.scenes.All fun _ scene =>
    ∀ item ∈ scene.items, ∃ source, result.2.sources.lookup item.sourceId = some source
  /-- The active scene exists. -/
  activeExists : Named result.2.scenes result.2.activeSceneId
  /-- The preview scene exists. -/
  previewExists : Named result.2.scenes result.2.previewSceneId

/-- No explicit id of a list of items is the effective id of an earlier item or
of an item already there. -/
def IdsFree (taken : List CStr) : List CJson → Prop
  | [] => True
  | item :: rest =>
      (∀ id, CJson.str (some item) "id" = some id → id ∉ taken) ∧
        IdsFree (effectiveId item :: taken) rest

/-- Keys that name graph entries and differ from each other. -/
def KeysLoadable (keys : List (Option CStr)) : Prop :=
  (∀ key ∈ keys, ∃ id, key = some id ∧ validGraphId id = true) ∧ keys.Nodup

/-- The condition under which a bundle is loaded completely. -/
structure Loadable (state : CJson) : Prop where
  /-- Source keys are valid ids and differ. -/
  sources : KeysLoadable ((entries state "sources").map Prod.fst)
  /-- Scene keys are valid ids and differ. -/
  scenes : KeysLoadable ((entries state "scenes").map Prod.fst)
  /-- Explicit item ids are free when their item is added. -/
  items : ∀ entry ∈ entries state "scenes", IdsFree [] (sceneItems entry.2)
  /-- A selected active scene is listed. -/
  active : ∀ id, selectedScene state "active_scene_id" = some id →
    some id ∈ (entries state "scenes").map Prod.fst
  /-- A selected preview scene is listed. -/
  preview : ∀ id, selectedScene state "preview_scene_id" = some id →
    some id ∈ (entries state "scenes").map Prod.fst

/-- The keys of a table after the entries of a list were offered to it. -/
def acceptKeys (keys : List CStr) : List (Option CStr) → List CStr
  | [] => keys
  | key :: rest =>
      match key.filter fun id => validGraphId id ∧ id ∉ keys with
      | some id => acceptKeys (id :: keys) rest
      | none => acceptKeys keys rest

/-- Keys that are all accepted. -/
private def AllAccepted (keys : List CStr) (listed : List (Option CStr)) : Prop :=
  KeysLoadable listed ∧ ∀ id ∈ keys, some id ∉ listed

variable {id : CStr}

private theorem allAccepted_cons
    {keys : List CStr}
    (valid : validGraphId id = true)
    (fresh : id ∉ keys)
    (rest : List (Option CStr)) :
    AllAccepted keys (some id :: rest) ↔ AllAccepted (id :: keys) rest := by
  unfold AllAccepted KeysLoadable
  rw [List.forall_mem_cons, List.forall_mem_cons, List.nodup_cons]
  constructor
  · rintro ⟨⟨⟨_, restValid⟩, idFresh, restDistinct⟩, disjoint⟩
    refine ⟨⟨restValid, restDistinct⟩, idFresh, ?_⟩
    exact fun other member later => disjoint other member (List.mem_cons_of_mem _ later)
  · rintro ⟨⟨restValid, restDistinct⟩, idFresh, disjoint⟩
    refine ⟨⟨⟨⟨id, rfl, valid⟩, restValid⟩, idFresh, restDistinct⟩, ?_⟩
    intro other member listed
    rcases List.mem_cons.mp listed with equal | later
    · exact fresh (Option.some.inj equal ▸ member)
    · exact disjoint other member later

/-- A list is accepted as a whole exactly when no entry is lost. -/
theorem length_acceptKeys
    (keys : List CStr)
    (listed : List (Option CStr)) :
    (acceptKeys keys listed).length ≤ keys.length + listed.length ∧
      ((acceptKeys keys listed).length = keys.length + listed.length ↔
        AllAccepted keys listed) := by
  induction listed generalizing keys with
  | nil => simp [acceptKeys, AllAccepted, KeysLoadable]
  | cons key rest ih =>
      unfold acceptKeys
      split
      · next id accepted =>
          obtain ⟨rfl, accepts⟩ := Option.filter_eq_some_iff.mp accepted
          obtain ⟨valid, fresh⟩ := of_decide_eq_true accepts
          obtain ⟨bound, exact⟩ := ih (id :: keys)
          rw [allAccepted_cons valid fresh, ← exact, List.length_cons, List.length_cons]
          rw [List.length_cons] at bound
          omega
      · next refused =>
          obtain ⟨bound, _⟩ := ih keys
          rw [List.length_cons]
          refine ⟨by omega, ⟨fun equal => by omega, ?_⟩⟩
          rintro ⟨⟨valid, _⟩, disjoint⟩
          obtain ⟨id, rfl, idValid⟩ := valid key List.mem_cons_self
          have fresh : id ∉ keys := fun member =>
            disjoint id member List.mem_cons_self
          simp [Option.filter_some, idValid, fresh] at refused

/-- The keys of a list accepted as a whole. -/
theorem acceptKeys_perm
    {keys : List CStr}
    {listed : List (Option CStr)}
    (accepted : AllAccepted keys listed) :
    ((acceptKeys keys listed).map some).Perm (keys.map some ++ listed) := by
  induction listed generalizing keys with
  | nil => simp [acceptKeys]
  | cons key rest ih =>
      obtain ⟨id, rfl, valid⟩ := accepted.1.1 key List.mem_cons_self
      have fresh : id ∉ keys := fun member =>
        accepted.2 id member List.mem_cons_self
      rw [allAccepted_cons valid fresh] at accepted
      have taken : (some id).filter (fun id => validGraphId id ∧ id ∉ keys) = some id := by
        simp [Option.filter_some, valid, fresh]
      simp only [acceptKeys, taken]
      refine (ih accepted).trans ?_
      rw [List.map_cons, List.cons_append]
      exact List.perm_middle.symm

/-- An empty table takes up all listed keys exactly when they are loadable. -/
theorem acceptKeys_perm_iff (listed : List (Option CStr)) :
    ((acceptKeys [] listed).map some).Perm listed ↔ KeysLoadable listed := by
  obtain ⟨_, complete⟩ := length_acceptKeys [] listed
  have accepted : AllAccepted [] listed ↔ KeysLoadable listed := by
    simp [AllAccepted]
  rw [accepted, List.length_nil, Nat.zero_add] at complete
  constructor
  · intro perm
    rw [← complete]
    simpa using perm.length_eq
  · intro loadable
    simpa using acceptKeys_perm (accepted.mpr loadable)

theorem acceptKeys_cons
    (keys : List CStr)
    (key : Option CStr)
    (rest : List (Option CStr)) :
    acceptKeys keys (key :: rest) = acceptKeys (acceptKeys keys [key]) rest := by
  simp only [acceptKeys]
  split <;> rfl

theorem acceptKeys_creatable
    {table : HashTable CStr V}
    (valid : validGraphId id = true)
    (absent : table.lookup id = none) :
    acceptKeys table.keys [some id] = id :: table.keys := by
  have fresh : id ∉ table.keys := HashTable.lookup_eq_none_iff.mp absent
  have taken : (some id).filter (fun id => validGraphId id ∧ id ∉ table.keys) = some id := by
    simp [Option.filter_some, valid, fresh]
  simp only [acceptKeys, taken]

/-- Any other key is not. -/
theorem acceptKeys_refused
    {table : HashTable CStr V}
    {key : Option CStr}
    (refused : ¬Creatable table key) :
    acceptKeys table.keys [key] = table.keys := by
  unfold acceptKeys
  split
  · next id accepted =>
      obtain ⟨rfl, accepts⟩ := Option.filter_eq_some_iff.mp accepted
      obtain ⟨valid, fresh⟩ := of_decide_eq_true accepts
      exact absurd ⟨id, rfl, valid, HashTable.lookup_eq_none_iff.mpr fresh⟩ refused
  · rfl

variable (graph : SceneGraph)

/-- A source entry changes the sources only. -/
theorem loadSource_keys
    (key : Option CStr)
    (entry : CJson)
    (kind : SourceKind) :
    ∃ sources version,
      loadSource graph key entry kind =
        { graph with sources := sources, version := version } ∧
      sources.keys = acceptKeys graph.sources.keys [key] := by
  by_cases creatable : Creatable graph.sources key
  · obtain ⟨id, rfl, valid, absent⟩ := creatable
    obtain ⟨version, loaded⟩ := loadSource_eq graph valid absent entry kind
    refine ⟨_, version, loaded, ?_⟩
    rw [HashTable.keys_insert absent, acceptKeys_creatable valid absent]
  · refine ⟨graph.sources, graph.version, loadSource_refused graph creatable entry kind, ?_⟩
    rw [acceptKeys_refused creatable]

/-- Entries of known kinds are loaded without an error. -/
theorem loadSources_keys
    (listed : List (Option CStr × CJson))
    (known : ∀ entry ∈ listed,
      (parseSourceKind (CJson.str (some entry.2) "type")).isSome = true) :
    ∃ sources version,
      loadSources graph listed =
        (.ok, { graph with sources := sources, version := version }) ∧
      sources.keys = acceptKeys graph.sources.keys (listed.map Prod.fst) := by
  induction listed generalizing graph with
  | nil => exact ⟨graph.sources, graph.version, rfl, rfl⟩
  | cons entry rest ih =>
      obtain ⟨kind, parsed⟩ := Option.isSome_iff_exists.mp (known entry List.mem_cons_self)
      obtain ⟨sources, version, loaded, keys⟩ :=
        loadSource_keys graph entry.1 entry.2 kind
      obtain ⟨final, last, rest, restKeys⟩ :=
        ih { graph with sources := sources, version := version }
          fun other member => known other (List.mem_cons_of_mem _ member)
      refine ⟨final, last, ?_, ?_⟩
      · simp only [loadSources, parsed, loaded, rest]
      · rw [restKeys, keys, List.map_cons, ← acceptKeys_cons]

/-! ## Items -/

/-- The pointers that no loop of the loader touches. -/
structure SamePointers (before after : SceneGraph) : Prop where
  /-- The preview scene is unchanged. -/
  preview : after.previewSceneId = before.previewSceneId
  /-- The default transition is unchanged. -/
  default : after.defaultTransitionId = before.defaultTransitionId
  /-- The transition runtime is unchanged. -/
  runtime : after.transitionRuntime = before.transitionRuntime

theorem SamePointers.refl (graph : SceneGraph) : SamePointers graph graph :=
  ⟨rfl, rfl, rfl⟩

theorem SamePointers.trans
    {first second third : SceneGraph}
    (lower : SamePointers first second)
    (upper : SamePointers second third) :
    SamePointers first third :=
  ⟨upper.preview.trans lower.preview, upper.default.trans lower.default,
    upper.runtime.trans lower.runtime⟩

/-- What stays the same while the items of one scene are loaded. -/
structure ItemFrame (sceneId : CStr) (before after : SceneGraph) : Prop where
  /-- No source is added or removed. -/
  sourceKeys : after.sources.keys = before.sources.keys
  /-- No scene is added or removed. -/
  sceneKeys : after.scenes.keys = before.scenes.keys
  /-- Other scenes are unchanged. -/
  others : ∀ id, id ≠ sceneId → after.scenes.lookup id = before.scenes.lookup id
  /-- The active scene is unchanged. -/
  active : after.activeSceneId = before.activeSceneId
  /-- The other pointers are unchanged. -/
  pointers : SamePointers before after
  /-- The transitions are unchanged. -/
  transitions : after.transitions = before.transitions

namespace ItemFrame

variable {sceneId : CStr} {first second third : SceneGraph}

theorem refl (sceneId : CStr) (graph : SceneGraph) : ItemFrame sceneId graph graph :=
  ⟨rfl, rfl, fun _ _ => rfl, rfl, .refl graph, rfl⟩

theorem trans
    (lower : ItemFrame sceneId first second)
    (upper : ItemFrame sceneId second third) :
    ItemFrame sceneId first third where
  sourceKeys := upper.sourceKeys.trans lower.sourceKeys
  sceneKeys := upper.sceneKeys.trans lower.sceneKeys
  others := fun id different => (upper.others id different).trans (lower.others id different)
  active := upper.active.trans lower.active
  pointers := lower.pointers.trans upper.pointers
  transitions := upper.transitions.trans lower.transitions

theorem loadFilterArrayForSource
    (sceneId : CStr)
    (graph : SceneGraph)
    (sourceId : CStr)
    (filters : Option CJson)
    (onlyIfEmpty : Bool) :
    ItemFrame sceneId graph
        (loadFilterArrayForSource graph sourceId filters onlyIfEmpty) := by
  obtain ⟨change, version, loaded⟩ :=
    loadFilterArrayForSource_eq graph sourceId filters onlyIfEmpty
  rw [loaded]
  exact ⟨HashTable.keys_modify _ _ _, rfl, fun _ _ => rfl, rfl, ⟨rfl, rfl, rfl⟩, rfl⟩

/-- Adding an item to a scene. -/
theorem addItem
    (graph : SceneGraph)
    (sceneId : CStr)
    (params : SceneItemCreateParams) :
    ItemFrame sceneId graph (graph.addItem (some sceneId) (some params)).2 := by
  have outcome : Outcome graph _ (graph.addItem (some sceneId) (some params)) :=
    Outcome.addItem _ _
  generalize graph.addItem (some sceneId) (some params) = result at outcome ⊢
  cases outcome with
  | refused => exact refl sceneId graph
  | changed change =>
      cases change with
      | addItem sourced found sourceFound fresh =>
          refine ⟨rfl, HashTable.keys_modify _ _ _, fun id different => ?_, rfl,
            ⟨rfl, rfl, rfl⟩, rfl⟩
          exact (HashTable.lookup_modify _ _ _ _).trans (if_neg different)
      | setActiveScene calls => rcases calls with calls | calls <;> cases calls
  | abandoned calls => cases calls

/-- Loading one item. -/
theorem loadItem (sceneId : CStr) (graph : SceneGraph) (item : CJson) :
    ItemFrame sceneId graph (loadItem sceneId graph item) := by
  have added := addItem graph sceneId (itemParams item)
  cases offered : graph.addItem (some sceneId) (some (itemParams item)) with
  | mk code after =>
      rw [offered] at added
      simp only [Config.loadItem, offered]
      cases (itemParams item).sourceId with
      | none => exact added
      | some sourceId =>
          cases code with
          | ok => exact added.trans (loadFilterArrayForSource _ _ _ _ _)
          | _ => exact added

theorem foldl_loadItem (sceneId : CStr) (graph : SceneGraph) (items : List CJson) :
    ItemFrame sceneId graph (items.foldl (Config.loadItem sceneId) graph) := by
  induction items generalizing graph with
  | nil => exact refl sceneId graph
  | cons item rest ih =>
      exact (loadItem sceneId graph item).trans (ih _)

end ItemFrame

/-- The id and source of an item. -/
def slot (item : SceneItemState) : CStr × Option CStr :=
  (item.id, some item.sourceId)

/-- The id and source that an item of a bundle asks for. -/
def listedSlot (item : CJson) : CStr × Option CStr :=
  (effectiveId item, CJson.str (some item) "source_id")

/-- The items of the scene after one item was offered to it. -/
private theorem loadItem_slots
    {sceneId : CStr}
    {item : CJson}
    {scene : SceneState}
    (found : graph.scenes.lookup sceneId = some scene)
    (sourced : ∃ sourceId ∈ graph.sources.keys,
      CJson.str (some item) "source_id" = some sourceId)
    (free : ∀ id, CJson.str (some item) "id" = some id →
      id ∉ scene.items.map SceneItemState.id) :
    ∃ grown, (loadItem sceneId graph item).scenes.lookup sceneId = some grown ∧
      (grown.items.map slot).Perm (listedSlot item :: scene.items.map slot) := by
  obtain ⟨sourceId, listed, named⟩ := sourced
  obtain ⟨source, sourceFound⟩ := HashTable.mem_keys_iff.mp listed
  have fresh : ∀ id, CJson.str (some item) "id" = some id → scene.findItem id = none := by
    intro id given
    have missing := free id given
    rw [← isSome_findItem] at missing
    simpa using missing
  have loaded := loadItem_eq graph named found sourceFound fresh
  obtain ⟨change, version, filtered⟩ := loadFilterArrayForSource_eq
    (graph.modifyScene sceneId
      (·.addItem (newItem (itemParams item) source sourceId))).bumpVersion
    sourceId (CJson.getObjectItem (some item) "filters") true
  refine ⟨scene.addItem (newItem (itemParams item) source sourceId), ?_, ?_⟩
  · rw [loaded, filtered]
    change (graph.scenes.modify sceneId _).lookup sceneId = _
    rw [HashTable.lookup_modify, if_pos rfl, found]
    rfl
  · have sorted := PtrArray.map_sort_perm ItemBelow slot
      (scene.items ++ [newItem (itemParams item) source sourceId])
    refine sorted.trans ?_
    have added : slot (newItem (itemParams item) source sourceId) = listedSlot item := by
      simp only [slot, listedSlot, newItem, named]
      rfl
    rw [List.map_append, List.map_singleton, added]
    exact List.perm_append_singleton _ _

/-- Only membership of the ids already taken matters. -/
theorem idsFree_congr
    {taken other : List CStr}
    (same : ∀ id, id ∈ taken ↔ id ∈ other)
    (items : List CJson) :
    IdsFree taken items ↔ IdsFree other items := by
  induction items generalizing taken other with
  | nil => rfl
  | cons item rest ih =>
      have grown : ∀ id, id ∈ effectiveId item :: taken ↔ id ∈ effectiveId item :: other := by
        intro id
        rw [List.mem_cons, List.mem_cons, same]
      simp only [IdsFree, same, ih grown]

private theorem map_fst_slot (items : List SceneItemState) :
    (items.map slot).map Prod.fst = items.map SceneItemState.id := by
  rw [List.map_map]
  rfl

/-- The items of a scene after its listed items were offered: none is lost
exactly when the explicit ids are free. -/
theorem foldl_loadItem_slots
    {sceneId : CStr}
    {scene : SceneState}
    {items : List CJson}
    (found : graph.scenes.lookup sceneId = some scene)
    (sourced : ∀ item ∈ items, ∃ sourceId ∈ graph.sources.keys,
      CJson.str (some item) "source_id" = some sourceId) :
    ∃ final,
      (items.foldl (loadItem sceneId) graph).scenes.lookup sceneId = some final ∧
      final.items.length ≤ scene.items.length + items.length ∧
      (final.items.length = scene.items.length + items.length ↔
        IdsFree (scene.items.map SceneItemState.id) items) ∧
      (IdsFree (scene.items.map SceneItemState.id) items →
        (final.items.map slot).Perm (scene.items.map slot ++ items.map listedSlot)) := by
  induction items generalizing graph scene with
  | nil => exact ⟨scene, found, by simp, by simp [IdsFree], by simp⟩
  | cons item rest ih =>
      rw [List.forall_mem_cons] at sourced
      obtain ⟨itemSourced, restSourced⟩ := sourced
      by_cases free : ∀ id, CJson.str (some item) "id" = some id →
          id ∉ scene.items.map SceneItemState.id
      · obtain ⟨grown, grownFound, grownSlots⟩ :=
          loadItem_slots graph found itemSourced free
        have sameKeys := (ItemFrame.loadItem sceneId graph item).sourceKeys
        rw [← sameKeys] at restSourced
        obtain ⟨final, finalFound, bound, complete, slots⟩ :=
          ih _ grownFound restSourced
        have length : grown.items.length = scene.items.length + 1 := by
          simpa using grownSlots.length_eq
        have grownIds : ∀ id, id ∈ grown.items.map SceneItemState.id ↔
            id ∈ effectiveId item :: scene.items.map SceneItemState.id := by
          intro id
          rw [← map_fst_slot, ← map_fst_slot, (grownSlots.map Prod.fst).mem_iff]
          rfl
        have restFree : IdsFree (scene.items.map SceneItemState.id) (item :: rest) ↔
            IdsFree (grown.items.map SceneItemState.id) rest := by
          rw [idsFree_congr grownIds]
          exact and_iff_right free
        refine ⟨final, finalFound, ?_, ?_, ?_⟩
        · rw [List.length_cons]
          omega
        · rw [restFree, ← complete, List.length_cons, length]
          omega
        · intro idsFree
          refine (slots (restFree.mp idsFree)).trans ?_
          refine (grownSlots.append_right _).trans ?_
          rw [List.cons_append, List.map_cons]
          exact List.perm_middle.symm
      · push Not at free
        obtain ⟨id, named, taken⟩ := free
        have unchanged := loadItem_refused graph found named
          ((isSome_findItem scene id).mpr taken)
        obtain ⟨final, finalFound, bound, _, _⟩ :=
          ih graph found restSourced
        have notFree : ¬IdsFree (scene.items.map SceneItemState.id) (item :: rest) :=
          fun idsFree => idsFree.1 id named taken
        rw [List.foldl_cons, unchanged, List.length_cons]
        refine ⟨final, finalFound, by omega, ⟨fun equal => ?_, fun idsFree => ?_⟩, ?_⟩
        · omega
        · exact absurd idsFree notFree
        · exact fun idsFree => absurd idsFree notFree

/-- What the loader does to a graph when it offers scenes under some keys. -/
structure SceneFrame
    (keys : List (Option CStr))
    (before after : SceneGraph) : Prop where
  /-- No source is added or removed. -/
  sourceKeys : after.sources.keys = before.sources.keys
  /-- Accepted keys are added. -/
  sceneKeys : after.scenes.keys = acceptKeys before.scenes.keys keys
  /-- Scenes under other keys are unchanged. -/
  others : ∀ id, some id ∉ keys → after.scenes.lookup id = before.scenes.lookup id
  /-- The active scene exists if it did before. -/
  active : Named before.scenes before.activeSceneId → Named after.scenes after.activeSceneId
  /-- The other pointers are unchanged. -/
  pointers : SamePointers before after
  /-- The transitions are unchanged. -/
  transitions : after.transitions = before.transitions

/-- Loading one scene. -/
theorem loadScene_frame (graph : SceneGraph) (entry : Option CStr × CJson) :
    SceneFrame [entry.1] graph (loadScene graph entry) := by
  obtain ⟨key, value⟩ := entry
  by_cases creatable : Creatable graph.scenes key
  · obtain ⟨id, rfl, valid, absent⟩ := creatable
    obtain ⟨version, loaded⟩ := loadScene_eq graph valid absent value
    rw [loaded]
    have frame := ItemFrame.foldl_loadItem id
      { graph with
        scenes := graph.scenes.insert id (openedScene id value)
        activeSceneId := some (graph.activeSceneId.getD id)
        version := version }
      (sceneItems value)
    have sceneKeys := frame.sceneKeys
    rw [HashTable.keys_insert absent] at sceneKeys
    refine ⟨frame.sourceKeys, ?_, fun other different => ?_, fun named => ?_,
      ⟨frame.pointers.preview, frame.pointers.default, frame.pointers.runtime⟩,
      frame.transitions⟩
    · exact sceneKeys.trans (acceptKeys_creatable valid absent).symm
    · have ne : other ≠ id := fun equal => different (equal ▸ List.mem_singleton_self _)
      refine (frame.others other ne).trans ?_
      exact (HashTable.lookup_insert _ _ _ _).trans (if_neg ne)
    · intro active isActive
      refine HashTable.mem_keys_iff.mp ?_
      have same : some (graph.activeSceneId.getD id) = some active :=
        frame.active.symm.trans isActive
      refine sceneKeys ▸ ?_
      cases before : graph.activeSceneId with
      | none =>
          rw [before] at same
          cases same
          exact List.mem_cons_self
      | some old =>
          rw [before] at same
          cases same
          exact List.mem_cons_of_mem _ (HashTable.mem_keys_iff.mpr (named _ before))
  · rw [loadScene_refused graph creatable]
    exact ⟨rfl, (acceptKeys_refused creatable).symm, fun _ _ => rfl, fun named => named,
      .refl graph, rfl⟩

/-- Loading a list of scenes. -/
theorem foldl_loadScene_frame
    (listed : List (Option CStr × CJson)) :
    SceneFrame (listed.map Prod.fst) graph (listed.foldl loadScene graph) := by
  induction listed generalizing graph with
  | nil => exact ⟨rfl, rfl, fun _ _ => rfl, fun named => named, .refl graph, rfl⟩
  | cons entry rest ih =>
      have first := loadScene_frame graph entry
      have later := ih (loadScene graph entry)
      refine ⟨later.sourceKeys.trans first.sourceKeys, ?_, fun id different => ?_,
        fun named => later.active (first.active named), first.pointers.trans later.pointers,
        later.transitions.trans first.transitions⟩
      · rw [List.map_cons, acceptKeys_cons, ← first.sceneKeys]
        exact later.sceneKeys
      · rw [List.map_cons, List.mem_cons, not_or] at different
        have notFirst : some id ∉ [entry.1] := by
          rw [List.mem_singleton]
          exact different.1
        exact (later.others id different.2).trans (first.others id notFirst)

/-- When all keys are accepted, every scene ends up with the items that its own
entry loaded. -/
theorem foldl_loadScene_items
    {listed : List (Option CStr × CJson)}
    (loadable : KeysLoadable (listed.map Prod.fst))
    (unused : ∀ id ∈ graph.scenes.keys, some id ∉ listed.map Prod.fst)
    {value : CJson}
    (member : (some id, value) ∈ listed) :
    ∃ before : SceneGraph,
      before.scenes.lookup id = some (openedScene id value) ∧
      before.sources.keys = graph.sources.keys ∧
      (listed.foldl loadScene graph).scenes.lookup id =
        ((sceneItems value).foldl (loadItem id) before).scenes.lookup id := by
  induction listed generalizing graph with
  | nil => cases member
  | cons entry rest ih =>
      obtain ⟨valid, distinct⟩ := loadable
      rw [List.map_cons, List.nodup_cons] at distinct
      obtain ⟨key, entryValue⟩ := entry
      have accepted : AllAccepted graph.scenes.keys (key :: rest.map Prod.fst) :=
        ⟨⟨valid, List.nodup_cons.mpr distinct⟩, unused⟩
      obtain ⟨first, rfl, firstValid⟩ := valid key List.mem_cons_self
      have fresh : first ∉ graph.scenes.keys := fun present =>
        unused first present List.mem_cons_self
      have absent := HashTable.lookup_eq_none_iff.mpr fresh
      rcases List.mem_cons.mp member with equal | later
      · cases equal
        obtain ⟨version, loaded⟩ := loadScene_eq graph firstValid absent value
        let opened := { graph with
          scenes := graph.scenes.insert id (openedScene id value)
          activeSceneId := some (graph.activeSceneId.getD id)
          version := version }
        have found : opened.scenes.lookup id = some (openedScene id value) := by
          rw [HashTable.lookup_insert, if_pos rfl]
        refine ⟨opened, found, rfl, ?_⟩
        rw [List.foldl_cons, (foldl_loadScene_frame _ rest).others id distinct.1, loaded]
        rfl
      · have frame := loadScene_frame graph (some first, entryValue)
        rw [allAccepted_cons firstValid fresh] at accepted
        have keys := frame.sceneKeys
        rw [acceptKeys_creatable firstValid absent] at keys
        rw [← keys] at accepted
        obtain ⟨before, found, sourceKeys, final⟩ :=
          ih _ accepted.1 accepted.2 later
        exact ⟨before, found, sourceKeys.trans frame.sourceKeys, final⟩

/-- Transitions and outputs leave sources, scenes and selection alone. -/
structure RestFrame (before after : SceneGraph) : Prop where
  sources : after.sources = before.sources
  scenes : after.scenes = before.scenes
  active : after.activeSceneId = before.activeSceneId
  pointers : SamePointers before after

namespace RestFrame

theorem refl (graph : SceneGraph) : RestFrame graph graph :=
  ⟨rfl, rfl, rfl, .refl graph⟩

theorem trans
    {first second third : SceneGraph}
    (lower : RestFrame first second)
    (upper : RestFrame second third) :
    RestFrame first third :=
  ⟨upper.sources.trans lower.sources, upper.scenes.trans lower.scenes,
    upper.active.trans lower.active, lower.pointers.trans upper.pointers⟩

theorem loadTransition (graph : SceneGraph) (entry : Option CStr × CJson) :
    RestFrame graph (loadTransition graph entry) := by
  unfold Config.loadTransition createTransition
  dsimp only
  split
  · exact refl graph
  · split
    · exact refl graph
    · split
      · exact refl graph
      · exact ⟨rfl, rfl, rfl, ⟨rfl, rfl, rfl⟩⟩

theorem createOutput (graph : SceneGraph) (params : OutputCreateParams) :
    RestFrame graph (graph.createOutput (some params)).2 := by
  unfold SceneGraph.createOutput
  dsimp only
  split
  · exact refl graph
  · split
    · exact refl graph
    · split
      · exact refl graph
      · exact ⟨rfl, rfl, rfl, ⟨rfl, rfl, rfl⟩⟩

theorem loadOutput (graph : SceneGraph) (entry : Option CStr × CJson) :
    RestFrame graph (loadOutput graph entry) := by
  let params : OutputCreateParams := {
    id := entry.1
    name := CJson.str (some entry.2) "name"
    enabled := CJson.boolean (some entry.2) "enabled" true
    autostart := CJson.boolean (some entry.2) "autostart" false }
  have created := createOutput graph params
  cases offered : graph.createOutput (some params) with
  | mk code after =>
      rw [offered] at created
      simp only [params] at offered
      simp only [Config.loadOutput, offered]
      cases entry.1 with
      | none => exact created
      | some id =>
          cases code with
          | ok => exact created.trans ⟨rfl, rfl, rfl, ⟨rfl, rfl, rfl⟩⟩
          | _ => exact created

theorem foldl
    {step : SceneGraph → Option CStr × CJson → SceneGraph}
    (keeps : ∀ graph entry, RestFrame graph (step graph entry))
    (graph : SceneGraph)
    (listed : List (Option CStr × CJson)) :
    RestFrame graph (listed.foldl step graph) := by
  induction listed generalizing graph with
  | nil => exact refl graph
  | cons entry rest ih =>
      exact (keeps graph entry).trans (ih _)

end RestFrame

/-! ## The whole bundle -/

/-- What the validator checks of the state object of a bundle. -/
structure ValidState (state : CJson) : Prop where
  /-- The state is an object. -/
  object : CJson.isObject (some state) = true
  /-- Every source has a known kind. -/
  kinds : ∀ entry ∈ entries state "sources",
    (parseSourceKind (CJson.str (some entry.2) "type")).isSome = true
  /-- Every item names a listed source. -/
  items : ∀ entry ∈ entries state "scenes", ∀ item ∈ sceneItems entry.2,
    ∃ sourceId, CJson.str (some item) "source_id" = some sourceId ∧
      some sourceId ∈ (entries state "sources").map Prod.fst

/-- A member that is found is one of the children. -/
theorem mem_children_of_getObjectItem
    {object : Option CJson}
    {key : CStr}
    (found : (CJson.getObjectItem object key).isSome = true) :
    some key ∈ (CJson.children object).map Prod.fst := by
  unfold CJson.getObjectItem at found
  split at found
  · next members =>
      rw [Option.isSome_map, List.find?_isSome] at found
      obtain ⟨member, present, named⟩ := found
      have named : member.1 = key := by simpa using named
      rw [CJson.children, List.map_map, List.mem_map]
      exact ⟨member, present, congrArg some named⟩
  · cases found

theorem validState_of_validateBundle
    {bundle state : CJson}
    (stateMember : CJson.getObjectItem (some bundle) "state" = some state)
    (valid : validateBundle bundle = .ok) :
    ValidState state := by
  unfold validateBundle at valid
  rw [stateMember] at valid
  dsimp only at valid
  have accepted : ∀ {condition : Bool} {next : SbsResult},
      (if condition = true then SbsResult.inval else next) = .ok →
        condition = false ∧ next = .ok := by
    intro condition next result
    cases condition with
    | false => exact ⟨rfl, result⟩
    | true => cases result
  obtain ⟨_, valid⟩ := accepted valid
  obtain ⟨_, valid⟩ := accepted valid
  obtain ⟨_, valid⟩ := accepted valid
  obtain ⟨object, valid⟩ := accepted valid
  obtain ⟨_, valid⟩ := accepted valid
  obtain ⟨kinds, valid⟩ := accepted valid
  obtain ⟨items, _⟩ := accepted valid
  rw [Bool.not_eq_false'] at object
  rw [Bool.not_eq_false', List.all_eq_true] at kinds items
  refine ⟨object, kinds, fun entry member item listed => ?_⟩
  have scene := items entry member
  unfold validScene at scene
  simp only [Bool.and_eq_true, List.all_eq_true] at scene
  have checked := scene.2 item listed
  unfold validItem at checked
  split at checked
  · cases checked
  · next sourceId named =>
      exact ⟨sourceId, named, mem_children_of_getObjectItem checked⟩

/-- The graph from which the scenes of a valid state are loaded. -/
theorem applySceneGraphBundle_eq
    (target : SceneGraph)
    {state : CJson}
    (valid : ValidState state) :
    ∃ loaded : SceneGraph,
      applySceneGraphBundle target state = (.ok, loadRest loaded state) ∧
      loaded.sources.keys = acceptKeys [] ((entries state "sources").map Prod.fst) ∧
      loaded.scenes = .empty ∧
      loaded.activeSceneId = none ∧
      loaded.previewSceneId = none := by
  let cleared := { clearSceneGraph target with
    canvas := loadCanvas (CJson.getObjectItem (some state) "canvas") }
  obtain ⟨sources, version, result, keys⟩ :=
    loadSources_keys cleared (entries state "sources") valid.kinds
  refine ⟨{ cleared with sources := sources, version := version }, ?_, keys, rfl, rfl, rfl⟩
  exact applySceneGraphBundle_of_loadSources valid.object result

/-- What `loadRest` adds to a graph without scenes. -/
theorem loadRest_frame
    (loaded : SceneGraph)
    (state : CJson) :
    ∃ withScenes : SceneGraph,
      withScenes = (entries state "scenes").foldl loadScene loaded ∧
      (loadRest loaded state).sources = withScenes.sources ∧
      (loadRest loaded state).scenes = withScenes.scenes ∧
      (loadRest loaded state).activeSceneId =
        (selectedScene state "active_scene_id").or withScenes.activeSceneId ∧
      (loadRest loaded state).previewSceneId =
        (selectedScene state "preview_scene_id").or withScenes.previewSceneId := by
  refine ⟨_, rfl, ?_⟩
  have transitions := RestFrame.foldl RestFrame.loadTransition
    ((entries state "scenes").foldl loadScene loaded) (entries state "transitions")
  have outputs := RestFrame.foldl RestFrame.loadOutput
    ((entries state "transitions").foldl loadTransition
      ((entries state "scenes").foldl loadScene loaded)) (entries state "output_groups")
  have rest := transitions.trans outputs
  refine ⟨rest.sources, rest.scenes, ?_, ?_⟩
  · exact congrArg (Option.or _) rest.active
  · exact congrArg (Option.or _) rest.pointers.preview

/-- The items that a listed scene ends up with. -/
theorem scene_slots
    (loaded : SceneGraph)
    {state : CJson}
    (valid : ValidState state)
    (available : ∀ id, some id ∈ (entries state "sources").map Prod.fst →
      id ∈ loaded.sources.keys)
    (noScenes : loaded.scenes = .empty)
    (loadable : KeysLoadable ((entries state "scenes").map Prod.fst))
    {value : CJson}
    (member : (some id, value) ∈ entries state "scenes") :
    ∃ final,
      ((entries state "scenes").foldl loadScene loaded).scenes.lookup id = some final ∧
      (final.items.length = (sceneItems value).length ↔ IdsFree [] (sceneItems value)) ∧
      (IdsFree [] (sceneItems value) →
        (final.items.map slot).Perm ((sceneItems value).map listedSlot)) := by
  have unused : ∀ id ∈ loaded.scenes.keys,
      some id ∉ (entries state "scenes").map Prod.fst := by
    rw [noScenes]
    intro id present
    cases present
  obtain ⟨before, opened, sourceKeys, result⟩ :=
    foldl_loadScene_items loaded loadable unused member
  have sourced : ∀ item ∈ sceneItems value, ∃ sourceId ∈ before.sources.keys,
      CJson.str (some item) "source_id" = some sourceId := by
    intro item listed
    obtain ⟨sourceId, named, known⟩ := valid.items _ member item listed
    exact ⟨sourceId, sourceKeys ▸ available sourceId known, named⟩
  obtain ⟨final, found, _, complete, slots⟩ := foldl_loadItem_slots before opened sourced
  have empty : (openedScene id value).items = [] := rfl
  rw [empty] at complete slots
  refine ⟨final, result.trans found, ?_, ?_⟩
  · simpa using complete
  · simpa using slots

/-- A graph with the sources of a state, and nothing else. -/
structure SourcesLoaded (state : CJson) (loaded : SceneGraph) : Prop where
  keys : loaded.sources.keys = acceptKeys [] ((entries state "sources").map Prod.fst)
  noScenes : loaded.scenes = .empty
  noActive : loaded.activeSceneId = none
  noPreview : loaded.previewSceneId = none

namespace SourcesLoaded

variable {state : CJson} {loaded : SceneGraph}

theorem sourceKeys_loadRest (sources : SourcesLoaded state loaded) :
    (loadRest loaded state).sources.keys =
      acceptKeys [] ((entries state "sources").map Prod.fst) := by
  obtain ⟨_, rfl, same, -⟩ := loadRest_frame loaded state
  have frame := foldl_loadScene_frame loaded (entries state "scenes")
  rw [same, frame.sourceKeys, sources.keys]

theorem sceneKeys_loadRest (sources : SourcesLoaded state loaded) :
    (loadRest loaded state).scenes.keys =
      acceptKeys [] ((entries state "scenes").map Prod.fst) := by
  obtain ⟨_, rfl, -, same, -⟩ := loadRest_frame loaded state
  have frame := foldl_loadScene_frame loaded (entries state "scenes")
  rw [same, frame.sceneKeys, sources.noScenes]
  rfl

/-- Every listed source is there if the keys are valid and differ. -/
theorem available
    (sources : SourcesLoaded state loaded)
    (loadable : KeysLoadable ((entries state "sources").map Prod.fst))
    (id : CStr)
    (listed : some id ∈ (entries state "sources").map Prod.fst) :
    id ∈ loaded.sources.keys := by
  have perm := (acceptKeys_perm_iff _).mpr loadable
  rw [← sources.keys] at perm
  simpa using perm.mem_iff.mpr listed

theorem loadable_of_fullyLoaded
    (sources : SourcesLoaded state loaded)
    (valid : ValidState state)
    (full : FullyLoaded state (.ok, loadRest loaded state)) :
    Loadable state := by
  obtain ⟨_, rfl, -, scenes, active, preview⟩ := loadRest_frame loaded state
  have sourcesLoadable := (acceptKeys_perm_iff _).mp (sources.sourceKeys_loadRest ▸ full.sources)
  have scenesLoadable := (acceptKeys_perm_iff _).mp (sources.sceneKeys_loadRest ▸ full.scenes)
  have listedScene : ∀ id, id ∈ (loadRest loaded state).scenes.keys →
      some id ∈ (entries state "scenes").map Prod.fst := by
    intro id present
    exact full.scenes.mem_iff.mp (List.mem_map_of_mem present)
  refine ⟨sourcesLoadable, scenesLoadable, ?_, ?_, ?_⟩
  · rintro ⟨key, value⟩ member
    obtain ⟨id, rfl, _⟩ := scenesLoadable.1 key (List.mem_map_of_mem member)
    obtain ⟨final, found, complete, _⟩ := scene_slots loaded valid
      (sources.available sourcesLoadable) sources.noScenes scenesLoadable member
    obtain ⟨scene, stored, slots⟩ := full.items id value member
    have same : scene = final := by
      rw [scenes, found] at stored
      exact (Option.some.inj stored).symm
    rw [← complete, ← same]
    simpa using slots.length_eq
  · intro id selected
    have isActive : (loadRest loaded state).activeSceneId = some id := by
      rw [active, selected]
      rfl
    exact listedScene id (HashTable.mem_keys_iff.mpr (full.activeExists id isActive))
  · intro id selected
    have isPreview : (loadRest loaded state).previewSceneId = some id := by
      rw [preview, selected]
      rfl
    exact listedScene id (HashTable.mem_keys_iff.mpr (full.previewExists id isPreview))

theorem fullyLoaded_of_loadable
    (sources : SourcesLoaded state loaded)
    (valid : ValidState state)
    (loadable : Loadable state) :
    FullyLoaded state (.ok, loadRest loaded state) := by
  obtain ⟨_, rfl, -, scenes, active, preview⟩ := loadRest_frame loaded state
  have frame := foldl_loadScene_frame loaded (entries state "scenes")
  have sourcesPerm := sources.sourceKeys_loadRest ▸ (acceptKeys_perm_iff _).mpr loadable.sources
  have scenesPerm := sources.sceneKeys_loadRest ▸ (acceptKeys_perm_iff _).mpr loadable.scenes
  have createdScene : ∀ id, some id ∈ (entries state "scenes").map Prod.fst →
      ∃ scene, (loadRest loaded state).scenes.lookup id = some scene := by
    intro id listed
    have present := scenesPerm.mem_iff.mpr listed
    exact HashTable.mem_keys_iff.mp (by simpa using present)
  have created : ∀ id value, (some id, value) ∈ entries state "scenes" →
      ∃ scene, (loadRest loaded state).scenes.lookup id = some scene ∧
        (scene.items.map slot).Perm ((sceneItems value).map listedSlot) := by
    intro id value member
    obtain ⟨final, found, _, slots⟩ := scene_slots loaded valid
      (sources.available loadable.sources) sources.noScenes loadable.scenes member
    refine ⟨final, ?_, slots (loadable.items _ member)⟩
    rw [scenes]
    exact found
  refine ⟨rfl, sourcesPerm, scenesPerm, created, ?_, ?_, ?_⟩
  · intro id scene stored item present
    have listed : some id ∈ (entries state "scenes").map Prod.fst := by
      refine scenesPerm.mem_iff.mp (List.mem_map_of_mem ?_)
      exact HashTable.mem_keys_iff.mpr ⟨scene, stored⟩
    obtain ⟨⟨key, value⟩, member, named⟩ := List.mem_map.mp listed
    dsimp only at named
    subst named
    obtain ⟨final, found, slots⟩ := created id value member
    rw [stored] at found
    cases found
    obtain ⟨listedItem, among, sameSlot⟩ :=
      List.mem_map.mp (slots.mem_iff.mp (List.mem_map_of_mem present))
    have shows : CJson.str (some listedItem) "source_id" = some item.sourceId :=
      congrArg Prod.snd sameSlot
    obtain ⟨sourceId, given, known⟩ := valid.items _ member listedItem among
    rw [shows] at given
    cases given
    have sourcePresent := sourcesPerm.mem_iff.mpr known
    exact HashTable.mem_keys_iff.mp (by simpa using sourcePresent)
  · intro id isActive
    rw [active] at isActive
    cases selected : selectedScene state "active_scene_id" with
    | some chosen =>
        rw [selected] at isActive
        cases isActive
        exact createdScene id (loadable.active id selected)
    | none =>
        rw [selected] at isActive
        rw [scenes]
        refine frame.active ?_ id isActive
        rw [sources.noActive]
        exact Named.null _
  · intro id isPreview
    rw [preview] at isPreview
    cases selected : selectedScene state "preview_scene_id" with
    | some chosen =>
        rw [selected] at isPreview
        cases isPreview
        exact createdScene id (loadable.preview id selected)
    | none =>
        rw [selected, frame.pointers.preview, sources.noPreview] at isPreview
        cases isPreview

end SourcesLoaded

/-- For every bundle that is validated (migrated or not), the loader succeeds,
creates everything that is listed and leaves no dangling reference exactly when
the bundle is loadable. -/
theorem fullyLoaded_iff_loadable
    (target : SceneGraph)
    {bundle state : CJson}
    (stateMember : CJson.getObjectItem (some bundle) "state" = some state)
    (validated : validateBundle bundle = .ok) :
    FullyLoaded state (applySceneGraphBundle target state) ↔ Loadable state := by
  have valid := validState_of_validateBundle stateMember validated
  obtain ⟨loaded, result, keys, noScenes, noActive, noPreview⟩ :=
    applySceneGraphBundle_eq target valid
  have sources : SourcesLoaded state loaded := ⟨keys, noScenes, noActive, noPreview⟩
  rw [result]
  constructor
  · intro full
    exact sources.loadable_of_fullyLoaded valid full
  · intro loadable
    exact sources.fullyLoaded_of_loadable valid loadable

/-- A bundle around a state object. -/
def bundleOf (state : CJson) : CJson :=
  .object [
    ("schema_version", .ofInt 1),
    ("kind", .string "sbs-config"),
    ("state", state)]

/-- An item of a bundle, with or without an id. -/
def bundleItem (id : Option CStr) (sourceId : CStr) : CJson :=
  let shows : List (CStr × CJson) := [("source_id", .string sourceId)]
  .object (match id with
    | some id => ("id", .string id) :: shows
    | none => shows)

/-- A state with two sources, two scenes and both selections. -/
def studioState : CJson :=
  .object [
    ("sources", .object [
      ("camera", .object [("type", .string "videotestsrc")]),
      ("desk", .object [("type", .string "v4l2src")])]),
    ("scenes", .object [
      ("main", .object [("items", .array [
        bundleItem (some "left") "camera",
        bundleItem (some "right") "desk",
        bundleItem none "camera"])]),
      ("pause", .object [("items", .array [
        bundleItem (some "left") "desk",
        bundleItem none "camera"])])]),
    ("state", .object [
      ("active_scene_id", .string "main"),
      ("preview_scene_id", .string "pause")])]

/-- The studio is loaded completely, with its items and its selections. -/
theorem fullyLoaded_studio :
    let result := applySceneGraphBundle newDefault studioState
    FullyLoaded studioState result ∧
      result.2.activeSceneId = some (CStr.lit "main") ∧
      result.2.previewSceneId = some (CStr.lit "pause") ∧
      (result.2.scenes.lookup "main").map (fun scene => scene.items.map SceneItemState.id) =
        some [CStr.lit "item-auto", CStr.lit "left", CStr.lit "right"] := by
  have accepted := @fullyLoaded_iff_loadable newDefault (bundleOf studioState) studioState
    rfl (by decide +kernel)
  have sourceKeys : (entries studioState "sources").map Prod.fst =
      [some (CStr.lit "camera"), some (CStr.lit "desk")] := rfl
  have sceneKeys : (entries studioState "scenes").map Prod.fst =
      [some (CStr.lit "main"), some (CStr.lit "pause")] := rfl
  have valid : ∀ {id : CStr}, validGraphId id = true →
      ∃ name, some id = some name ∧ validGraphId name = true :=
    fun holds => ⟨_, rfl, holds⟩
  have sources : KeysLoadable ((entries studioState "sources").map Prod.fst) := by
    rw [sourceKeys]
    refine ⟨?_, by decide⟩
    rw [List.forall_mem_cons, List.forall_mem_singleton]
    exact ⟨valid (by decide +kernel), valid (by decide +kernel)⟩
  have scenes : KeysLoadable ((entries studioState "scenes").map Prod.fst) := by
    rw [sceneKeys]
    refine ⟨?_, by decide⟩
    rw [List.forall_mem_cons, List.forall_mem_singleton]
    exact ⟨valid (by decide +kernel), valid (by decide +kernel)⟩
  have items : ∀ entry ∈ entries studioState "scenes", IdsFree [] (sceneItems entry.2) := by
    change ∀ entry ∈ [(some (CStr.lit "main"), _), (some (CStr.lit "pause"), _)], _
    rw [List.forall_mem_cons, List.forall_mem_singleton]
    constructor
    · refine ⟨fun _ _ => List.not_mem_nil, ?_, nofun, trivial⟩
      intro id given
      obtain rfl : CStr.lit "right" = id := Option.some.inj given
      decide
    · exact ⟨fun _ _ => List.not_mem_nil, nofun, trivial⟩
  refine ⟨accepted.mpr ⟨sources, scenes, items, ?_, ?_⟩, by decide +kernel, by decide +kernel,
    by decide +kernel⟩
  · intro id selected
    obtain rfl : CStr.lit "main" = id := Option.some.inj selected
    rw [sceneKeys]
    decide
  · intro id selected
    obtain rfl : CStr.lit "pause" = id := Option.some.inj selected
    rw [sceneKeys]
    decide

/-- A state with one listed source and no scenes. -/
def oneSourceState (key : CStr) : CJson :=
  .object [
    ("sources", .object [(key, .object [("type", .string "videotestsrc")])]),
    ("scenes", .object [])]

/-- A source key with a space passes the validator and is skipped by the
loader. -/
theorem skipped_source :
    validateBundle (bundleOf (oneSourceState "front camera")) = .ok ∧
      migrateBundle (bundleOf (oneSourceState "front camera")) = .ok ∧
      ¬FullyLoaded (oneSourceState "front camera")
        (applySceneGraphBundle newDefault (oneSourceState "front camera")) := by
  refine ⟨by decide +kernel, by decide +kernel, fun full => ?_⟩
  have created := full.sources.length_eq
  revert created
  decide +kernel

end Config
end SbsServer
