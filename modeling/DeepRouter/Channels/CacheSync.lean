import DeepRouter.Channels.AbilityProjection
import DeepRouter.Channels.Cache

/-! # Rebuilding the cache while the tables change

Between the two reads of a rebuild any other statement can run. -/

namespace DeepRouter.Channels

open KeyedTable Runs List Table

inductive Statement where
  | createChannel (channel : Channel)
  | createAbilities (chunk : List Ability)
  | deleteChannel (id : Int)
  | deleteAbilities (id : Int)
  | truncateAbilities
  | findChannels
  | deleteAbilitiesIn (ids : List Int)

inductive TableOp where
  | insert (channel : Channel)
  | delete (id : Int)
  | fixAbility

def TableOp.isFix : TableOp → Bool
  | fixAbility => true
  | _ => false

def Channel.addStatements (channel : Channel) : List Statement :=
  (channel.listedAbilities.toChunks 50).map .createAbilities

def TableOp.statements : TableOp → List Statement
  | insert channel => .createChannel channel.withDefaults :: channel.withDefaults.addStatements
  | delete id => if id = 0 then [] else [.deleteChannel id, .deleteAbilities id]
  | fixAbility => [.truncateAbilities, .findChannels]

def repairStatements (channels : List Channel) : List Statement :=
  (channels.toChunks 50).flatMap fun chunk =>
    .deleteAbilitiesIn (chunk.map Channel.id) :: chunk.flatMap Channel.addStatements

def ChannelStore.exec (store : ChannelStore) (rest : List Statement) :
    Statement → ChannelStore × List Statement
  | .createChannel channel =>
    if channel.id = 0 then (store, [])
    else
      match store.channels.insert? channel with
      | some channels => ({ store with channels }, rest)
      | none => (store, [])
  | .createAbilities chunk => ({ store with abilities := store.abilities.insertMissing chunk }, rest)
  | .deleteChannel id =>
    ({ store with channels := store.channels.keep fun channel => channel.id ≠ id }, rest)
  | .deleteAbilities id =>
    ({ store with abilities := ChannelStore.deleteAbilities id store.abilities }, rest)
  | .truncateAbilities => ({ store with abilities := .empty _ }, rest)
  | .findChannels => (store, repairStatements store.channels.rows ++ rest)
  | .deleteAbilitiesIn ids =>
    ({ store with abilities := store.abilities.keep fun ability => ability.channelId ∉ ids }, rest)

structure SyncState where
  store : ChannelStore
  running : List (TableOp × List Statement) := []
  reading : List (Table Channel.id) := []
  observed : List (Table Channel.id × Table Ability.key) := []

inductive SyncStep where
  | begin (op : TableOp)
  | advance (k : Nat)
  | readChannels
  | readAbilities (k : Nat)

namespace SyncState

def step (s : SyncState) : SyncStep → SyncState
  | .begin op =>
    -- one repair at a time holds the lock
    if op.isFix && s.running.any (fun entry => entry.1.isFix && !entry.2.isEmpty) then s
    else { s with running := s.running ++ [(op, op.statements)] }
  | .advance k =>
    match s.running[k]? with
    | some (op, statement :: rest) =>
      { s with
        store := (s.store.exec rest statement).1
        running := s.running.set k (op, (s.store.exec rest statement).2) }
    | _ => s
  | .readChannels => { s with reading := s.reading ++ [s.store.channels] }
  | .readAbilities k =>
    match s.reading[k]? with
    | some channels =>
      { s with
        reading := s.reading.eraseIdx k
        observed := s.observed ++ [(channels, s.store.abilities)] }
    | none => s

def visible (s : SyncState) : List (Table Channel.id) := s.store.channels :: s.reading

end SyncState

def Grouped (channels : Table Channel.id) (abilities : Table Ability.key) : Prop :=
  Covers (abilities.rows.map Ability.group) channels.rows
deriving Decidable

/-- New channels come in groups with abilities, and deletions leave the visible channels others in
their groups. -/
def Statement.Keeps (s : SyncState) : Statement → Prop
  | .createChannel channel => channel.status = statusEnabled →
      ∀ group ∈ channel.groupList, group ∈ s.store.abilities.rows.map Ability.group
  | .deleteAbilities id => ∀ channels ∈ s.visible, Grouped channels
      (s.store.abilities.keep fun ability => ability.channelId ≠ id)
  | .deleteAbilitiesIn ids => ∀ channels ∈ s.visible, Grouped channels
      (s.store.abilities.keep fun ability => ability.channelId ∉ ids)
  | .truncateAbilities => ∀ channels ∈ s.visible, ∀ channel ∈ channels.rows,
      channel.status ≠ statusEnabled
  | _ => True

def SyncState.next? (s : SyncState) (k : Nat) : Option Statement :=
  s.running[k]?.bind fun entry => entry.2.head?

def SyncStep.Keeps (s : SyncState) : SyncStep → Prop
  | .advance k => ∀ statement ∈ s.next? k, statement.Keeps s
  | _ => True

instance (s : SyncState) (statement : Statement) : Decidable (statement.Keeps s) := by
  unfold Statement.Keeps
  split <;> infer_instance

instance (s : SyncState) (a : SyncStep) : Decidable (a.Keeps s) := by
  unfold SyncStep.Keeps
  split <;> infer_instance

def Rebuilt (sorter : PrioritySort) (old : Int → Option Channel) (channels : Table Channel.id)
    (abilities : Table Ability.key) : Prop :=
  ∃ cache, rebuildChannelCache sorter old channels abilities = .ok cache ∧
    ∀ group model id, id ∈ cache.group2model2channels group model ↔
      ∃ channel, channels.find? id = some channel ∧ channel.status = statusEnabled ∧
        channel.Lists group model

theorem rebuilt_iff {sorter : PrioritySort} {old : Int → Option Channel} {channels : Table Channel.id}
    {abilities : Table Ability.key} :
    Rebuilt sorter old channels abilities ↔ Grouped channels abilities := by
  constructor
  · rintro ⟨cache, hc, _⟩
    exact (rebuildChannelCache_ok hc).1
  · intro h
    obtain ⟨cache, hc⟩ := exists_rebuildChannelCache h
    exact ⟨cache, hc, fun _ _ _ => mem_rebuildChannelCache hc⟩

section

variable {store : ChannelStore} {channels : Table Channel.id} {abilities : Table Ability.key}

theorem Grouped.insertMissing (h : Grouped channels abilities) (chunk : List Ability) :
    Grouped channels (abilities.insertMissing chunk) := by
  intro ch hm hs group hg
  obtain ⟨ability, ha, rfl⟩ := mem_map.mp (h ch hm hs group hg)
  refine mem_map_of_mem (mem_of_find? (k := ability.key) ?_)
  rw [find?_insertMissing, find?_of_mem ha, Option.some_or]

theorem Grouped.keep (h : Grouped channels abilities) (p : Channel → Bool) :
    Grouped (channels.keep p) abilities := by
  intro ch hm
  exact h ch (mem_keep.mp hm).1

theorem grouped_of_projected (h : Projected store) : Grouped store.channels store.abilities := by
  intro ch hm hs group hg
  obtain ⟨model, hmo⟩ := exists_mem_of_ne_nil ch.modelList (GoStrings.split_ne_nil _ _)
  obtain ⟨ability, ha, _⟩ := (h group model ch.id).1.mpr ⟨ch, find?_of_mem hm, hs, hg, hmo⟩
  have hk : ability.key = (group, model, ch.id) := key_of_find? ha
  exact mem_map.mpr ⟨ability, mem_of_find? ha, congrArg Prod.fst hk⟩

end

structure SyncState.Kept (s : SyncState) : Prop where
  visible : ∀ channels ∈ s.visible, Grouped channels s.store.abilities
  observed : ∀ pair ∈ s.observed, Grouped pair.1 pair.2

theorem Statement.Keeps.exec {s : SyncState} {statement : Statement} (hk : statement.Keeps s)
    (h : ∀ channels ∈ s.visible, Grouped channels s.store.abilities) (rest : List Statement) :
    ∀ channels ∈ (s.store.exec rest statement).1.channels :: s.reading,
      Grouped channels (s.store.exec rest statement).1.abilities := by
  have hst := h _ mem_cons_self
  have hre : ∀ channels ∈ s.reading, Grouped channels s.store.abilities :=
    fun channels hm => h channels (mem_cons_of_mem _ hm)
  cases statement with
  | createChannel ch =>
    simp only [ChannelStore.exec]
    split
    · exact h
    split
    · rename_i channels hi
      refine forall_mem_cons.mpr ⟨?_, hre⟩
      intro row hr hs group hg
      obtain ho | rfl := (mem_insert? hi).mp hr
      · exact hst row ho hs group hg
      · exact hk hs group hg
    · exact h
  | createAbilities chunk =>
    exact fun channels hm => (h channels hm).insertMissing chunk
  | deleteChannel id =>
    exact forall_mem_cons.mpr ⟨hst.keep _, hre⟩
  | deleteAbilities id => exact hk
  | truncateAbilities =>
    intro channels hm ch hr hs
    exact absurd hs (hk channels hm ch hr)
  | findChannels => exact h
  | deleteAbilitiesIn ids => exact hk

theorem SyncState.Kept.step {s : SyncState} (h : s.Kept) {a : SyncStep} (hk : a.Keeps s) :
    (s.step a).Kept := by
  cases a with
  | begin op =>
    simp only [SyncState.step]
    split
    · exact h
    · exact ⟨h.visible, h.observed⟩
  | advance k =>
    simp only [SyncState.step]
    split
    · rename_i statement rest hr
      have hn : statement.Keeps s := hk statement (by rw [SyncState.next?, hr]; rfl)
      exact ⟨hn.exec h.visible _, h.observed⟩
    · exact h
  | readChannels =>
    refine ⟨?_, h.observed⟩
    intro channels hm
    apply h.visible
    -- what is read now is the table itself
    simp only [SyncState.step, SyncState.visible, mem_cons, mem_append, not_mem_nil,
      or_false] at hm ⊢
    obtain hm | hm | hm := hm
    · exact .inl hm
    · exact .inr hm
    · exact .inl hm
  | readAbilities k =>
    simp only [SyncState.step]
    split
    · rename_i channels hre
      constructor
      · intro channels' hm
        apply h.visible
        obtain rfl | hm := mem_cons.mp hm
        · exact mem_cons_self
        · exact mem_cons_of_mem _ (mem_of_mem_eraseIdx hm)
      · intro pair hm
        obtain hm | hm := mem_append.mp hm
        · exact h.observed pair hm
        · obtain rfl := mem_singleton.mp hm
          exact h.visible channels (mem_cons_of_mem _ (mem_of_getElem? hre))
    · exact h

/-- A rebuild ends exactly when every group that an enabled channel lists has an ability. -/
theorem cache_rebuilds (sorter : PrioritySort) (old : Int → Option Channel) :
    (∀ channels abilities, Rebuilt sorter old channels abilities ↔ Grouped channels abilities) ∧
    ∀ store, Projected store → ∀ steps : List SyncStep,
      Along SyncState.step (fun s a => a.Keeps s) { store } steps →
        ∀ pair ∈ (run SyncState.step { store } steps).observed, Rebuilt sorter old pair.1 pair.2 := by
  refine ⟨fun _ _ => rebuilt_iff, fun store hst steps hs pair hm => ?_⟩
  have hSta : SyncState.Kept { store } := by
    constructor
    · intro channels hv
      obtain rfl := mem_singleton.mp hv
      exact grouped_of_projected hst
    · intro _ ho
      cases ho
  have hke := run_invariant (fun _ _ h hk => h.step hk) hSta steps hs
  exact rebuilt_iff.mpr (hke.observed pair hm)

def defaultChannel (id : Int) : Channel :=
  { id, status := 1, models := "gpt-4o", group := "default" }

def oneChannel : ChannelStore := ChannelStore.empty.insert (defaultChannel 1)

theorem oneChannel_projected : Projected oneChannel := by
  apply Mirrored.projected
  apply mirrored_empty.insert
  intro _
  exact ⟨fun _ _ => rfl, by decide +kernel⟩

def insertWhileReading : List SyncStep :=
  [.begin (.insert (defaultChannel 2)), .advance 0, .readChannels, .advance 0, .readAbilities 0]

theorem cache_rebuilds_while_inserting :
    (run SyncState.step { store := oneChannel } insertWhileReading).observed.length = 1 ∧
      ∀ pair ∈ (run SyncState.step { store := oneChannel } insertWhileReading).observed,
        Rebuilt stableSort (fun _ => none) pair.1 pair.2 :=
  ⟨by decide +kernel, (cache_rebuilds stableSort fun _ => none).2 oneChannel oneChannel_projected
    insertWhileReading (by decide +kernel)⟩

def readWhileFixing : List SyncStep :=
  [.begin .fixAbility, .advance 0, .readChannels, .readAbilities 0]

theorem rebuild_panics_while_fixing :
    Projected oneChannel ∧
      ∃ pair ∈ (run SyncState.step { store := oneChannel } readWhileFixing).observed,
        ¬Rebuilt stableSort (fun _ => none) pair.1 pair.2 := by
  refine ⟨oneChannel_projected, (oneChannel.channels, .empty _), mem_singleton.mpr rfl, ?_⟩
  rw [rebuilt_iff]
  decide +kernel

end DeepRouter.Channels
