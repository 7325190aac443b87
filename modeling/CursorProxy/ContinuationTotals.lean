import CursorProxy.ContinuationSoundness
import CursorProxy.KeyedEntries

/-! The running total of the registry is the sum over its sessions, so that no subtraction from
it has to saturate, and eviction ends within both limits. -/
namespace CursorProxy.ContinuationTotals
open ContinuationModel ContinuationSoundness CodexRequests AtomicSections KeyedEntries

def stateBytes (session:SessionState) : ℕ :=
 (session.continuation.map ContinuationState.transcriptBytes).getD 0

/-- The running total is the sum over the stored continuations. -/
def Exact (registry:ContinuationRegistry) : Prop :=
 registry.totalTranscriptBytes=total stateBytes registry.sessions

structure Accounted (registry:ContinuationRegistry) : Prop where
 exact : Exact registry
 bytes : registry.totalTranscriptBytes ≤ maxTotalTranscriptBytes
 states : registry.sessions.keys.length ≤ maxStates

def checkedSub (minuend subtrahend:ℕ) : Option ℕ :=
 if subtrahend ≤ minuend then some (minuend-subtrahend) else none

def checkedRemove (registry:ContinuationRegistry) (sessionId:String) : Option ContinuationRegistry :=
 let state:=(registry.sessions.lookup sessionId).bind SessionState.continuation
 (checkedSub registry.totalTranscriptBytes ((state.map ContinuationState.transcriptBytes).getD 0)).map fun bytes=>
   ⟨registry.sessions.erase sessionId,bytes⟩

def checkedEvictLoop (outside:Outside) : ℕ → ContinuationRegistry → Option ContinuationRegistry
 | 0,registry=>some registry
 | remaining+1,registry=>
  if maxStates<registry.sessions.keys.length ∨
    maxTotalTranscriptBytes<registry.totalTranscriptBytes then
   match registry.oldest outside with
   | none=>some registry
   | some sessionId=>
    (checkedRemove registry sessionId).bind (checkedEvictLoop outside remaining)
  else some registry

def checkedEvictOldest (outside:Outside) (registry:ContinuationRegistry) : Option ContinuationRegistry :=
 checkedEvictLoop outside registry.sessions.keys.length registry

def checkedEnter (outside:Outside) (registry:ContinuationRegistry) (sessionId:String)
  (turnId now:ℕ) : Option ContinuationRegistry :=
 (checkedRemove registry sessionId).bind fun removed=>
  checkedEvictOldest outside { removed with sessions := removed.sessions.insert sessionId ⟨turnId,none,now⟩ }

def checkedRecordTurn (outside:Outside) (registry:ContinuationRegistry) (sessionId:String)
  (turnId:ℕ) (state:ContinuationState) : Option ContinuationRegistry :=
 match registry.sessions.lookup sessionId with
 | none=>some registry
 | some session=>
  if session.currentTurn≠turnId then some registry
  else
   (checkedSub registry.totalTranscriptBytes
    ((session.continuation.map ContinuationState.transcriptBytes).getD 0)).bind fun bytes=>
     checkedEvictOldest outside
      { sessions :=
         registry.sessions.insert sessionId { session with continuation := some state }
        totalTranscriptBytes := bytes+state.transcriptBytes }

def checkedAbortTurn (registry:ContinuationRegistry) (sessionId:String) (turnId:ℕ) : Option ContinuationRegistry :=
 if (registry.sessions.lookup sessionId).any fun session=>session.currentTurn==turnId then
  checkedRemove registry sessionId
 else some registry

/-- What a section leaves of the registry, or nothing if a subtraction would go below zero. -/
def checkedSection (outside:Outside) : Section → Option ContinuationRegistry → Option (Option ContinuationRegistry)
 | .enter sessionId _ turnId now,registry=>
  (checkedEnter outside (registry.getD ⟨∅,0⟩) sessionId turnId now).map some
 | .publish sessionId turnId recorded,some registry=>
  (checkedRecordTurn outside registry sessionId turnId recorded.state).map some
 | .abort sessionId turnId,some registry=>
  (checkedAbortTurn registry sessionId turnId).map some
 | .clear sessionId,some registry=>(checkedRemove registry sessionId).map some
 | _,registry=>some registry

variable {registry:ContinuationRegistry} {sessionId:String} {outside:Outside}

theorem exact_empty : Exact ⟨∅,0⟩ := rfl

theorem bytes_of_lookup (registry:ContinuationRegistry) (sessionId:String) :
  (((registry.sessions.lookup sessionId).bind SessionState.continuation).map
   ContinuationState.transcriptBytes).getD 0 = ((registry.sessions.lookup sessionId).map stateBytes).getD 0:=by
 cases registry.sessions.lookup sessionId <;> rfl

theorem remove_exact (h:Exact registry) (sessionId:String) :
  checkedRemove registry sessionId=some (registry.remove sessionId) ∧ Exact (registry.remove sessionId):=by
 have hsum:=total_erase stateBytes registry.sessions sessionId
 rw [← h,← bytes_of_lookup] at hsum
 constructor
 · unfold checkedRemove checkedSub
   dsimp only
   rw [if_pos (by omega)]
   rfl
 · unfold Exact ContinuationRegistry.remove
   dsimp only
   omega

theorem oldest_mem (h:registry.oldest outside=some sessionId) :
  ∃ session,registry.sessions.lookup sessionId=some session:=by
 unfold ContinuationRegistry.oldest at h
 obtain ⟨entry,hentry,rfl⟩:=Option.map_eq_some_iff.mp h
 have hmem:=(outside.perm _).subset (List.argmin_mem hentry)
 exact ⟨entry.2,List.mem_dlookup registry.sessions.nodupKeys hmem⟩

theorem oldest_none (h:registry.oldest outside=none) : registry.sessions.entries=[]:=by
 unfold ContinuationRegistry.oldest at h
 have horder:=List.argmin_eq_none.mp (Option.map_eq_none_iff.mp h)
 have hperm:=outside.perm registry.sessions.entries
 rw [horder] at hperm
 exact hperm.nil_eq.symm

theorem evictLoop_accounted (outside:Outside) (remaining:ℕ) :
  ∀ registry:ContinuationRegistry,Exact registry →
   registry.sessions.keys.length ≤ remaining →
    checkedEvictLoop outside remaining registry = some (registry.evictLoop outside remaining) ∧
    Accounted (registry.evictLoop outside remaining):=by
 have hempty:∀ registry:ContinuationRegistry,Exact registry → registry.sessions.entries=[] → Accounted registry:=by
  intro registry h hnil
  have hnone:total stateBytes registry.sessions=0:=by
   unfold total
   rw [hnil]
   rfl
  have hkeys:registry.sessions.keys.length=0:=by
   change (List.map Sigma.fst registry.sessions.entries).length=0
   rw [hnil]
   rfl
  exact ⟨h,by rw [h,hnone]; exact Nat.zero_le _,by rw [hkeys]; exact Nat.zero_le _⟩
 induction remaining with
 | zero=>
  intro registry h hlength
  refine ⟨rfl,hempty registry h ?_⟩
  exact List.map_eq_nil_iff.mp (List.length_eq_zero_iff.mp (Nat.le_zero.mp hlength))
 | succ remaining ih=>
  intro registry h hlength
  rw [checkedEvictLoop,ContinuationRegistry.evictLoop]
  split_ifs with hover
  · cases holdest:registry.oldest outside with
    | none=>exact ⟨rfl,hempty registry h (oldest_none holdest)⟩
    | some sessionId=>
     obtain ⟨session,hsession⟩:=oldest_mem holdest
     obtain ⟨hchecked,hexact⟩:=remove_exact h sessionId
     have hless:=length_erase hsession
     have hrest:=ih (registry.remove sessionId) hexact (by
      change (registry.sessions.erase sessionId).keys.length ≤ remaining
      omega)
     dsimp only
     rw [hchecked]
     exact hrest
  · obtain ⟨hstates,hbytes⟩:=not_or.mp hover
    exact ⟨rfl,h,Nat.le_of_not_lt hbytes,Nat.le_of_not_lt hstates⟩

theorem evictOldest_accounted (outside:Outside) (h:Exact registry) :
  checkedEvictOldest outside registry=some (registry.evictOldest outside) ∧
   Accounted (registry.evictOldest outside) :=
 evictLoop_accounted outside _ registry h (Nat.le_refl _)

theorem remove_accounted (h:Accounted registry) (sessionId:String) : Accounted (registry.remove sessionId) where
 exact := (remove_exact h.exact sessionId).2
 bytes := (Nat.sub_le _ _).trans h.bytes
 states := ((List.kerase_sublist sessionId registry.sessions.entries).map Sigma.fst).length_le.trans h.states

theorem enter_accounted (outside:Outside) (h:Exact registry) (sessionId:String)
  (turnId now:ℕ) : ∃ entered:ContinuationRegistry,
   entered={ registry.remove sessionId with
    sessions := (registry.remove sessionId).sessions.insert sessionId ⟨turnId,none,now⟩ } ∧
   checkedEnter outside registry sessionId turnId now=some (entered.evictOldest outside) ∧
   Accounted (entered.evictOldest outside):=by
 refine ⟨_,rfl,?_⟩
 obtain ⟨hchecked,hexact⟩:=remove_exact h sessionId
 have hentered:Exact { registry.remove sessionId with
   sessions := (registry.remove sessionId).sessions.insert sessionId ⟨turnId,none,now⟩ }:=by
  have hgone:(registry.remove sessionId).sessions.erase sessionId = (registry.remove sessionId).sessions :=
   erase_of_lookup_none (AList.lookup_erase sessionId registry.sessions)
  unfold Exact
  rw [total_insert,hgone]
  exact hexact.trans (Nat.zero_add _).symm
 obtain ⟨hevicted,haccounted⟩:=evictOldest_accounted outside hentered
 unfold checkedEnter
 rw [hchecked]
 exact ⟨hevicted,haccounted⟩

theorem recordTurn_accounted (outside:Outside) (h:Accounted registry) (sessionId:String)
  (turnId:ℕ) (state:ContinuationState) :
  checkedRecordTurn outside registry sessionId turnId state =
    some (World.recordTurn outside registry sessionId turnId state) ∧
   Accounted (World.recordTurn outside registry sessionId turnId state):=by
 unfold checkedRecordTurn World.recordTurn
 cases hsession:registry.sessions.lookup sessionId with
 | none=>exact ⟨rfl,h⟩
 | some session=>
  dsimp only
  split_ifs with hcurrent
  · exact ⟨rfl,h⟩
  · have hsum:=total_erase stateBytes registry.sessions sessionId
    rw [← h.exact,hsession,Option.map_some,Option.getD_some] at hsum
    have hbytes:(session.continuation.map ContinuationState.transcriptBytes).getD 0 = stateBytes session := rfl
    rw [hbytes]
    have hrecorded:Exact ⟨registry.sessions.insert sessionId
      { session with continuation := some state },
        registry.totalTranscriptBytes-stateBytes session+state.transcriptBytes⟩:=by
     unfold Exact
     rw [total_insert]
     have hstate:stateBytes { session with continuation:=some state } =
       state.transcriptBytes := rfl
     dsimp only
     omega
    unfold checkedSub
    rw [if_pos (by omega)]
    exact evictOldest_accounted outside hrecorded

theorem abortTurn_accounted (h:Accounted registry) (sessionId:String) (turnId:ℕ) :
  checkedAbortTurn registry sessionId turnId = some (World.abortTurn registry sessionId turnId) ∧
   Accounted (World.abortTurn registry sessionId turnId):=by
 unfold checkedAbortTurn World.abortTurn
 split_ifs
 · exact ⟨(remove_exact h.exact sessionId).1,remove_accounted h sessionId⟩
 · exact ⟨rfl,h⟩

def WorldAccounted (world:World) : Prop :=
 ∀ registry,world.registry=some registry → Accounted registry

theorem section_accounted (outside:Outside) (act:Section) {world:World} (h:WorldAccounted world) :
  checkedSection outside act world.registry = some (runSection outside act world).1.registry ∧
   WorldAccounted (runSection outside act world).1:=by
 have hsome:∀ {left:ContinuationRegistry},Accounted left →
   ∀ registry,some left=some registry → Accounted registry:=by
  rintro left hleft _ ⟨⟩
  exact hleft
 obtain ⟨stored,nextTurnId,past,returned⟩:=world
 cases act with
 | refuse | takeTurn | stamp=>exact ⟨rfl,h⟩
 | enter sessionId body turnId now=>
  have hexact:Exact (stored.getD ⟨∅,0⟩):=by
   cases stored with
   | none=>exact exact_empty
   | some registry=>exact (h registry rfl).exact
  obtain ⟨entered,rfl,hchecked,haccounted⟩ :=
   enter_accounted outside hexact sessionId turnId now
  exact ⟨congrArg (Option.map some) hchecked,hsome haccounted⟩
 | publish sessionId turnId recorded=>
  cases stored with
  | none=>exact ⟨rfl,h⟩
  | some registry=>
   obtain ⟨hchecked,haccounted⟩ :=
    recordTurn_accounted outside (h registry rfl) sessionId turnId recorded.state
   exact ⟨congrArg (Option.map some) hchecked,hsome haccounted⟩
 | abort sessionId turnId=>
  cases stored with
  | none=>exact ⟨rfl,h⟩
  | some registry=>
   obtain ⟨hchecked,haccounted⟩:=abortTurn_accounted (h registry rfl) sessionId turnId
   exact ⟨congrArg (Option.map some) hchecked,hsome haccounted⟩
 | clear sessionId=>
  cases stored with
  | none=>exact ⟨rfl,h⟩
  | some registry=>
   have hregistry:=h registry rfl
   exact ⟨congrArg (Option.map some) (remove_exact hregistry.exact sessionId).1,
    hsome (remove_accounted hregistry sessionId)⟩

/-- In every run the total is exact and within its limit, as is the number of sessions, and no
section has a subtraction saturate. -/
theorem continuations_accounted (events:List (Event Call Outside))
    (config:Config World Section) (hrun:Run continuations start events config) :
    WorldAccounted config.shared ∧
      ∀ (outside:Outside) (act:Section),checkedSection outside act config.shared.registry =
        some (runSection outside act config.shared).1.registry:=by
  have haccounted:WorldAccounted config.shared:=by
    refine shared_invariant (fun outside act shared next more h hsection=>?_) hrun nofun
    rw [← (Prod.mk.inj (Option.some.inj hsection)).1]
    exact (section_accounted outside act h).2
  exact ⟨haccounted,fun outside act=>(section_accounted outside act haccounted).1⟩

theorem continuations_accounted_second : WorldAccounted (afterTwoTurns .auto).shared :=
  (continuations_accounted (twoTurns .auto) (afterTwoTurns .auto) (Traces.perform_trace (by rfl))).1

end CursorProxy.ContinuationTotals
