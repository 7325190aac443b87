import CursorProxy.LiveEffects
import CursorProxy.Traces

namespace CursorProxy.LiveFencing
open XmlElements LiveRunKeys TerminalErrors LedgerModel LiveRegistry LiveSlots LiveEffects Traces

variable {env:LiveEnv} {s s':LiveState} {key:Text} {action:LiveAction}

def Step (env:LiveEnv) (s:LiveState) (action:LiveAction) (s':LiveState) : Prop :=
 ∃ reply,s.step env action=some (s',reply)

/-- Nothing has been reserved and no run has been published; handles are as they may be. -/
structure Start (s:LiveState) : Prop where
 runs : s.runs=LiveRunMap.new
 reservations : ∀ id,s.reservations id=none
 published : ∀ handle,s.published handle=none

inductive SlotHolder where
 | reservation (id:ℕ)
 | run (handle:ℕ)

def SlotHolder.entry : SlotHolder → LiveRunEntry
 | .reservation id=>.starting id
 | .run handle=>.running handle

def Holds (s:LiveState) (key:Text) : SlotHolder → Prop
 | .reservation id=>Live s id key
 | .run handle=>Up s handle key

theorem Occupied.start (h:Start s) : Occupied s:=by
 constructor
 · intro id key hlive
   obtain ⟨reservation,hreservation,-⟩:=hlive
   rw [h.reservations id] at hreservation
   exact absurd hreservation (by simp)
 · intro handle key hup
   have hpublished:=hup.1
   rw [h.published handle] at hpublished
   exact absurd hpublished (by simp)

theorem Indexed.start (h:Start s) : Indexed s.runs:=by
 rw [h.runs]
 exact Indexed.new

theorem step_occupied (h:Step env s action s') (hs:Occupied s ∧ Indexed s.runs) : Occupied s' ∧ Indexed s'.runs:=by
 obtain ⟨reply,hstep⟩:=h
 obtain ⟨mid,heffect,hlast⟩:=step_leads hstep
 have hmid:Occupied mid ∧ Indexed mid.runs:=⟨heffect.occupied hs.1,heffect.indexed hs.2⟩
 rcases hlast with rfl | ⟨session,runId,completion,rfl⟩
 · exact hmid
 · have hseal:Effect env mid (.pass 0) (mid.sealSuccessIf session runId none completion)
     (.done true) := effect_sealSuccessIf session runId none completion
   exact ⟨hseal.occupied hmid.1,hseal.indexed hmid.2⟩

variable {actions:List LiveAction}

theorem run_occupied {s₀:LiveState} (hstart:Start s₀) (hrun:Trace (Step env) s₀ actions s)
  : Occupied s ∧ Indexed s.runs :=
 hrun.invariant (fun t=>Occupied t ∧ Indexed t.runs)
  (fun _ _ _ _ hs hstep=>step_occupied hstep hs)
  ⟨Occupied.start hstart,Indexed.start hstart⟩

theorem Occupied.entry (h:Occupied s) {holder:SlotHolder} (hholds:Holds s key holder) :
  s.runs.get key=some holder.entry:=by
 cases holder with
 | reservation id=>exact h.reserved id key hholds
 | run handle=>exact h.running handle key hholds

theorem Occupied.exclusive (h:Occupied s) {holder other:SlotHolder}
  (hholder:Holds s key holder) (hother:Holds s key other) : holder=other:=by
 have hentry:holder.entry=other.entry :=
  Option.some.inj ((Occupied.entry h hholder).symm.trans (Occupied.entry h hother))
 cases holder with
 | reservation id=>
  cases other with
  | reservation id'=>exact congrArg _ (LiveRunEntry.starting.inj hentry)
  | run handle=>exact absurd hentry (by simp [SlotHolder.entry])
 | run handle=>
  cases other with
  | reservation id=>exact absurd hentry (by simp [SlotHolder.entry])
  | run handle'=>exact congrArg _ (LiveRunEntry.running.inj hentry)

/-- The entry is a run of that id, or what is left of it. -/
def Carries (s:LiveState) (key:Text) (runId:String) : Prop :=
 (∃ handle,s.runs.get key=some (.running handle) ∧ (s.handles handle).runId=runId) ∨
  ∃ fingerprint until_ replay,s.runs.get key=some (.succeeded runId fingerprint until_ replay)

def carried (s:LiveState) (key:Text) : Option String :=
 match s.runs.get key with
 | some (.running handle)=>some (s.handles handle).runId
 | some (.succeeded runId _ _ _)=>some runId
 | _=>none

variable {runId:String}

theorem carries_iff : Carries s key runId ↔ carried s key=some runId:=by
 unfold Carries carried
 cases s.runs.get key with
 | none=>simp
 | some entry=>cases entry <;> simp

instance (s:LiveState) (key:Text) (runId:String) : Decidable (Carries s key runId) :=
 decidable_of_iff (carried s key=some runId) carries_iff.symm

/-- An operation at the key by a reservation or by a generation that is not in its slot. -/
inductive Foreign (s:LiveState) (key:Text) : LiveAction → Prop where
 | holder {id:ℕ} {reservation:LiveRunReservation} (call:HolderCall)
   (hreservation:s.reservations id=some reservation) (hkey:reservation.key=key)
   (hnot:s.runs.get key≠some (.starting id)) : Foreign s key (.holder id call)
 | replacement {runId:String} (fresh:Bool) (hnot:¬Carries s key runId) :
   Foreign s key (.call (.claimReplacementForRun key runId fresh))
 | cancel {runId:String} (hnot:¬Carries s key runId) :
   Foreign s key (.call (.cancelRunIfGeneration key runId))
 | success {runId:String} (sessionId:Text) (replay:Option Replay)
   (completion:Except IoError Bool) (hnot:¬Carries s key runId) :
   Foreign s key (.call (.sealSuccessIf sessionId runId replay completion))
 | reader {runId:String} (hnot:¬Carries s key runId) :
   Foreign s key (.call (.takeTerminalErrorMatchingRun key (some runId)))
 | driver {handle:ℕ} (event:DriverEvent) (hnot:s.runs.get key≠some (.running handle)) :
   Foreign s key (.driver handle event)

def Prunes : LiveAction → Prop
 | .call (.sealSuccessIf _ _ _ _)=>False
 | .call _=>True
 | .holder _ (.insert _ _ _)=>True
 | _=>False

inductive Spared (env:LiveEnv) (s:LiveState) (key:Text) :
  LiveAction → LiveState → Prop where
 | unchanged {action:LiveAction} {s':LiveState} (h:s'.runs.get key=s.runs.get key) :
   Spared env s key action s'
 | pruned {action:LiveAction} {s':LiveState} (hprunes:Prunes action)
   (h:s'.runs.get key=kept env s key) : Spared env s key action s'
 | trimmed {sessionId:Text} {runId:String} {replay:Option Replay}
   {completion:Except IoError Bool} {s':LiveState}
   (h:Trimmed (s.runs.get key) (s'.runs.get key)) :
   Spared env s key (.call (.sealSuccessIf sessionId runId replay completion)) s'
 | adopted {id handle:ℕ} {transferred completion:Except IoError Bool} {s':LiveState}
   (hvacant:kept env s key=none) :
   Spared env s key (.holder id (.insert handle transferred completion)) s'
 | reserved {runId:String} {fresh:Bool} {s':LiveState} (hvacant:kept env s key=none)
   (h:s'.runs.get key=some (.starting s.issued)) :
   Spared env s key (.call (.claimReplacementForRun key runId fresh)) s'

variable {id:ℕ}

theorem ownsSlot_foreign (h:s.runs.get key≠some (.starting id)) : s.ownsSlot id key=false :=
 Bool.eq_false_iff.mpr fun howns=>h (ownsSlot_get howns)

theorem spared_insert {handle:ℕ} {reservation:LiveRunReservation} {transferred completion:Except IoError Bool}
  (hnot:s.runs.get reservation.key≠some (.starting id)) :
  Spared env s reservation.key (.holder id (.insert handle transferred completion))
   (s.insert env id reservation handle transferred completion).1:=by
 have hslot:((s.bindFingerprint handle reservation.operationFingerprint).pruneFinished
   env).runs.get reservation.key=kept env s reservation.key :=
  (get_pruneFinished _ _).trans (kept_bindFingerprint _ _ _)
 cases hkept:kept env s reservation.key with
 | none=>exact .adopted hkept
 | some entry=>
  have hrefused:((s.bindFingerprint handle reservation.operationFingerprint).pruneFinished
    env).allowsPublication id reservation.key=false:=by
   apply Bool.eq_false_iff.mpr
   intro hallows
   rcases allowsPublication_get hallows with hnone | hstarting
   · rw [hslot,hkept] at hnone
     exact absurd hnone (by simp)
   · rw [hslot] at hstarting
     exact hnot (kept_some hstarting).1
  refine .pruned trivial ?_
  unfold LiveState.insert
  dsimp only
  rw [hrefused,Bool.not_false,if_pos rfl]
  exact hslot

theorem spared_holder {reservation:LiveRunReservation} (call:HolderCall)
  (hnot:s.runs.get reservation.key≠some (.starting id)) :
  Spared env s reservation.key (.holder id call) (s.hold env id reservation call).1:=by
 have howns:=ownsSlot_foreign hnot
 have hout:((s.abort id).ownsSlot id reservation.key)=false:=howns
 cases call with
 | insert handle transferred completion=>exact spared_insert hnot
 | release=>
  apply Spared.unchanged
  unfold LiveState.hold LiveState.release
  dsimp only
  rw [hout,if_neg (by decide)]
  rfl
 | sealAmbiguous until_=>
  apply Spared.unchanged
  unfold LiveState.hold LiveState.sealAmbiguous
  dsimp only
  rw [howns,if_neg (by decide)]
  rfl
 | drop=>
  apply Spared.unchanged
  unfold LiveState.hold LiveState.dropReservation
  dsimp only
  rw [hout,Bool.false_and,if_neg (by decide),if_neg (by decide)]
  rfl
 | setOperationFingerprint fingerprint=>exact .unchanged rfl
 | setDurableOwnerToken owner=>exact .unchanged rfl
 | resetDurableOwnerToken=>exact .unchanged rfl
 | protectOnDrop=>exact .unchanged rfl
 | disarmOnDrop=>exact .unchanged rfl

theorem carries_pruned (hnot:¬Carries s key runId) :
  (∀ handle,kept env s key=some (.running handle) → ((s.handles handle).runId==runId)=false) ∧
  ∀ run fingerprint until_ replay,kept env s key =
   some (.succeeded run fingerprint until_ replay) → (run==runId)=false:=by
 constructor
 · intro handle hslot
   apply Bool.eq_false_iff.mpr
   intro hsame
   exact hnot (Or.inl ⟨handle,(kept_some hslot).1,beq_iff_eq.mp hsame⟩)
 · intro run fingerprint until_ replay hslot
   apply Bool.eq_false_iff.mpr
   intro hsame
   have hentry:=(kept_some hslot).1
   rw [beq_iff_eq.mp hsame] at hentry
   exact hnot (Or.inr ⟨fingerprint,until_,replay,hentry⟩)

theorem spared_replacement (fresh:Bool) (hnot:¬Carries s key runId) :
  Spared env s key (.call (.claimReplacementForRun key runId fresh))
   (s.claimReplacementForRun env key runId fresh).1:=by
 have hother:=@carries_pruned env s key runId hnot
 have hpruned:=@get_pruneFinished env s key
 unfold LiveState.claimReplacementForRun
 dsimp only
 cases hslot:(s.pruneFinished env).runs.get key with
 | none=>
  apply Spared.reserved
  · rw [← hpruned,hslot]
  · dsimp only
    rw [reserveOr_vacant hslot]
    exact (get_opened key key).trans (if_pos rfl)
 | some entry=>
  rw [hpruned] at hslot
  cases entry with
  | starting id=>exact .pruned trivial hpruned
  | ambiguous until_ stored=>exact .pruned trivial hpruned
  | succeeded run stored until_ replay=>
   dsimp only
   rw [hother.2 _ _ _ _ hslot,if_neg (by decide)]
   exact .pruned trivial hpruned
  | running handle=>
   have hrun:(((s.pruneFinished env).handles handle).runId==runId)=false :=
    hother.1 handle hslot
   dsimp only
   rw [hrun,Bool.false_and,if_neg (by decide)]
   exact .pruned trivial hpruned

theorem spared_cancel (hnot:¬Carries s key runId) :
  Spared env s key (.call (.cancelRunIfGeneration key runId)) (s.cancelRunIfGeneration env key runId).1:=by
 have hother:=@carries_pruned env s key runId hnot
 have hpruned:=@get_pruneFinished env s key
 unfold LiveState.cancelRunIfGeneration
 dsimp only
 split_ifs
 · exact .unchanged rfl
 · rw [hpruned]
   split
   · rename_i handle hslot
     have hrun:(((s.pruneFinished env).handles handle).runId==runId)=false :=
      hother.1 handle hslot
     rw [hrun,Bool.false_and,if_neg (by decide)]
     exact .pruned trivial hpruned
   · exact .pruned trivial hpruned

theorem spared_reader (hnot:¬Carries s key runId) :
  Spared env s key (.call (.takeTerminalErrorMatchingRun key (some runId)))
   (s.takeTerminalErrorMatchingRun env key (some runId)).1:=by
 have hother:=@carries_pruned env s key runId hnot
 have hpruned:=@get_pruneFinished env s key
 unfold LiveState.takeTerminalErrorMatchingRun
 dsimp only
 rw [hpruned]
 split
 · rename_i handle hslot
   have hrun:(((s.pruneFinished env).handles handle).runId==runId)=false :=
    hother.1 handle hslot
   rw [Option.all_some,hrun,Bool.and_false,if_neg (by decide)]
   exact .pruned trivial hpruned
 · exact .pruned trivial hpruned

theorem trimmed_sealSuccessIf (sessionId:Text) (replay:Option Replay) (completion:Except IoError Bool)
  (hnot:∀ handle,s.runs.get key=some (.running handle) → (s.handles handle).runId≠runId) :
  Trimmed (s.runs.get key) ((s.sealSuccessIf sessionId runId replay completion).runs.get key):=by
 rcases sealSuccessIf_cases s sessionId runId replay completion with
  ⟨hruns,-,-⟩ | ⟨place,handle,ledger,entry,hget,hrun,hresult⟩
 · rw [hruns]
   exact .same _
 · have hplace:key≠place:=by
    rintro rfl
    exact hnot handle hget hrun
   have htrimmed:=get_enforceReplayBudget
    (LiveState.unpublish { s.insertKey place entry with ledger := ledger } handle) key
   change Trimmed ((s.runs.insertKey place entry).get key) _ at htrimmed
   rw [get_insertKey,if_neg hplace] at htrimmed
   rw [hresult]
   exact htrimmed

theorem foreign_spared (hforeign:Foreign s key action) (hstep:Step env s action s') : Spared env s key action s':=by
 obtain ⟨reply,hstep⟩:=hstep
 cases hforeign with
 | @holder id reservation call hreservation hkey hnot=>
  subst hkey
  obtain ⟨found,hfound,hresult⟩:=Option.map_eq_some_iff.mp hstep
  have hsame:found=reservation :=
   Option.some.inj ((Option.filter_eq_some_iff.mp hfound).1.symm.trans hreservation)
  have hspared:Spared env s reservation.key (.holder id call)
    (s.hold env id reservation call).1 := spared_holder call hnot
  rw [← hsame] at hspared ⊢
  rw [hresult] at hspared
  exact hspared
 | replacement fresh hnot=>
  obtain ⟨rfl,rfl⟩:=Prod.mk.inj (Option.some.inj hstep)
  exact spared_replacement fresh hnot
 | cancel hnot=>
  obtain ⟨rfl,rfl⟩:=Prod.mk.inj (Option.some.inj hstep)
  exact spared_cancel hnot
 | success sessionId replay completion hnot=>
  obtain ⟨rfl,rfl⟩:=Prod.mk.inj (Option.some.inj hstep)
  exact .trimmed (trimmed_sealSuccessIf sessionId replay completion
   fun handle hget hrun=>hnot (Or.inl ⟨handle,hget,hrun⟩))
 | reader hnot=>
  obtain ⟨rfl,rfl⟩:=Prod.mk.inj (Option.some.inj hstep)
  exact spared_reader hnot
 | driver event hnot=>
  obtain ⟨rfl,rfl⟩:=Prod.mk.inj (Option.some.inj hstep)
  obtain ⟨update,hdrive,-⟩:=drive_growing s _ event
  rw [hdrive]
  exact .unchanged rfl

/-- The entry refuses the operation of that fingerprint until then. -/
inductive Tombstone : LiveRunEntry → UInt64 → ℕ → Prop where
 | ambiguous (until_:ℕ) (fingerprint:UInt64) :
   Tombstone (.ambiguous until_ fingerprint) fingerprint until_
 | succeeded (runId:String) (fingerprint:UInt64) (until_:ℕ) (replay:Option Replay) :
   Tombstone (.succeeded runId fingerprint until_ replay) fingerprint until_

/-- What a tombstone gives way to: another operation, or the caller that names its run. -/
inductive Yields (key:Text) : LiveRunEntry → RegistryCall → Prop where
 | ambiguous {until_:ℕ} {stored fingerprint:UInt64} {call:RegistryCall}
   (hother:ambiguousBlocksOperation stored fingerprint=false)
   (hcall:call=.tryClaimRunForOperation key fingerprint ∨
    call=.claimAmbiguousRelease key fingerprint) : Yields key (.ambiguous until_ stored) call
 | succeeded {runId:String} {until_:ℕ} {stored fingerprint:UInt64}
   {replay:Option Replay} {call:RegistryCall} (hother:stored≠fingerprint)
   (hcall:call=.tryClaimRunForOperation key fingerprint ∧ fingerprint≠0 ∨
    call=.claimSuccessRelease key fingerprint) :
   Yields key (.succeeded runId stored until_ replay) call
 | generation {runId:String} {until_:ℕ} {stored:UInt64} {replay:Option Replay}
   (fresh:Bool) : Yields key (.succeeded runId stored until_ replay)
    (.claimReplacementForRun key runId fresh)

variable {entry:LiveRunEntry} {fingerprint:UInt64} {until_:ℕ}

theorem kept_tombstone (htomb:Tombstone entry fingerprint until_)
  (hget:s.runs.get key=some entry) (hfresh:s.now<until_) : kept env s key=some entry:=by
 unfold kept
 rw [hget,Option.filter_some]
 cases htomb with
 | ambiguous=>
  rw [if_pos]
  simp [LiveState.finished,hfresh]
 | succeeded=>
  rw [if_pos]
  simp [LiveState.finished,hfresh]

theorem Tombstone.trimmed (htomb:Tombstone entry fingerprint until_) (key:Text)
  {left:Option LiveRunEntry} (h:Trimmed (some entry) left) : ∃ entry',left=some entry' ∧
   Tombstone entry' fingerprint until_ ∧ ∀ call,Yields key entry' call → Yields key entry call:=by
 cases h with
 | same=>exact ⟨entry,rfl,htomb,fun _ h=>h⟩
 | dropped runId stored expiry replay=>
  cases htomb
  refine ⟨_,rfl,.succeeded _ _ _ _,fun call hyields=>?_⟩
  cases hyields with
  | succeeded hother hcall=>exact .succeeded hother hcall
  | generation fresh=>exact .generation fresh

theorem Admission.yields {call:RegistryCall} {taken:Option ℕ}
  (htomb:Tombstone entry fingerprint until_) (hkept:kept env s key=some entry)
  (h:Admission env s key call taken) : Yields key entry call:=by
 cases h with
 | vacant _ hslot=>exact absurd (hkept.symm.trans hslot) (by simp)
 | ambiguous hslot hother hcall=>
  obtain rfl:=Option.some.inj (hkept.symm.trans hslot)
  exact .ambiguous hother hcall
 | succeeded hslot hother hcall=>
  obtain rfl:=Option.some.inj (hkept.symm.trans hslot)
  exact .succeeded hother hcall
 | generation hslot=>
  obtain rfl:=Option.some.inj (hkept.symm.trans hslot)
  exact .generation _
 | replaced hslot=>
  obtain rfl:=Option.some.inj (hkept.symm.trans hslot)
  cases htomb
 | superseded hslot=>
  obtain rfl:=Option.some.inj (hkept.symm.trans hslot)
  cases htomb

theorem Admission.callKey {call:RegistryCall} {taken:Option ℕ}
  (h:Admission env s key call taken) : RegistryCallKey call=some key:=by
 cases h with
 | vacant hkey _=>exact hkey
 | ambiguous _ _ hcall=>rcases hcall with rfl | rfl <;> rfl
 | succeeded _ _ hcall=>rcases hcall with ⟨rfl,-⟩ | rfl <;> rfl
 | generation=>rfl
 | replaced=>rfl
 | superseded=>rfl

theorem Effect.tombstone {reply:LiveReply} (htomb:Tombstone entry fingerprint until_)
  (hget:s.runs.get key=some entry) (hfresh:s.now<until_) (heffect:Effect env s action s' reply)
  (hyields:∀ call,action=.call call → ¬Yields key entry call) :
  Trimmed (some entry) (s'.runs.get key) ∧ ∀ call,action=.call call →
   RegistryCallKey call=some key → LiveReply.reservation reply=none:=by
 have hkept:kept env s key=some entry:=kept_tombstone htomb hget hfresh
 have hstarting:∀ id,entry ≠ .starting id:=by
  rintro id rfl
  cases htomb
 have hrunning:∀ handle,entry ≠ .running handle:=by
  rintro handle rfl
  cases htomb
 cases heffect with
 | quiet hslots _ _ hreply _=>
  refine ⟨?_,fun _ _ _=>hreply⟩
  rcases hslots key with hslot | hslot
  · rw [hslot,hget]
    exact .same _
  · rw [hslot,hkept]
    exact .same _
 | @admitted call _ _ place taken hadmission hslots _ _ _=>
  have hplace:key≠place:=by
   rintro rfl
   exact hyields call rfl (Admission.yields htomb hkept hadmission)
  constructor
  · rw [hslots,if_neg hplace,hkept]
    exact .same _
  · intro other hother hkey
    obtain rfl:=LiveAction.call.inj hother
    exact absurd (Option.some.inj (hkey.symm.trans (Admission.callKey hadmission))) hplace
 | @aborted _ _ place id hslot hslots _ _ hreply _=>
  refine ⟨?_,fun _ _ _=>hreply⟩
  rw [hslots,if_neg,hkept]
  · exact .same _
  · rintro rfl
    exact hstarting id (Option.some.inj (hget.symm.trans hslot))
 | @stopped call _ _ place handle left hslot hslots _ _ hreply _=>
  refine ⟨?_,fun _ _ _=>hreply⟩
  rw [hslots,if_neg,hkept]
  · exact .same _
  · rintro rfl
    exact hrunning handle (Option.some.inj (hkept.symm.trans hslot))
 | @sealed action _ _ place handle left hslot hslots _ _ hreply _=>
  refine ⟨?_,fun _ _ _=>hreply⟩
  have hnew:=hslots key
  rw [if_neg,hget] at hnew
  · exact hnew
  · rintro rfl
    exact hrunning handle (Option.some.inj (hget.symm.trans hslot))
 | @used call _ _ place id left hslot hslots _ _ hreply _=>
  refine ⟨?_,fun _ _ _=>hreply⟩
  rw [hslots,if_neg,hget]
  · exact .same _
  · rintro rfl
    exact hstarting id (Option.some.inj (hget.symm.trans hslot))
 | @published action _ _ id place handle hslot hslots _ _ hreply _=>
  refine ⟨?_,fun _ _ _=>hreply⟩
  rw [hslots,if_neg,hkept]
  · exact .same _
  · rintro rfl
    rcases hslot with hslot | hslot
    · exact absurd (hkept.symm.trans hslot) (by simp)
    · exact hstarting id (Option.some.inj (hkept.symm.trans hslot))

theorem now_reserveKey (t:LiveState) (key:Text) : (t.reserveKey env key).1.now=t.now:=by
 unfold LiveState.reserveKey
 split_ifs <;> rfl

theorem now_reserveOr (t:LiveState) (key:Text) (failed:LiveReply) : (t.reserveOr env key failed).1.now=t.now :=
 now_reserveKey t key

theorem now_enforceReplayBudget (t:LiveState) : t.enforceReplayBudget.now=t.now:=by
 obtain ⟨runs,hbudget⟩:=enforceReplayBudget_eq t
 rw [hbudget]

theorem now_sealSuccessIf (t:LiveState) (sessionId:Text) (runId:String)
  (replay:Option Replay) (completion:Except IoError Bool) :
  (t.sealSuccessIf sessionId runId replay completion).now=t.now:=by
 unfold LiveState.sealSuccessIf
 dsimp only
 split
 · rfl
 · split_ifs
   · rfl
   · split
     · exact now_enforceReplayBudget _
     · rfl

theorem now_replaceRun (t:LiveState) (key:Text) (handle:ℕ) : (t.replaceRun env key handle).1.now=t.now:=by
 have hreserve:=@now_reserveKey env (t.removeKey key) key
 unfold LiveState.replaceRun
 dsimp only
 split <;> rename_i heq <;> rw [heq] at hreserve
 · exact hreserve
 · exact hreserve

theorem now_markCancelledOperation (t:LiveState) (key:Text) (handle:ℕ) (message:String) :
  (t.markCancelledOperation key handle message).now=t.now:=by
 obtain ⟨ledger,hledger⟩:=markCancelledOperation_eq t key handle message
 rw [hledger]

theorem now_cancelRunning (t:LiveState) (key:Text) (handle:ℕ) (message:String) :
  (t.cancelRunning key handle message).now=t.now :=
 now_markCancelledOperation (t.removeKey key) key handle message

theorem now_supersede (t:LiveState) (key:Text) (handle:ℕ) : (t.supersede env key handle).1.now=t.now:=by
 have hreserve:=@now_reserveKey env (t.removeKey key) key
 unfold LiveState.supersede
 dsimp only
 split <;> rename_i heq <;> rw [heq] at hreserve
 · split_ifs
   · exact hreserve
   · exact (now_markCancelledOperation _ _ _ _).trans hreserve
 · exact hreserve

theorem now_settleProbe (t:LiveState) (key:Text) (handle:ℕ) (error:Text) :
  (t.settleProbe key handle error).1.now=t.now:=by
 unfold LiveState.settleProbe
 dsimp only
 split_ifs <;> rfl

theorem now_tryClaimRunForOperation (key:Text) (fingerprint:UInt64) :
  (s.tryClaimRunForOperation env key fingerprint).1.now=s.now:=by
 unfold LiveState.tryClaimRunForOperation
 dsimp only
 split
 · rfl
 · split_ifs
   · rfl
   · exact now_reserveOr _ _ _
   · exact now_reserveOr _ _ _
 · split_ifs
   · rfl
   · rfl
   · exact now_reserveOr _ _ _
   · exact now_reserveOr _ _ _
 · split_ifs
   · rfl
   · exact now_reserveOr _ _ _
 · exact now_reserveOr _ _ _

theorem now_claimReplacementForRun (key:Text) (expected:String) (fresh:Bool) :
  (s.claimReplacementForRun env key expected fresh).1.now=s.now:=by
 unfold LiveState.claimReplacementForRun
 dsimp only
 split
 · split_ifs
   · exact now_replaceRun _ _ _
   · rfl
 · split_ifs
   · exact now_reserveOr _ _ _
   · rfl
 · rfl
 · rfl
 · exact now_reserveOr _ _ _

theorem now_probeRun (key:Text) : (s.probeRun env key).1.now=s.now:=by
 unfold LiveState.probeRun
 dsimp only
 split
 · rfl
 · split
   · split
     · exact now_settleProbe _ _ _ _
     · split
       · exact now_settleProbe _ _ _ _
       · rfl
   · rfl
 · rfl

theorem now_takeTerminalErrorMatchingRun (key:Text) (expected:Option String) :
  (s.takeTerminalErrorMatchingRun env key expected).1.now=s.now:=by
 unfold LiveState.takeTerminalErrorMatchingRun
 dsimp only
 split
 · split_ifs
   · split
     · rfl
     · dsimp only
       split_ifs <;> rfl
   · rfl
 · rfl

theorem now_call (call:RegistryCall) : (s.call env call).1.now=s.now:=by
 cases call with
 | reserveRun key=>
  unfold LiveState.call LiveState.reserveRun
  dsimp only
  split_ifs
  · rfl
  · exact now_reserveOr _ _ _
 | tryClaimRunForOperation key fingerprint=>exact now_tryClaimRunForOperation key fingerprint
 | claimReplacementForRun key expected fresh=>
  exact now_claimReplacementForRun key expected fresh
 | claimReplacementForOccupiedSlot key=>
  unfold LiveState.call LiveState.claimReplacementForOccupiedSlot
  dsimp only
  split
  · rfl
  · exact now_reserveOr _ _ _
 | claimSuccessRelease key fingerprint=>
  unfold LiveState.call LiveState.claimSuccessRelease
  dsimp only
  split
  · split_ifs
    · rfl
    · exact now_reserveOr _ _ _
  · rfl
 | claimAmbiguousRelease key fingerprint=>
  unfold LiveState.call LiveState.claimAmbiguousRelease
  dsimp only
  split
  · split_ifs
    · rfl
    · exact now_reserveOr _ _ _
  · rfl
 | cancelRun key=>
  unfold LiveState.call LiveState.cancelRun
  dsimp only
  split
  · rfl
  · rfl
  · exact now_cancelRunning _ _ _ _
  · rfl
  · rfl
 | cancelRunIfGeneration key expected=>
  unfold LiveState.call LiveState.cancelRunIfGeneration
  dsimp only
  split_ifs
  · rfl
  · split
    · split_ifs
      · exact now_cancelRunning _ _ _ _
      · rfl
    · rfl
 | cancelRunningOnly key=>
  unfold LiveState.call LiveState.cancelRunningOnly
  dsimp only
  split
  · split_ifs
    · exact now_cancelRunning _ _ _ _
    · rfl
  · rfl
 | supersedeRun key=>
  unfold LiveState.call LiveState.supersedeRun
  dsimp only
  split
  · rfl
  · rfl
  · rfl
  · split_ifs
    · exact now_supersede _ _ _
    · exact now_reserveOr _ _ _
  · exact now_reserveOr _ _ _
 | sealSuccessIf sessionId runId replay completion=>
  exact now_sealSuccessIf _ _ _ _ _
 | probeRun key=>exact now_probeRun key
 | takeTerminalErrorMatchingRun key expected=>exact now_takeTerminalErrorMatchingRun key expected
 | prune=>rfl

theorem now_insert (id:ℕ) (reservation:LiveRunReservation) (handle:ℕ) (transferred completion:Except IoError Bool) :
  (s.insert env id reservation handle transferred completion).1.now=s.now:=by
 have hbound:(s.bindFingerprint handle reservation.operationFingerprint).now=s.now:=by
  obtain ⟨handles,heq⟩:=bindFingerprint_eq (s := s) handle reservation.operationFingerprint
  rw [heq]
 unfold LiveState.insert
 dsimp only
 split
 · exact hbound
 · split
   · split
     · exact (now_sealSuccessIf _ _ _ _ _).trans hbound
     · exact hbound
   · exact hbound

theorem now_hold (id:ℕ) (reservation:LiveRunReservation) (call:HolderCall) :
  (s.hold env id reservation call).1.now=s.now:=by
 cases call with
 | insert handle transferred completion=>exact now_insert id reservation handle _ _
 | release=>
  unfold LiveState.hold LiveState.release
  dsimp only
  split_ifs <;> rfl
 | sealAmbiguous until_=>
  unfold LiveState.hold LiveState.sealAmbiguous
  dsimp only
  split_ifs <;> rfl
 | drop=>
  unfold LiveState.hold LiveState.dropReservation
  dsimp only
  split_ifs <;> rfl
 | setOperationFingerprint fingerprint=>rfl
 | setDurableOwnerToken owner=>rfl
 | resetDurableOwnerToken=>rfl
 | protectOnDrop=>rfl
 | disarmOnDrop=>rfl

theorem step_now (h:Step env s action s') : s.now ≤ s'.now:=by
 obtain ⟨reply,hstep⟩:=h
 cases action with
 | call call=>
  obtain ⟨rfl,rfl⟩:=Prod.mk.inj (Option.some.inj hstep)
  exact (now_call call).ge
 | holder id call=>
  obtain ⟨reservation,-,hresult⟩:=Option.map_eq_some_iff.mp hstep
  have hnow:=@now_hold env s id reservation call
  rw [hresult] at hnow
  exact hnow.ge
 | driver handle event=>
  obtain ⟨rfl,rfl⟩:=Prod.mk.inj (Option.some.inj hstep)
  obtain ⟨update,hdrive,-⟩:=drive_growing s handle event
  rw [hdrive]
  exact Nat.le_refl _
 | pass ms=>
  obtain ⟨rfl,rfl⟩:=Prod.mk.inj (Option.some.inj hstep)
  exact Nat.le_add_right _ _

theorem Tombstone.not_running (h:Tombstone entry fingerprint until_) (handle:ℕ) : entry ≠ .running handle:=by
 rintro rfl
 cases h

theorem step_tombstone (htomb:Tombstone entry fingerprint until_)
  (hget:s.runs.get key=some entry) (hfresh:s.now<until_) (hstep:Step env s action s')
  (hyields:∀ call,action=.call call → ¬Yields key entry call) : Trimmed (some entry) (s'.runs.get key):=by
 obtain ⟨reply,hstep⟩:=hstep
 obtain ⟨mid,heffect,hlast⟩:=step_leads hstep
 have hmid:=(Effect.tombstone htomb hget hfresh heffect hyields).1
 rcases hlast with rfl | ⟨session,runId,completion,rfl⟩
 · exact hmid
 · obtain ⟨left,hleft,htomb',-⟩:=htomb.trimmed key hmid
   apply hmid.trans
   apply trimmed_sealSuccessIf
   intro handle hrunning
   exact absurd (Option.some.inj (hleft.symm.trans hrunning)) (htomb'.not_running handle)

theorem run_tombstone (htomb:Tombstone entry fingerprint until_)
  (hget:s.runs.get key=some entry) (hrun:Trace (Step env) s actions s')
  (hyields:∀ call, .call call∈actions → ¬Yields key entry call) :
  until_ ≤ s'.now ∨ Trimmed (some entry) (s'.runs.get key):=by
 refine hrun.invariant (fun t=>until_ ≤ t.now ∨ Trimmed (some entry) (t.runs.get key)) ?_
  (Or.inr (hget ▸ .same _))
 intro t action u hmem hinv hstep
 rcases Nat.lt_or_ge t.now until_ with hfresh | hover
 · have hleft:=hinv.resolve_left (Nat.not_le.mpr hfresh)
   obtain ⟨left,hslot,htomb',hsame⟩:=htomb.trimmed key hleft
   apply Or.inr
   apply hleft.trans
   rw [hslot]
   refine step_tombstone htomb' hslot hfresh hstep ?_
   rintro call rfl hyield
   exact hyields call hmem (hsame call hyield)
 · exact Or.inl (hover.trans (step_now hstep))

/-- What holds in a state that a run reaches: one holder for each slot; no change by another than
the occupant; no reservation under a tombstone that has not run out; the index. -/
structure Fenced (env:LiveEnv) (s:LiveState) : Prop where
 entry : ∀ key holder,Holds s key holder → s.runs.get key=some holder.entry
 exclusive : ∀ key holder other,Holds s key holder → Holds s key other → holder=other
 spared : ∀ key action s',Foreign s key action → Step env s action s' → Spared env s key action s'
 refuses : ∀ key entry fingerprint until_ actions s',Tombstone entry fingerprint until_ →
  s.runs.get key=some entry → Trace (Step env) s actions s' →
  (∀ call, .call call∈actions → ¬Yields key entry call) → s'.now<until_ →
  Trimmed (some entry) (s'.runs.get key) ∧ ∀ call,RegistryCallKey call=some key →
   ¬Yields key entry call → LiveReply.reservation (s'.call env call).2=none
 listed : ∀ session key,key∈s.runs.keysFor session ↔ (s.runs.get key).isSome ∧ claudeSessionOf key=session
 once : ∀ session,(s.runs.keysFor session).Nodup

theorem registry_fenced {s₀:LiveState} {actions:List LiveAction} (hstart:Start s₀)
    (hrun:Trace (Step env) s₀ actions s) : Fenced env s:=by
  obtain ⟨hoccupied,hindexed⟩:=run_occupied hstart hrun
  refine ⟨fun _ _ h=>Occupied.entry hoccupied h,
    fun _ _ _ h h'=>Occupied.exclusive hoccupied h h',fun _ _ _=>foreign_spared,?_,
    hindexed.listed,hindexed.once⟩
  intro key entry fingerprint until_ more s' htomb hget hmore hyields hfresh
  have hleft:=(run_tombstone htomb hget hmore hyields).resolve_left (Nat.not_le.mpr hfresh)
  refine ⟨hleft,fun call hkey hyield=>?_⟩
  obtain ⟨left,hslot,htomb',hsame⟩:=htomb.trimmed key hleft
  refine (Effect.tombstone htomb' hslot hfresh (effect_call call) ?_).2 call rfl hkey
  rintro other hother hyield'
  obtain rfl:=LiveAction.call.inj hother
  exact hyield (hsame _ hyield')

def act (env:LiveEnv) (s:LiveState) (action:LiveAction) : Option LiveState :=
 (s.step env action).map Prod.fst

theorem act_trace (h:perform (act env) s actions=some s') : Trace (Step env) s actions s':=by
 refine (perform_trace h).mono fun s action t hstep=>?_
 obtain ⟨⟨t,reply⟩,hresult,rfl⟩:=Option.map_eq_some_iff.mp hstep
 exact ⟨reply,hresult⟩

def plainEnv : LiveEnv := ⟨0,fun _=>""⟩

/-- A registry before its first call; every handle is a run of the id `run`. -/
def unused : LiveState :=
 { runs := .new,reservations := fun _=>none
   handles := fun _=>⟨"run",7,false,false,false,false,false,none⟩
   issued := 0,now := 0,ledger := [],published := fun _=>none }

theorem unused_start : Start unused := ⟨rfl,fun _=>rfl,fun _=>rfl⟩

def turn (key:Text) (id:ℕ) : List LiveAction :=
 [.call (.reserveRun key),.holder id (.setOperationFingerprint 7),
  .holder id (.insert id (.ok true) (.ok true)),
  .call (.sealSuccessIf key "run" (some []) (.ok true))]

theorem turn_performed : (perform (act plainEnv) unused (turn ['a'] 0)).isSome=true:=by
 decide +kernel

theorem lapsed_performed :
  (perform (act plainEnv) unused (turn ['a'] 0++[.pass liveSucceededReplayTtl])).isSome=true:=by
 decide +kernel

theorem turn_fenced : ∃ s,perform (act plainEnv) unused (turn ['a'] 0)=some s ∧ Fenced plainEnv s:=by
  obtain ⟨s,hs⟩:=Option.isSome_iff_exists.mp turn_performed
  exact ⟨s,hs,registry_fenced unused_start (act_trace hs)⟩

/-- A caller whose run is gone reserves a vacant slot; one that names another run drops a tombstone
that has run out; and naming the completed run makes a fresh tombstone give way. -/
theorem outsiders_move_slots :
    (Foreign unused ['a'] (.call (.claimReplacementForRun ['a'] "old" false)) ∧
      ((perform (act plainEnv) unused [.call (.claimReplacementForRun ['a'] "old" false)]).map
        fun s=>(s.runs.get ['a']).isSome)=some true ∧ unused.runs.get ['a']=none) ∧
    (∃ s,perform (act plainEnv) unused (turn ['a'] 0++[.pass liveSucceededReplayTtl])=some s ∧
      Foreign s ['a'] (.call (.cancelRunIfGeneration ['a'] "old")) ∧ (s.runs.get ['a']).isSome=true ∧
      (s.call plainEnv (.cancelRunIfGeneration ['a'] "old")).1.runs.get ['a']=none) ∧
    ∃ s,perform (act plainEnv) unused (turn ['a'] 0)=some s ∧ s.now<liveSucceededReplayTtl ∧
      s.runs.get ['a']=some (.succeeded "run" 7 liveSucceededReplayTtl (some [])) ∧
      (LiveReply.reservation (s.call plainEnv (.claimReplacementForRun ['a'] "run" false)).2).isSome=true:=by
  refine ⟨⟨.replacement false (by decide +kernel),by decide +kernel,rfl⟩,?_,?_⟩
  · exact ⟨_,(Option.some_get lapsed_performed).symm,.cancel (by decide +kernel),
      by decide +kernel,by decide +kernel⟩
  · exact ⟨_,(Option.some_get turn_performed).symm,by decide +kernel,rfl,by decide +kernel⟩

end CursorProxy.LiveFencing
