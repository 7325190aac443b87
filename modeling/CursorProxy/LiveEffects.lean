import CursorProxy.LiveSlots

namespace CursorProxy.LiveEffects
open XmlElements LiveRunKeys TerminalErrors LedgerModel LiveRegistry LiveSlots

variable {env:LiveEnv} {s:LiveState}

variable {id i:ℕ} {key:Text}

theorem live_changed {update:LiveRunReservation → LiveRunReservation} (h:Live (s.withReservation id update) i key) :
 i≠id ∧ Live s i key ∨ i=id ∧ ∃ old,s.reservations i=some old ∧ (update old).key=key ∧
  (update old).committed=false ∧ (update old).cancelled=false:=by
 obtain ⟨reservation,hreservation,hopen⟩:=h
 change Function.update s.reservations id _ i=some reservation at hreservation
 by_cases hid:i=id
 · rw [hid,Function.update_self] at hreservation
   obtain ⟨old,hold,rfl⟩:=Option.map_eq_some_iff.mp hreservation
   exact Or.inr ⟨hid,old,hid ▸ hold,hopen⟩
 · rw [Function.update_of_ne hid] at hreservation
   exact Or.inl ⟨hid,reservation,hreservation,hopen⟩

theorem live_commit (h:Live (s.commit id) i key) : Live s i key ∧ i≠id:=by
 obtain ⟨hid,hlive⟩ | ⟨-,_,-,-,hcommitted,-⟩:=live_changed h
 · exact ⟨hlive,hid⟩
 · exact absurd hcommitted (by simp)

theorem live_abort (h:Live (s.abort id) i key) : Live s i key ∧ i≠id:=by
 obtain ⟨hid,hlive⟩ | ⟨-,_,-,-,-,hcancelled⟩:=live_changed h
 · exact ⟨hlive,hid⟩
 · exact absurd hcancelled (by simp)

theorem live_withReservation {update:LiveRunReservation → LiveRunReservation}
 (h:Live (s.withReservation id update) i key)
 (hkeep:∀ r,(update r).key=r.key ∧ (update r).committed=r.committed ∧ (update r).cancelled=r.cancelled)
 : Live s i key:=by
 obtain ⟨-,hlive⟩ | ⟨-,old,hold,hkey,hcommitted,hcancelled⟩:=live_changed h
 · exact hlive
 · obtain ⟨hsame,hsame',hsame''⟩:=hkeep old
   exact ⟨old,hold,hsame ▸ hkey,hsame' ▸ hcommitted,hsame'' ▸ hcancelled⟩

/-- A handle that was completed or cancelled stays so. -/
def Growing (update:LiveRunHandle → LiveRunHandle) : Prop :=
 ∀ handle,((update handle).completed=false → handle.completed=false) ∧
  ((update handle).cancelRequested=false → handle.cancelRequested=false)

variable {x handle:ℕ}

theorem up_withHandle {update:LiveRunHandle → LiveRunHandle}
 (h:Up (s.withHandle x update) handle key) (hgrow:Growing update) : Up s handle key:=by
 obtain ⟨hpublished,hcompleted,hcancel⟩:=h
 change (Function.update s.handles x _ handle).completed=false at hcompleted
 change (Function.update s.handles x _ handle).cancelRequested=false at hcancel
 by_cases hx:handle=x
 · rw [hx,Function.update_self] at hcompleted hcancel
   rw [hx] at hpublished ⊢
   exact ⟨hpublished,(hgrow _).1 hcompleted,(hgrow _).2 hcancel⟩
 · rw [Function.update_of_ne hx] at hcompleted hcancel
   exact ⟨hpublished,hcompleted,hcancel⟩

theorem up_cancelHandle (h:Up (s.cancelHandle x) handle key) : Up s handle key ∧ handle≠x:=by
 refine ⟨up_withHandle h fun _=>⟨fun hc=>hc,fun hc=>absurd hc (by simp)⟩,?_⟩
 rintro rfl
 have hcancel:=h.2.2
 change (Function.update s.handles handle _ handle).cancelRequested=false at hcancel
 rw [Function.update_self] at hcancel
 exact absurd hcancel (by simp)

theorem up_unpublish (h:Up (s.unpublish x) handle key) : Up s handle key ∧ handle≠x:=by
 obtain ⟨hpublished,hopen⟩:=h
 change Function.update s.published x none handle=some key at hpublished
 by_cases hx:handle=x
 · rw [hx,Function.update_self] at hpublished
   exact absurd hpublished (by simp)
 · rw [Function.update_of_ne hx] at hpublished
   exact ⟨⟨hpublished,hopen⟩,hx⟩

theorem up_storeTerminalError {message:Text} (h:Up (s.storeTerminalError x message) handle key) : Up s handle key :=
 up_withHandle h fun _=>⟨fun hc=>hc,fun hc=>hc⟩

/-- The state with a fresh reservation in the slot. -/
def opened (env:LiveEnv) (s:LiveState) (key:Text) : LiveState :=
 { s with
   runs := s.runs.insertKey key (.starting s.issued)
   reservations := Function.update s.reservations s.issued (some ⟨key,env.uuid s.issued,false,false,false,0⟩)
   issued := s.issued+1 }

theorem reserveKey_vacant (h:s.runs.get key=none) : s.reserveKey env key=(opened env s key,some s.issued):=by
 unfold LiveState.reserveKey
 rw [h]
 rfl

theorem reserveOr_vacant (h:s.runs.get key=none) (failed:LiveReply) :
 s.reserveOr env key failed=(opened env s key,.reserved s.issued none):=by
 unfold LiveState.reserveOr
 rw [reserveKey_vacant h]
 rfl

theorem reserveOr_occupied (h:(s.runs.get key).isSome=true) (failed:LiveReply) :
 s.reserveOr env key failed=(s,failed):=by
 unfold LiveState.reserveOr LiveState.reserveKey
 rw [if_pos h]
 rfl

theorem live_opened {k:Text} (h:Live (opened env s key) i k) : Live s i k ∨ i=s.issued ∧ k=key:=by
 obtain ⟨reservation,hreservation,hkey,hcommitted,hcancelled⟩:=h
 change Function.update s.reservations s.issued _ i=some reservation at hreservation
 by_cases hid:i=s.issued
 · rw [hid,Function.update_self] at hreservation
   rw [← Option.some.inj hreservation] at hkey
   exact Or.inr ⟨hid,hkey.symm⟩
 · rw [Function.update_of_ne hid] at hreservation
   exact Or.inl ⟨reservation,hreservation,hkey,hcommitted,hcancelled⟩

theorem get_opened (key k:Text) :
 (opened env s key).runs.get k=if k=key then some (.starting s.issued) else s.runs.get k :=
 get_insertKey _ _ _ _

theorem removed_vacant (key:Text) : ((s.pruneFinished env).removeKey key).runs.get key=none:=by
 change ((s.pruneFinished env).runs.removeKey key).get key=none
 rw [get_removeKey,if_pos rfl]

theorem get_opened_removed (key k:Text) :
 (opened env ((s.pruneFinished env).removeKey key) key).runs.get k =
  if k=key then some (.starting s.issued) else kept env s k:=by
 rw [get_opened]
 by_cases hk:k=key
 · rw [if_pos hk,if_pos hk]
   rfl
 · rw [if_neg hk,if_neg hk]
   change ((s.pruneFinished env).runs.removeKey key).get k=_
   rw [get_removeKey,if_neg hk,get_pruneFinished]

theorem indexed_opened_removed (h:Indexed s.runs) :
 Indexed (opened env ((s.pruneFinished env).removeKey key) key).runs :=
 (h.pruneFinished.removeKey key).insertKey _ _

variable {action:LiveAction} {reply:LiveReply}

theorem effect_pruned (hreply:LiveReply.reservation reply=none) : Effect env s action (s.pruneFinished env) reply :=
 .quiet (fun k=>Or.inr (get_pruneFinished s k)) (fun _ _ h=>h) (fun _ _ h=>h) hreply
  Indexed.pruneFinished

variable {call:RegistryCall}

theorem effect_vacant {failed:LiveReply} (hkey:RegistryCallKey call=some key)
 (hfailed:LiveReply.reservation failed=none) :
 Effect env s (.call call) ((s.pruneFinished env).reserveOr env key failed).1
  ((s.pruneFinished env).reserveOr env key failed).2:=by
 cases hslot:(s.pruneFinished env).runs.get key with
 | none=>
  have hvacant:kept env s key=none:=(get_pruneFinished s key).symm.trans hslot
  rw [reserveOr_vacant hslot]
  refine .admitted (.vacant hkey hvacant) (fun k=>?_) (fun _ _ h=>live_opened h)
   (fun _ _ h=>⟨h,by simp⟩) (fun h=>h.pruneFinished.insertKey _ _)
  rw [get_opened,get_pruneFinished]
  rfl
 | some entry=>
  rw [reserveOr_occupied (by rw [hslot]; rfl)]
  exact effect_pruned hfailed

theorem effect_released {failed:LiveReply} (hadmission:Admission env s key call none) :
 Effect env s (.call call) (((s.pruneFinished env).removeKey key).reserveOr env key failed).1
  (((s.pruneFinished env).removeKey key).reserveOr env key failed).2:=by
 rw [reserveOr_vacant (removed_vacant key)]
 exact .admitted hadmission (get_opened_removed key) (fun _ _ h=>live_opened h)
  (fun _ _ h=>⟨h,by simp⟩) indexed_opened_removed

theorem effect_reserveRun (key:Text) :
 Effect env s (.call (.reserveRun key)) (s.reserveRun env key).1 (s.reserveRun env key).2:=by
 unfold LiveState.reserveRun
 dsimp only
 split_ifs
 · exact effect_pruned rfl
 · exact effect_vacant rfl rfl

theorem kept_fresh {entry:LiveRunEntry} (h:(s.pruneFinished env).runs.get key=some entry) : kept env s key=some entry :=
 (get_pruneFinished s key).symm.trans h

theorem effect_tryClaimRunForOperation (key:Text) (fingerprint:UInt64) :
 Effect env s (.call (.tryClaimRunForOperation key fingerprint)) (s.tryClaimRunForOperation env key fingerprint).1
  (s.tryClaimRunForOperation env key fingerprint).2:=by
 unfold LiveState.tryClaimRunForOperation
 dsimp only
 cases hslot:(s.pruneFinished env).runs.get key with
 | none=>exact effect_vacant rfl rfl
 | some entry=>
  cases entry with
  | starting id=>exact effect_pruned rfl
  | running handle=>
   dsimp only
   split_ifs
   · exact effect_pruned rfl
   · exact effect_vacant rfl rfl
  | ambiguous until_ stored=>
   dsimp only
   split_ifs with _ hblocks
   · exact effect_pruned rfl
   · exact effect_released (.ambiguous (kept_fresh hslot) (Bool.eq_false_iff.mpr hblocks) (Or.inl rfl))
   · exact effect_vacant rfl rfl
  | succeeded runId stored until_ replay=>
   dsimp only
   split_ifs with _ hzero hsame
   · exact effect_pruned rfl
   · cases replay with
     | none=>exact effect_pruned rfl
     | some replay=>exact effect_pruned rfl
   · have hother:stored≠fingerprint:=fun h=>hsame (beq_iff_eq.mpr h)
     have hscoped:fingerprint≠0:=fun h=>hzero (beq_iff_eq.mpr h)
     exact effect_released (.succeeded (kept_fresh hslot) hother (Or.inl ⟨rfl,hscoped⟩))
   · exact effect_vacant rfl rfl

theorem effect_replaceRun {fresh:Bool} (hslot:kept env s key=some (.running handle)) :
 Effect env s (.call (.claimReplacementForRun key (s.handles handle).runId fresh))
  ((s.pruneFinished env).replaceRun env key handle).1 ((s.pruneFinished env).replaceRun env key handle).2:=by
 have hresult:(s.pruneFinished env).replaceRun env key handle =
  (((opened env ((s.pruneFinished env).removeKey key) key).unpublish handle).withReservation
   s.issued fun reservation=>
    { reservation with
      operationFingerprint := (s.handles handle).requestFingerprint
      durableOwnerToken := (s.handles handle).runId },.reserved s.issued (some handle)):=by
  unfold LiveState.replaceRun
  rw [reserveKey_vacant (removed_vacant key)]
  rfl
 rw [hresult]
 refine .admitted (.replaced hslot) (get_opened_removed key) (fun i k h=>?_) (fun h k hup=>?_)
  indexed_opened_removed
 · have hopen:=live_withReservation h fun _=>⟨rfl,rfl,rfl⟩
   exact live_opened (s := (s.pruneFinished env).removeKey key) hopen
 · have hopen:=up_unpublish (s := opened env ((s.pruneFinished env).removeKey key) key) hup
   exact ⟨hopen.1,fun h=>hopen.2 (Option.some.inj h).symm⟩

theorem effect_claimReplacementForRun (key:Text) (expected:String) (fresh:Bool) :
 Effect env s (.call (.claimReplacementForRun key expected fresh))
  (s.claimReplacementForRun env key expected fresh).1 (s.claimReplacementForRun env key expected fresh).2:=by
 unfold LiveState.claimReplacementForRun
 dsimp only
 cases hslot:(s.pruneFinished env).runs.get key with
 | none=>exact effect_vacant rfl rfl
 | some entry=>
  cases entry with
  | starting id=>exact effect_pruned rfl
  | ambiguous until_ stored=>exact effect_pruned rfl
  | running handle=>
   dsimp only
   split_ifs with hrun
   · have hid:(s.handles handle).runId=expected :=
      beq_iff_eq.mp (Bool.and_eq_true_iff.mp hrun).1
     rw [← hid]
     exact effect_replaceRun (kept_fresh hslot)
   · exact effect_pruned rfl
  | succeeded runId stored until_ replay=>
   dsimp only
   split_ifs with hrun
   · rw [← beq_iff_eq.mp hrun]
     exact effect_released (.generation (kept_fresh hslot))
   · exact effect_pruned rfl

theorem effect_claimReplacementForOccupiedSlot (key:Text) :
 Effect env s (.call (.claimReplacementForOccupiedSlot key)) (s.claimReplacementForOccupiedSlot env key).1
  (s.claimReplacementForOccupiedSlot env key).2:=by
 unfold LiveState.claimReplacementForOccupiedSlot
 dsimp only
 cases hslot:(s.pruneFinished env).runs.get key with
 | none=>exact effect_vacant rfl rfl
 | some entry=>exact effect_pruned rfl

theorem unexpired {entry:LiveRunEntry} {until_:ℕ} (h:(s.pruneFinished env).runs.get key=some entry)
 (hentry:s.finished env entry=!decide (s.now<until_)) : decide (s.now<until_)=true:=by
 have hopen:=(kept_some (kept_fresh h)).2
 rw [hentry] at hopen
 simpa using hopen

theorem effect_claimSuccessRelease (key:Text) (fingerprint:UInt64) :
 Effect env s (.call (.claimSuccessRelease key fingerprint)) (s.claimSuccessRelease env key fingerprint).1
  (s.claimSuccessRelease env key fingerprint).2:=by
 unfold LiveState.claimSuccessRelease
 dsimp only
 cases hslot:(s.pruneFinished env).runs.get key with
 | none=>exact effect_pruned rfl
 | some entry=>
  cases entry with
  | starting id=>exact effect_pruned rfl
  | running handle=>exact effect_pruned rfl
  | ambiguous until_ stored=>exact effect_pruned rfl
  | succeeded runId stored until_ replay=>
   have hopen:decide (s.now<until_)=true:=unexpired hslot rfl
   dsimp only
   split_ifs with hsame
   · exact effect_pruned rfl
   · have hother:stored≠fingerprint:=fun h=>
      hsame (Bool.and_eq_true_iff.mpr ⟨hopen,beq_iff_eq.mpr h⟩)
     exact effect_released (.succeeded (kept_fresh hslot) hother (Or.inr rfl))

theorem effect_claimAmbiguousRelease (key:Text) (fingerprint:UInt64) :
 Effect env s (.call (.claimAmbiguousRelease key fingerprint)) (s.claimAmbiguousRelease env key fingerprint).1
  (s.claimAmbiguousRelease env key fingerprint).2:=by
 unfold LiveState.claimAmbiguousRelease
 dsimp only
 cases hslot:(s.pruneFinished env).runs.get key with
 | none=>exact effect_pruned rfl
 | some entry=>
  cases entry with
  | starting id=>exact effect_pruned rfl
  | running handle=>exact effect_pruned rfl
  | succeeded runId stored until_ replay=>exact effect_pruned rfl
  | ambiguous until_ stored=>
   have hopen:decide (s.now<until_)=true:=unexpired hslot rfl
   dsimp only
   split_ifs with hsame
   · exact effect_pruned rfl
   · have hother:ambiguousBlocksOperation stored fingerprint=false:=by
      rw [Bool.eq_false_iff]
      exact fun h=>hsame (Bool.and_eq_true_iff.mpr ⟨hopen,h⟩)
     exact effect_released (.ambiguous (kept_fresh hslot) hother (Or.inr rfl))

theorem markCancelledOperation_eq (t:LiveState) (key:Text) (handle:ℕ) (message:String) :
 ∃ ledger,t.markCancelledOperation key handle message={ t with ledger := ledger }:=by
 unfold LiveState.markCancelledOperation
 dsimp only
 split_ifs
 · exact ⟨t.ledger,rfl⟩
 · exact ⟨_,rfl⟩

theorem effect_cancelRunning {message:String} (hslot:kept env s key=some (.running handle))
 (hreply:LiveReply.reservation reply=none) :
 Effect env s (.call call) ((s.pruneFinished env).cancelRunning key handle message) reply:=by
 obtain ⟨ledger,hledger⟩:=markCancelledOperation_eq ((s.pruneFinished env).removeKey key) key handle message
 unfold LiveState.cancelRunning
 rw [hledger]
 refine .stopped none hslot (fun k=>?_) (fun _ _ h=>h) (fun _ _ h=>?_) hreply
  (fun h=>h.pruneFinished.removeKey _)
 · change ((s.pruneFinished env).runs.removeKey key).get k=_
   rw [get_removeKey,get_pruneFinished]
 · exact up_cancelHandle (s := { (s.pruneFinished env).removeKey key with ledger := ledger }) h

theorem effect_cancelRun (key:Text) :
 Effect env s (.call (.cancelRun key)) (s.cancelRun env key).1 (s.cancelRun env key).2:=by
 unfold LiveState.cancelRun
 dsimp only
 cases hslot:(s.pruneFinished env).runs.get key with
 | none=>exact effect_pruned rfl
 | some entry=>
  cases entry with
  | ambiguous until_ stored=>exact effect_pruned rfl
  | succeeded runId stored until_ replay=>exact effect_pruned rfl
  | running handle=>exact effect_cancelRunning (kept_fresh hslot) rfl
  | starting id=>
   refine .aborted (kept_some (kept_fresh hslot)).1 (fun k=>?_) (fun _ _ h=>?_)
    (fun _ _ h=>h) rfl (fun h=>h.pruneFinished.removeKey _)
   · change ((s.pruneFinished env).runs.removeKey key).get k=_
     rw [get_removeKey,get_pruneFinished]
   · exact live_abort (s := (s.pruneFinished env).removeKey key) h

theorem effect_cancelRunIfGeneration (key:Text) (expected:String) :
 Effect env s (.call (.cancelRunIfGeneration key expected)) (s.cancelRunIfGeneration env key expected).1
  (s.cancelRunIfGeneration env key expected).2:=by
 unfold LiveState.cancelRunIfGeneration
 dsimp only
 split_ifs
 · exact .quiet (fun _=>Or.inl rfl) (fun _ _ h=>h) (fun _ _ h=>h) rfl id
 · split
   · rename_i handle hslot
     split_ifs
     · exact effect_cancelRunning (kept_fresh hslot) rfl
     · exact effect_pruned rfl
   · exact effect_pruned rfl

theorem effect_cancelRunningOnly (key:Text) :
 Effect env s (.call (.cancelRunningOnly key)) (s.cancelRunningOnly env key).1 (s.cancelRunningOnly env key).2:=by
 unfold LiveState.cancelRunningOnly
 dsimp only
 split
 · rename_i handle hslot
   split_ifs
   · exact effect_cancelRunning (kept_fresh hslot) rfl
   · exact effect_pruned rfl
 · exact effect_pruned rfl

theorem effect_supersede (hslot:kept env s key=some (.running handle)) :
 Effect env s (.call (.supersedeRun key)) ((s.pruneFinished env).supersede env key handle).1
  ((s.pruneFinished env).supersede env key handle).2:=by
 unfold LiveState.supersede
 rw [reserveKey_vacant (removed_vacant key)]
 dsimp only
 split_ifs
 · refine .admitted (.superseded hslot) (get_opened_removed key) (fun _ _ h=>?_)
    (fun _ _ h=>?_) indexed_opened_removed
   · exact live_opened (s := (s.pruneFinished env).removeKey key) h
   · have hopen:=up_cancelHandle h
     exact ⟨hopen.1,fun h=>hopen.2 (Option.some.inj h).symm⟩
 · obtain ⟨ledger,hledger⟩:=markCancelledOperation_eq
    ((opened env ((s.pruneFinished env).removeKey key) key).withReservation
     ((s.pruneFinished env).removeKey key).issued fun reservation=>
      { reservation with
        operationFingerprint := ((s.pruneFinished env).handles handle).requestFingerprint
        durableOwnerToken := ((s.pruneFinished env).handles handle).runId
        sealOnDrop := true }) key handle LiveState.supersededMessage
   rw [hledger]
   refine .admitted (.superseded hslot) (get_opened_removed key) (fun _ _ h=>?_)
    (fun _ _ h=>?_) indexed_opened_removed
   · have hopen:=live_withReservation
      (s := opened env ((s.pruneFinished env).removeKey key) key) h fun _=>⟨rfl,rfl,rfl⟩
     exact live_opened (s := (s.pruneFinished env).removeKey key) hopen
   · have hopen:=up_cancelHandle h
     exact ⟨hopen.1,fun h=>hopen.2 (Option.some.inj h).symm⟩

theorem effect_supersedeRun (key:Text) :
 Effect env s (.call (.supersedeRun key)) (s.supersedeRun env key).1 (s.supersedeRun env key).2:=by
 unfold LiveState.supersedeRun
 dsimp only
 cases hslot:(s.pruneFinished env).runs.get key with
 | none=>exact effect_vacant rfl rfl
 | some entry=>
  cases entry with
  | starting id=>exact effect_pruned rfl
  | ambiguous until_ stored=>exact effect_pruned rfl
  | succeeded runId stored until_ replay=>exact effect_pruned rfl
  | running handle=>
   dsimp only
   split_ifs
   · exact effect_supersede (kept_fresh hslot)
   · exact effect_vacant rfl rfl

theorem runningAt_some {runId:String} {found:Text}
 (h:s.runningAt runId key=some (found,handle)) : found=key ∧
  s.runs.get key=some (.running handle) ∧ (s.handles handle).runId=runId:=by
 unfold LiveState.runningAt at h
 split at h
 · rename_i other hget
   split_ifs at h with hrun
   obtain ⟨rfl,rfl⟩:=Prod.mk.inj (Option.some.inj h)
   exact ⟨rfl,hget,beq_iff_eq.mp hrun⟩
 · exact absurd h (by simp)

theorem sealSuccessIf_cases (s:LiveState) (sessionId:Text) (runId:String)
 (replay:Option Replay) (completion:Except IoError Bool) :
 ((s.sealSuccessIf sessionId runId replay completion).runs=s.runs ∧
  (∀ id k,Live (s.sealSuccessIf sessionId runId replay completion) id k → Live s id k) ∧
  ∀ h k,Up (s.sealSuccessIf sessionId runId replay completion) h k → Up s h k) ∨
 ∃ (key:Text) (handle:ℕ) (ledger:List LedgerOp) (entry:LiveRunEntry),
  s.runs.get key=some (.running handle) ∧ (s.handles handle).runId=runId ∧
  s.sealSuccessIf sessionId runId replay completion =
   (LiveState.unpublish { s.insertKey key entry with ledger := ledger }
    handle).enforceReplayBudget:=by
 unfold LiveState.sealSuccessIf
 dsimp only
 cases hfound:(s.runs.keysFor (claudeSessionOf sessionId) ++
  (if (s.runs.keysFor (claudeSessionOf sessionId)).contains sessionId then []
   else [sessionId])).findSome? (s.runningAt runId) with
 | none=>exact Or.inl ⟨rfl,fun _ _ h=>h,fun _ _ h=>h⟩
 | some found=>
  obtain ⟨key,handle⟩:=found
  obtain ⟨place,-,hplace⟩:=List.exists_of_findSome?_eq_some hfound
  obtain ⟨rfl,hget,hrun⟩:=runningAt_some hplace
  dsimp only
  split_ifs
  · exact Or.inl ⟨rfl,fun _ _ h=>h,fun _ _ h=>h⟩
  · rcases completion with error | ⟨_ | _⟩
    · exact Or.inl ⟨rfl,fun _ _ h=>h,fun _ _ h=>up_storeTerminalError h⟩
    · exact Or.inl ⟨rfl,fun _ _ h=>h,fun _ _ h=>up_storeTerminalError h⟩
    · exact Or.inr ⟨key,handle,_,_,hget,hrun,rfl⟩

theorem enforceReplayBudget_eq (s:LiveState) : ∃ runs,s.enforceReplayBudget={ s with runs := runs }:=by
 unfold LiveState.enforceReplayBudget
 dsimp only
 split_ifs
 · exact ⟨s.runs,rfl⟩
 · exact ⟨_,rfl⟩

theorem effect_sealSuccessIf (sessionId:Text) (runId:String) (replay:Option Replay) (completion:Except IoError Bool) :
 Effect env s action (s.sealSuccessIf sessionId runId replay completion) (.done true):=by
 rcases sealSuccessIf_cases s sessionId runId replay completion with
  ⟨hruns,hlive,hup⟩ | ⟨key,handle,ledger,entry,hget,-,hresult⟩
 · exact .quiet (fun k=>Or.inl (by rw [hruns])) hlive hup rfl (fun h=>by rw [hruns]; exact h)
 · rw [hresult]
   obtain ⟨runs,hbudget⟩:=enforceReplayBudget_eq
    (LiveState.unpublish { s.insertKey key entry with ledger := ledger } handle)
   refine .sealed entry hget (fun k=>?_) (fun _ _ h=>?_) (fun _ _ h=>?_) rfl (fun h=>?_)
   · have htrimmed:=get_enforceReplayBudget
      (LiveState.unpublish { s.insertKey key entry with ledger := ledger } handle) k
     change Trimmed ((s.runs.insertKey key entry).get k) _ at htrimmed
     rw [get_insertKey] at htrimmed
     exact htrimmed
   · rw [hbudget] at h
     exact h
   · rw [hbudget] at h
     exact up_unpublish (s := { s.insertKey key entry with ledger := ledger }) h
   · exact Indexed.enforceReplayBudget (h.insertKey key entry)

section
variable {t:LiveState} {call:RegistryCall} {key:Text} {handle:ℕ} {reply:LiveReply}
 (hruns:t.runs=(s.pruneFinished env).runs) (hlive:∀ id k,Live t id k → Live s id k)
 (hup:∀ h k,Up t h k → Up s h k) (hslot:kept env s key=some (.running handle))
 (hreply:LiveReply.reservation reply=none)
include hruns hlive hup hslot hreply

theorem effect_sealAt (fingerprint:UInt64) (owner:String) (message:Text) :
 Effect env s (.call call) ((t.unpublish handle).sealAt key fingerprint owner message) reply:=by
 refine .stopped (some (.ambiguous (t.now+liveAmbiguousOpenTtl) fingerprint)) hslot
  (fun k=>?_) (fun id k h=>hlive id k h) (fun h k hopen=>?_) hreply (fun h=>?_)
 · change (t.runs.insertKey key _).get k=_
   rw [get_insertKey,hruns,get_pruneFinished]
   rfl
 · have hother:=up_unpublish (s := t) hopen
   exact ⟨hup h k hother.1,hother.2⟩
 · exact Indexed.insertKey (hruns ▸ h.pruneFinished) key _

theorem effect_clearAt (fingerprint:UInt64) (owner:String) :
 Effect env s (.call call) ((t.unpublish handle).clearAt key fingerprint owner) reply:=by
 refine .stopped none hslot (fun k=>?_) (fun id k h=>hlive id k h)
  (fun h k hopen=>?_) hreply (fun h=>?_)
 · change (t.runs.removeKey key).get k=_
   rw [get_removeKey,hruns,get_pruneFinished]
 · have hother:=up_unpublish (s := t) hopen
   exact ⟨hup h k hother.1,hother.2⟩
 · exact Indexed.removeKey (hruns ▸ h.pruneFinished) key

omit hreply in
theorem effect_settleProbe (error:Text) :
 Effect env s (.call call) (t.settleProbe key handle error).1 (t.settleProbe key handle error).2:=by
 unfold LiveState.settleProbe
 dsimp only
 split_ifs
 · exact effect_clearAt hruns hlive hup hslot rfl _ _
 · exact effect_sealAt hruns hlive hup hslot rfl _ _ _
 · exact effect_clearAt hruns hlive hup hslot rfl _ _

end

theorem up_takeTerminalError (h:Up (s.takeTerminalError env x).1 handle key) : Up s handle key:=by
 unfold LiveState.takeTerminalError at h
 dsimp only at h
 exact up_withHandle h fun _=>⟨fun hc=>hc,fun hc=>hc⟩

theorem effect_taken (hreply:LiveReply.reservation reply=none) :
 Effect env s (.call call) ((s.pruneFinished env).takeTerminalError env handle).1 reply :=
 .quiet (fun k=>Or.inr (get_pruneFinished s k)) (fun _ _ h=>h)
  (fun _ _ h=>up_takeTerminalError (s := s.pruneFinished env) h) hreply Indexed.pruneFinished

theorem effect_probeRun (key:Text) :
 Effect env s (.call (.probeRun key)) (s.probeRun env key).1 (s.probeRun env key).2:=by
 unfold LiveState.probeRun
 dsimp only
 split
 · exact effect_pruned rfl
 · rename_i handle hslot
   have hkept:=kept_fresh hslot
   have htaken:∀ h k,Up ((s.pruneFinished env).takeTerminalError env handle).1 h k →
    Up s h k := fun _ _ hup=>up_takeTerminalError (s := s.pruneFinished env) hup
   cases ((s.pruneFinished env).handles handle).completed ||
    ((s.pruneFinished env).handles handle).commandClosed ||
    ((s.pruneFinished env).handles handle).hasRetryableTerminalError env (s.pruneFinished env).now with
   | false=>
    rw [if_neg (by decide)]
    exact effect_pruned rfl
   | true=>
    rw [if_pos rfl]
    cases ((s.pruneFinished env).handles handle).retryableTerminalError env (s.pruneFinished env).now with
    | some error=>
     exact effect_settleProbe (t := s.pruneFinished env) rfl (fun _ _ h=>h) (fun _ _ h=>h)
      hkept error
    | none=>
     dsimp only
     cases ((s.pruneFinished env).takeTerminalError env handle).2.or
      (if ((s.pruneFinished env).handles handle).commandClosed then
       some LiveState.controlCloseMessage.toList else none) with
     | none=>exact effect_taken rfl
     | some error=>
      exact effect_settleProbe (t := ((s.pruneFinished env).takeTerminalError env handle).1)
       rfl (fun _ _ h=>h) htaken hkept error
 · exact effect_pruned rfl

theorem effect_takeTerminalErrorMatchingRun (key:Text) (expected:Option String) :
 Effect env s (.call (.takeTerminalErrorMatchingRun key expected))
  (s.takeTerminalErrorMatchingRun env key expected).1 (s.takeTerminalErrorMatchingRun env key expected).2:=by
 unfold LiveState.takeTerminalErrorMatchingRun
 dsimp only
 split
 · rename_i handle hslot
   have hkept:=kept_fresh hslot
   have htaken:∀ h k,Up ((s.pruneFinished env).takeTerminalError env handle).1 h k →
    Up s h k := fun _ _ hup=>up_takeTerminalError (s := s.pruneFinished env) hup
   cases ((s.pruneFinished env).handles handle).completed &&
    expected.all (((s.pruneFinished env).handles handle).runId == ·) with
   | false=>
    rw [if_neg (by decide)]
    exact effect_pruned rfl
   | true=>
    rw [if_pos rfl]
    cases ((s.pruneFinished env).takeTerminalError env handle).2 with
    | none=>exact effect_taken rfl
    | some message=>
     dsimp only
     cases terminalErrorIsAmbiguousAccept message with
     | true=>
      exact effect_sealAt (t := ((s.pruneFinished env).takeTerminalError env handle).1) rfl
       (fun _ _ h=>h) htaken hkept rfl _ _ _
     | false=>
      exact effect_clearAt (t := ((s.pruneFinished env).takeTerminalError env handle).1) rfl
       (fun _ _ h=>h) htaken hkept rfl _ _
 · exact effect_pruned rfl

theorem ownsSlot_get (h:s.ownsSlot id key=true) : s.runs.get key=some (.starting id):=by
 unfold LiveState.ownsSlot at h
 split at h
 · rename_i other hget
   rw [hget,beq_iff_eq.mp h]
 · exact absurd h (by simp)

section
variable {id:ℕ} {reservation:LiveRunReservation} {call:HolderCall}

theorem effect_commit_abort : Effect env s (.holder id call) ((s.abort id).commit id) (.done true) :=
 .quiet (fun _=>Or.inl rfl) (fun _ _ h=>(live_abort (live_commit h).1).1) (fun _ _ h=>h)
  rfl (fun h=>h)

theorem effect_release : Effect env s (.holder id call) (s.release id reservation) (.done true):=by
 unfold LiveState.release
 dsimp only
 split_ifs with howns
 · refine .used none (ownsSlot_get (s := s.abort id) howns) (fun k=>?_)
    (fun _ _ h=>?_) (fun _ _ h=>h) rfl (fun h=>h.removeKey _)
   · exact get_removeKey s.runs reservation.key k
   · exact live_abort (live_commit h).1
 · exact effect_commit_abort

theorem effect_sealAmbiguous (until_:ℕ) :
 Effect env s (.holder id call) (s.sealAmbiguous id reservation until_) (.done true):=by
 unfold LiveState.sealAmbiguous
 dsimp only
 split_ifs with howns
 · refine .used (some (.ambiguous until_ reservation.operationFingerprint))
    (ownsSlot_get howns) (fun k=>?_) (fun _ _ h=>?_) (fun _ _ h=>h) rfl
    (fun h=>h.insertKey _ _)
   · exact get_insertKey s.runs reservation.key _ k
   · exact live_commit h
 · exact .quiet (fun _=>Or.inl rfl) (fun _ _ h=>(live_commit h).1) (fun _ _ h=>h) rfl
    (fun h=>h)

theorem effect_dropReservation : Effect env s (.holder id call) (s.dropReservation id reservation) (.done true):=by
 unfold LiveState.dropReservation
 dsimp only
 split_ifs with hsealed howns
 · have howns:=(Bool.and_eq_true_iff.mp hsealed).1
   refine .used (some (.ambiguous (s.now+liveAmbiguousOpenTtl)
    reservation.operationFingerprint)) (ownsSlot_get (s := s.abort id) howns) (fun k=>?_)
    (fun _ _ h=>?_) (fun _ _ h=>h) rfl (fun h=>h.insertKey _ _)
   · exact get_insertKey s.runs reservation.key _ k
   · exact live_abort (live_commit h).1
 · refine .used none (ownsSlot_get (s := s.abort id) howns) (fun k=>?_)
    (fun _ _ h=>?_) (fun _ _ h=>h) rfl (fun h=>h.removeKey _)
   · exact get_removeKey s.runs reservation.key k
   · exact live_abort (live_commit h).1
 · exact effect_commit_abort

theorem effect_withReservation {update:LiveRunReservation → LiveRunReservation}
 (hkeep:∀ r,(update r).key=r.key ∧ (update r).committed=r.committed ∧ (update r).cancelled=r.cancelled) :
 Effect env s (.holder id call) (s.withReservation id update) (.done true) :=
 .quiet (fun _=>Or.inl rfl) (fun _ _ h=>live_withReservation h hkeep) (fun _ _ h=>h) rfl
  (fun h=>h)

end

theorem handles_bindFingerprint (handle:ℕ) (fingerprint:UInt64) (h:ℕ) :
 ∃ bound,(s.bindFingerprint handle fingerprint).handles h = { s.handles h with requestFingerprint := bound }:=by
 unfold LiveState.bindFingerprint
 split_ifs
 · exact ⟨_,rfl⟩
 · unfold LiveState.withHandle
   dsimp only
   by_cases hsame:h=handle
   · rw [hsame,Function.update_self]
     exact ⟨_,rfl⟩
   · rw [Function.update_of_ne hsame]
     exact ⟨_,rfl⟩

theorem bindFingerprint_eq (handle:ℕ) (fingerprint:UInt64) :
 ∃ handles,s.bindFingerprint handle fingerprint={ s with handles := handles }:=by
 unfold LiveState.bindFingerprint
 split_ifs
 · exact ⟨s.handles,rfl⟩
 · exact ⟨_,rfl⟩

theorem kept_bindFingerprint (handle:ℕ) (fingerprint:UInt64) (key:Text) :
 kept env (s.bindFingerprint handle fingerprint) key=kept env s key:=by
 have hfinished:∀ entry,(s.bindFingerprint handle fingerprint).finished env entry = s.finished env entry:=by
  intro entry
  obtain ⟨handles,heq⟩:=bindFingerprint_eq (s := s) handle fingerprint
  cases entry with
  | running h=>
   obtain ⟨bound,hbound⟩:=handles_bindFingerprint (s := s) handle fingerprint h
   unfold LiveState.finished
   dsimp only
   rw [hbound,heq]
   rfl
  | starting id=>rfl
  | ambiguous until_ stored=>
   rw [heq]
   rfl
  | succeeded run stored until_ replay=>
   rw [heq]
   rfl
 unfold kept
 simp only [hfinished]
 obtain ⟨handles,heq⟩:=bindFingerprint_eq (s := s) handle fingerprint
 rw [heq]

variable {fingerprint:UInt64}

theorem up_bindFingerprint {h:ℕ} (hup:Up (s.bindFingerprint handle fingerprint) h key) : Up s h key:=by
 obtain ⟨handles,heq⟩:=bindFingerprint_eq (s := s) handle fingerprint
 obtain ⟨bound,hbound⟩:=handles_bindFingerprint (s := s) handle fingerprint h
 obtain ⟨hpublished,hcompleted,hcancel⟩:=hup
 rw [hbound] at hcompleted hcancel
 rw [heq] at hpublished
 exact ⟨hpublished,hcompleted,hcancel⟩

theorem live_bindFingerprint (hlive:Live (s.bindFingerprint handle fingerprint) id key) : Live s id key:=by
 obtain ⟨handles,heq⟩:=bindFingerprint_eq (s := s) handle fingerprint
 rw [heq] at hlive
 exact hlive

theorem allowsPublication_get (h:s.allowsPublication id key=true) :
 s.runs.get key=none ∨ s.runs.get key=some (.starting id):=by
 unfold LiveState.allowsPublication at h
 split at h
 · rename_i other hget
   rw [hget,beq_iff_eq.mp h]
   exact Or.inr rfl
 · rename_i hget
   exact Or.inl hget
 · exact absurd h (by simp)

theorem up_published {h:ℕ} {k:Text} {t:LiveState} (hup:Up t h k)
 (hpublished:t.published=Function.update s.published x (some key))
 (hhandles:t.handles=(s.bindFingerprint x fingerprint).handles) : if h=x then k=key else Up s h k:=by
 obtain ⟨hkey,hcompleted,hcancel⟩:=hup
 rw [hpublished] at hkey
 split_ifs with hx
 · rw [hx,Function.update_self] at hkey
   exact (Option.some.inj hkey).symm
 · rw [Function.update_of_ne hx] at hkey
   obtain ⟨bound,hbound⟩:=handles_bindFingerprint (s := s) x fingerprint h
   rw [hhandles,hbound] at hcompleted hcancel
   exact ⟨hkey,hcompleted,hcancel⟩

/-- An effect, and possibly the sealing of the run that was just published. -/
def Leads (env:LiveEnv) (s:LiveState) (action:LiveAction) (s':LiveState) (reply:LiveReply) : Prop :=
 ∃ mid,Effect env s action mid reply ∧ (s'=mid ∨ ∃ key runId completion,s'=mid.sealSuccessIf key runId none completion)

theorem Effect.leads {s':LiveState} (h:Effect env s action s' reply) : Leads env s action s' reply :=
 ⟨s',h,Or.inl rfl⟩

theorem leads_insert (id:ℕ) (reservation:LiveRunReservation) (handle:ℕ)
 (transferred completion:Except IoError Bool) {call:HolderCall} :
 Leads env s (.holder id call) (s.insert env id reservation handle transferred completion).1
  (s.insert env id reservation handle transferred completion).2:=by
 have hslots:∀ k,((s.bindFingerprint handle reservation.operationFingerprint).pruneFinished
  env).runs.get k=kept env s k :=
  fun k=>(get_pruneFinished _ k).trans (kept_bindFingerprint _ _ _)
 have hindexed:Indexed s.runs → Indexed ((s.bindFingerprint handle
  reservation.operationFingerprint).pruneFinished env).runs:=by
  intro h
  obtain ⟨handles,heq⟩:=bindFingerprint_eq (s := s) handle reservation.operationFingerprint
  rw [heq]
  exact Indexed.pruneFinished (s := { s with handles := handles }) h
 unfold LiveState.insert
 dsimp only
 cases hallows:((s.bindFingerprint handle reservation.operationFingerprint).pruneFinished
  env).allowsPublication id reservation.key with
 | false=>
  exact Effect.leads (.quiet (fun k=>Or.inr (hslots k))
   (fun _ _ h=>live_bindFingerprint (live_commit h).1) (fun _ _ h=>up_bindFingerprint h) rfl
   hindexed)
 | true=>
  have hslot:=allowsPublication_get hallows
  rw [hslots] at hslot
  rw [if_neg (by decide)]
  have hfailed:∀ (owner:String) (op:LedgerOp) (message text:Text),
   Leads env s (.holder id call)
    (((((s.bindFingerprint handle reservation.operationFingerprint).pruneFinished env).record
     op).storeTerminalError handle message).persistAmbiguousOperation reservation.key
      reservation.operationFingerprint owner text |>.commit id) (.returned handle):=by
   intro owner op message text
   exact Effect.leads (.quiet (fun k=>Or.inr (hslots k))
    (fun _ _ h=>live_bindFingerprint (live_commit h).1)
    (fun _ _ h=>up_bindFingerprint (up_storeTerminalError
     (s := ((s.bindFingerprint handle reservation.operationFingerprint).pruneFinished
      env).record _) h)) rfl hindexed)
  have hpublished:∀ (mid:LiveState) (reply:LiveReply),
   mid.runs=((s.bindFingerprint handle reservation.operationFingerprint).pruneFinished
    env).runs.insertKey reservation.key (.running handle) → (∀ i k,Live mid i k → Live s i k ∧ i≠id) →
   (∀ h k,Up mid h k → if h=handle then k=reservation.key else Up s h k) →
   LiveReply.reservation reply=none → Effect env s (.holder id call) mid reply:=by
   intro mid reply hruns hlive hup hreply
   refine .published reservation.key handle hslot (fun k=>?_) hlive hup hreply
    (fun h=>?_)
   · rw [hruns,get_insertKey,hslots]
   · rw [hruns]
     exact (hindexed h).insertKey _ _
  have hmark:Function.update ((s.bindFingerprint handle reservation.operationFingerprint).pruneFinished env).published
   handle (some reservation.key) = Function.update s.published handle (some reservation.key):=by
   obtain ⟨handles,heq⟩:=bindFingerprint_eq (s := s) handle reservation.operationFingerprint
   rw [heq]
   rfl
  rcases transferred with error | ⟨_ | _⟩
  · exact hfailed _ _ _ _
  · exact hfailed _ _ _ _
  · dsimp only
    split_ifs
    · refine ⟨_,hpublished _ (.done true) rfl ?_ ?_ rfl,Or.inr ⟨_,_,_,rfl⟩⟩
      · exact fun _ _ h=>⟨live_bindFingerprint (live_commit h).1,(live_commit h).2⟩
      · exact fun _ _ h=>up_published h hmark rfl
    · refine Effect.leads (hpublished _ (.done true) rfl ?_ ?_ rfl)
      · exact fun _ _ h=>⟨live_bindFingerprint (live_commit h).1,(live_commit h).2⟩
      · exact fun _ _ h=>up_published h hmark rfl

theorem drive_growing (s:LiveState) (handle:ℕ) (event:DriverEvent) :
 ∃ update,s.drive handle event=s.withHandle handle update ∧ Growing update:=by
 cases event with
 | complete=>
  exact ⟨fun h=>{ h with completed := true },rfl,
   fun _=>⟨fun hc=>absurd hc (by simp),fun hc=>hc⟩⟩
 | requestCancel=>
  exact ⟨fun h=>{ h with cancelRequested := true },rfl,
   fun _=>⟨fun hc=>hc,fun hc=>absurd hc (by simp)⟩⟩
 | consumerGone gone=>
  exact ⟨fun h=>{ h with consumerGone := gone },rfl,fun _=>⟨fun hc=>hc,fun hc=>hc⟩⟩
 | closeCommand=>
  exact ⟨fun h=>{ h with commandClosed := true },rfl,fun _=>⟨fun hc=>hc,fun hc=>hc⟩⟩
 | exposePending clientOnly=>
  exact ⟨fun h=>{ h with clientOnlyPending := clientOnly },rfl,
   fun _=>⟨fun hc=>hc,fun hc=>hc⟩⟩
 | storeError message=>
  exact ⟨fun h=>{ h with terminalError := h.terminalError.or (some ⟨message,s.now⟩) },rfl,
   fun _=>⟨fun hc=>hc,fun hc=>hc⟩⟩
 | publishFingerprint fingerprint=>
  exact ⟨fun h=>{ h with requestFingerprint := fingerprint },rfl,
   fun _=>⟨fun hc=>hc,fun hc=>hc⟩⟩

theorem effect_drive (handle:ℕ) (event:DriverEvent) :
 Effect env s (.driver handle event) (s.drive handle event) (.done true):=by
 obtain ⟨update,hdrive,hgrow⟩:=drive_growing s handle event
 rw [hdrive]
 exact .quiet (fun _=>Or.inl rfl) (fun _ _ h=>h) (fun _ _ h=>up_withHandle h hgrow) rfl id

theorem effect_call (call:RegistryCall) : Effect env s (.call call) (s.call env call).1 (s.call env call).2:=by
 cases call with
 | reserveRun key=>exact effect_reserveRun key
 | tryClaimRunForOperation key fingerprint=>exact effect_tryClaimRunForOperation key fingerprint
 | claimReplacementForRun key expected fresh=>
  exact effect_claimReplacementForRun key expected fresh
 | claimReplacementForOccupiedSlot key=>exact effect_claimReplacementForOccupiedSlot key
 | claimSuccessRelease key fingerprint=>exact effect_claimSuccessRelease key fingerprint
 | claimAmbiguousRelease key fingerprint=>exact effect_claimAmbiguousRelease key fingerprint
 | cancelRun key=>exact effect_cancelRun key
 | cancelRunIfGeneration key expected=>exact effect_cancelRunIfGeneration key expected
 | cancelRunningOnly key=>exact effect_cancelRunningOnly key
 | supersedeRun key=>exact effect_supersedeRun key
 | sealSuccessIf sessionId runId replay completion=>
  exact effect_sealSuccessIf sessionId runId replay completion
 | probeRun key=>exact effect_probeRun key
 | takeTerminalErrorMatchingRun key expected=>
  exact effect_takeTerminalErrorMatchingRun key expected
 | prune=>exact effect_pruned rfl

theorem leads_hold (id:ℕ) (reservation:LiveRunReservation) (call:HolderCall) :
 Leads env s (.holder id call) (s.hold env id reservation call).1 (s.hold env id reservation call).2:=by
 cases call with
 | insert handle transferred completion=>
  exact leads_insert id reservation handle transferred completion
 | release=>exact Effect.leads effect_release
 | sealAmbiguous until_=>exact Effect.leads (effect_sealAmbiguous until_)
 | drop=>exact Effect.leads effect_dropReservation
 | setOperationFingerprint fingerprint=>
  exact Effect.leads (effect_withReservation fun _=>⟨rfl,rfl,rfl⟩)
 | setDurableOwnerToken owner=>
  exact Effect.leads (effect_withReservation fun _=>⟨rfl,rfl,rfl⟩)
 | resetDurableOwnerToken=>
  exact Effect.leads (effect_withReservation fun _=>⟨rfl,rfl,rfl⟩)
 | protectOnDrop=>exact Effect.leads (effect_withReservation fun _=>⟨rfl,rfl,rfl⟩)
 | disarmOnDrop=>exact Effect.leads (effect_withReservation fun _=>⟨rfl,rfl,rfl⟩)

theorem step_leads {s':LiveState} (h:s.step env action=some (s',reply)) : Leads env s action s' reply:=by
 cases action with
 | call call=>
  obtain ⟨rfl,rfl⟩:=Prod.mk.inj (Option.some.inj h)
  exact Effect.leads (effect_call call)
 | holder id call=>
  obtain ⟨reservation,-,hresult⟩:=Option.map_eq_some_iff.mp h
  have hleads:Leads env s (.holder id call) _ _:=leads_hold id reservation call
  rw [hresult] at hleads
  exact hleads
 | driver handle event=>
  obtain ⟨rfl,rfl⟩:=Prod.mk.inj (Option.some.inj h)
  exact Effect.leads (effect_drive handle event)
 | pass ms=>
  obtain ⟨rfl,rfl⟩:=Prod.mk.inj (Option.some.inj h)
  exact Effect.leads (.quiet (fun _=>Or.inl rfl) (fun _ _ h=>h) (fun _ _ h=>h) rfl id)

end CursorProxy.LiveEffects
