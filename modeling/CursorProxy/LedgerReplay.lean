import CursorProxy.LedgerSizes

namespace CursorProxy.LedgerReplay
open LedgerModel LedgerRecords LedgerTransitions LedgerHistory LedgerSizes Traces

variable {env:LedgerEnv} {ctx:CallContext} {dir dir':LedgerDir} {event:LedgerEvent}
 {key owner:String} {fingerprint:UInt64} {now since:ℕ} {newer:Finset UInt64}

theorem verdict_completed {payload:RecordPayload} (h:isCompleted payload fingerprint=true) :
  verdict payload fingerprint=.duplicateCompleted:=by
 have hrotate:canRotateAmbiguous payload fingerprint=false:=by
  unfold canRotateAmbiguous
  rw [h]
  cases payload.active <;> simp
 unfold verdict classify
 rw [hrotate,if_neg (by simp),if_pos h]

theorem persist_current (hreliable:Reliable env ctx) (hstored:WellStored env dir)
  {payload:RecordPayload} (hslot:slot env dir key=some payload) (hvacant:(current env ctx dir key).vacant=false) :
  (persistOrRemove env ctx dir (current env ctx dir key)).2=.ok ():=by
 obtain ⟨stored,hlookup,hpayload,hown⟩:=slot_eq_some hslot
 obtain ⟨-,hsealed,hsize,-⟩:=hstored _ _ hlookup
 have hkey:=current_operationKey env ctx dir key
 have hcapacity:ensureCapacity env ctx dir (recordPath env (current env ctx dir key).operationKey) = (dir,.ok ()):=by
  rw [hkey]
  exact if_pos (AList.lookup_isSome.mp (by rw [hlookup]; rfl))
 have hfits:¬maxRecordBytes<storedBytes (sealRecord env (current env ctx dir key)):=by
  have hle:=normalize_payloadBytes env ctx.processInstanceId (ctx.now_le_later.trans ctx.later_le_max) payload
  rw [hsealed,storedBytes_sealRecord,hpayload] at hsize
  rw [storedBytes_sealRecord,current,hslot,Option.getD_some]
  omega
 unfold persistOrRemove
 rw [hvacant,if_neg (by simp)]
 unfold writeRecord
 rw [hcapacity]
 dsimp only
 rw [if_neg hfits]
 unfold publishRecord
 rw [hreliable.faultFree]
 rfl

theorem claim_completed (hreliable:Reliable env ctx) (hstored:WellStored env dir)
  (hidentity:validateIdentity key (some owner)=.ok ()) (h:isCompleted (current env ctx dir key) fingerprint=true) :
  (claim env ctx dir key fingerprint owner).2=.duplicateCompleted:=by
 obtain ⟨entry,hentry,-⟩:=isCompleted_iff.mp h
 have hvacant:(current env ctx dir key).vacant=false:=by
  unfold RecordPayload.vacant
  rw [Bool.and_eq_false_iff]
  exact .inr (List.isEmpty_eq_false_iff.mpr (List.ne_nil_of_mem hentry))
 have hfold:(if canRotateAmbiguous (current env ctx dir key) fingerprint then .allowed
   else classify (current env ctx dir key) fingerprint) =
   verdict (current env ctx dir key) fingerprint := rfl
 unfold claim
 rw [hidentity,hreliable.enabled]
 rcases readRecord_cases hstored key with ⟨payload,hslot,hread⟩ | ⟨-,hslot,-⟩ | ⟨hslot,-⟩
 · have hload:loadPayload env ctx dir key=.ok (current env ctx dir key,
     (normalize env ctx.processInstanceId ctx.nowMs payload).2):=by
    unfold loadPayload current
    rw [hread,hslot]
    rfl
   rw [hload]
   simp only [hfold,verdict_completed h]
   rw [if_pos (by simp)]
   split_ifs
   · have hpersist:=persist_current hreliable hstored hslot hvacant
     rcases hresult : persistOrRemove env ctx dir (current env ctx dir key) with ⟨next,error | _⟩
     · rw [hresult] at hpersist
       exact absurd hpersist (by simp)
     · rfl
   · rfl
 all_goals
  rw [current_completed,historyOf,hslot] at hentry
  exact absurd hentry (by simp [retainCompleted,drainExcess,dedupFingerprints])

theorem completed_not_admitted (hreliable:Reliable env event.call.ctx)
  (hstored:WellStored env dir) (hstep:LedgerStep env dir event dir') (hop:event.call.op=.claim key fingerprint owner)
  (h:isCompleted (current env event.call.ctx dir key) fingerprint=true) : event.reply ≠ .admission .allowed:=by
 intro hallowed
 have hkey:event.call.op.key=key:=by
  rw [hop]
  rfl
 cases hstep.keyEffect hreliable hstored key with
 | kept _ hrefused=>
  have hno:=hrefused hkey
  rw [hallowed] at hno
  exact hno
 | swept hother=>exact hother hkey
 | applied _ hreply _ _=>
  rw [hallowed,hop,replyOf,verdict_completed h] at hreply
  exact absurd hreply (by simp)

/-- The invariant between the completion and the claim. -/
def Replayable (env:LedgerEnv) (key:String) (fingerprint:UInt64) (since:ℕ)
  (newer:Finset UInt64) (now:ℕ) (dir:LedgerDir) : Prop :=
 KeepsHistories env now dir ∧ Remembers fingerprint since newer (historyOf env dir key)

theorem remembers_not_swept {payload:RecordPayload} (h:Remembers fingerprint since newer (historyOf env dir key))
  (hhistories:Histories now (historyOf env dir key)) (hwithin:ctx.laterMs ≤ since+env.completedRetentionMs)
  (hfew:(newer.erase fingerprint).card<env.maxCompletedPerKey) (hbefore:slot env dir key=some payload) :
  (normalize env ctx.processInstanceId ctx.laterMs payload).1.vacant=false:=by
 have hkept:=h.retainCompleted hhistories hwithin hfew
 obtain ⟨entry,hentry,-⟩:=hkept.exists_mem
 have hhistory:historyOf env dir key=payload.completed:=by
  unfold historyOf
  rw [hbefore]
  rfl
 unfold RecordPayload.vacant
 rw [normalize_completed,← hhistory,Bool.and_eq_false_iff]
 exact .inr (List.isEmpty_eq_false_iff.mpr (List.ne_nil_of_mem hentry))

theorem replayable_step (hreliable:Reliable env event.call.ctx)
  (hstep:LedgerStep env dir event dir') (hnow:now ≤ event.call.ctx.nowMs)
  (hwithin:event.call.ctx.laterMs ≤ since+env.completedRetentionMs) (hsince:since ≤ event.call.ctx.nowMs)
  (hfew:(newer.erase fingerprint).card<env.maxCompletedPerKey)
  (hnewer:∀ other,completedBy key event=some other → other∈newer)
  (h:Replayable env key fingerprint since newer now dir) :
  Replayable env key fingerprint since newer event.call.ctx.laterMs dir':=by
 obtain ⟨hkeeps,hremembers⟩:=h
 refine ⟨keepsHistories_step hreliable hstep hnow hkeeps,?_⟩
 have hhistories:=hkeeps.2 key
 cases hstep.keyEffect hreliable hkeeps.1 key with
 | kept hslot _=>rwa [historyOf_congr hslot]
 | swept _ _ payload hbefore hvacant=>
  rw [remembers_not_swept hremembers hhistories hwithin hfew hbefore] at hvacant
  exact Bool.noConfusion hvacant
 | applied hkey hreply hactive hhistory=>
  have hwithinNow:=event.call.ctx.now_le_later.trans hwithin
  have hcurrent:=hremembers.retainCompleted hhistories hwithinNow hfew
  have hchronicle:=hhistories.retainCompleted env event.call.ctx.nowMs
  rw [← current_completed] at hcurrent hchronicle
  rw [hhistory]
  rcases mutation_history event.call.op (current env event.call.ctx dir key) with
   ⟨other,hother,hadded⟩ | ⟨hsame,-⟩
  · rw [hadded]
    by_cases hself:other=fingerprint
    · subst hself
      exact remembers_added hchronicle hnow hsince hfew
    · refine hcurrent.addCompleted hchronicle hnow hself (hnewer other ?_) hfew
      rw [← hkey]
      rw [← hreply] at hother
      exact hother
  · rw [hsame]
    exact hcurrent

theorem stamped_history (hreliable:Reliable env event.call.ctx) (hstored:WellStored env dir)
  (hstep:LedgerStep env dir event dir') (hcompleted:completedBy key event=some fingerprint)
  (hstamps:Stamps env key dir event fingerprint) :
  historyOf env dir' key=addCompleted env (current env event.call.ctx dir key).completed
   fingerprint event.call.ctx.nowMs:=by
 have hkey:=completedBy_key hcompleted
 cases hstep.keyEffect hreliable hstored key with
 | kept _ hrefused=>exact absurd (hrefused hkey) (completedBy_not_refused hcompleted)
 | swept hother=>exact absurd hkey hother
 | applied _ hreply hactive hhistory=>
  have hcompleted':completedBy event.call.op.key ⟨⟨event.call.op,event.call.ctx⟩,
    replyOf env event.call.ctx event.call.op (current env event.call.ctx dir key)⟩ = some fingerprint:=by
   rw [hkey,← hreply]
   exact hcompleted
  rw [hhistory]
  rcases mutation_history event.call.op (current env event.call.ctx dir key) with
   ⟨other,hother,hadded⟩ | ⟨-,hfound⟩
  · obtain rfl : other=fingerprint:=Option.some.inj (hother.symm.trans hcompleted')
    exact hadded
  · obtain ⟨hdone,hprepare⟩:=hfound fingerprint hcompleted'
    rcases hstamps with ⟨owner,next,hop⟩ | hfresh
    · exact absurd hop (hprepare key owner next)
    · rw [hdone] at hfresh
      exact Bool.noConfusion hfresh

theorem remembers_completed (hreliable:Reliable env event.call.ctx)
  (hstep:LedgerStep env dir event dir') (hnow:now ≤ event.call.ctx.nowMs)
  (h:KeepsHistories env now dir) (hcompleted:completedBy key event=some fingerprint)
  (hstamps:Stamps env key dir event fingerprint) (hfew:(newer.erase fingerprint).card<env.maxCompletedPerKey) :
  Remembers fingerprint event.call.ctx.nowMs newer (historyOf env dir' key):=by
 have hchronicle:=(h.2 key).retainCompleted env event.call.ctx.nowMs
 rw [← current_completed] at hchronicle
 rw [stamped_history hreliable h.1 hstep hcompleted hstamps]
 exact remembers_added hchronicle hnow (le_refl _) hfew

/-- A fingerprint completed under the key is refused as a completed duplicate to
a later claim, within the retention and as long as fewer other fingerprints than
the history holds were completed in between. -/
def NotReplayed (env:LedgerEnv) (key:String) (complete:LedgerEvent)
  (between:List LedgerEvent) (last:LedgerEvent) : Prop :=
 ∀ fingerprint owner,completedBy key complete=some fingerprint →
  last.call.op=.claim key fingerprint owner → validateIdentity key (some owner)=.ok () →
  last.call.ctx.nowMs ≤ complete.call.ctx.nowMs+env.completedRetentionMs →
  ((completedIn key between).erase fingerprint).card<env.maxCompletedPerKey →
  last.reply=.admission .duplicateCompleted

/-- In every run with ordered clocks, whatever the calls on any key, a completion
that stamps its fingerprint is not replayed. -/
theorem completed_not_replayed {start completed ended:LedgerDir}
    {past between:List LedgerEvent} {complete last:LedgerEvent} (hpast:Trace (LedgerStep env) .empty past start)
    (hcomplete:LedgerStep env start complete completed)
    (hbetween:Trace (LedgerStep env) completed between dir) (hlast:LedgerStep env dir last ended)
    (hreliable:∀ event∈past++complete::between++[last],Reliable env event.call.ctx)
    (hordered:ClockOrdered (past++complete::between++[last]))
    (hstamps:∀ fingerprint,completedBy key complete=some fingerprint →
      Stamps env key start complete fingerprint) : NotReplayed env key complete between last:=by
  intro fingerprint owner hcompletes hop hidentity hwithin hfew
  have hsplit:=List.pairwise_append.mp hordered
  obtain ⟨hpastOrdered,hrestOrdered,hpastBefore⟩:=List.pairwise_append.mp hsplit.1
  obtain ⟨hcompleteBefore,hbetweenOrdered⟩:=List.pairwise_cons.mp hrestOrdered
  have hlastAfter:∀ event∈complete::between,event.call.ctx.laterMs ≤ last.call.ctx.nowMs :=
    fun event hevent=>hsplit.2.2 event (List.mem_append_right _ hevent) last
      (List.mem_singleton_self last)
  have hcompleteReliable:=hreliable complete (by simp)
  have hstart:KeepsHistories env (clockAfter 0 past) start :=
    clocked_run (KeepsHistories env) hpast hpastOrdered (fun _ _=>Nat.zero_le _)
      (fun _ _ event _ hevent hnow hkeeps hstep=>
        keepsHistories_step (hreliable event (by simp [hevent])) hstep hnow hkeeps)
      (keepsHistories_empty env 0)
  have hclock:clockAfter 0 past ≤ complete.call.ctx.nowMs :=
    clockAfter_le (Nat.zero_le _) fun event hevent=>
      hpastBefore event hevent complete List.mem_cons_self
  have hreplayable:Replayable env key fingerprint complete.call.ctx.nowMs
      (completedIn key between) complete.call.ctx.laterMs completed :=
    ⟨keepsHistories_step hcompleteReliable hcomplete hclock hstart,
      remembers_completed hcompleteReliable hcomplete hclock hstart hcompletes (hstamps fingerprint hcompletes) hfew⟩
  have hrun:Replayable env key fingerprint complete.call.ctx.nowMs (completedIn key between)
      (clockAfter complete.call.ctx.laterMs between) dir:=by
    refine clocked_run _ hbetween hbetweenOrdered hcompleteBefore ?_ hreplayable
    intro now dir event dir' hevent hnow hinv hstep
    have hlater:=hlastAfter event (List.mem_cons_of_mem _ hevent)
    refine replayable_step (hreliable event (by simp [hevent])) hstep hnow (hlater.trans hwithin) ?_
      hfew ?_ hinv
    · exact complete.call.ctx.now_le_later.trans (hcompleteBefore event hevent)
    · exact fun other hother=>List.mem_toFinset.mpr (List.mem_filterMap.mpr ⟨event,hevent,hother⟩)
  have hlastReliable:=hreliable last (by simp)
  have hremembers:=hrun.2.retainCompleted (hrun.1.2 key) hwithin hfew
  rw [← current_completed] at hremembers
  obtain ⟨entry,hentry,hfingerprint,-⟩:=hremembers.exists_mem
  have hduplicate:=claim_completed hlastReliable hrun.1.1 hidentity (isCompleted_iff.mpr ⟨entry,hentry,hfingerprint⟩)
  have hreply:(step env dir last.call).2=last.reply:=congrArg Prod.snd hlast
  rw [step,hop] at hreply
  exact hreply.symm.trans (congrArg LedgerReply.admission hduplicate)

/-- A stage is completed, another one claimed and given up, and the first one
asked for again. -/
def settledOps : ℕ → LedgerOp
 | 0=>.claim "turn" 1 "a"
 | 1=>.markCompletedIfOwner "turn" 1 "a"
 | 2=>.claim "turn" 2 "b"
 | 3=>.clearIfOwner "turn" 2 "b"
 | _=>.claim "turn" 1 "c"

def settledCalls (n:ℕ) : LedgerCall := ⟨settledOps n,calmContext "proxy" 0 (Nat.zero_le _)⟩

theorem completed_not_replayed_settled :
    NotReplayed defaultEnv "turn" (eventAt defaultEnv settledCalls 1)
      [eventAt defaultEnv settledCalls 2,eventAt defaultEnv settledCalls 3] (eventAt defaultEnv settledCalls 4):=by
  refine completed_not_replayed (trace_at defaultEnv settledCalls 0 1)
    (step_at defaultEnv settledCalls 1) (trace_at defaultEnv settledCalls 2 2)
    (step_at defaultEnv settledCalls 4) ?_ ?_ ?_
  · intro event hevent
    obtain ⟨n,-,rfl⟩:=List.mem_map.mp (show event∈(List.range' 0 5).map (eventAt defaultEnv settledCalls) from hevent)
    exact calm_reliable _
  · change ClockOrdered ((List.range' 0 5).map (eventAt defaultEnv settledCalls))
    exact List.pairwise_map.mpr (List.pairwise_of_forall fun _ _=>le_refl 0)
  · intro fingerprint hcompleted
    have hone:completedBy "turn" (eventAt defaultEnv settledCalls 1)=some 1:=by decide +kernel
    obtain rfl:=Option.some.inj (hone.symm.trans hcompleted)
    exact .inr (by decide +kernel)

/-- Reliable calls in the order of the clock keep every record sealed in its own file, and in the
history of a key no fingerprint twice, none out of order and none from the future. -/
theorem histories_kept {events:List LedgerEvent} (hrun:Trace (LedgerStep env) .empty events dir)
  (hreliable:∀ event∈events,Reliable env event.call.ctx) (hordered:ClockOrdered events) :
  KeepsHistories env (clockAfter 0 events) dir :=
 clocked_run (KeepsHistories env) hrun hordered (fun _ _=>Nat.zero_le _)
  (fun _ _ event _ hevent hnow hkeeps hstep=>keepsHistories_step (hreliable event hevent) hstep hnow hkeeps)
  (keepsHistories_empty env 0)

theorem histories_kept_settled :
  KeepsHistories defaultEnv (clockAfter 0 ((List.range' 0 5).map (eventAt defaultEnv settledCalls)))
   (dirAfter defaultEnv settledCalls 5):=by
 refine histories_kept (trace_at defaultEnv settledCalls 0 5) (fun event hevent=>?_) ?_
 · obtain ⟨n,-,rfl⟩:=List.mem_map.mp hevent
   exact calm_reliable _
 · exact List.pairwise_map.mpr (List.pairwise_of_forall fun _ _=>le_refl 0)

/-- A prepared stage is rolled back, its predecessor runs on and is completed a
day later; six days after that it is claimed again. -/
def rolledBackOps : ℕ → LedgerOp×ℕ
 | 0=>(.claim "turn" 1 "a",0)
 | 1=>(.markDispatchedIfOwner "turn" 1 "a",0)
 | 2=>(.prepareStageIfOwner "turn" "a" 1 2,0)
 | 3=>(.rollbackStageIfOwner "turn" "a" 2 1,0)
 | 4=>(.markCompletedIfOwner "turn" 1 "a",86399999)
 | _=>(.claim "turn" 1 "b",604800001)

theorem rolledBackOps_time (n:ℕ) : (rolledBackOps n).2 ≤ u64Max:=by
 unfold rolledBackOps
 split <;> decide

def rolledBackCalls (n:ℕ) : LedgerCall :=
 ⟨(rolledBackOps n).1,calmContext "proxy" (rolledBackOps n).2 (rolledBackOps_time n)⟩

/-- The rollback leaves the predecessor in the history with the time of the
prepare, its real completion is only acknowledged, and it is replayed within the
retention. -/
theorem rolled_back_completion_replayed :
    Trace (LedgerStep defaultEnv) .empty ((List.range' 0 4).map (eventAt defaultEnv rolledBackCalls))
        (dirAfter defaultEnv rolledBackCalls 4) ∧
      LedgerStep defaultEnv (dirAfter defaultEnv rolledBackCalls 4)
        (eventAt defaultEnv rolledBackCalls 4) (dirAfter defaultEnv rolledBackCalls 5) ∧
      LedgerStep defaultEnv (dirAfter defaultEnv rolledBackCalls 5)
        (eventAt defaultEnv rolledBackCalls 5) (dirAfter defaultEnv rolledBackCalls 6) ∧
      ClockOrdered ((List.range' 0 6).map (eventAt defaultEnv rolledBackCalls)) ∧
      ¬NotReplayed defaultEnv "turn" (eventAt defaultEnv rolledBackCalls 4) []
        (eventAt defaultEnv rolledBackCalls 5):=by
  refine ⟨trace_at _ _ 0 4,step_at _ _ 4,step_at _ _ 5,?_,fun h=>?_⟩
  · refine List.pairwise_map.mpr ?_
    change (List.range' 0 6).Pairwise fun n m=>(rolledBackOps n).2 ≤ (rolledBackOps m).2
    decide
  · have hduplicate:=h 1 "b" (by decide +kernel) rfl (by decide) (by decide) (by decide)
    have hallowed:(eventAt defaultEnv rolledBackCalls 5).reply=.admission .allowed:=by
      decide +kernel
    rw [hallowed] at hduplicate
    exact absurd hduplicate (by decide)

end CursorProxy.LedgerReplay
