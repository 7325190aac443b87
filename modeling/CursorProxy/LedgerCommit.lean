import CursorProxy.LedgerHistory

/-! The rename is the commit point of a write. A step that fails after it reports an error
although the new record is in place, and nothing takes the record back. -/
namespace CursorProxy.LedgerCommit
open LedgerModel LedgerRecords LedgerTransitions

variable {env:LedgerEnv} {ctx:CallContext} {dir:LedgerDir} {key:String} {payload:RecordPayload}

/-- The active stage and the history of a record. -/
def contents (payload:RecordPayload) : Option ActiveOperation×List CompletedOperation :=
 (payload.active,payload.completed)

def recordOf (env:LedgerEnv) (dir:LedgerDir) (key:String) :
  Except IoError (Option (Option ActiveOperation×List CompletedOperation)) :=
 (readRecord env dir (recordPath env key) key).map (Option.map contents)

/-- What is read back after the call is what was there before it, or that normalized. -/
def LeavesRecord (env:LedgerEnv) (ctx:CallContext) (key:String) (before after:LedgerDir) : Prop :=
 recordOf env after key=recordOf env before key ∨
  recordOf env after key=(readRecord env before (recordPath env key) key).map (Option.map fun payload=>
    contents (normalize env ctx.processInstanceId ctx.nowMs payload).1)

def staged (env:LedgerEnv) (ctx:CallContext) (fingerprint:UInt64) (owner:String)
  (payload:RecordPayload) : RecordPayload :=
 { payload with
   active := some (freshStage env ctx.processInstanceId ctx.nowMs fingerprint owner .prepared)
   updatedAtMs := ctx.nowMs }

def FailsCommitted (ctx:CallContext) : Prop :=
 ∃ step error,ctx.faults.write=some (step,error) ∧ step.committed=true

/-- There is room for the record, and it is not too large. -/
structure Writable (env:LedgerEnv) (ctx:CallContext) (dir:LedgerDir)
  (payload:RecordPayload) : Prop where
 room : (ensureCapacity env ctx dir (recordPath env payload.operationKey)).2=.ok ()
 fits : storedBytes (sealRecord env payload) ≤ maxRecordBytes

/-- The claim is allowed on the loaded record, and its own record can be written. -/
structure Admitted (env:LedgerEnv) (ctx:CallContext) (dir:LedgerDir) (key:String)
  (fingerprint:UInt64) (owner:String) (payload:RecordPayload) : Prop where
 identity : validateIdentity key (some owner)=.ok ()
 enabled : env.storageDir=.ok true
 loaded : ∃ changed,loadPayload env ctx dir key=.ok (payload,changed)
 allowed : verdict payload fingerprint=.allowed
 writable : Writable env ctx dir (staged env ctx fingerprint owner payload)

theorem recordOf_congr {after:LedgerDir} (h:after.records.lookup (recordPath env key) =
  dir.records.lookup (recordPath env key)) : recordOf env after key=recordOf env dir key:=by
 unfold recordOf readRecord
 rw [h]

theorem ensureCapacity_recordOf (env:LedgerEnv) (ctx:CallContext) (dir:LedgerDir) (key:String) :
  recordOf env (ensureCapacity env ctx dir (recordPath env key)).1 key = recordOf env dir key:=by
 obtain ⟨hswept,hsame⟩:=ensureCapacity_swept env ctx dir (recordPath env key)
 by_cases hpath:recordPath env key∈dir.records
 · rw [hsame hpath]
 · refine recordOf_congr ?_
   rw [hswept.absent hpath,AList.lookup_eq_none.mpr hpath]

theorem written_recordOf {records:AList fun _ : String=>StoredRecord}
  (hkey:payload.operationKey=key)
  (hfits:storedBytes (sealRecord env payload) ≤ maxRecordBytes) :
  recordOf env { dir with
   records := records.insert (recordPath env key) (sealRecord env payload) } key =
    .ok (some (contents payload)):=by
 unfold recordOf readRecord
 dsimp only
 rw [AList.lookup_insert]
 dsimp only
 have hversion:¬(sealRecord env payload).version≠recordVersion:=not_not.mpr rfl
 have hown:¬(sealRecord env payload).payload.operationKey≠key:=not_not.mpr hkey
 have hchecksum:¬checksum env (sealRecord env payload).payload ≠ (sealRecord env payload).checksum := not_not.mpr rfl
 rw [if_neg (Nat.not_lt.mpr hfits),if_neg hversion,if_neg hown,if_neg hchecksum]
 rfl

variable {error:IoError}

theorem writeRecord_failed (hkey:payload.operationKey=key) (herror:(writeRecord env ctx dir payload).2=.error error)
  (hcommitted:¬(FailsCommitted ctx ∧ Writable env ctx dir payload)) :
  recordOf env (writeRecord env ctx dir payload).1 key=recordOf env dir key:=by
 have hroom:=ensureCapacity_recordOf env ctx dir key
 unfold writeRecord at herror ⊢
 rw [hkey] at herror ⊢
 rcases hcapacity : ensureCapacity env ctx dir (recordPath env key) with ⟨mid,failed | _⟩
 · rw [hcapacity] at hroom
   exact hroom
 · rw [hcapacity] at hroom herror
   dsimp only at hroom herror ⊢
   split at herror
   · rename_i hlarge
     rw [if_pos hlarge]
     exact hroom
   · rename_i hfits
     rw [if_neg hfits]
     have hwritable:Writable env ctx dir payload :=
      ⟨by rw [hkey,hcapacity],Nat.not_lt.mp hfits⟩
     unfold publishRecord at herror ⊢
     cases hfault:ctx.faults.write with
     | none=>
      rw [hfault] at herror
      exact absurd herror (by simp)
     | some fault=>
      obtain ⟨step,failed⟩:=fault
      cases hstep:step.committed with
      | true=>exact absurd ⟨⟨step,failed,hfault,hstep⟩,hwritable⟩ hcommitted
      | false=>
       dsimp only
       rw [hstep,if_neg (by simp)]
       exact hroom

theorem writeRecord_committed (hkey:payload.operationKey=key) (hfails:FailsCommitted ctx)
  (hwritable:Writable env ctx dir payload) :
  (∃ error,(writeRecord env ctx dir payload).2=.error error) ∧
   recordOf env (writeRecord env ctx dir payload).1 key=.ok (some (contents payload)):=by
 obtain ⟨step,error,hfault,hstep⟩:=hfails
 have hroom:=hwritable.room
 unfold writeRecord
 rcases hcapacity : ensureCapacity env ctx dir (recordPath env payload.operationKey) with
  ⟨mid,failed | _⟩
 · rw [hcapacity] at hroom
   exact absurd hroom (by simp)
 · dsimp only
   rw [if_neg (Nat.not_lt.mpr hwritable.fits)]
   unfold publishRecord
   simp only [hfault,hstep,if_true]
   refine ⟨⟨error,rfl⟩,?_⟩
   rw [hkey]
   exact written_recordOf hkey hwritable.fits

theorem readRecord_key {found:RecordPayload} {path:String}
  (h:readRecord env dir path key=.ok (some found)) : found.operationKey=key:=by
 unfold readRecord at h
 split at h
 · exact absurd h (by simp)
 · split_ifs at h with _ _ hkey
   rw [← Option.some.inj (Except.ok.inj h)]
   exact not_not.mp hkey

variable {changed:Bool}

theorem loadPayload_read (h:loadPayload env ctx dir key=.ok (payload,changed)) :
  (∃ found,readRecord env dir (recordPath env key) key=.ok (some found) ∧
   payload=(normalize env ctx.processInstanceId ctx.nowMs found).1) ∨
  (readRecord env dir (recordPath env key) key=.ok none ∧ payload.vacant=true ∧ payload.operationKey=key):=by
 unfold loadPayload at h
 split at h
 · exact absurd h (by simp)
 · rename_i read hread
   have hnormal:(normalize env ctx.processInstanceId ctx.nowMs _).1=payload :=
    congrArg Prod.fst (Except.ok.inj h)
   cases read with
   | some found=>exact .inl ⟨found,hread,hnormal.symm⟩
   | none=>
    refine .inr ⟨hread,?_,?_⟩
    · rw [← hnormal]
      have hempty:retainCompleted env ctx.nowMs []=[] :=
       List.eq_nil_of_sublist_nil (LedgerHistory.retainCompleted_sublist env ctx.nowMs [])
      unfold RecordPayload.vacant
      rw [normalize_active,normalize_completed]
      change ((retainActive ctx.processInstanceId ctx.nowMs none).isNone &&
       (retainCompleted env ctx.nowMs []).isEmpty)=true
      rw [hempty]
      rfl
    · rw [← hnormal]
      exact normalize_operationKey _ _ _

theorem loadPayload_key (h:loadPayload env ctx dir key=.ok (payload,changed)) : payload.operationKey=key:=by
 obtain ⟨found,hread,rfl⟩ | ⟨_,_,hkey⟩:=loadPayload_read h
 · rw [normalize_operationKey]
   exact readRecord_key hread
 · exact hkey

variable {fingerprint:UInt64}

theorem vacant_allowed (h:payload.vacant=true) : verdict payload fingerprint=.allowed:=by
 simp only [RecordPayload.vacant,Bool.and_eq_true,Option.isNone_iff_eq_none,List.isEmpty_iff] at h
 unfold verdict canRotateAmbiguous classify isCompleted
 rw [h.1,h.2]
 rfl

theorem allowed_active {stage:ActiveOperation} (h:verdict payload fingerprint=.allowed)
  (hstage:payload.active=some stage) : stage.state=.ambiguous:=by
 unfold verdict canRotateAmbiguous at h
 rw [hstage,Option.any_some] at h
 split at h
 · rename_i hrotates
   simp only [Bool.and_eq_true,decide_eq_true_eq] at hrotates
   exact hrotates.1.1.1.1
 · unfold classify at h
   rw [hstage] at h
   split at h
   · exact absurd h (by simp)
   · exact absurd h (by simp)

/-- The record held this very stage and history before the call. -/
def AlreadyStaged (env:LedgerEnv) (ctx:CallContext) (dir:LedgerDir) (key:String)
  (fingerprint:UInt64) (owner:String) (payload:RecordPayload) : Prop :=
 recordOf env dir key=.ok (some (contents (staged env ctx fingerprint owner payload)))

/-- The admission, unless the record could not be written. -/
def answer (admission:OperationAdmission) (written:LedgerDir×Except IoError Unit) : LedgerDir×OperationAdmission :=
 (written.1,match written.2 with
  | .ok ()=>admission
  | .error error=>.unavailable error.message)

variable {owner:String}

theorem claim_loaded (hidentity:validateIdentity key (some owner)=.ok ())
  (henabled:env.storageDir=.ok true) (hload:loadPayload env ctx dir key=.ok (payload,changed)) :
  claim env ctx dir key fingerprint owner =
   if verdict payload fingerprint=.allowed then
    answer .allowed (writeRecord env ctx dir (staged env ctx fingerprint owner payload))
   else if changed then
    answer (verdict payload fingerprint) (persistOrRemove env ctx dir payload)
   else (dir,verdict payload fingerprint):=by
 unfold claim
 rw [hidentity,henabled,hload]
 dsimp only
 have hfold:(if canRotateAmbiguous payload fingerprint then .allowed
   else classify payload fingerprint)=verdict payload fingerprint := rfl
 rw [hfold,ite_not]
 refine if_congr Iff.rfl ?_ (if_congr Iff.rfl ?_ rfl)
 · split <;> rename_i hwritten <;> exact (congrArg (answer _) hwritten).symm
 · rcases persistOrRemove env ctx dir payload with ⟨_,_ | _⟩ <;> rfl

theorem verdict_available {message:String} : verdict payload fingerprint ≠ .unavailable message:=by
 unfold verdict classify
 split_ifs
 · simp
 · simp
 · split <;> simp

theorem answer_unavailable {admission:OperationAdmission} {message:String}
  {written:LedgerDir×Except IoError Unit} (hadmission:admission ≠ .unavailable message)
  (h:(answer admission written).2=.unavailable message) : ∃ error,written.2=.error error ∧ error.message=message:=by
 obtain ⟨after,error | _⟩:=written
 · exact ⟨error,rfl,OperationAdmission.unavailable.inj h⟩
 · exact absurd h hadmission

theorem staged_key {fingerprint:UInt64} {owner:String} {changed:Bool}
  (hload:loadPayload env ctx dir key=.ok (payload,changed)) :
  (staged env ctx fingerprint owner payload).operationKey=key:=by
 change payload.operationKey=key
 exact loadPayload_key hload

theorem claim_committed (hfails:FailsCommitted ctx) (h:Admitted env ctx dir key fingerprint owner payload) :
  (∃ message,(claim env ctx dir key fingerprint owner).2=.unavailable message) ∧
   recordOf env (claim env ctx dir key fingerprint owner).1 key =
    .ok (some (contents (staged env ctx fingerprint owner payload))):=by
 obtain ⟨changed,hload⟩:=h.loaded
 obtain ⟨⟨error,herror⟩,hrecord⟩ :=
  writeRecord_committed (staged_key hload) hfails h.writable
 rw [claim_loaded h.identity h.enabled hload,if_pos h.allowed]
 refine ⟨⟨error.message,?_⟩,hrecord⟩
 unfold answer
 rw [herror]

theorem refused_leaves (hload:loadPayload env ctx dir key=.ok (payload,changed))
  (hverdict:verdict payload fingerprint ≠ .allowed) (herror:(persistOrRemove env ctx dir payload).2=.error error) :
  LeavesRecord env ctx key dir (persistOrRemove env ctx dir payload).1:=by
 have hkey:=loadPayload_key hload
 have hvacant:payload.vacant≠true:=fun h=>hverdict (vacant_allowed h)
 unfold persistOrRemove at herror ⊢
 rw [if_neg hvacant] at herror ⊢
 by_cases hcommitted:FailsCommitted ctx ∧ Writable env ctx dir payload
 · obtain ⟨_,hrecord⟩:=writeRecord_committed hkey hcommitted.1 hcommitted.2
   obtain ⟨found,hread,rfl⟩ | ⟨_,hempty,_⟩:=loadPayload_read hload
   · refine .inr (hrecord.trans ?_)
     rw [hread]
     rfl
   · exact absurd hempty hvacant
 · exact .inl (writeRecord_failed hkey herror hcommitted)

theorem allowed_leaves (hload:loadPayload env ctx dir key=.ok (payload,changed))
  (herror:(writeRecord env ctx dir (staged env ctx fingerprint owner payload)).2=.error error)
  (hcommitted:FailsCommitted ctx → Writable env ctx dir (staged env ctx fingerprint owner payload) → AlreadyStaged env ctx dir key fingerprint owner payload)
  : LeavesRecord env ctx key dir (writeRecord env ctx dir (staged env ctx fingerprint owner payload)).1:=by
 have hkey:=@staged_key _ _ _ _ _ fingerprint owner _ hload
 by_cases hwritten:FailsCommitted ctx ∧ Writable env ctx dir (staged env ctx fingerprint owner payload)
 · have hrecord:=(writeRecord_committed hkey hwritten.1 hwritten.2).2
   exact .inl (hrecord.trans (hcommitted hwritten.1 hwritten.2).symm)
 · exact .inl (writeRecord_failed hkey herror hwritten)

/-- A claim that is refused leaves the record of its key, except where the step that fails
comes after the rename of the claim's own record. -/
theorem refused_claim_leaves_record (env:LedgerEnv) (ctx:CallContext) (dir:LedgerDir)
    (key:String) (fingerprint:UInt64) (owner:String) :
    ((∃ message,(claim env ctx dir key fingerprint owner).2=.unavailable message) →
      LeavesRecord env ctx key dir (claim env ctx dir key fingerprint owner).1) ↔
    ¬(FailsCommitted ctx ∧ ∃ payload,Admitted env ctx dir key fingerprint owner payload ∧
      ¬AlreadyStaged env ctx dir key fingerprint owner payload):=by
  constructor
  · rintro hleaves ⟨hfails,payload,hadmitted,hfresh⟩
    obtain ⟨hunavailable,hrecord⟩:=claim_committed hfails hadmitted
    obtain ⟨changed,hload⟩:=hadmitted.loaded
    obtain hsame | hnormal:=hleaves hunavailable
    · exact hfresh (hsame.symm.trans hrecord)
    · rw [hrecord] at hnormal
      obtain ⟨found,hread,rfl⟩ | ⟨hread,_,_⟩:=loadPayload_read hload
      · -- the new stage is prepared, what is taken over is ambiguous
        rw [hread] at hnormal
        have hactive:=congrArg Prod.fst (Option.some.inj (Except.ok.inj hnormal))
        exact absurd (allowed_active hadmitted.allowed hactive.symm) (by simp [freshStage])
      · rw [hread] at hnormal
        exact absurd hnormal (by simp [Except.map])
  · rintro hcondition ⟨message,hunavailable⟩
    cases hidentity:validateIdentity key (some owner) with
    | error error=>
      left
      unfold claim
      rw [hidentity]
    | ok=>
      rcases hstorage : env.storageDir with error | _ | _
      · left
        unfold claim
        rw [hidentity,hstorage]
      · left
        unfold claim
        rw [hidentity,hstorage]
      · rcases hload : loadPayload env ctx dir key with error | ⟨payload,changed⟩
        · left
          unfold claim
          rw [hidentity,hstorage,hload]
        · rw [claim_loaded hidentity hstorage hload] at hunavailable ⊢
          split_ifs at hunavailable ⊢ with hverdict hchanged
          · obtain ⟨error,herror,_⟩:=answer_unavailable (by simp) hunavailable
            refine allowed_leaves hload herror fun hfails hwritable=>?_
            by_contra hfresh
            exact hcondition ⟨hfails,payload,⟨hidentity,hstorage,⟨changed,hload⟩,hverdict,hwritable⟩,hfresh⟩
          · obtain ⟨error,herror,_⟩:=answer_unavailable verdict_available hunavailable
            exact refused_leaves hload hverdict herror
          · exact .inl rfl

/-! The directory cannot be synced after the rename of the first claim of a key. -/

def unsyncedContext : CallContext where
 processInstanceId := "proxy"
 nowMs := 0
 laterMs := 0
 faults := ⟨some (.syncDirectory,⟨.other,"sync failed"⟩),none⟩
 now_le_later := le_rfl
 later_le_max := Nat.zero_le _

def unsyncedClaim : LedgerDir×OperationAdmission :=
 claim defaultEnv unsyncedContext .empty "turn" 1 "a"

theorem unsynced_claim_blocks :
    unsyncedClaim.2=.unavailable "sync failed" ∧
      ¬LeavesRecord defaultEnv unsyncedContext "turn" .empty unsyncedClaim.1 ∧
      (claim defaultEnv (calmContext "proxy" 0 (by decide)) unsyncedClaim.1 "turn" 1 "b").2 =
        .ambiguous "Cursor operation is owned by another active request before dispatch" := by
  refine ⟨by decide +kernel,?_,by decide +kernel⟩
  have hafter:recordOf defaultEnv unsyncedClaim.1 "turn" =
      .ok (some (some (freshStage defaultEnv "proxy" 0 1 "a" .prepared),[])) := by rfl
  rintro (hsame | hnormal)
  · exact absurd (hafter.symm.trans hsame) (by decide)
  · exact absurd (hafter.symm.trans hnormal) (by decide)

end CursorProxy.LedgerCommit
