import CursorProxy.LedgerCommit
import CursorProxy.LedgerSizes

/-! How many stages are kept for a key is configured apart from how large a record may be. A
claim leaves room for as much history as is ever kept, or the records of the key outgrow their
limit. -/
namespace CursorProxy.LedgerLimits
open LedgerModel LedgerRecords LedgerTransitions LedgerHistory LedgerSizes LedgerCommit Traces

variable {env:LedgerEnv} {ctx:CallContext} {dir dir':LedgerDir} {key:String} {payload:RecordPayload} {op:LedgerOp}

/-- What a record takes at most, beside the names of its stage: the braces, names and
numbers, and 76 bytes for each stage of a full history. -/
def roomFor (env:LedgerEnv) (key:String) : ℕ :=
 366+jsonStringBytes key+76*env.maxCompletedPerKey

/-- A record with a full history and a stage of the owner is within the limit. -/
def Fits (env:LedgerEnv) (key owner processInstanceId:String) : Prop :=
 roomFor env key+jsonStringBytes owner+jsonStringBytes processInstanceId ≤ maxRecordBytes

def Stages (env:LedgerEnv) (key:String) (call:LedgerCall) : Prop :=
 match call.op with
 | .claim operationKey _ owner=>
  operationKey=key ∧ Fits env key owner call.ctx.processInstanceId
 | .markDispatchedIfOwner operationKey _ _ | .markCompletedIfOwner operationKey _ _=>
  operationKey=key
 | _=>False

def namesBytes : Option ActiveOperation → ℕ
 | none=>0
 | some stage=>jsonStringBytes stage.ownerToken+jsonStringBytes stage.processInstanceId

structure StageWithin (stage:ActiveOperation) : Prop where
 message : stage.message=none
 recorded : stage.recordedAtMs ≤ u64Max
 expires : stage.expiresAtMs ≤ u64Max

/-- A record that can be kept whatever its history grows to. -/
structure Within (env:LedgerEnv) (key:String) (payload:RecordPayload) : Prop where
 named : payload.operationKey=key
 history : payload.completed.length ≤ env.maxCompletedPerKey
 times : ∀ entry∈payload.completed,entry.completedAtMs ≤ u64Max
 updated : payload.updatedAtMs ≤ u64Max
 stage : ∀ stage,payload.active=some stage → StageWithin stage
 room : payload.vacant=false → roomFor env key+namesBytes payload.active ≤ maxRecordBytes

theorem fingerprint_bytes (fingerprint:UInt64) : jsonNumberBytes fingerprint.toNat ≤ 20 :=
 jsonNumberBytes_le (Nat.le_pred_of_lt fingerprint.toNat_lt)

theorem completedBytes_le {entry:CompletedOperation} (h:entry.completedAtMs ≤ u64Max) : completedBytes entry ≤ 75:=by
 have hfingerprint:=fingerprint_bytes entry.fingerprint
 have htime:=jsonNumberBytes_le h
 have hnames : "fingerprint".utf8ByteSize=11 ∧ "completed_at_ms".utf8ByteSize=15:=by decide
 simp only [completedBytes,jsonListBytes,jsonFieldBytes,List.sum_cons,List.sum_nil,List.length_cons,List.length_nil]
 omega

theorem history_bytes {completed:List CompletedOperation} {limit:ℕ} (hlimit:0<limit)
  (hlength:completed.length ≤ limit) (h:∀ entry∈completed,entry.completedAtMs ≤ u64Max) :
  jsonListBytes (completed.map completedBytes) ≤ 1+76*limit:=by
 have hsum:(completed.map completedBytes).sum ≤ 75*completed.length:=by
  induction completed with
  | nil=>exact Nat.zero_le _
  | cons entry completed ih=>
   obtain ⟨hentry,hrest⟩:=List.forall_mem_cons.mp h
   have hbytes:=completedBytes_le hentry
   have hmore:=ih (Nat.le_of_succ_le hlength) hrest
   rw [List.map_cons,List.sum_cons,List.length_cons]
   omega
 unfold jsonListBytes
 rw [List.length_map]
 omega

theorem activeBytes_le {stage:ActiveOperation} (h:StageWithin stage) :
  activeBytes stage ≤ 185+namesBytes (some stage):=by
 have hfingerprint:=fingerprint_bytes stage.fingerprint
 have hrecorded:=jsonNumberBytes_le h.recorded
 have hexpires:=jsonNumberBytes_le h.expires
 have hstate:jsonStringBytes stage.state.name ≤ 12:=by
  cases stage.state <;> decide
 have hnames : "fingerprint".utf8ByteSize=11 ∧ "owner_token".utf8ByteSize=11 ∧
   "process_instance_id".utf8ByteSize=19 ∧ "state".utf8ByteSize=5 ∧
   "message".utf8ByteSize=7 ∧ "recorded_at_ms".utf8ByteSize=14 ∧ "expires_at_ms".utf8ByteSize=13 := by decide
 simp only [activeBytes,h.message,jsonOptionBytes,namesBytes,jsonListBytes,jsonFieldBytes,
  List.sum_cons,List.sum_nil,List.length_cons,List.length_nil]
 omega

theorem active_bytes_le {active:Option ActiveOperation} (h:∀ stage,active=some stage → StageWithin stage) :
  jsonOptionBytes activeBytes active ≤ 185+namesBytes active:=by
 cases active with
 | none=>exact (by decide:4 ≤ 185)
 | some stage=>exact activeBytes_le (h stage rfl)

theorem Within.bytes (h:Within env key payload) (hvacant:payload.vacant=false) :
  storedBytes (sealRecord env payload) ≤ maxRecordBytes:=by
 have hhistory:=history_bytes (maxCompletedPerKey_pos env) h.history h.times
 have hactive:=active_bytes_le h.stage
 have hstamp:=jsonNumberBytes_le h.updated
 have hroom:=h.room hvacant
 have hnames : "operation_key".utf8ByteSize=13 ∧ "active".utf8ByteSize=6 ∧
   "completed".utf8ByteSize=9 ∧ "updated_at_ms".utf8ByteSize=13 := by decide
 rw [storedBytes_sealRecord,payloadBytes,jsonListBytes,h.named]
 simp only [jsonFieldBytes,List.sum_cons,List.sum_nil,List.length_cons,List.length_nil]
 unfold roomFor at hroom
 omega

theorem jsonByteBytes_le (byte:UInt8) : jsonByteBytes byte ≤ 6:=by
 unfold jsonByteBytes
 dsimp only
 split_ifs <;> decide

theorem jsonStringBytes_le (s:String) : jsonStringBytes s ≤ 2+6*s.utf8ByteSize:=by
 have hsum:∀ bytes:List UInt8,(bytes.map jsonByteBytes).sum ≤ 6*bytes.length:=by
  intro bytes
  induction bytes with
  | nil=>exact le_rfl
  | cons byte bytes ih=>
   have hbyte:=jsonByteBytes_le byte
   rw [List.map_cons,List.sum_cons,List.length_cons]
   omega
 exact Nat.add_le_add_left (hsum s.toByteArray.data.toList) 2

variable {owner:String}

theorem small_history_fits {processInstanceId:String} (hhistory:env.maxCompletedPerKey ≤ 490)
  (hkey:key.utf8ByteSize ≤ maxKeyBytes) (howner:owner.utf8ByteSize ≤ maxOwnerBytes)
  (hprocess:processInstanceId.utf8ByteSize ≤ 36) : Fits env key owner processInstanceId:=by
 have hkeyBytes:=jsonStringBytes_le key
 have hownerBytes:=jsonStringBytes_le owner
 have hprocessBytes:=jsonStringBytes_le processInstanceId
 unfold Fits roomFor
 unfold maxKeyBytes at hkey
 unfold maxOwnerBytes at howner
 unfold maxRecordBytes
 omega

theorem vacant_of_none (h:payload.active=none) (hempty:payload.completed=[]) : payload.vacant=true:=by
 unfold RecordPayload.vacant
 rw [h,hempty]
 rfl

variable {nowMs:ℕ}

theorem within_empty (env:LedgerEnv) (key:String) (h:nowMs ≤ u64Max) : Within env key (emptyRecord key nowMs) where
 named := rfl
 history := Nat.zero_le _
 times := fun _ hentry=>absurd hentry List.not_mem_nil
 updated := h
 stage := fun _ hstage=>absurd hstage (by simp [emptyRecord])
 room := fun hvacant=>absurd hvacant (by simp [RecordPayload.vacant,emptyRecord])

theorem retainActive_cases (processInstanceId:String) (nowMs:ℕ) (active:Option ActiveOperation) :
  retainActive processInstanceId nowMs active=none ∨ retainActive processInstanceId nowMs active=active:=by
 cases active with
 | none=>exact .inl rfl
 | some stage=>
  unfold retainActive
  dsimp only
  split_ifs
  · exact .inl rfl
  · exact .inl rfl
  · exact .inr rfl

theorem Within.less {kept:RecordPayload} (h:Within env key payload) (hkey:kept.operationKey=payload.operationKey)
  (hhistory:kept.completed.Sublist payload.completed) (hactive:kept.active=none ∨ kept.active=payload.active)
  (hupdated:kept.updatedAtMs ≤ u64Max) : Within env key kept where
 named := hkey.trans h.named
 history := hhistory.length_le.trans h.history
 times := fun entry hentry=>h.times entry (hhistory.subset hentry)
 updated := hupdated
 stage := fun stage hstage=>by
  obtain hnone | hsame:=hactive
  · rw [hnone] at hstage
    exact absurd hstage (by simp)
  · exact h.stage stage (hsame.symm.trans hstage)
 room := fun hvacant=>by
  have hbefore:payload.vacant=false:=by
   by_contra hempty
   obtain ⟨hnone,hnil⟩:=Bool.and_eq_true_iff.mp (Bool.not_eq_false _ ▸ hempty)
   have hkept:kept.completed=[] :=
    List.eq_nil_of_sublist_nil (List.isEmpty_iff.mp hnil ▸ hhistory)
   have hstage:kept.active=none :=
    hactive.elim id fun hsame=>hsame.trans (Option.isNone_iff_eq_none.mp hnone)
   rw [vacant_of_none hstage hkept] at hvacant
   exact absurd hvacant (by simp)
  have hroom:=h.room hbefore
  obtain hnone | hsame:=hactive
  · rw [hnone]
    exact (Nat.le_add_right _ _).trans hroom
  · rw [hsame]
    exact hroom

theorem normalize_updated (processInstanceId:String) (nowMs:ℕ) :
  (normalize env processInstanceId nowMs payload).1.updatedAtMs=nowMs ∨
   (normalize env processInstanceId nowMs payload).1.updatedAtMs=payload.updatedAtMs:=by
 unfold LedgerModel.normalize
 dsimp only
 split_ifs
 · exact .inl rfl
 · exact .inr rfl

theorem Within.normalize (h:Within env key payload) (processInstanceId:String)
  (hnow:nowMs ≤ u64Max) : Within env key (normalize env processInstanceId nowMs payload).1:=by
 refine h.less (normalize_operationKey _ _ _) ?_ ?_ ?_
 · rw [normalize_completed]
   exact retainCompleted_sublist env nowMs payload.completed
 · rw [normalize_active]
   exact retainActive_cases _ _ _
 · obtain hstamp | hstamp:=@normalize_updated env payload processInstanceId nowMs <;>
    rw [hstamp]
   · exact hnow
   · exact h.updated

theorem freshStage_within (env:LedgerEnv) (processInstanceId:String) (hnow:nowMs ≤ u64Max)
  (fingerprint:UInt64) (owner:String) (state:ActiveState) :
  StageWithin (freshStage env processInstanceId nowMs fingerprint owner state) :=
 ⟨rfl,hnow,min_le_right _ _⟩

theorem Within.stamped (h:Within env key payload) (hnow:nowMs ≤ u64Max) :
  Within env key { payload with updatedAtMs := nowMs } :=
 h.less rfl (List.Sublist.refl _) (.inr rfl) hnow

theorem later_now (ctx:CallContext) : ctx.nowMs ≤ u64Max :=
 ctx.now_le_later.trans ctx.later_le_max

variable {fingerprint:UInt64}

theorem Within.claimed (h:Within env key payload) (hfits:Fits env key owner ctx.processInstanceId) :
  Within env key (staged env ctx fingerprint owner payload) where
 named := h.named
 history := h.history
 times := h.times
 updated := later_now ctx
 stage := fun stage hstage=>by
  rw [← Option.some.inj hstage]
  exact freshStage_within env ctx.processInstanceId (later_now ctx) fingerprint owner .prepared
 room := fun _=>(Nat.add_assoc _ _ _).symm.trans_le hfits

theorem Within.dispatched (h:Within env key payload) :
  Within env key (markDispatched env ctx fingerprint owner payload).1:=by
 unfold markDispatched
 split
 · exact h
 · rename_i stage hstage
   have hwithin:=h.stage stage hstage
   have hroom:=h.room (by simp [RecordPayload.vacant,hstage])
   rw [hstage] at hroom
   split_ifs
   · exact h
   · refine ⟨h.named,h.history,h.times,h.updated,fun next hnext=>?_,fun _=>hroom⟩
     rw [← Option.some.inj hnext]
     exact ⟨hwithin.message,later_now ctx,min_le_right _ _⟩
   · exact h

theorem addCompleted_length {completed:List CompletedOperation} :
  (addCompleted env completed fingerprint nowMs).length ≤ env.maxCompletedPerKey:=by
 unfold addCompleted drainExcess
 rw [List.length_drop]
 omega

theorem addCompleted_mem {completed:List CompletedOperation} {entry:CompletedOperation}
  (h:entry∈addCompleted env completed fingerprint nowMs) : entry∈completed ∨ entry=⟨fingerprint,nowMs⟩:=by
 have hsorted:=(List.mem_insertionSort _).mp (List.mem_of_mem_drop h)
 obtain hkept | hnew:=List.mem_append.mp hsorted
 · exact .inl (List.mem_filter.mp hkept).1
 · exact .inr (List.mem_singleton.mp hnew)

theorem Within.completed (h:Within env key payload) :
  Within env key (markCompleted env ctx fingerprint owner payload).1:=by
 unfold markCompleted
 split_ifs with hdone hheld
 · exact h
 · have hvacant:payload.vacant=false:=by
    cases hactive:payload.active with
    | none=>
     rw [hactive] at hheld
     exact absurd hheld (by simp)
    | some stage=>simp [RecordPayload.vacant,hactive]
   have hroom:=h.room hvacant
   refine ⟨h.named,addCompleted_length,fun entry hentry=>?_,h.updated,
    fun _ hstage=>absurd hstage (by simp),fun _=>(Nat.le_add_right _ _).trans hroom⟩
   obtain hkept | rfl:=addCompleted_mem hentry
   · exact h.times entry hkept
   · exact later_now ctx
 · exact h

/-- The record that a call hands over to be written, if it writes. -/
def attempted (env:LedgerEnv) (ctx:CallContext) (op:LedgerOp) (payload:RecordPayload) : RecordPayload :=
 { (mutationOf env ctx op payload).1 with updatedAtMs := ctx.nowMs }

theorem attempted_within {call:LedgerCall} (hstages:Stages env key call)
  (h:Within env key payload) : Within env key (attempted env call.ctx call.op payload):=by
 obtain ⟨op,ctx⟩:=call
 have hmutated:Within env key (mutationOf env ctx op payload).1:=by
  cases op with
  | claim operationKey fingerprint owner=>
   simp only [mutationOf]
   split_ifs
   · have hclaimed:Within env key (staged env ctx fingerprint owner payload) :=
      h.claimed hstages.2
     exact hclaimed.less rfl (List.Sublist.refl _) (.inr rfl) h.updated
   · exact h
  | markDispatchedIfOwner=>exact h.dispatched
  | markCompletedIfOwner=>exact h.completed
  | _=>exact hstages.elim
 exact hmutated.stamped (later_now ctx)

/-- Every file is sealed, and its record can be kept. -/
def Roomy (env:LedgerEnv) (key:String) (dir:LedgerDir) : Prop :=
 ∀ path stored,dir.records.lookup path=some stored →
  stored=sealRecord env stored.payload ∧ storedBytes stored ≤ maxRecordBytes ∧ Within env key stored.payload

theorem Roomy.swept (h:Roomy env key dir) (hswept:Swept env ctx dir dir') : Roomy env key dir':=by
 intro path stored hlookup
 obtain hsame | ⟨hnone,_⟩:=hswept path
 · exact h path stored (hsame.symm.trans hlookup)
 · exact absurd (hnone.symm.trans hlookup) (by simp)

theorem Roomy.written (h:Roomy env key dir) (hwithin:Within env key payload)
  (hfits:storedBytes (sealRecord env payload) ≤ maxRecordBytes) (path:String) :
  Roomy env key { dir with records := dir.records.insert path (sealRecord env payload) }:=by
 intro other stored hlookup
 change (dir.records.insert path (sealRecord env payload)).lookup other=some stored at hlookup
 by_cases hother:other=path
 · subst hother
   obtain rfl:=Option.some.inj ((AList.lookup_insert _).symm.trans hlookup)
   exact ⟨rfl,hfits,hwithin⟩
 · exact h other stored ((AList.lookup_insert_ne hother).symm.trans hlookup)

theorem Roomy.erased (h:Roomy env key dir) (path:String) :
  Roomy env key { dir with records := dir.records.erase path }:=by
 intro other stored hlookup
 change (dir.records.erase path).lookup other=some stored at hlookup
 by_cases hother:other=path
 · subst hother
   exact absurd ((AList.lookup_erase _ _).symm.trans hlookup) (by simp)
 · exact h other stored ((AList.lookup_erase_ne hother).symm.trans hlookup)

theorem writeRecord_roomy (h:Roomy env key dir) (hwithin:Within env key payload) :
  Roomy env key (writeRecord env ctx dir payload).1:=by
 have hmid:=h.swept (ensureCapacity_swept env ctx dir (recordPath env payload.operationKey)).1
 unfold writeRecord
 rcases hcapacity : ensureCapacity env ctx dir (recordPath env payload.operationKey) with
  ⟨mid,error | _⟩
 · rw [hcapacity] at hmid
   exact hmid
 · rw [hcapacity] at hmid
   dsimp only at hmid ⊢
   split_ifs with hlarge
   · exact hmid
   · have hwritten:=hmid.written hwithin (Nat.not_lt.mp hlarge) (recordPath env payload.operationKey)
     unfold publishRecord
     dsimp only
     split
     · exact hwritten
     · split_ifs
       · exact hwritten
       · exact hmid

theorem removeRecord_roomy (h:Roomy env key dir) (path:String) (faults:IoFaults) :
  Roomy env key (removeRecord dir path faults).1:=by
 unfold removeRecord
 split_ifs
 · split
   · exact h
   · exact h.erased path
   · exact h.erased path
 · exact h

theorem persistOrRemove_roomy (h:Roomy env key dir) (hwithin:Within env key payload) :
  Roomy env key (persistOrRemove env ctx dir payload).1:=by
 unfold persistOrRemove
 split_ifs
 · exact removeRecord_roomy h _ _
 · exact writeRecord_roomy h hwithin

theorem Roomy.load (h:Roomy env key dir) (ctx:CallContext) :
  ∃ payload changed,loadPayload env ctx dir key=.ok (payload,changed) ∧ Within env key payload:=by
 unfold loadPayload readRecord
 cases hlookup:dir.records.lookup (recordPath env key) with
 | none=>exact ⟨_,_,rfl,(within_empty env key (later_now ctx)).normalize _ (later_now ctx)⟩
 | some stored=>
  obtain ⟨hsealed,hfits,hwithin⟩:=h _ stored hlookup
  have hversion:¬stored.version≠recordVersion:=by
   rw [hsealed]
   exact not_not.mpr rfl
  have hchecksum:¬checksum env stored.payload≠stored.checksum:=by
   rw [not_not]
   conv_rhs=>rw [hsealed]
   rfl
  dsimp only
  rw [if_neg (Nat.not_lt.mpr hfits),if_neg hversion,if_neg (not_not.mpr hwithin.named),if_neg hchecksum]
  exact ⟨_,_,rfl,hwithin.normalize _ (later_now ctx)⟩

def SizeRefused : LedgerReply → Prop
 | .admission verdict=>verdict=.unavailable recordTooLarge.message
 | .applied result=>result=.error recordTooLarge

theorem Roomy.readRecordByPath (h:Roomy env key dir) {path:String} {stored:StoredRecord}
  (hlookup:dir.records.lookup path=some stored) : readRecordByPath env stored=.ok stored.payload:=by
 obtain ⟨hsealed,hfits,_⟩:=h path stored hlookup
 have hcorrupt:¬(stored.version≠recordVersion ∨ checksum env stored.payload≠stored.checksum):=by
  rw [hsealed]
  exact fun hcorrupt=>hcorrupt.elim (fun hne=>hne rfl) fun hne=>hne rfl
 unfold LedgerModel.readRecordByPath
 rw [if_neg (Nat.not_lt.mpr hfits),if_neg hcorrupt]

theorem Roomy.reclaim (paths:List String) :
  ∀ dir:LedgerDir,Roomy env key dir → (reclaim env ctx paths dir).2=.ok ():=by
 induction paths with
 | nil=>exact fun _ _=>rfl
 | cons path paths ih=>
  intro dir h
  unfold LedgerModel.reclaim
  cases hlookup:dir.records.lookup path with
  | none=>exact ih dir h
  | some stored=>
   dsimp only
   rw [h.readRecordByPath hlookup]
   dsimp only
   split_ifs
   · exact ih _ (h.erased path)
   · exact ih dir h

variable {error:IoError}

theorem ensureCapacity_error {target:String} (h:Roomy env key dir)
  (herror:(ensureCapacity env ctx dir target).2=.error error) : error.message≠recordTooLarge.message:=by
 unfold ensureCapacity at herror
 split_ifs at herror
 rcases hclean : cleanupOrphanTemps dir ctx.laterMs with ⟨clean,failed | _⟩
 · rw [hclean] at herror
   obtain rfl:=Except.error.inj herror
   have hfailed:=congrArg Prod.snd hclean
   unfold cleanupOrphanTemps at hfailed
   dsimp only at hfailed
   split_ifs at hfailed
   rw [← Except.error.inj hfailed]
   decide
 · have hrecords:clean.records=dir.records:=by
    have hsame:=cleanupOrphanTemps_records dir ctx.laterMs
    rwa [hclean] at hsame
   have hroomy:Roomy env key clean:=by
    intro path stored hlookup
    rw [hrecords] at hlookup
    exact h path stored hlookup
   rw [hclean] at herror
   dsimp only at herror
   split_ifs at herror
   have hreclaimed:=@Roomy.reclaim _ ctx _ clean.records.keys clean hroomy
   rcases hreclaim : LedgerModel.reclaim env ctx clean.records.keys clean with ⟨swept,failed | _⟩
   · rw [hreclaim] at hreclaimed
     exact absurd hreclaimed (by simp)
   · rw [hreclaim] at herror
     dsimp only at herror
     split_ifs at herror
     rw [← Except.error.inj herror]
     decide

theorem persistOrRemove_error (hreliable:Reliable env ctx) (h:Roomy env key dir)
  (hwithin:Within env key payload) (herror:(persistOrRemove env ctx dir payload).2=.error error) :
  error.message≠recordTooLarge.message:=by
 unfold persistOrRemove at herror
 split_ifs at herror with hvacant
 · rw [hreliable.faultFree] at herror
   unfold removeRecord at herror
   split_ifs at herror
   exact absurd herror (by simp [IoFaults.none])
 · unfold writeRecord at herror
   rcases hcapacity : ensureCapacity env ctx dir (recordPath env payload.operationKey) with
    ⟨mid,failed | _⟩
   · rw [hcapacity] at herror
     obtain rfl:=Except.error.inj herror
     exact ensureCapacity_error h (congrArg Prod.snd hcapacity)
   · rw [hcapacity] at herror
     dsimp only at herror
     rw [if_neg (Nat.not_lt.mpr (hwithin.bytes (Bool.eq_false_iff.mpr hvacant)))] at herror
     unfold publishRecord at herror
     rw [hreliable.faultFree] at herror
     exact absurd herror (by simp [IoFaults.none])

theorem validateIdentity_error {owner:Option String} (h:validateIdentity key owner=.error error) :
  error.message≠recordTooLarge.message:=by
 unfold validateIdentity at h
 split_ifs at h
 · rw [← Except.error.inj h]
   decide
 · rw [← Except.error.inj h]
   decide

/-- What a call may do: it keeps the directory roomy whatever fails, and where nothing
fails it is not refused for a size. -/
structure Kept (env:LedgerEnv) (ctx:CallContext) (key:String) (after:LedgerDir)
  (reply:LedgerReply) : Prop where
 roomy : Roomy env key after
 answered : Reliable env ctx → ¬SizeRefused reply

theorem claim_kept (h:Roomy env key dir) (hfits:Fits env key owner ctx.processInstanceId) :
  Kept env ctx key (claim env ctx dir key fingerprint owner).1
   (.admission (claim env ctx dir key fingerprint owner).2):=by
 cases hidentity:validateIdentity key (some owner) with
 | error error=>
  unfold claim
  rw [hidentity]
  exact ⟨h,fun _ hrefused=>
   validateIdentity_error hidentity (OperationAdmission.unavailable.inj hrefused)⟩
 | ok=>
  rcases hstorage : env.storageDir with error | _ | _
  · unfold claim
    rw [hidentity,hstorage]
    exact ⟨h,fun hreliable=>absurd (hstorage.symm.trans hreliable.enabled) (by simp)⟩
  · unfold claim
    rw [hidentity,hstorage]
    exact ⟨h,fun hreliable=>absurd (hstorage.symm.trans hreliable.enabled) (by simp)⟩
  · obtain ⟨payload,changed,hload,hwithin⟩:=h.load ctx
    have hclaimed:Within env key (staged env ctx fingerprint owner payload) :=
     hwithin.claimed hfits
    rw [claim_loaded hidentity hstorage hload]
    split_ifs
    · refine ⟨writeRecord_roomy h hclaimed,fun hreliable hrefused=>?_⟩
      have hvacant:(staged env ctx fingerprint owner payload).vacant≠true:=by
       simp [RecordPayload.vacant,staged]
      have hpersist:persistOrRemove env ctx dir (staged env ctx fingerprint owner payload) =
       writeRecord env ctx dir (staged env ctx fingerprint owner payload) := if_neg hvacant
      obtain ⟨error,herror,hmessage⟩:=answer_unavailable (by simp) hrefused
      exact persistOrRemove_error hreliable h hclaimed (hpersist ▸ herror) hmessage
    · refine ⟨persistOrRemove_roomy h hwithin,fun hreliable hrefused=>?_⟩
      obtain ⟨error,herror,hmessage⟩:=answer_unavailable verdict_available hrefused
      exact persistOrRemove_error hreliable h hwithin herror hmessage
    · exact ⟨h,fun _ hrefused=>verdict_available hrefused⟩

variable {mutation:RecordPayload → RecordPayload×Bool}

theorem transition_kept (h:Roomy env key dir)
  (hmutation:∀ payload,Within env key payload → Within env key (mutation payload).1) :
  Kept env ctx key (transition env ctx dir key mutation).1 (.applied (transition env ctx dir key mutation).2):=by
 have hrefused:∀ {error:IoError},error.message≠recordTooLarge.message → ¬SizeRefused (.applied (.error error)) :=
  fun hne heq=>hne (congrArg IoError.message (Except.error.inj heq))
 unfold transition
 cases hidentity:validateIdentity key none with
 | error error=>exact ⟨h,fun _=>hrefused (validateIdentity_error hidentity)⟩
 | ok=>
  rcases hstorage : env.storageDir with error | _ | _
  · exact ⟨h,fun hreliable=>absurd (hstorage.symm.trans hreliable.enabled) (by simp)⟩
  · exact ⟨h,fun hreliable=>absurd (hstorage.symm.trans hreliable.enabled) (by simp)⟩
  · obtain ⟨payload,changed,hload,hwithin⟩:=h.load ctx
    rw [hload]
    dsimp only
    have hattempted:=(hmutation payload hwithin).stamped (later_now ctx)
    split_ifs
    · have hroomy:=@persistOrRemove_roomy _ ctx _ _ _ h hattempted
      rcases hpersisted : persistOrRemove env ctx dir
       { (mutation payload).1 with updatedAtMs := ctx.nowMs } with ⟨after,error | _⟩
      · rw [hpersisted] at hroomy
        refine ⟨hroomy,fun hreliable=>hrefused ?_⟩
        exact persistOrRemove_error hreliable h hattempted (congrArg Prod.snd hpersisted)
      · rw [hpersisted] at hroomy
        exact ⟨hroomy,fun _ hrefused=>absurd hrefused (by simp [SizeRefused])⟩
    · exact ⟨h,fun _ hrefused=>absurd hrefused (by simp [SizeRefused])⟩

theorem ownerTransition_kept (h:Roomy env key dir)
  (hmutation:∀ payload,Within env key payload → Within env key (mutation payload).1) :
  Kept env ctx key (ownerTransition env ctx dir key owner mutation).1
   (.applied (ownerTransition env ctx dir key owner mutation).2):=by
 unfold ownerTransition
 cases hidentity:validateIdentity key (some owner) with
 | error error=>
  refine ⟨h,fun _ hrefused=>validateIdentity_error hidentity ?_⟩
  exact congrArg IoError.message (Except.error.inj hrefused)
 | ok=>exact transition_kept h hmutation

theorem step_kept {call:LedgerCall} (h:Roomy env key dir) (hstages:Stages env key call) :
  Kept env call.ctx key (step env dir call).1 (step env dir call).2:=by
 obtain ⟨op,ctx⟩:=call
 cases op with
 | claim operationKey fingerprint owner=>
  obtain ⟨rfl,hfits⟩:=hstages
  exact claim_kept h hfits
 | markDispatchedIfOwner operationKey fingerprint owner=>
  obtain rfl : operationKey=key:=hstages
  exact ownerTransition_kept h fun _ hwithin=>hwithin.dispatched
 | markCompletedIfOwner operationKey fingerprint owner=>
  obtain rfl : operationKey=key:=hstages
  exact ownerTransition_kept h fun _ hwithin=>hwithin.completed
 | _=>exact hstages.elim

theorem run_roomy {start:LedgerDir} {events:List LedgerEvent} (hstart:start.records=∅)
  (hrun:Trace (LedgerStep env) start events dir)
  (hstages:∀ event∈events,Stages env key event.call) : Roomy env key dir:=by
 refine hrun.invariant (Roomy env key) (fun before event after hevent hbefore hstep=>?_) ?_
 · have hkept:=(step_kept hbefore (hstages event hevent)).roomy
   rwa [show step env before event.call=(after,event.reply) from hstep] at hkept
 · intro path stored hlookup
   rw [hstart] at hlookup
   exact absurd hlookup (by simp)

/-- Along every run of stages whose claims fit, whatever fails on the way: what a call
would write is within the limit, and where nothing fails it is not refused for a size. -/
theorem stages_within_limit {start:LedgerDir} {events:List LedgerEvent}
    (hstart:start.records=∅) (hrun:Trace (LedgerStep env) start events dir)
    (hstages:∀ event∈events,Stages env key event.call) (call:LedgerCall) (hcall:Stages env key call) :
    (∀ payload changed,loadPayload env call.ctx dir key=.ok (payload,changed) →
      (attempted env call.ctx call.op payload).vacant=false →
        storedBytes (sealRecord env (attempted env call.ctx call.op payload)) ≤ maxRecordBytes) ∧
    (Reliable env call.ctx → ¬SizeRefused (step env dir call).2):=by
  have hroomy:=run_roomy hstart hrun hstages
  refine ⟨fun payload changed hload hvacant=>?_,(step_kept hroomy hcall).answered⟩
  obtain ⟨found,_,hfound,hwithin⟩:=hroomy.load call.ctx
  obtain ⟨rfl,_⟩:=Prod.mk.inj (Except.ok.inj (hload.symm.trans hfound))
  exact (attempted_within hcall hwithin).bytes hvacant

theorem transition_applied {next:RecordPayload} {changed:Bool}
  (hidentity:validateIdentity key none=.ok ()) (henabled:env.storageDir=.ok true)
  (hload:loadPayload env ctx dir key=.ok (payload,changed)) (hmutation:mutation payload=(next,true)) :
  transition env ctx dir key mutation = ((persistOrRemove env ctx dir { next with updatedAtMs := ctx.nowMs }).1,
    match (persistOrRemove env ctx dir { next with updatedAtMs := ctx.nowMs }).2 with
    | .ok ()=>.ok true
    | .error error=>.error error):=by
 unfold transition
 rw [hidentity,henabled,hload]
 dsimp only
 rw [hmutation,Bool.or_true,if_pos rfl]
 rcases persistOrRemove env ctx dir { next with updatedAtMs := ctx.nowMs } with ⟨_,_ | _⟩ <;> rfl

/-! A key whose history may grow to 4096 stages, one claimed and completed after the
other. -/

def wideEnv : LedgerEnv := { defaultEnv with completedPerKey := some 4096 }

def wideContext : CallContext := calmContext "proxy" 0 (Nat.zero_le _)

def wideFingerprint (stage:ℕ) : UInt64 := UInt64.ofNat (stage+1)

def wideCalls (number:ℕ) : LedgerCall :=
 ⟨if number % 2=0 then .claim "turn" (wideFingerprint (number / 2)) "a"
  else .markCompletedIfOwner "turn" (wideFingerprint (number / 2)) "a",wideContext⟩

def wideHistory (stages:ℕ) : List CompletedOperation :=
 (List.range stages).map fun stage=>⟨wideFingerprint stage,0⟩

def wideRecord (stages:ℕ) : RecordPayload := ⟨"turn",none,wideHistory stages,0⟩

def wideStaged (stages:ℕ) : RecordPayload :=
 staged wideEnv wideContext (wideFingerprint stages) "a" (wideRecord stages)

def wideDir (payload:RecordPayload) : LedgerDir :=
 ⟨(∅ : AList fun _ : String=>StoredRecord).insert (recordPath wideEnv "turn")
  (sealRecord wideEnv payload),[]⟩

theorem wideFingerprint_injective {first second:ℕ} (hfirst:first<4096)
  (hsecond:second<4096) (h:wideFingerprint first=wideFingerprint second) : first=second:=by
 have hnat:=congrArg UInt64.toNat h
 unfold wideFingerprint at hnat
 rw [UInt64.toNat_ofNat',UInt64.toNat_ofNat',Nat.mod_eq_of_lt (by omega),
  Nat.mod_eq_of_lt (by omega)] at hnat
 omega

theorem wideHistory_succ (stages:ℕ) : wideHistory (stages+1)=wideHistory stages++[⟨wideFingerprint stages,0⟩]:=by
 unfold wideHistory
 rw [List.range_succ,List.map_append]
 rfl

variable {stages:ℕ}

theorem wideHistory_new (h:stages<4096) : ∀ entry∈wideHistory stages,entry.fingerprint≠wideFingerprint stages:=by
 intro entry hentry hsame
 obtain ⟨stage,hstage,rfl⟩:=List.mem_map.mp hentry
 have hbelow:=List.mem_range.mp hstage
 exact absurd (wideFingerprint_injective (hbelow.trans h) h hsame) hbelow.ne

theorem wideHistory_chronicle (h:stages ≤ 4096) : Histories 0 (wideHistory stages):=by
 induction stages with
 | zero=>exact BoundedHistory.Chronicle.nil
 | succ stages ih=>
  rw [wideHistory_succ]
  refine (ih (Nat.le_of_succ_le h)).append ⟨wideFingerprint stages,0⟩ (fun hmem=>?_)
   le_rfl
  obtain ⟨entry,hentry,hsame⟩:=List.mem_map.mp hmem
  exact wideHistory_new h entry hentry hsame

theorem wideHistory_length (stages:ℕ) : (wideHistory stages).length=stages:=by
 unfold wideHistory
 rw [List.length_map,List.length_range]

theorem wide_normalize (h:stages ≤ 4096) (active:Option ActiveOperation)
  (hactive:retainActive "proxy" 0 active=active) :
  normalize wideEnv "proxy" 0 ⟨"turn",active,wideHistory stages,0⟩ =
   (⟨"turn",active,wideHistory stages,0⟩,false):=by
 have hkept:retainCompleted wideEnv 0 (wideHistory stages)=wideHistory stages:=by
  refine retainCompleted_eq_self (wideHistory_chronicle h).distinct ?_ fun _ _=>Nat.zero_le _
  rw [wideHistory_length]
  exact h
 unfold LedgerModel.normalize
 simp only [hkept,hactive,ne_eq,not_true_eq_false,if_false]

theorem wide_completed (h:stages<4096) :
  addCompleted wideEnv (wideHistory stages) (wideFingerprint stages) 0 = wideHistory (stages+1):=by
 have hfilter:(wideHistory stages).filter (fun entry=>entry.fingerprint≠wideFingerprint stages)=wideHistory stages :=
  List.filter_eq_self.mpr fun entry hentry=>decide_eq_true (wideHistory_new h entry hentry)
 rw [(addCompleted_eq wideEnv (wideFingerprint stages) (wideHistory_chronicle h.le) le_rfl).2,
  hfilter,← wideHistory_succ,drainExcess,wideHistory_length]
 have hfits:stages+1-wideEnv.maxCompletedPerKey=0:=Nat.sub_eq_zero_of_le h
 rw [hfits,List.drop_zero]

/-- A record that is not too large replaces the file of the key. -/
def Replaces (dir:LedgerDir) : Prop :=
 ∀ payload:RecordPayload,payload.operationKey = "turn" →
  writeRecord wideEnv wideContext dir payload =
   if maxRecordBytes<storedBytes (sealRecord wideEnv payload) then
    (dir,.error recordTooLarge)
   else (wideDir payload,.ok ())

theorem empty_replaces : Replaces .empty:=by
 intro payload hkey
 have hroom:ensureCapacity wideEnv wideContext .empty
   (recordPath wideEnv payload.operationKey)=(.empty,.ok ()) := by rfl
 unfold writeRecord publishRecord
 rw [hroom,hkey]
 rfl

theorem wideDir_replaces (before:RecordPayload) : Replaces (wideDir before):=by
 intro payload hkey
 have hroom:ensureCapacity wideEnv wideContext (wideDir before)
   (recordPath wideEnv payload.operationKey)=(wideDir before,.ok ()):=by
  rw [hkey]
  exact if_pos ((AList.mem_insert _).mpr (.inl rfl))
 unfold writeRecord publishRecord
 rw [hroom,hkey]
 refine if_congr Iff.rfl rfl ?_
 change (LedgerDir.mk (((∅ : AList fun _ : String=>StoredRecord).insert _ _).insert _ _) [],
  Except.ok ())=_
 rw [AList.insert_insert]
 rfl

theorem wideDir_load {active:Option ActiveOperation} (h:stages ≤ 4096)
  (hfits:storedBytes (sealRecord wideEnv ⟨"turn",active,wideHistory stages,0⟩) ≤ maxRecordBytes)
  (hactive:retainActive "proxy" 0 active=active) :
  loadPayload wideEnv wideContext (wideDir ⟨"turn",active,wideHistory stages,0⟩) "turn" =
   .ok (⟨"turn",active,wideHistory stages,0⟩,false):=by
 have hread:readRecord wideEnv (wideDir ⟨"turn",active,wideHistory stages,0⟩)
   (recordPath wideEnv "turn") "turn" = .ok (some ⟨"turn",active,wideHistory stages,0⟩):=by
  unfold readRecord wideDir
  dsimp only
  rw [AList.lookup_insert]
  dsimp only
  rw [if_neg (Nat.not_lt.mpr hfits)]
  rfl
 unfold loadPayload
 rw [hread]
 exact congrArg Except.ok (wide_normalize h active hactive)

structure Completed (stages:ℕ) (dir:LedgerDir) : Prop where
 replaces : Replaces dir
 loads : loadPayload wideEnv wideContext dir "turn" = .ok (wideRecord stages,false)

theorem wide_claim (h:Completed stages dir) (hstages:stages<4096) :
  SizeRefused (step wideEnv dir (wideCalls (2*stages))).2 ∨
   ((step wideEnv dir (wideCalls (2*stages))).1=wideDir (wideStaged stages) ∧
    storedBytes (sealRecord wideEnv (wideStaged stages)) ≤ maxRecordBytes):=by
 have hcall:wideCalls (2*stages)=⟨.claim "turn" (wideFingerprint stages) "a",wideContext⟩:=by
  unfold wideCalls
  rw [if_pos (by omega),Nat.mul_div_cancel_left stages (by decide)]
 have hnew:isCompleted (wideRecord stages) (wideFingerprint stages)=false:=by
  refine Bool.eq_false_iff.mpr fun hdone=>?_
  obtain ⟨entry,hentry,hsame⟩:=isCompleted_iff.mp hdone
  exact wideHistory_new hstages entry hentry hsame
 have hallowed:verdict (wideRecord stages) (wideFingerprint stages)=.allowed:=by
  unfold verdict classify
  rw [hnew]
  rfl
 have hclaim:claim wideEnv wideContext dir "turn" (wideFingerprint stages) "a" =
   answer .allowed (writeRecord wideEnv wideContext dir (wideStaged stages)):=by
  rw [claim_loaded (by decide) rfl h.loads,if_pos hallowed]
  rfl
 rw [hcall]
 change SizeRefused (.admission (claim wideEnv wideContext dir "turn" (wideFingerprint stages)
  "a").2) ∨ ((claim wideEnv wideContext dir "turn" (wideFingerprint stages) "a").1=_ ∧ _)
 rw [hclaim,h.replaces (wideStaged stages) rfl]
 split_ifs with hlarge
 · exact .inl rfl
 · exact .inr ⟨rfl,Nat.not_lt.mp hlarge⟩

theorem wide_complete (hstages:stages<4096)
  (hfits:storedBytes (sealRecord wideEnv (wideStaged stages)) ≤ maxRecordBytes) :
  SizeRefused (step wideEnv (wideDir (wideStaged stages)) (wideCalls (2*stages+1))).2 ∨
   Completed (stages+1) (step wideEnv (wideDir (wideStaged stages)) (wideCalls (2*stages+1))).1 ∧
    storedBytes (sealRecord wideEnv (wideRecord (stages+1))) ≤ maxRecordBytes:=by
 have hcall:wideCalls (2*stages+1) = ⟨.markCompletedIfOwner "turn" (wideFingerprint stages) "a",wideContext⟩:=by
  unfold wideCalls
  rw [if_neg (by omega),show (2*stages+1) / 2=stages by omega]
 have hload:loadPayload wideEnv wideContext (wideDir (wideStaged stages)) "turn" =
   .ok (wideStaged stages,false) := wideDir_load hstages.le hfits rfl
 have hnew:isCompleted (wideStaged stages) (wideFingerprint stages)=false:=by
  refine Bool.eq_false_iff.mpr fun hdone=>?_
  obtain ⟨entry,hentry,hsame⟩:=isCompleted_iff.mp hdone
  exact wideHistory_new hstages entry hentry hsame
 have hmutation:markCompleted wideEnv wideContext (wideFingerprint stages) "a"
   (wideStaged stages)=(wideRecord (stages+1),true):=by
  have hheld:((wideStaged stages).active.any fun active=>
    active.heldBy (wideFingerprint stages) "a")=true:=by
   simp [wideStaged,staged,freshStage,ActiveOperation.heldBy]
  unfold markCompleted
  rw [hnew,hheld]
  change (RecordPayload.mk "turn" none (addCompleted wideEnv (wideHistory stages)
   (wideFingerprint stages) 0) 0,true)=_
  rw [wide_completed hstages]
  rfl
 have hvacant:(wideRecord (stages+1)).vacant=false:=by
  unfold wideRecord RecordPayload.vacant
  rw [wideHistory_succ]
  simp
 have hwritten:persistOrRemove wideEnv wideContext (wideDir (wideStaged stages)) (wideRecord (stages+1)) =
   if maxRecordBytes<storedBytes (sealRecord wideEnv (wideRecord (stages+1))) then
    (wideDir (wideStaged stages),.error recordTooLarge)
   else (wideDir (wideRecord (stages+1)),.ok ()):=by
  unfold persistOrRemove
  rw [if_neg (Bool.eq_false_iff.mp hvacant)]
  exact wideDir_replaces _ _ rfl
 have hstep:step wideEnv (wideDir (wideStaged stages))
   ⟨.markCompletedIfOwner "turn" (wideFingerprint stages) "a",wideContext⟩ =
   (transition wideEnv wideContext (wideDir (wideStaged stages)) "turn"
    (markCompleted wideEnv wideContext (wideFingerprint stages) "a")).map id .applied := rfl
 rw [hcall,hstep,transition_applied (by rfl) rfl hload hmutation]
 change SizeRefused (.applied (match (persistOrRemove wideEnv wideContext
   (wideDir (wideStaged stages)) (wideRecord (stages+1))).2 with
  | .ok ()=>.ok true
  | .error error=>.error error)) ∨ Completed (stages+1) (persistOrRemove wideEnv wideContext
   (wideDir (wideStaged stages)) (wideRecord (stages+1))).1 ∧ _
 rw [hwritten]
 split_ifs with hlarge
 · exact .inl rfl
 · have hsmall:=Nat.not_lt.mp hlarge
   exact .inr ⟨⟨wideDir_replaces _,wideDir_load hstages hsmall rfl⟩,hsmall⟩

theorem wide_run (stages:ℕ) (h:stages ≤ 4096) :
  (∃ number,SizeRefused (eventAt wideEnv wideCalls number).reply) ∨
   Completed stages (dirAfter wideEnv wideCalls (2*stages)) ∧
    storedBytes (sealRecord wideEnv (wideRecord stages)) ≤ maxRecordBytes:=by
 induction stages with
 | zero=>
  refine .inr ⟨⟨empty_replaces,?_⟩,by decide +kernel⟩
  exact congrArg Except.ok (wide_normalize (Nat.zero_le _) none rfl)
 | succ stages ih=>
  obtain hrefused | ⟨hcompleted,_⟩:=ih (Nat.le_of_succ_le h)
  · exact .inl hrefused
  · obtain hrefused | ⟨hclaimed,hfits⟩:=wide_claim hcompleted h
    · exact .inl ⟨2*stages,hrefused⟩
    · have hnext:=wide_complete h hfits
      rw [← hclaimed] at hnext
      obtain hrefused | hdone:=hnext
      · exact .inl ⟨2*stages+1,hrefused⟩
      · exact .inr hdone

theorem stages_within_limit_default :
    ¬SizeRefused (step defaultEnv (dirAfter defaultEnv wideCalls 1) (wideCalls 1)).2:=by
  have hfits:Fits defaultEnv "turn" "a" "proxy" :=
    small_history_fits (by decide) (by decide) (by decide) (by decide)
  have hevents:∀ event∈(List.range' 0 1).map (eventAt defaultEnv wideCalls),Stages defaultEnv "turn" event.call:=by
    intro event hevent
    rw [List.mem_singleton.mp hevent]
    exact ⟨rfl,hfits⟩
  exact (stages_within_limit rfl (trace_at defaultEnv wideCalls 0 1) hevents (wideCalls 1)
    (by trivial)).2 (calm_reliable _)

theorem wide_too_large (h:3300 ≤ stages) : maxRecordBytes<storedBytes (sealRecord wideEnv (wideRecord stages)):=by
 have hbytes:=completed_sublist_bytes (List.nil_sublist (wideHistory stages))
 have hpayload:jsonListBytes ((wideHistory stages).map completedBytes) ≤ payloadBytes (wideRecord stages):=by
  unfold payloadBytes wideRecord
  generalize jsonListBytes ((wideHistory stages).map completedBytes)=bytes
  simp only [jsonListBytes,jsonFieldBytes,List.sum_cons,List.sum_nil]
  omega
 rw [wideHistory_length,List.length_nil] at hbytes
 rw [storedBytes_sealRecord]
 unfold maxRecordBytes
 omega

/-- Some stage is refused before the history is full. -/
theorem wide_history_refused : ∃ number,SizeRefused (eventAt wideEnv wideCalls number).reply:=by
  obtain hrefused | ⟨_,hfits⟩:=wide_run 4096 le_rfl
  · exact hrefused
  · exact absurd hfits (Nat.not_le.mpr (wide_too_large (by decide)))

end CursorProxy.LedgerLimits
