import CursorProxy.LedgerModel

namespace CursorProxy.LedgerRecords
open LedgerModel

/-- Every file was written by the ledger: under the path of its key, sealed,
within the size limit and worth keeping. -/
def WellStored (env:LedgerEnv) (dir:LedgerDir) : Prop :=
 ∀ path stored,dir.records.lookup path=some stored →
  path=recordPath env stored.payload.operationKey ∧ stored=sealRecord env stored.payload ∧
   storedBytes stored ≤ maxRecordBytes ∧ stored.payload.vacant=false

theorem wellStored_empty (env:LedgerEnv) : WellStored env .empty:=by
 intro path stored h
 exact absurd h (by simp [LedgerDir.empty])

def slot (env:LedgerEnv) (dir:LedgerDir) (key:String) : Option RecordPayload :=
 (dir.records.lookup (recordPath env key)).bind fun stored=>
  if stored.payload.operationKey=key then some stored.payload else none

def activeOf (env:LedgerEnv) (dir:LedgerDir) (key:String) : Option ActiveOperation :=
 (slot env dir key).bind RecordPayload.active

def historyOf (env:LedgerEnv) (dir:LedgerDir) (key:String) : List CompletedOperation :=
 ((slot env dir key).map RecordPayload.completed).getD []

/-- The record a call on the key starts from: loaded and normalized. -/
def current (env:LedgerEnv) (ctx:CallContext) (dir:LedgerDir) (key:String) : RecordPayload :=
 (normalize env ctx.processInstanceId ctx.nowMs ((slot env dir key).getD (emptyRecord key ctx.nowMs))).1

/-- The file system stores what is written and removes what is removed. -/
structure Reliable (env:LedgerEnv) (ctx:CallContext) : Prop where
 enabled : env.storageDir=.ok true
 faultFree : ctx.faults=.none

variable {env:LedgerEnv} {ctx:CallContext} {dir dir':LedgerDir} {key:String}

theorem slot_eq_some {payload:RecordPayload} (h:slot env dir key=some payload) :
 ∃ stored,dir.records.lookup (recordPath env key)=some stored ∧
  stored.payload=payload ∧ payload.operationKey=key:=by
 obtain ⟨stored,hlookup,hif⟩:=Option.bind_eq_some_iff.mp h
 split_ifs at hif with hkey
 cases hif
 exact ⟨stored,hlookup,rfl,hkey⟩

theorem slot_of_lookup_none (h:dir.records.lookup (recordPath env key)=none) : slot env dir key=none:=by
 simp [slot,h]

theorem slot_of_foreign (stored:StoredRecord) (h:dir.records.lookup (recordPath env key)=some stored)
 (hkey:stored.payload.operationKey≠key) : slot env dir key=none:=by
 unfold slot
 rw [h]
 exact if_neg hkey

theorem slot_congr (h:dir'.records.lookup (recordPath env key) =
 dir.records.lookup (recordPath env key)) : slot env dir' key=slot env dir key:=by
 simp [slot,h]

theorem activeOf_congr (h:slot env dir' key=slot env dir key) : activeOf env dir' key=activeOf env dir key:=by
 simp [activeOf,h]

theorem historyOf_congr (h:slot env dir' key=slot env dir key) : historyOf env dir' key=historyOf env dir key:=by
 simp [historyOf,h]

theorem readRecord_cases (hstored:WellStored env dir) (key:String) :
 (∃ payload,slot env dir key=some payload ∧ readRecord env dir (recordPath env key) key=.ok (some payload)) ∨
 (recordPath env key ∉ dir.records ∧ slot env dir key=none ∧ readRecord env dir (recordPath env key) key=.ok none) ∨
 (slot env dir key=none ∧ ∃ error,readRecord env dir (recordPath env key) key=.error error):=by
 cases hlookup:dir.records.lookup (recordPath env key) with
 | none=>
  refine .inr (.inl ⟨AList.lookup_eq_none.mp hlookup,slot_of_lookup_none hlookup,?_⟩)
  simp [readRecord,hlookup]
 | some stored=>
  obtain ⟨-,hseal,hsize,-⟩:=hstored _ _ hlookup
  have hversion:stored.version=recordVersion:=by rw [hseal]; rfl
  have hchecksum:checksum env stored.payload=stored.checksum:=by
   conv_rhs=>rw [hseal]
   rfl
  by_cases hkey:stored.payload.operationKey=key
  · refine .inl ⟨stored.payload,by simp [slot,hlookup,hkey],?_⟩
    simp [readRecord,hlookup,Nat.not_lt.mpr hsize,hversion,hkey,hchecksum]
  · refine .inr (.inr ⟨by simp [slot,hlookup,hkey],?_⟩)
    simp [readRecord,hlookup,Nat.not_lt.mpr hsize,hversion,hkey]

theorem loadPayload_ok (hstored:WellStored env dir) {payload:RecordPayload} {changed:Bool}
 (h:loadPayload env ctx dir key=.ok (payload,changed)) :
 normalize env ctx.processInstanceId ctx.nowMs
  ((slot env dir key).getD (emptyRecord key ctx.nowMs))=(payload,changed) ∧
  (slot env dir key=none → recordPath env key ∉ dir.records):=by
 unfold loadPayload at h
 rcases readRecord_cases hstored key with ⟨stored,hslot,hread⟩ | ⟨hpath,hslot,hread⟩ |
  ⟨-,error,hread⟩
 · rw [hread] at h
   rw [hslot]
   exact ⟨Except.ok.inj h,fun hnone=>absurd hnone (by simp)⟩
 · rw [hread] at h
   rw [hslot]
   exact ⟨Except.ok.inj h,fun _=>hpath⟩
 · rw [hread] at h
   exact absurd h (by simp)

@[simp] theorem normalize_active (payload:RecordPayload) (processInstanceId:String)
 (nowMs:ℕ) : (normalize env processInstanceId nowMs payload).1.active =
  retainActive processInstanceId nowMs payload.active:=by
 unfold LedgerModel.normalize
 dsimp only
 split_ifs with h
 · rfl
 · exact (congrArg RecordPayload.active (not_not.mp h)).symm

@[simp] theorem normalize_completed (payload:RecordPayload) (processInstanceId:String)
 (nowMs:ℕ) : (normalize env processInstanceId nowMs payload).1.completed =
  retainCompleted env nowMs payload.completed:=by
 unfold LedgerModel.normalize
 dsimp only
 split_ifs with h
 · rfl
 · exact (congrArg RecordPayload.completed (not_not.mp h)).symm

@[simp] theorem normalize_operationKey (payload:RecordPayload) (processInstanceId:String) (nowMs:ℕ) :
 (normalize env processInstanceId nowMs payload).1.operationKey=payload.operationKey:=by
 unfold LedgerModel.normalize
 dsimp only
 split_ifs <;> rfl

theorem normalize_unchanged {payload:RecordPayload} {processInstanceId:String} {nowMs:ℕ}
 (h:(normalize env processInstanceId nowMs payload).2=false) :
 (normalize env processInstanceId nowMs payload).1=payload:=by
 unfold LedgerModel.normalize at h ⊢
 dsimp only at h ⊢
 split_ifs at h ⊢
 rfl

theorem current_active (env:LedgerEnv) (ctx:CallContext) (dir:LedgerDir) (key:String) :
 (current env ctx dir key).active = retainActive ctx.processInstanceId ctx.nowMs (activeOf env dir key):=by
 unfold current activeOf
 rw [normalize_active]
 cases slot env dir key <;> rfl

theorem current_completed (env:LedgerEnv) (ctx:CallContext) (dir:LedgerDir)
 (key:String) : (current env ctx dir key).completed = retainCompleted env ctx.nowMs (historyOf env dir key):=by
 unfold current historyOf
 rw [normalize_completed]
 cases slot env dir key <;> rfl

theorem current_operationKey (env:LedgerEnv) (ctx:CallContext) (dir:LedgerDir)
 (key:String) : (current env ctx dir key).operationKey=key:=by
 unfold current
 rw [normalize_operationKey]
 cases hslot:slot env dir key with
 | none=>rfl
 | some payload=>
  obtain ⟨-,-,-,hkey⟩:=slot_eq_some hslot
  exact hkey

/-- Files may have been swept: each is untouched, or gone and normalizes to
nothing at the sweep's clock reading. -/
def Swept (env:LedgerEnv) (ctx:CallContext) (dir dir':LedgerDir) : Prop :=
 ∀ path,dir'.records.lookup path=dir.records.lookup path ∨
  (dir'.records.lookup path=none ∧ ∃ stored,dir.records.lookup path=some stored ∧
   (normalize env ctx.processInstanceId ctx.laterMs stored.payload).1.vacant=true)

theorem Swept.refl (env:LedgerEnv) (ctx:CallContext) (dir:LedgerDir) : Swept env ctx dir dir := fun _=>.inl rfl

theorem Swept.wellStored (h:Swept env ctx dir dir') (hstored:WellStored env dir) : WellStored env dir':=by
 intro path stored hlookup
 rcases h path with heq | ⟨hnone,-⟩
 · exact hstored path stored (heq ▸ hlookup)
 · rw [hlookup] at hnone
   exact absurd hnone (by simp)

theorem Swept.absent (h:Swept env ctx dir dir') {path:String} (hpath:path ∉ dir.records) :
 dir'.records.lookup path=none:=by
 rcases h path with heq | ⟨hnone,-⟩
 · rw [heq]
   exact AList.lookup_eq_none.mpr hpath
 · exact hnone

theorem reclaim_swept (paths:List String) (dir:LedgerDir) : Swept env ctx dir (reclaim env ctx paths dir).1:=by
 induction paths generalizing dir with
 | nil=>exact Swept.refl env ctx dir
 | cons path paths ih=>
  unfold reclaim
  cases hlookup:dir.records.lookup path with
  | none=>exact ih dir
  | some stored=>
   dsimp only
   cases hread:readRecordByPath env stored with
   | error error=>exact Swept.refl env ctx dir
   | ok payload=>
    dsimp only
    split
    · rename_i hvacant
      have hpayload:payload=stored.payload:=by
       unfold readRecordByPath at hread
       split_ifs at hread
       exact (Except.ok.inj hread).symm
      intro other
      by_cases hother:other=path
      · subst hother
        refine .inr ⟨?_,stored,hlookup,hpayload ▸ hvacant⟩
        exact (ih { dir with records := dir.records.erase other }).absent (by simp)
      · have hrest:=ih { dir with records := dir.records.erase path } other
        rwa [AList.lookup_erase_ne hother] at hrest
    · exact ih dir

theorem cleanupOrphanTemps_records (dir:LedgerDir) (nowMs:ℕ) :
 (cleanupOrphanTemps dir nowMs).1.records=dir.records := rfl

theorem ensureCapacity_swept (env:LedgerEnv) (ctx:CallContext) (dir:LedgerDir) (target:String) :
 Swept env ctx dir (ensureCapacity env ctx dir target).1 ∧
  (target∈dir.records → (ensureCapacity env ctx dir target).1=dir):=by
 unfold ensureCapacity
 split_ifs with htarget
 · exact ⟨Swept.refl env ctx dir,fun _=>rfl⟩
 · refine ⟨?_,fun h=>absurd h htarget⟩
   have hrecords:=cleanupOrphanTemps_records dir ctx.laterMs
   rcases hclean : cleanupOrphanTemps dir ctx.laterMs with ⟨clean,_ | _⟩ <;>
    rw [hclean] at hrecords <;> dsimp only at hrecords ⊢
   · intro path
     exact .inl (by rw [hrecords])
   · have hswept:Swept env ctx dir (reclaim env ctx clean.records.keys clean).1:=by
      intro path
      rw [← hrecords]
      exact reclaim_swept clean.records.keys clean path
     split_ifs
     · intro path
       exact .inl (by rw [hrecords])
     · rcases hreclaim : reclaim env ctx clean.records.keys clean with ⟨swept,_ | _⟩ <;>
        rw [hreclaim] at hswept <;> dsimp only at hswept ⊢
       · exact hswept
       · split_ifs <;> exact hswept

/-- Another key's record is unchanged, or was swept away. -/
def OthersKept (env:LedgerEnv) (ctx:CallContext) (key:String) (dir dir':LedgerDir) : Prop :=
 ∀ other,other≠key → slot env dir' other=slot env dir other ∨
  (slot env dir' other=none ∧ ∃ payload,slot env dir other=some payload ∧
   (normalize env ctx.processInstanceId ctx.laterMs payload).1.vacant=true)

theorem OthersKept.refl (env:LedgerEnv) (ctx:CallContext) (key:String) (dir:LedgerDir) :
 OthersKept env ctx key dir dir := fun _ _=>.inl rfl

theorem Swept.slot (h:Swept env ctx dir dir') (key:String) :
 slot env dir' key=slot env dir key ∨
  (slot env dir' key=none ∧ ∃ payload,slot env dir key=some payload ∧
   (normalize env ctx.processInstanceId ctx.laterMs payload).1.vacant=true):=by
 rcases h (recordPath env key) with heq | ⟨hnone,stored,hstored,hvacant⟩
 · exact .inl (slot_congr heq)
 · by_cases hkey:stored.payload.operationKey=key
   · exact .inr ⟨slot_of_lookup_none hnone,stored.payload,
      by simp [LedgerRecords.slot,hstored,hkey],
      hvacant⟩
   · left
     rw [slot_of_lookup_none hnone]
     simp [LedgerRecords.slot,hstored,hkey]

/-- A call either failed and left its own key alone, or stored `payload` under
it. Other keys are kept but for the sweep. -/
structure Stored (env:LedgerEnv) (ctx:CallContext) (key:String) (dir dir':LedgerDir)
 (payload:RecordPayload) (result:Except IoError Unit) : Prop where
 wellStored : WellStored env dir'
 others : OthersKept env ctx key dir dir'
 failed : ∀ error,result=.error error → slot env dir' key=slot env dir key
 written : result=.ok () → slot env dir' key=if payload.vacant then none else some payload

theorem Stored.active_history {payload:RecordPayload} {result:Except IoError Unit}
 (h:Stored env ctx key dir dir' payload result) (hresult:result=.ok ()) :
 activeOf env dir' key=payload.active ∧ historyOf env dir' key=payload.completed:=by
 have hslot:=h.written hresult
 unfold activeOf historyOf
 rw [hslot]
 split_ifs with hvacant
 · simp only [RecordPayload.vacant,Bool.and_eq_true,Option.isNone_iff_eq_none,List.isEmpty_iff] at hvacant
   exact ⟨hvacant.1.symm,hvacant.2.symm⟩
 · exact ⟨rfl,rfl⟩

theorem slot_insert_ne (stored:StoredRecord) {other:String} (hkey:stored.payload.operationKey=key) (hother:other≠key)
 (habsent:slot env dir key=none → recordPath env key ∉ dir.records) :
 slot env { dir with records := dir.records.insert (recordPath env key) stored } other =
  slot env dir other:=by
 by_cases hpath:recordPath env other=recordPath env key
 · -- colliding digests: the file belongs to `key` before and after
   have hbefore:slot env dir other=none:=by
    cases hslot:slot env dir key with
    | none=>
     exact slot_of_lookup_none (hpath ▸ AList.lookup_eq_none.mpr (habsent hslot))
    | some payload=>
     obtain ⟨old,hlookup,hpayload,hown⟩:=slot_eq_some hslot
     refine slot_of_foreign old (hpath ▸ hlookup) ?_
     rw [hpayload,hown]
     exact hother.symm
   rw [hbefore]
   refine slot_of_foreign stored ?_ (hkey ▸ hother.symm)
   change AList.lookup (recordPath env other) (dir.records.insert (recordPath env key) stored)=_
   rw [hpath,AList.lookup_insert]
 · exact slot_congr (AList.lookup_insert_ne hpath)

theorem writeRecord_stored (hreliable:Reliable env ctx) (hstored:WellStored env dir)
 (payload:RecordPayload) (hkey:payload.operationKey=key) (hvacant:payload.vacant=false)
 (habsent:slot env dir key=none → recordPath env key ∉ dir.records) :
 Stored env ctx key dir (writeRecord env ctx dir payload).1 payload (writeRecord env ctx dir payload).2:=by
 obtain ⟨hswept,hsame⟩:=ensureCapacity_swept env ctx dir (recordPath env payload.operationKey)
 unfold writeRecord
 rcases hcapacity : ensureCapacity env ctx dir (recordPath env payload.operationKey) with
  ⟨mid,result⟩
 rw [hcapacity] at hswept hsame
 dsimp only at hswept hsame
 have hmid:=hswept.wellStored hstored
 have hslot:slot env mid key=slot env dir key:=by
  cases hdir:slot env dir key with
  | none=>exact slot_of_lookup_none (hswept.absent (habsent hdir))
  | some old=>
   obtain ⟨stored,hlookup,-,-⟩:=slot_eq_some hdir
   rw [hsame (by rw [hkey]; exact AList.lookup_isSome.mp (by rw [hlookup]; rfl)),hdir]
 have hothers:OthersKept env ctx key dir mid:=fun other _=>hswept.slot other
 cases result with
 | error error=>exact ⟨hmid,hothers,fun _ _=>hslot,fun h=>absurd h (by simp)⟩
 | ok=>
  dsimp only
  split_ifs with hsize
  · exact ⟨hmid,hothers,fun _ _=>hslot,fun h=>absurd h (by simp)⟩
  · unfold publishRecord
    rw [hreliable.faultFree]
    have habsent':slot env mid key=none → recordPath env key ∉ mid.records:=by
     intro hnone
     exact AList.lookup_eq_none.mp (hswept.absent (habsent (hslot ▸ hnone)))
    refine ⟨?_,?_,fun error h=>absurd h (by simp [IoFaults.none]),fun _=>?_⟩
    · intro path stored hlookup
      by_cases hpath:path=recordPath env payload.operationKey
      · subst hpath
        have hsealed:sealRecord env payload=stored:=by
         simpa [IoFaults.none] using hlookup
        subst hsealed
        exact ⟨rfl,rfl,Nat.not_lt.mp hsize,hvacant⟩
      · refine hmid path stored ?_
        simpa [IoFaults.none,AList.lookup_insert_ne hpath] using hlookup
    · intro other hother
      have hinsert:=slot_insert_ne (sealRecord env payload) hkey hother habsent'
      rw [hkey]
      change slot env { mid with
       records := mid.records.insert (recordPath env key) (sealRecord env payload) } other=_ ∨
       (slot env { mid with
        records := mid.records.insert (recordPath env key) (sealRecord env payload) } other=_ ∧ _)
      rw [hinsert]
      exact hswept.slot other
    · rw [hvacant]
      simp [IoFaults.none,slot,hkey,sealRecord]

theorem slot_erase_ne {other:String} (hother:other≠key)
 (habsent:slot env dir key=none → recordPath env key ∉ dir.records) :
 slot env { dir with records := dir.records.erase (recordPath env key) } other =
  slot env dir other:=by
 by_cases hpath:recordPath env other=recordPath env key
 · have hafter:slot env { dir with records:=dir.records.erase (recordPath env key) } other =
    none:=by
    refine slot_of_lookup_none ?_
    rw [hpath]
    exact AList.lookup_erase _ _
   rw [hafter]
   cases hslot:slot env dir key with
   | none=>exact (slot_of_lookup_none (hpath ▸ AList.lookup_eq_none.mpr (habsent hslot))).symm
   | some payload=>
    obtain ⟨old,hlookup,hpayload,hown⟩:=slot_eq_some hslot
    refine (slot_of_foreign old (hpath ▸ hlookup) ?_).symm
    rw [hpayload,hown]
    exact hother.symm
 · exact slot_congr (AList.lookup_erase_ne hpath)

theorem removeRecord_stored (hreliable:Reliable env ctx) (hstored:WellStored env dir)
 {payload:RecordPayload} (hvacant:payload.vacant=true)
 (habsent:slot env dir key=none → recordPath env key ∉ dir.records) :
 Stored env ctx key dir (removeRecord dir (recordPath env key) ctx.faults).1 payload
  (removeRecord dir (recordPath env key) ctx.faults).2:=by
 rw [hreliable.faultFree]
 unfold removeRecord
 by_cases hpath:recordPath env key∈dir.records
 · rw [if_neg (not_not.mpr hpath)]
   dsimp only [IoFaults.none]
   refine ⟨?_,fun other hother=>.inl (slot_erase_ne hother habsent),
    fun error h=>absurd h (by simp),fun _=>?_⟩
   · intro path stored hlookup
     by_cases hother:path=recordPath env key
     · subst hother
       exact absurd hlookup (by simp)
     · exact hstored path stored (by rwa [AList.lookup_erase_ne hother] at hlookup)
   · rw [if_pos hvacant]
     exact slot_of_lookup_none (AList.lookup_erase _ _)
 · rw [if_pos hpath]
   refine ⟨hstored,.refl env ctx key dir,fun error h=>absurd h (by simp),fun _=>?_⟩
   rw [if_pos hvacant]
   exact slot_of_lookup_none (AList.lookup_eq_none.mpr hpath)

theorem persistOrRemove_stored (hreliable:Reliable env ctx) (hstored:WellStored env dir)
 (payload:RecordPayload) (hkey:payload.operationKey=key)
 (habsent:slot env dir key=none → recordPath env key ∉ dir.records) :
 Stored env ctx key dir (persistOrRemove env ctx dir payload).1 payload (persistOrRemove env ctx dir payload).2:=by
 unfold persistOrRemove
 split_ifs with hvacant
 · rw [hkey]
   exact removeRecord_stored hreliable hstored hvacant habsent
 · exact writeRecord_stored hreliable hstored payload hkey (by simpa using hvacant) habsent

end CursorProxy.LedgerRecords
