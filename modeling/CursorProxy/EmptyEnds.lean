import CursorProxy.OldestFirst
import CursorProxy.RetryPolicy

/-! An exhausted allowance may be answered with an empty end frame, and so may a passing fault. Two
tables remember such ends across the requests; each is changed under a lock of its own. -/
namespace CursorProxy.EmptyEnds
open OldestFirst RetryPolicy XmlElements

/-- Instants are in nanoseconds. -/
def sandEmptyEndImmediateMax : ℕ := 300*10 ^ 9
def sandEmptyEndSequenceWindow : ℕ := 60*10 ^ 9
def sandEmptyEndSequenceMaxKeys : ℕ := 1024
def sandEmptyEndAggregateMaxRequests : ℕ := 16

structure SandEmptyEndContext where
 token : Text
 modelId : Text
 clientType : Text
 /-- Shared by the retries of one logical request. -/
 requestId : Text
 freshRun : Bool
 openedAt : ℕ

structure SandEmptyEndSequence where
 count : ℕ
 lastSeen : ℕ

structure SandEmptyEndAggregate where
 requestIds : Finset Text
 lastSeen : ℕ

/-- What the meter of a lane says, with the seconds to its reset as the call reads the clock. -/
structure UsageEvidence (π:Type*) where
 usagePercent : π
 nextReset : Option Text
 retryAfterSecs : Option ℕ

structure EndEnv (π:Type*) where
 cursorAccountDigest : Text → Text
 resolveCursorModel : Text → Option Text
 /-- The percentage is less than 99.999. -/
 belowFull : π → Bool
 twoDecimals : π → Text

inductive Section where
 | observeSequence (key:Text) (now:ℕ) (reading:ReadOrder Text SandEmptyEndSequence)
 | clearSequence (key:Text)
 | observeAggregate (key requestId:Text) (now:ℕ) (reading:ReadOrder Text SandEmptyEndAggregate)
 | clearRequest (key requestId:Text)
 | clearAggregate (key:Text)

structure Tables where
 sequences : AList fun _:Text=>SandEmptyEndSequence
 aggregates : AList fun _:Text=>SandEmptyEndAggregate

def within (now lastSeen:ℕ) : Bool := now-lastSeen<sandEmptyEndSequenceWindow

def countSequence (now:ℕ) (found:Option SandEmptyEndSequence) : SandEmptyEndSequence :=
 let sequence:=found.getD ⟨0,now⟩
 ⟨min ((if within now sequence.lastSeen then sequence.count else 0)+1) 255,now⟩

/-- The requests of an aggregate that is too old are cleared. -/
def openIds (now:ℕ) (found:Option SandEmptyEndAggregate) : Finset Text :=
 let aggregate:=found.getD ⟨∅,now⟩
 if within now aggregate.lastSeen then aggregate.requestIds else ∅

def countRequest (now:ℕ) (requestId:Text) (found:Option SandEmptyEndAggregate) : SandEmptyEndAggregate :=
 let requestIds:=openIds now found
 ⟨if requestIds.card<sandEmptyEndAggregateMaxRequests then insert requestId requestIds else requestIds,now⟩

def Tables.observeSequence (tables:Tables) (key:Text) (now:ℕ) (reading:ReadOrder Text SandEmptyEndSequence) : Tables×ℕ :=
 let sequences:=makeRoom sandEmptyEndSequenceMaxKeys reading SandEmptyEndSequence.lastSeen key
  (retain (fun sequence=>within now sequence.lastSeen) tables.sequences)
 let sequence:=countSequence now (sequences.lookup key)
 ({ tables with sequences := sequences.insert key sequence },sequence.count)

def Tables.recordSandEmptyEndAggregate (tables:Tables) (key requestId:Text) (now:ℕ)
  (reading:ReadOrder Text SandEmptyEndAggregate) : Tables×ℕ :=
 let aggregates:=makeRoom sandEmptyEndSequenceMaxKeys reading SandEmptyEndAggregate.lastSeen key
  (retain (fun aggregate=>within now aggregate.lastSeen) tables.aggregates)
 let aggregate:=countRequest now requestId (aggregates.lookup key)
 ({ tables with aggregates := aggregates.insert key aggregate },min aggregate.requestIds.card 255)

def Tables.clearSandEmptyEndAggregateRequest (tables:Tables) (key requestId:Text) : Tables :=
 match tables.aggregates.lookup key with
 | none=>tables
 | some aggregate=>
  let requestIds:=aggregate.requestIds.erase requestId
  if requestIds=∅ then { tables with aggregates := tables.aggregates.erase key }
  else { tables with aggregates := tables.aggregates.insert key { aggregate with requestIds := requestIds } }

/-- What is done under one lock, with the count that it answers. -/
def Tables.perform (tables:Tables) : Section → Tables×ℕ
 | .observeSequence key now reading=>tables.observeSequence key now reading
 | .clearSequence key=>({ tables with sequences := tables.sequences.erase key },0)
 | .observeAggregate key requestId now reading=>tables.recordSandEmptyEndAggregate key requestId now reading
 | .clearRequest key requestId=>(tables.clearSandEmptyEndAggregateRequest key requestId,0)
 | .clearAggregate key=>({ tables with aggregates := tables.aggregates.erase key },0)

def run (sections:List Section) : Tables :=
 sections.foldl (fun tables section_=>(tables.perform section_).1) ⟨∅,∅⟩

/-- The count that a section answers behind those that came first, whichever calls they are of. -/
def counted (sections:List Section) (next:Section) : ℕ := ((run sections).perform next).2

structure EndCall (π:Type*) where
 context : SandEmptyEndContext
 sawText : Bool
 reason : Text
 checkedAt : ℕ
 sandEvidence : Option (UsageEvidence π)
 apiEvidence : Option (UsageEvidence π)
 now : ℕ
 sequenceReading : ReadOrder Text SandEmptyEndSequence
 aggregateReading : ReadOrder Text SandEmptyEndAggregate

inductive Plan (π:Type*) where
 | quiet (sections:List Section)
 | observe (evidence:UsageEvidence π)

section
variable {π:Type*} (env:EndEnv π)

def SandEmptyEndContext.client (context:SandEmptyEndContext) : Text := toAsciiLowercase (trim context.clientType)

def SandEmptyEndContext.isSand (context:SandEmptyEndContext) : Bool := context.client="sand".toList
def SandEmptyEndContext.isCli (context:SandEmptyEndContext) : Bool := context.client="cli".toList

def sandEmptyEndSequenceKey (context:SandEmptyEndContext) : Text :=
 context.client++ ':'::toAsciiLowercase (trim context.modelId)++ ':'::env.cursorAccountDigest context.token++
  ':'::trim context.requestId

def sandEmptyEndAggregateKey (context:SandEmptyEndContext) : Text :=
 context.client++ ':'::(env.resolveCursorModel context.modelId).getD (toAsciiLowercase (trim context.modelId))++
  ':'::env.cursorAccountDigest context.token

def clearSandEmptyEndSequence (context:SandEmptyEndContext) : List Section :=
 if context.isSand||context.isCli then
  .clearSequence (sandEmptyEndSequenceKey env context)::
   if (trim context.requestId).isEmpty then []
   else [.clearRequest (sandEmptyEndAggregateKey env context) (trim context.requestId)]
 else []

def clearSandEmptyEndSequenceOnProgress (context:SandEmptyEndContext)
  (sawTextBefore sawTextAfter pendingWasEmpty pendingIsEmpty:Bool) : List Section :=
 if (!sawTextBefore&&sawTextAfter)||(pendingWasEmpty&&!pendingIsEmpty) then clearSandEmptyEndSequence env context
 else []

/-- What the cache of the lane answers for the account. -/
def EndCall.evidence (call:EndCall π) : Option (UsageEvidence π) :=
 if call.context.isSand then call.sandEvidence else call.apiEvidence

def plan (call:EndCall π) : Plan π :=
 let context:=call.context
 if !context.isSand&&!context.isCli then .quiet []
 else if call.sawText||call.reason≠"flag_end".toList||!context.freshRun||
   sandEmptyEndImmediateMax<call.checkedAt-context.openedAt then
  .quiet (clearSandEmptyEndSequence env context)
 else match call.evidence with
  | none=>.quiet (clearSandEmptyEndSequence env context)
  | some evidence=>
   if env.belowFull evidence.usagePercent then
    .quiet (clearSandEmptyEndSequence env context++[.clearAggregate (sandEmptyEndAggregateKey env context)])
   else .observe evidence

def EndCall.first (call:EndCall π) : Section :=
 .observeSequence (sandEmptyEndSequenceKey env call.context) call.now call.sequenceReading

/-- Without an id nothing tells independent requests apart. -/
def EndCall.second (call:EndCall π) : Option Section :=
 if (trim call.context.requestId).isEmpty then none
 else some (.observeAggregate (sandEmptyEndAggregateKey env call.context) (trim call.context.requestId) call.now
  call.aggregateReading)

def EndCall.sections (call:EndCall π) : List Section :=
 match plan env call with
 | .quiet sections=>sections
 | .observe _=>call.first env::(call.second env).toList

def report (call:EndCall π) (evidence:UsageEvidence π) (count aggregateCount:ℕ) : Option Text :=
 if count<2 ∧ aggregateCount<2 then none
 else
  let retryAfter:=max 5 (min (evidence.retryAfterSecs.getD 600) 600)
  let reset:=(evidence.nextReset.map fun value=>"; dashboard reset ".toList++value).getD []
  let isSand:=call.context.isSand
  some ("Connect error 429: ".toList++
   (if isSand then "ERROR_SAND_USER_RATE_LIMIT_EXCEEDED: Sand" else "ERROR_CURSOR_API_RATE_LIMIT_EXCEEDED: Cursor API").toList++
   " usage meter is ".toList++env.twoDecimals evidence.usagePercent++"% and Cursor returned ".toList++
   (if 2 ≤ count then "two consecutive empty END frames" else "two independent empty END observations").toList++
   " for ".toList++call.context.modelId++"; retry after ".toList++(toString retryAfter).toList++" seconds".toList++reset++
   ". [resource_exhausted]".toList)

/-- Sections of other calls come before those of the call and between its two locks. -/
def classifySandQuotaEmptyEnd (call:EndCall π) (before between:List Section) : Option Text :=
 match plan env call with
 | .quiet _=>none
 | .observe evidence=>
  report env call evidence (counted before (call.first env))
   (((call.second env).map (counted (before++call.first env::between))).getD 0)

end

/-- The last end of this request, with the newest section first, is recent, and no progress behind it. -/
def Recent (key:Text) (now:ℕ) : List Section → Prop
 | []=>False
 | .observeSequence other seen _::older=>if other=key then within now seen=true else Recent key now older
 | .clearSequence other::older=>other≠key ∧ Recent key now older
 | _::older=>Recent key now older

/-- An end of this request is linked to now by ends of the account and the model that are less than
the window apart, and the request has made no progress behind it. -/
def Linked (key requestId:Text) (now:ℕ) : List Section → Prop
 | []=>False
 | .observeAggregate other otherId seen _::older=>
  if other=key then within now seen=true ∧ (otherId=requestId ∨ Linked key requestId seen older)
  else Linked key requestId now older
 | .clearRequest other otherId::older=>¬(other=key ∧ otherId=requestId) ∧ Linked key requestId now older
 | .clearAggregate other::older=>other≠key ∧ Linked key requestId now older
 | _::older=>Linked key requestId now older

/-- Whatever the tables remember has been observed. -/
structure Sound (tables:Tables) (log:List Section) : Prop where
 sequences : ∀ key sequence,tables.sequences.lookup key=some sequence → ∀ now,
  within now sequence.lastSeen=true → Recent key now log
 aggregates : ∀ key aggregate,tables.aggregates.lookup key=some aggregate → ∀ requestId∈aggregate.requestIds,
  ∀ now,within now aggregate.lastSeen=true → Linked key requestId now log

variable {tables:Tables} {log sections:List Section} {key other requestId:Text} {now:ℕ}

theorem sound_observeSequence (h:Sound tables log) (key:Text) (now:ℕ) (reading:ReadOrder Text SandEmptyEndSequence) :
  Sound (tables.observeSequence key now reading).1 (.observeSequence key now reading::log):=by
 refine ⟨fun other sequence hlookup later hlater=>?_,h.aggregates⟩
 unfold Tables.observeSequence at hlookup
 dsimp only at hlookup
 unfold Recent
 by_cases hkey:key=other
 · subst hkey
   rw [AList.lookup_insert] at hlookup
   obtain rfl:=Option.some.inj hlookup
   rw [if_pos rfl]
   exact hlater
 · rw [AList.lookup_insert_ne (Ne.symm hkey)] at hlookup
   rw [if_neg hkey]
   exact h.sequences other sequence (lookup_kept hlookup).1 later hlater

theorem mem_openIds {found:Option SandEmptyEndAggregate} {member:Text} : member∈openIds now found ↔
  ∃ aggregate,found=some aggregate ∧ within now aggregate.lastSeen=true ∧ member∈aggregate.requestIds:=by
 unfold openIds
 dsimp only
 constructor
 · intro hmember
   split_ifs at hmember with hwithin
   · cases found with
     | none=>exact absurd hmember (Finset.notMem_empty member)
     | some aggregate=>exact ⟨aggregate,rfl,hwithin,hmember⟩
   · exact absurd hmember (Finset.notMem_empty member)
 · rintro ⟨aggregate,rfl,hwithin,hmember⟩
   rw [Option.getD_some,if_pos hwithin]
   exact hmember

theorem mem_countRequest {found:Option SandEmptyEndAggregate} {member:Text}
  (h:member∈(countRequest now requestId found).requestIds) : member=requestId ∨ member∈openIds now found:=by
 unfold countRequest at h
 dsimp only at h
 split_ifs at h
 · exact Finset.mem_insert.mp h
 · exact .inr h

theorem sound_observeAggregate (h:Sound tables log) (key requestId:Text) (now:ℕ) (reading:ReadOrder Text SandEmptyEndAggregate) :
  Sound (tables.recordSandEmptyEndAggregate key requestId now reading).1 (.observeAggregate key requestId now reading::log):=by
 refine ⟨h.sequences,fun other aggregate hlookup member hmember later hlater=>?_⟩
 unfold Tables.recordSandEmptyEndAggregate at hlookup
 dsimp only at hlookup
 unfold Linked
 by_cases hkey:key=other
 · subst hkey
   rw [AList.lookup_insert] at hlookup
   obtain rfl:=Option.some.inj hlookup
   rw [if_pos rfl]
   refine ⟨hlater,(mem_countRequest hmember).imp Eq.symm ?_⟩
   intro hopen
   obtain ⟨held,hheld,hwithin,hmember⟩:=mem_openIds.mp hopen
   exact h.aggregates key held (lookup_kept hheld).1 member hmember now hwithin
 · rw [AList.lookup_insert_ne (Ne.symm hkey)] at hlookup
   rw [if_neg hkey]
   exact h.aggregates other aggregate (lookup_kept hlookup).1 member hmember later hlater

/-- A request that is cleared goes, and so does an aggregate that is left without requests. -/
theorem lookup_clearRequest : (tables.clearSandEmptyEndAggregateRequest other requestId).aggregates.lookup key =
  if other=key then ((tables.aggregates.lookup key).map fun aggregate=>
    { aggregate with requestIds := aggregate.requestIds.erase requestId }).filter fun aggregate=>aggregate.requestIds≠∅
  else tables.aggregates.lookup key:=by
 unfold Tables.clearSandEmptyEndAggregateRequest
 by_cases hkey:other=key
 · subst hkey
   rw [if_pos rfl]
   cases hheld:tables.aggregates.lookup other with
   | none=>exact hheld
   | some held=>
    dsimp only [Option.map_some]
    split_ifs with hempty
    · rw [AList.lookup_erase,Option.filter_some,if_neg (by rw [hempty]; simp)]
    · rw [AList.lookup_insert,Option.filter_some,if_pos (decide_eq_true hempty)]
 · rw [if_neg hkey]
   cases tables.aggregates.lookup other with
   | none=>rfl
   | some held=>
    dsimp only
    split_ifs
    · exact AList.lookup_erase_ne (Ne.symm hkey)
    · exact AList.lookup_insert_ne (Ne.symm hkey)

theorem clearRequest_self {aggregate:SandEmptyEndAggregate}
  (h:(tables.clearSandEmptyEndAggregateRequest key requestId).aggregates.lookup key=some aggregate) :
  ∃ held,tables.aggregates.lookup key=some held ∧ aggregate.lastSeen=held.lastSeen ∧
   aggregate.requestIds=held.requestIds.erase requestId:=by
 rw [lookup_clearRequest,if_pos rfl,Option.filter_eq_some_iff] at h
 obtain ⟨held,hheld,rfl⟩:=Option.map_eq_some_iff.mp h.1
 exact ⟨held,hheld,rfl,rfl⟩

theorem clearRequest_sequences : (tables.clearSandEmptyEndAggregateRequest other requestId).sequences=tables.sequences:=by
 unfold Tables.clearSandEmptyEndAggregateRequest
 split
 · rfl
 · dsimp only
   split_ifs <;> rfl

theorem sound_clearRequest (h:Sound tables log) (other requestId:Text) :
  Sound (tables.clearSandEmptyEndAggregateRequest other requestId) (.clearRequest other requestId::log):=by
 refine ⟨fun key sequence hlookup now hnow=>?_,fun key aggregate hlookup member hmember now hnow=>?_⟩
 · rw [clearRequest_sequences] at hlookup
   exact h.sequences key sequence hlookup now hnow
 · by_cases hkey:other=key
   · subst hkey
     obtain ⟨held,hheld,hseen,hids⟩:=clearRequest_self hlookup
     rw [hids] at hmember
     obtain ⟨hne,hmember⟩:=Finset.mem_erase.mp hmember
     exact ⟨fun hsame=>hne hsame.2.symm,h.aggregates other held hheld member hmember now (hseen ▸ hnow)⟩
   · rw [lookup_clearRequest,if_neg hkey] at hlookup
     exact ⟨fun hsame=>hkey hsame.1,h.aggregates key aggregate hlookup member hmember now hnow⟩

theorem sound_perform (h:Sound tables log) (next:Section) : Sound (tables.perform next).1 (next::log):=by
 cases next with
 | observeSequence key now reading=>exact sound_observeSequence h key now reading
 | observeAggregate key requestId now reading=>exact sound_observeAggregate h key requestId now reading
 | clearRequest key requestId=>exact sound_clearRequest h key requestId
 | clearSequence other=>
  refine ⟨fun key sequence hlookup now hnow=>?_,h.aggregates⟩
  obtain ⟨hkey,hlookup⟩:=lookup_erased hlookup
  exact ⟨hkey,h.sequences key sequence hlookup now hnow⟩
 | clearAggregate other=>
  refine ⟨h.sequences,fun key aggregate hlookup member hmember now hnow=>?_⟩
  obtain ⟨hkey,hlookup⟩:=lookup_erased hlookup
  exact ⟨hkey,h.aggregates key aggregate hlookup member hmember now hnow⟩

theorem run_append_single (sections:List Section) (next:Section) : run (sections++[next])=((run sections).perform next).1:=by
 unfold run
 rw [List.foldl_append]
 rfl

theorem sound_run (sections:List Section) : Sound (run sections) sections.reverse:=by
 induction sections using List.reverseRecOn with
 | nil=>exact ⟨fun _ _ h=>(by cases h),fun _ _ h=>(by cases h)⟩
 | append_singleton sections next ih=>
  rw [run_append_single,List.reverse_append]
  exact sound_perform ih next

theorem countSequence_two {found:Option SandEmptyEndSequence} (h:2 ≤ (countSequence now found).count) :
  ∃ sequence,found=some sequence ∧ within now sequence.lastSeen=true:=by
 unfold countSequence at h
 cases found with
 | none=>
  dsimp only [Option.getD_none] at h
  rw [ite_self] at h
  omega
 | some sequence=>
  dsimp only [Option.getD_some] at h
  cases hwithin:within now sequence.lastSeen with
  | true=>exact ⟨sequence,rfl,hwithin⟩
  | false=>
   rw [hwithin,if_neg Bool.false_ne_true] at h
   omega

theorem recent_of_counted {reading:ReadOrder Text SandEmptyEndSequence}
  (h:2 ≤ counted sections (.observeSequence key now reading)) : Recent key now sections.reverse:=by
 obtain ⟨sequence,hfound,hwithin⟩:=countSequence_two h
 exact (sound_run sections).sequences key sequence (lookup_kept hfound).1 now hwithin

theorem linked_of_counted {reading:ReadOrder Text SandEmptyEndAggregate}
  (h:2 ≤ counted sections (.observeAggregate key requestId now reading)) :
  ∃ otherId,otherId≠requestId ∧ Linked key otherId now sections.reverse:=by
 obtain ⟨otherId,hmember,hother⟩:=Finset.exists_mem_ne (Nat.lt_of_succ_le (h.trans (Nat.min_le_left _ _))) requestId
 obtain ⟨aggregate,hfound,hwithin,hmember⟩:=mem_openIds.mp ((mem_countRequest hmember).resolve_left hother)
 exact ⟨otherId,hother,(sound_run sections).aggregates key aggregate (lookup_kept hfound).1 otherId hmember now hwithin⟩

section
variable {π:Type*}

/-- An end that may tell of an exhausted allowance: nothing came before it, and the meter is full. -/
structure Eligible (env:EndEnv π) (call:EndCall π) : Prop where
 lane : call.context.isSand=true ∨ call.context.isCli=true
 empty : call.sawText=false
 ended : call.reason="flag_end".toList
 fresh : call.context.freshRun=true
 immediate : call.checkedAt-call.context.openedAt ≤ sandEmptyEndImmediateMax
 full : ∃ evidence,call.evidence=some evidence ∧ env.belowFull evidence.usagePercent=false

theorem plan_observe_iff {env:EndEnv π} {call:EndCall π} : (∃ evidence,plan env call=.observe evidence) ↔ Eligible env call:=by
 constructor
 · rintro ⟨evidence,hplan⟩
   unfold plan at hplan
   dsimp only at hplan
   split_ifs at hplan with hlane hearly
   cases hevidence:call.evidence with
   | none=>
    rw [hevidence] at hplan
    cases hplan
   | some found=>
    rw [hevidence] at hplan
    dsimp only at hplan
    split_ifs at hplan with hbelow
    simp only [Bool.or_eq_true,not_or,Bool.not_eq_true,decide_eq_false_iff_not,Bool.not_eq_false',not_lt,ne_eq,not_not] at hearly
    refine ⟨?_,hearly.1.1.1,hearly.1.1.2,hearly.1.2,hearly.2,found,hevidence,Bool.eq_false_of_not_eq_true hbelow⟩
    by_contra hnone
    obtain ⟨hsand,hcli⟩:=not_or.mp hnone
    rw [Bool.eq_false_of_not_eq_true hsand,Bool.eq_false_of_not_eq_true hcli] at hlane
    exact hlane rfl
 · rintro ⟨hlane,hempty,hended,hfresh,himmediate,evidence,hevidence,hfull⟩
   refine ⟨evidence,?_⟩
   unfold plan
   dsimp only
   have hlanes:¬(!call.context.isSand&&!call.context.isCli)=true:=by
    rcases hlane with h | h <;> rw [h] <;> simp
   rw [if_neg hlanes,hempty,hended,hfresh,decide_eq_false (Nat.not_lt.mpr himmediate),hevidence]
   rw [if_neg (by simp)]
   dsimp only
   rw [hfull]
   rfl

theorem report_isSome {env:EndEnv π} {call:EndCall π} {evidence:UsageEvidence π} {count aggregateCount:ℕ} :
  (report env call evidence count aggregateCount).isSome=true ↔ 2 ≤ count ∨ 2 ≤ aggregateCount:=by
 by_cases hfew:count<2 ∧ aggregateCount<2
 · rw [report,if_pos hfew]
   refine iff_of_false Bool.false_ne_true ?_
   omega
 · rw [report,if_neg hfew]
   refine iff_of_true rfl ?_
   omega

/-- What stands behind a report: an earlier end of the same request, or one of another request of
the account and the model. -/
def Founded (env:EndEnv π) (call:EndCall π) (before between:List Section) : Prop :=
 Recent (sandEmptyEndSequenceKey env call.context) call.now before.reverse ∨
  ¬(trim call.context.requestId).isEmpty ∧ ∃ otherId,otherId≠trim call.context.requestId ∧
   Linked (sandEmptyEndAggregateKey env call.context) otherId call.now (before++call.first env::between).reverse

theorem classify_isSome {env:EndEnv π} {call:EndCall π} {before between:List Section} :
  (classifySandQuotaEmptyEnd env call before between).isSome=true ↔ Eligible env call ∧
   (2 ≤ counted before (call.first env) ∨
    2 ≤ ((call.second env).map (counted (before++call.first env::between))).getD 0):=by
 rw [← plan_observe_iff]
 unfold classifySandQuotaEmptyEnd
 cases plan env call with
 | quiet sections=>exact iff_of_false Bool.false_ne_true fun h=>(by obtain ⟨⟨_,h⟩,-⟩:=h; cases h)
 | observe evidence=>exact report_isSome.trans (and_iff_right ⟨evidence,rfl⟩).symm

/-- However the calls of all requests are interleaved, an end is reported only behind another. -/
theorem report_founded (env:EndEnv π) (call:EndCall π) (before between:List Section)
  (h:(classifySandQuotaEmptyEnd env call before between).isSome=true) : Eligible env call ∧ Founded env call before between:=by
 obtain ⟨heligible,hcounted⟩:=classify_isSome.mp h
 refine ⟨heligible,hcounted.imp recent_of_counted fun htwo=>?_⟩
 unfold EndCall.second at htwo
 split_ifs at htwo with hid
 · exact absurd htwo (Nat.not_succ_le_zero 1)
 · exact ⟨hid,linked_of_counted htwo⟩

end

def Section.time : Section → Option ℕ
 | .observeSequence _ now _=>some now
 | .observeAggregate _ _ now _=>some now
 | _=>none

def Section.sequenceKey : Section → Option Text
 | .observeSequence key _ _=>some key
 | _=>none

def Section.aggregateKey : Section → Option Text
 | .observeAggregate key _ _ _=>some key
 | _=>none

def Section.requestOf (key:Text) : Section → Option Text
 | .observeAggregate other requestId _ _=>if other=key then some requestId else none
 | _=>none

/-- The locks are taken in the order in which the clock was read. -/
def Clocked (sections:List Section) : Prop := (sections.filterMap Section.time).Pairwise (· ≤ ·)

/-- Nothing has to be given up for want of room. -/
structure Roomy (sections:List Section) : Prop where
 sequences : (sections.filterMap Section.sequenceKey).toFinset.card ≤ sandEmptyEndSequenceMaxKeys
 aggregates : (sections.filterMap Section.aggregateKey).toFinset.card ≤ sandEmptyEndSequenceMaxKeys
 requests : ∀ key,(sections.filterMap (Section.requestOf key)).toFinset.card ≤ sandEmptyEndAggregateMaxRequests

def Behind (now:ℕ) (sections:List Section) : Prop := ∀ time∈sections.filterMap Section.time,time ≤ now

theorem Behind.front {rest:List Section} (h:Behind now (sections++rest)) : Behind now sections :=
 fun time htime=>h time (by rw [List.filterMap_append]; exact List.mem_append_left _ htime)

theorem Behind.last {next:Section} {time:ℕ} (h:Behind now (sections++[next])) (hnext:next.time=some time) : time ≤ now :=
 h time (by rw [List.filterMap_append]; exact List.mem_append_right _ (List.mem_filterMap.mpr ⟨next,List.mem_cons_self,hnext⟩))

theorem within_earlier {time lastSeen:ℕ} (h:within now lastSeen=true) (htime:time ≤ now) : within time lastSeen=true :=
 decide_eq_true ((Nat.sub_le_sub_right htime lastSeen).trans_lt (of_decide_eq_true h))

structure SequencesComplete (tables:Tables) (sections:List Section) : Prop where
 keys : ∀ key∈tables.sequences,key∈sections.filterMap Section.sequenceKey
 positive : ∀ key sequence,tables.sequences.lookup key=some sequence → 1 ≤ sequence.count
 recent : ∀ key now,Behind now sections → Recent key now sections.reverse →
  ∃ sequence,tables.sequences.lookup key=some sequence ∧ within now sequence.lastSeen=true

theorem SequencesComplete.same {tables':Tables} {next:Section} (h:SequencesComplete tables sections)
  (htables:tables'.sequences=tables.sequences) (hnext:∀ key now log,Recent key now (next::log) → Recent key now log) :
  SequencesComplete tables' (sections++[next]):=by
 refine ⟨fun key hkey=>?_,fun key sequence hlookup=>?_,fun key now hnow hrecent=>?_⟩
 · rw [htables] at hkey
   rw [List.filterMap_append]
   exact List.mem_append_left _ (h.keys key hkey)
 · rw [htables] at hlookup
   exact h.positive key sequence hlookup
 · rw [List.reverse_append] at hrecent
   rw [htables]
   exact h.recent key now hnow.front (hnext key now _ hrecent)

theorem SequencesComplete.observe (h:SequencesComplete tables sections) {reading:ReadOrder Text SandEmptyEndSequence}
  (hfew:(sections.filterMap Section.sequenceKey++[other]).toFinset.card ≤ sandEmptyEndSequenceMaxKeys) :
  SequencesComplete (tables.observeSequence other now reading).1 (sections++[.observeSequence other now reading]):=by
 unfold Tables.observeSequence
 refine ⟨fun key hkey=>?_,fun key sequence hlookup=>?_,fun key later hlater hrecent=>?_⟩
 · rw [List.filterMap_append]
   rcases (AList.mem_insert _).mp hkey with rfl | hkey
   · exact List.mem_append_right _ List.mem_cons_self
   · exact List.mem_append_left _ (h.keys key (mem_kept hkey))
 · dsimp only at hlookup
   by_cases hkey:key=other
   · rw [hkey,AList.lookup_insert] at hlookup
     obtain rfl:=Option.some.inj hlookup
     exact Nat.le_min.mpr ⟨Nat.le_add_left 1 _,by decide⟩
   · rw [AList.lookup_insert_ne hkey] at hlookup
     exact h.positive key sequence (lookup_kept hlookup).1
 · rw [List.reverse_append] at hrecent
   have hnow:now ≤ later:=hlater.last rfl
   change if other=key then within later now=true else Recent key later sections.reverse at hrecent
   dsimp only
   by_cases hkey:other=key
   · subst hkey
     rw [if_pos rfl] at hrecent
     exact ⟨_,AList.lookup_insert _,hrecent⟩
   · rw [if_neg hkey] at hrecent
     obtain ⟨sequence,hlookup,hwithin⟩:=
      h.recent key later hlater.front hrecent
     rw [AList.lookup_insert_ne (Ne.symm hkey)]
     exact ⟨sequence,kept_lookup h.keys hfew hlookup (within_earlier hwithin hnow),hwithin⟩

theorem SequencesComplete.clear (h:SequencesComplete tables sections) (other:Text) :
  SequencesComplete (tables.perform (.clearSequence other)).1 (sections++[.clearSequence other]):=by
 refine ⟨fun key hkey=>?_,fun key sequence hlookup=>?_,fun key later hlater hrecent=>?_⟩
 · rw [List.filterMap_append]
   exact List.mem_append_left _ (h.keys key (AList.mem_erase.mp hkey).2)
 · exact h.positive key sequence (lookup_erased hlookup).2
 · rw [List.reverse_append] at hrecent
   change other≠key ∧ Recent key later sections.reverse at hrecent
   obtain ⟨sequence,hlookup,hwithin⟩:=
    h.recent key later hlater.front hrecent.2
   exact ⟨sequence,(AList.lookup_erase_ne hrecent.1.symm).trans hlookup,hwithin⟩

structure AggregatesComplete (tables:Tables) (sections:List Section) : Prop where
 keys : ∀ key∈tables.aggregates,key∈sections.filterMap Section.aggregateKey
 requests : ∀ key aggregate,tables.aggregates.lookup key=some aggregate → ∀ requestId∈aggregate.requestIds,
  requestId∈sections.filterMap (Section.requestOf key)
 linked : ∀ key requestId now,Behind now sections → Linked key requestId now sections.reverse →
  ∃ aggregate,tables.aggregates.lookup key=some aggregate ∧ within now aggregate.lastSeen=true ∧ requestId∈aggregate.requestIds

theorem AggregatesComplete.same {tables':Tables} {next:Section} (h:AggregatesComplete tables sections)
  (htables:tables'.aggregates=tables.aggregates) (hnext:∀ key requestId now log,Linked key requestId now (next::log) → Linked key requestId now log) :
  AggregatesComplete tables' (sections++[next]):=by
 refine ⟨fun key hkey=>?_,fun key aggregate hlookup requestId hid=>?_,fun key requestId now hnow hlinked=>?_⟩
 · rw [htables] at hkey
   rw [List.filterMap_append]
   exact List.mem_append_left _ (h.keys key hkey)
 · rw [htables] at hlookup
   rw [List.filterMap_append]
   exact List.mem_append_left _ (h.requests key aggregate hlookup requestId hid)
 · rw [List.reverse_append] at hlinked
   rw [htables]
   exact h.linked key requestId now hnow.front (hnext key requestId now _ hlinked)

/-- With room for a request it is in the aggregate that it has been counted into, and so are those
that the aggregate held within the window. -/
theorem requests_counted {found:Option SandEmptyEndAggregate} {ids:List Text}
  (hids:∀ aggregate,found=some aggregate → ∀ member∈aggregate.requestIds,member∈ids)
  (hfew:(ids++[requestId]).toFinset.card ≤ sandEmptyEndAggregateMaxRequests) {member:Text}
  (h:requestId=member ∨ member∈openIds now found) : member∈(countRequest now requestId found).requestIds:=by
 unfold countRequest
 dsimp only
 split_ifs with hroom
 · exact Finset.mem_insert.mpr (h.imp_left Eq.symm)
 · rcases h with rfl | hmember
   · by_contra hnew
     have hsubset:insert requestId (openIds now found) ⊆ (ids++[requestId]).toFinset:=by
      intro held hheld
      rw [List.mem_toFinset]
      rcases Finset.mem_insert.mp hheld with rfl | hheld
      · exact List.mem_append_right ids List.mem_cons_self
      · obtain ⟨aggregate,hfound,-,hmember⟩:=mem_openIds.mp hheld
        exact List.mem_append_left _ (hids aggregate hfound held hmember)
     have hcard:=(Finset.card_le_card hsubset).trans hfew
     rw [Finset.card_insert_of_notMem hnew] at hcard
     exact hroom hcard
   · exact hmember

theorem AggregatesComplete.observe (h:AggregatesComplete tables sections) {reading:ReadOrder Text SandEmptyEndAggregate}
  (hclock:Behind now sections)
  (hfew:(sections.filterMap Section.aggregateKey++[other]).toFinset.card ≤ sandEmptyEndSequenceMaxKeys)
  (hids:(sections.filterMap (Section.requestOf other)++[requestId]).toFinset.card ≤ sandEmptyEndAggregateMaxRequests) :
  AggregatesComplete (tables.recordSandEmptyEndAggregate other requestId now reading).1
   (sections++[.observeAggregate other requestId now reading]):=by
 unfold Tables.recordSandEmptyEndAggregate
 refine ⟨fun key hkey=>?_,fun key aggregate hlookup member hmember=>?_,fun key member later hlater hlinked=>?_⟩
 · rw [List.filterMap_append]
   rcases (AList.mem_insert _).mp hkey with rfl | hkey
   · exact List.mem_append_right _ List.mem_cons_self
   · exact List.mem_append_left _ (h.keys key (mem_kept hkey))
 · dsimp only at hlookup
   rw [List.filterMap_append]
   by_cases hkey:key=other
   · rw [hkey,AList.lookup_insert] at hlookup
     obtain rfl:=Option.some.inj hlookup
     subst hkey
     rcases mem_countRequest hmember with rfl | hopen
     · exact List.mem_append_right _ (List.mem_filterMap.mpr ⟨_,List.mem_cons_self,if_pos rfl⟩)
     · obtain ⟨held,hheld,-,hmember⟩:=mem_openIds.mp hopen
       exact List.mem_append_left _ (h.requests key held (lookup_kept hheld).1 member hmember)
   · rw [AList.lookup_insert_ne hkey] at hlookup
     exact List.mem_append_left _ (h.requests key aggregate (lookup_kept hlookup).1 member hmember)
 · rw [List.reverse_append] at hlinked
   have hnow:now ≤ later:=hlater.last rfl
   change if other=key then within later now=true ∧ (requestId=member ∨ Linked key member now sections.reverse)
    else Linked key member later sections.reverse at hlinked
   dsimp only
   by_cases hkey:other=key
   · subst hkey
     rw [if_pos rfl] at hlinked
     refine ⟨_,AList.lookup_insert _,hlinked.1,requests_counted
      (fun aggregate hfound=>h.requests other aggregate (lookup_kept hfound).1) hids (hlinked.2.imp_right fun hearlier=>?_)⟩
     obtain ⟨aggregate,hlookup,hwithin,hmember⟩:=h.linked other member now hclock hearlier
     exact mem_openIds.mpr ⟨aggregate,kept_lookup h.keys hfew hlookup hwithin,hwithin,hmember⟩
   · rw [if_neg hkey] at hlinked
     obtain ⟨aggregate,hlookup,hwithin,hmember⟩:=
      h.linked key member later hlater.front hlinked
     rw [AList.lookup_insert_ne (Ne.symm hkey)]
     exact ⟨aggregate,kept_lookup h.keys hfew hlookup (within_earlier hwithin hnow),hwithin,hmember⟩

theorem AggregatesComplete.clear (h:AggregatesComplete tables sections) (other:Text) :
  AggregatesComplete (tables.perform (.clearAggregate other)).1 (sections++[.clearAggregate other]):=by
 refine ⟨fun key hkey=>?_,fun key aggregate hlookup member hmember=>?_,fun key member later hlater hlinked=>?_⟩
 · rw [List.filterMap_append]
   exact List.mem_append_left _ (h.keys key (AList.mem_erase.mp hkey).2)
 · rw [List.filterMap_append]
   exact List.mem_append_left _ (h.requests key aggregate (lookup_erased hlookup).2 member hmember)
 · rw [List.reverse_append] at hlinked
   change other≠key ∧ Linked key member later sections.reverse at hlinked
   obtain ⟨aggregate,hlookup,hheld⟩:=
    h.linked key member later hlater.front hlinked.2
   exact ⟨aggregate,(AList.lookup_erase_ne hlinked.1.symm).trans hlookup,hheld⟩

theorem AggregatesComplete.clearRequest (h:AggregatesComplete tables sections) (other requestId:Text) :
  AggregatesComplete (tables.clearSandEmptyEndAggregateRequest other requestId) (sections++[.clearRequest other requestId]):=by
 have hheld:∀ key aggregate,(tables.clearSandEmptyEndAggregateRequest other requestId).aggregates.lookup key=some aggregate →
   ∃ held,tables.aggregates.lookup key=some held ∧ aggregate.requestIds ⊆ held.requestIds:=by
  intro key aggregate hlookup
  by_cases hkey:other=key
  · subst hkey
    obtain ⟨held,hheld,-,hids⟩:=clearRequest_self hlookup
    exact ⟨held,hheld,hids ▸ Finset.erase_subset _ _⟩
  · rw [lookup_clearRequest,if_neg hkey] at hlookup
    exact ⟨aggregate,hlookup,Finset.Subset.refl _⟩
 refine ⟨fun key hkey=>?_,fun key aggregate hlookup member hmember=>?_,fun key member later hlater hlinked=>?_⟩
 · obtain ⟨aggregate,hlookup⟩:=mem_iff.mp hkey
   obtain ⟨held,hlookup,-⟩:=hheld key aggregate hlookup
   rw [List.filterMap_append]
   exact List.mem_append_left _ (h.keys key (mem_iff.mpr ⟨held,hlookup⟩))
 · obtain ⟨held,hlookup,hids⟩:=hheld key aggregate hlookup
   rw [List.filterMap_append]
   exact List.mem_append_left _ (h.requests key held hlookup member (hids hmember))
 · rw [List.reverse_append] at hlinked
   change ¬(other=key ∧ requestId=member) ∧ Linked key member later sections.reverse at hlinked
   obtain ⟨aggregate,hlookup,hwithin,hmember⟩:=h.linked key member later hlater.front hlinked.2
   rw [lookup_clearRequest]
   by_cases hkey:other=key
   · have hkept:member∈aggregate.requestIds.erase requestId:=
      Finset.mem_erase.mpr ⟨fun hsame=>hlinked.1 ⟨hkey,hsame.symm⟩,hmember⟩
     rw [if_pos hkey,hlookup]
     exact ⟨_,Option.filter_eq_some_iff.mpr ⟨rfl,decide_eq_true (Finset.ne_empty_of_mem hkept)⟩,hwithin,hkept⟩
   · rw [if_neg hkey]
     exact ⟨aggregate,hlookup,hwithin,hmember⟩

variable {rest:List Section}

theorem Roomy.front (h:Roomy (sections++rest)) : Roomy sections:=by
 have hcard:∀ (field:Section → Option Text),
   (sections.filterMap field).toFinset.card ≤ ((sections++rest).filterMap field).toFinset.card:=by
  intro field
  rw [List.filterMap_append,List.toFinset_append]
  exact Finset.card_le_card Finset.subset_union_left
 exact ⟨(hcard _).trans h.sequences,(hcard _).trans h.aggregates,fun key=>(hcard _).trans (h.requests key)⟩

theorem Clocked.front (h:Clocked (sections++rest)) : Clocked sections:=by
 unfold Clocked at h
 rw [List.filterMap_append] at h
 exact (List.pairwise_append.mp h).1

theorem Clocked.last {next:Section} (h:Clocked (sections++[next])) (hnext:next.time=some now) : Behind now sections:=by
 unfold Clocked at h
 rw [List.filterMap_append] at h
 exact fun time htime=>(List.pairwise_append.mp h).2.2 time htime now (List.mem_filterMap.mpr ⟨next,List.mem_cons_self,hnext⟩)

theorem complete_run (hclock:Clocked sections) (hroom:Roomy sections) :
  SequencesComplete (run sections) sections ∧ AggregatesComplete (run sections) sections:=by
 induction sections using List.reverseRecOn with
 | nil=>
  exact ⟨⟨fun _ h=>(by cases h),fun _ _ h=>(by cases h),fun _ _ _ h=>h.elim⟩,
   ⟨fun _ h=>(by cases h),fun _ _ h=>(by cases h),fun _ _ _ _ h=>h.elim⟩⟩
 | append_singleton sections next ih=>
  obtain ⟨hsequences,haggregates⟩:=ih hclock.front hroom.front
  have hkeys:=hroom.sequences
  have hgroups:=hroom.aggregates
  have hids:=hroom.requests
  simp only [List.filterMap_append] at hkeys hgroups hids
  rw [run_append_single]
  cases next with
  | observeSequence key now reading=>exact ⟨hsequences.observe hkeys,haggregates.same rfl fun _ _ _ _ h=>h⟩
  | clearSequence key=>exact ⟨hsequences.clear key,haggregates.same rfl fun _ _ _ _ h=>h⟩
  | clearAggregate key=>exact ⟨hsequences.same rfl fun _ _ _ h=>h,haggregates.clear key⟩
  | clearRequest key requestId=>
   exact ⟨hsequences.same clearRequest_sequences fun _ _ _ h=>h,haggregates.clearRequest key requestId⟩
  | observeAggregate key requestId now reading=>
   have hkey:=hids key
   rw [show List.filterMap (Section.requestOf key) [.observeAggregate key requestId now reading]=[requestId] from
    List.filterMap_cons_some (if_pos rfl)] at hkey
   exact ⟨hsequences.same rfl fun _ _ _ h=>h,haggregates.observe (hclock.last rfl) hgroups hkey⟩

theorem counted_of_recent {reading:ReadOrder Text SandEmptyEndSequence} (hclock:Clocked (sections++[.observeSequence key now reading]))
  (hroom:Roomy (sections++[.observeSequence key now reading])) (h:Recent key now sections.reverse) :
  2 ≤ counted sections (.observeSequence key now reading):=by
 have hcomplete:=(complete_run hclock.front hroom.front).1
 have hkeys:=hroom.sequences
 rw [List.filterMap_append] at hkeys
 obtain ⟨sequence,hlookup,hwithin⟩:=hcomplete.recent key now (hclock.last rfl) h
 have hpositive:=hcomplete.positive key sequence hlookup
 change 2 ≤ (countSequence now _).count
 rw [kept_lookup hcomplete.keys hkeys hlookup hwithin]
 unfold countSequence
 dsimp only [Option.getD_some]
 rw [if_pos hwithin]
 omega

theorem counted_of_linked {reading:ReadOrder Text SandEmptyEndAggregate} {otherId:Text}
  (hclock:Clocked (sections++[.observeAggregate key requestId now reading]))
  (hroom:Roomy (sections++[.observeAggregate key requestId now reading])) (hother:otherId≠requestId)
  (h:Linked key otherId now sections.reverse) : 2 ≤ counted sections (.observeAggregate key requestId now reading):=by
 have hcomplete:=(complete_run hclock.front hroom.front).2
 have hkeys:=hroom.aggregates
 have hids:=hroom.requests key
 rw [List.filterMap_append] at hkeys hids
 rw [show List.filterMap (Section.requestOf key) [.observeAggregate key requestId now reading]=[requestId] from
  List.filterMap_cons_some (if_pos rfl)] at hids
 obtain ⟨aggregate,hlookup,hwithin,hmember⟩:=hcomplete.linked key otherId now (hclock.last rfl) h
 change 2 ≤ min (countRequest now requestId _).requestIds.card 255
 rw [kept_lookup hcomplete.keys hkeys hlookup hwithin]
 have hcounted:∀ member,requestId=member ∨ member∈aggregate.requestIds → member∈(countRequest now requestId (some aggregate)).requestIds:=by
  intro member hmember
  refine requests_counted (fun found hfound=>?_) hids (hmember.imp_right fun h=>mem_openIds.mpr ⟨aggregate,rfl,hwithin,h⟩)
  obtain rfl:=Option.some.inj hfound
  exact hcomplete.requests key aggregate hlookup
 have htwo:=Finset.one_lt_card.mpr ⟨otherId,hcounted _ (.inr hmember),requestId,hcounted _ (.inl rfl),hother⟩
 exact Nat.le_min.mpr ⟨htwo,by decide⟩

/-- With room for all and the locks taken in the order of the clock, an end is reported exactly where
another stands behind it. -/
theorem report_iff_founded {π:Type*} (env:EndEnv π) (call:EndCall π) (before between:List Section)
  (hclock:Clocked (before++call.first env::between++(call.second env).toList))
  (hroom:Roomy (before++call.first env::between++(call.second env).toList)) :
  (classifySandQuotaEmptyEnd env call before between).isSome=true ↔ Eligible env call ∧ Founded env call before between:=by
 refine ⟨report_founded env call before between,fun ⟨heligible,hfounded⟩=>classify_isSome.mpr ⟨heligible,?_⟩⟩
 rcases hfounded with hrecent | ⟨hid,otherId,hother,hlinked⟩
 · rw [List.append_assoc,← List.singleton_append (l := between),List.append_assoc] at hclock hroom
   rw [← List.append_assoc] at hclock hroom
   exact .inl (counted_of_recent hclock.front hroom.front hrecent)
 · unfold EndCall.second at hclock hroom ⊢
   rw [if_neg hid] at hclock hroom ⊢
   exact .inr (counted_of_linked hclock hroom hother hlinked)

def sampleEnv : EndEnv Unit where
 cursorAccountDigest := id
 resolveCursorModel _ := none
 belowFull _ := false
 twoDecimals _ := "100.00".toList

/-- An empty end of a request of one account, at this second. -/
def endAt (requestId:String) (now:ℕ) : EndCall Unit where
 context := ⟨[],"grok".toList,"sand".toList,requestId.toList,true,0⟩
 sawText := false
 reason := "flag_end".toList
 checkedAt := now*10 ^ 9
 sandEvidence := some ⟨(),none,none⟩
 apiEvidence := none
 now := now*10 ^ 9
 sequenceReading := ⟨id,fun _=>.refl _⟩
 aggregateReading := ⟨id,fun _=>.refl _⟩

theorem report_founded_independent :
  Eligible sampleEnv (endAt "b" 50) ∧ Founded sampleEnv (endAt "b" 50) ((endAt "a" 0).sections sampleEnv) [] :=
 report_founded sampleEnv (endAt "b" 50) ((endAt "a" 0).sections sampleEnv) [] (by decide +kernel)

theorem report_iff_founded_late :
  (classifySandQuotaEmptyEnd sampleEnv (endAt "b" 60) ((endAt "a" 0).sections sampleEnv) []).isSome=true ↔
   Eligible sampleEnv (endAt "b" 60) ∧ Founded sampleEnv (endAt "b" 60) ((endAt "a" 0).sections sampleEnv) [] :=
 report_iff_founded sampleEnv (endAt "b" 60) ((endAt "a" 0).sections sampleEnv) []
  (show List.Pairwise (· ≤ ·) _ by decide +kernel)
  ⟨by decide +kernel,by decide +kernel,fun _=>((List.toFinset_card_le _).trans (List.length_filterMap_le _ _)).trans (by decide +kernel)⟩

end CursorProxy.EmptyEnds
