import CursorProxy.LedgerRecords
import CursorProxy.Traces

namespace CursorProxy.LedgerTransitions
open LedgerModel LedgerRecords Traces

def verdict (payload:RecordPayload) (fingerprint:UInt64) : OperationAdmission :=
 if canRotateAmbiguous payload fingerprint then .allowed else classify payload fingerprint

/-- What an operation does to the current record of its key, and whether it
applies. -/
def mutationOf (env:LedgerEnv) (ctx:CallContext) : LedgerOp → RecordPayload → RecordPayload×Bool
 | .claim _ fingerprint owner,payload=>
  if verdict payload fingerprint=.allowed then
   ({ payload with active := some (freshStage env ctx.processInstanceId ctx.nowMs fingerprint
    owner .prepared) },true)
  else (payload,false)
 | .markDispatchedIfOwner _ fingerprint owner,payload=>
  markDispatched env ctx fingerprint owner payload
 | .transferOwnerIf _ fingerprint previousOwner nextOwner,payload=>
  transferOwner fingerprint previousOwner nextOwner payload
 | .prepareStageIfOwner _ owner previous next,payload=>
  prepareStage env ctx owner previous next payload
 | .rollbackStageIfOwner _ owner fingerprint previous,payload=>
  rollbackStage env ctx owner fingerprint previous payload
 | .markCompletedIfOwner _ fingerprint owner,payload=>
  markCompleted env ctx fingerprint owner payload
 | .markAmbiguousIfOwner _ fingerprint owner message,payload=>
  markAmbiguous env ctx fingerprint owner message payload
 | .clearIfOwner _ fingerprint owner,payload=>clear fingerprint owner payload

def refused : LedgerReply → Prop
 | .admission (.unavailable _)=>True
 | .applied (.error _)=>True
 | _=>False

def replyOf (env:LedgerEnv) (ctx:CallContext) (op:LedgerOp) (payload:RecordPayload) : LedgerReply :=
 match op with
 | .claim _ fingerprint _=>.admission (verdict payload fingerprint)
 | _=>.applied (.ok (mutationOf env ctx op payload).2)

variable {env:LedgerEnv} {ctx:CallContext} {dir dir':LedgerDir} {key:String}

/-- What a call does: the directory stays well stored, other keys are kept but
for the sweep, and the record of the key is left alone by a refused call and
replaced by the mutation of the current record otherwise. -/
structure Effect (env:LedgerEnv) (ctx:CallContext) (key:String) (dir:LedgerDir)
 (mutation:RecordPayload → RecordPayload×Bool) (reply:RecordPayload → LedgerReply)
 (outcome:LedgerDir×LedgerReply) : Prop where
 wellStored : WellStored env outcome.1
 others : OthersKept env ctx key dir outcome.1
 own : (refused outcome.2 ∧ slot env outcome.1 key=slot env dir key) ∨
  (outcome.2=reply (current env ctx dir key) ∧
   activeOf env outcome.1 key=(mutation (current env ctx dir key)).1.active ∧
   historyOf env outcome.1 key=(mutation (current env ctx dir key)).1.completed)

theorem Effect.refuse {mutation:RecordPayload → RecordPayload×Bool}
 {reply:RecordPayload → LedgerReply} {answer:LedgerReply} (hstored:WellStored env dir)
 (h:refused answer) : Effect env ctx key dir mutation reply (dir,answer) :=
 ⟨hstored,.refl env ctx key dir,.inl ⟨h,rfl⟩⟩

theorem unchanged_current (h:(normalize env ctx.processInstanceId ctx.nowMs
      ((slot env dir key).getD (emptyRecord key ctx.nowMs))).2=false) :
 activeOf env dir key=(current env ctx dir key).active ∧
  historyOf env dir key=(current env ctx dir key).completed:=by
 unfold current
 rw [normalize_unchanged h]
 unfold activeOf historyOf
 cases slot env dir key <;> exact ⟨rfl,rfl⟩

theorem loadPayload_cases (ctx:CallContext) (key:String) (hstored:WellStored env dir) :
 (∃ error,loadPayload env ctx dir key=.error error) ∨
 (∃ changed,loadPayload env ctx dir key=.ok (current env ctx dir key,changed) ∧
  (slot env dir key=none → recordPath env key ∉ dir.records) ∧
  (changed=false → activeOf env dir key=(current env ctx dir key).active ∧
   historyOf env dir key=(current env ctx dir key).completed)):=by
 cases hload:loadPayload env ctx dir key with
 | error error=>exact .inl ⟨error,rfl⟩
 | ok loaded=>
  obtain ⟨payload,changed⟩:=loaded
  obtain ⟨hnormal,habsent⟩:=loadPayload_ok hstored hload
  have hcurrent:current env ctx dir key=payload:=congrArg Prod.fst hnormal
  refine .inr ⟨changed,by rw [hcurrent],habsent,fun hchanged=>?_⟩
  exact unchanged_current ((congrArg Prod.snd hnormal).trans hchanged)

theorem transition_effect (hreliable:Reliable env ctx) (hstored:WellStored env dir)
 {mutation:RecordPayload → RecordPayload×Bool}
 (hkey:∀ payload,(mutation payload).1.operationKey=payload.operationKey)
 (hkeep:∀ payload,(mutation payload).2=false → (mutation payload).1=payload) :
 Effect env ctx key dir mutation (fun payload=>.applied (.ok (mutation payload).2))
  ((transition env ctx dir key mutation).map id .applied):=by
 unfold transition
 cases hidentity:validateIdentity key none with
 | error error=>exact Effect.refuse hstored trivial
 | ok=>
  rw [hreliable.enabled]
  rcases loadPayload_cases ctx key hstored with ⟨error,hload⟩ | ⟨changed,hload,habsent,hsame⟩
  · rw [hload]
    exact Effect.refuse hstored trivial
  · rw [hload]
    dsimp only
    cases hmutation:mutation (current env ctx dir key) with
    | mk payload applied=>
     dsimp only
     have hpayloadKey:payload.operationKey=key:=by
      have hkept:=hkey (current env ctx dir key)
      rwa [hmutation,current_operationKey] at hkept
     split_ifs with hwrite
     · have hpersist:=persistOrRemove_stored hreliable hstored
        { payload with updatedAtMs := ctx.nowMs } hpayloadKey habsent
       rcases hresult : persistOrRemove env ctx dir { payload with updatedAtMs := ctx.nowMs }
        with ⟨next,error | _⟩
       · rw [hresult] at hpersist
         exact ⟨hpersist.wellStored,hpersist.others,.inl ⟨trivial,hpersist.failed error rfl⟩⟩
       · rw [hresult] at hpersist
         refine ⟨hpersist.wellStored,hpersist.others,.inr ?_⟩
         rw [hmutation]
         exact ⟨rfl,hpersist.active_history rfl⟩
     · obtain ⟨rfl,rfl⟩ : changed=false ∧ applied=false:=by
        simpa using hwrite
       have hpayload:payload=current env ctx dir key:=by
        have:=hkeep (current env ctx dir key)
        rw [hmutation] at this
        exact this rfl
       refine ⟨hstored,.refl env ctx key dir,.inr ?_⟩
       rw [hmutation,hpayload]
       exact ⟨rfl,hsame rfl⟩

theorem ownerTransition_effect (hreliable:Reliable env ctx) (hstored:WellStored env dir)
 (owner:String) {mutation:RecordPayload → RecordPayload×Bool}
 (hkey:∀ payload,(mutation payload).1.operationKey=payload.operationKey)
 (hkeep:∀ payload,(mutation payload).2=false → (mutation payload).1=payload) :
 Effect env ctx key dir mutation (fun payload=>.applied (.ok (mutation payload).2))
  ((ownerTransition env ctx dir key owner mutation).map id .applied):=by
 unfold ownerTransition
 cases hidentity:validateIdentity key (some owner) with
 | error error=>exact Effect.refuse hstored trivial
 | ok=>exact transition_effect hreliable hstored hkey hkeep

theorem claim_effect (hreliable:Reliable env ctx) (hstored:WellStored env dir) (fingerprint:UInt64) (owner:String) :
 Effect env ctx key dir (mutationOf env ctx (.claim key fingerprint owner))
  (fun payload=>.admission (verdict payload fingerprint))
  ((claim env ctx dir key fingerprint owner).map id .admission):=by
 unfold claim
 cases hidentity:validateIdentity key (some owner) with
 | error error=>exact Effect.refuse hstored trivial
 | ok=>
  rw [hreliable.enabled]
  rcases loadPayload_cases ctx key hstored with ⟨error,hload⟩ | ⟨changed,hload,habsent,hsame⟩
  · rw [hload]
    exact Effect.refuse hstored trivial
  · rw [hload]
    have hfold:(if canRotateAmbiguous (current env ctx dir key) fingerprint then .allowed
     else classify (current env ctx dir key) fingerprint) =
     verdict (current env ctx dir key) fingerprint := rfl
    have hkey:=current_operationKey env ctx dir key
    simp only [hfold]
    split_ifs with hverdict hchanged
    · have hpersist:=persistOrRemove_stored hreliable hstored _ hkey habsent
      rcases hresult : persistOrRemove env ctx dir (current env ctx dir key)
       with ⟨next,error | _⟩
      · rw [hresult] at hpersist
        exact ⟨hpersist.wellStored,hpersist.others,.inl ⟨trivial,hpersist.failed error rfl⟩⟩
      · rw [hresult] at hpersist
        refine ⟨hpersist.wellStored,hpersist.others,.inr ⟨rfl,?_⟩⟩
        rw [mutationOf,if_neg hverdict]
        exact hpersist.active_history rfl
    · refine ⟨hstored,.refl env ctx key dir,.inr ⟨rfl,?_⟩⟩
      rw [mutationOf,if_neg hverdict]
      exact hsame (by simpa using hchanged)
    · have hwrite:=writeRecord_stored hreliable hstored
       { current env ctx dir key with
         active := some (freshStage env ctx.processInstanceId ctx.nowMs fingerprint owner
          .prepared)
         updatedAtMs := ctx.nowMs } hkey rfl habsent
      have hallowed:verdict (current env ctx dir key) fingerprint=.allowed :=
       not_not.mp hverdict
      rcases hresult : writeRecord env ctx dir { current env ctx dir key with
       active := some (freshStage env ctx.processInstanceId ctx.nowMs fingerprint owner
        .prepared)
       updatedAtMs := ctx.nowMs } with ⟨next,error | _⟩
      · rw [hresult] at hwrite
        exact ⟨hwrite.wellStored,hwrite.others,.inl ⟨trivial,hwrite.failed error rfl⟩⟩
      · rw [hresult] at hwrite
        refine ⟨hwrite.wellStored,hwrite.others,.inr ⟨?_,?_⟩⟩
        · rw [hallowed]
          rfl
        · rw [mutationOf,if_pos hallowed]
          exact hwrite.active_history rfl

theorem mutationOf_operationKey (env:LedgerEnv) (ctx:CallContext) (op:LedgerOp) (payload:RecordPayload) :
 (mutationOf env ctx op payload).1.operationKey=payload.operationKey:=by
 cases op <;>
  simp only [mutationOf,markDispatched,transferOwner,prepareStage,rollbackStage,markCompleted,markAmbiguous,clear] <;>
  repeat' split
 all_goals rfl

theorem mutationOf_not_applied (env:LedgerEnv) (ctx:CallContext) (op:LedgerOp)
 (payload:RecordPayload) (h:(mutationOf env ctx op payload).2=false) :
 (mutationOf env ctx op payload).1=payload:=by
 revert h
 cases op <;>
  simp only [mutationOf,markDispatched,transferOwner,prepareStage,rollbackStage,markCompleted,markAmbiguous,clear] <;>
  repeat' split
 all_goals simp

theorem step_effect (call:LedgerCall) (hreliable:Reliable env call.ctx) (hstored:WellStored env dir) :
 Effect env call.ctx call.op.key dir (mutationOf env call.ctx call.op)
  (replyOf env call.ctx call.op) (step env dir call):=by
 obtain ⟨op,ctx⟩:=call
 have hkey:=fun payload=>mutationOf_operationKey env ctx op payload
 have hkeep:=fun payload=>mutationOf_not_applied env ctx op payload
 cases op with
 | claim key fingerprint owner=>exact claim_effect hreliable hstored fingerprint owner
 | transferOwnerIf key fingerprint previousOwner nextOwner=>
  unfold step transferOwnerIf
  dsimp only
  cases hidentity:validateIdentity key (some previousOwner) with
  | error error=>exact Effect.refuse hstored trivial
  | ok=>exact ownerTransition_effect hreliable hstored nextOwner hkey hkeep
 | markDispatchedIfOwner key fingerprint owner=>
  exact ownerTransition_effect hreliable hstored owner hkey hkeep
 | prepareStageIfOwner key owner previous next=>
  exact ownerTransition_effect hreliable hstored owner hkey hkeep
 | rollbackStageIfOwner key owner fingerprint previous=>
  exact ownerTransition_effect hreliable hstored owner hkey hkeep
 | markCompletedIfOwner key fingerprint owner=>
  exact ownerTransition_effect hreliable hstored owner hkey hkeep
 | markAmbiguousIfOwner key fingerprint owner message=>
  exact ownerTransition_effect hreliable hstored owner hkey hkeep
 | clearIfOwner key fingerprint owner=>
  exact ownerTransition_effect hreliable hstored owner hkey hkeep

structure LedgerEvent where
 call : LedgerCall
 reply : LedgerReply

def LedgerStep (env:LedgerEnv) (dir:LedgerDir) (event:LedgerEvent) (dir':LedgerDir) : Prop :=
 step env dir event.call=(dir',event.reply)

/-- Every clock reading of a call comes before those of the later calls. -/
def ClockOrdered (events:List LedgerEvent) : Prop :=
 events.Pairwise fun earlier later=>earlier.call.ctx.laterMs ≤ later.call.ctx.nowMs

/-- How one event treats the record of a key: it keeps it, the sweep of another
key's call removes it, or the event is an unrefused call on the key. -/
inductive KeyEffect (env:LedgerEnv) (event:LedgerEvent) (key:String)
 (dir dir':LedgerDir) : Prop where
 | kept (hslot:slot env dir' key=slot env dir key)
  (hrefused:event.call.op.key=key → refused event.reply)
 | swept (hother:event.call.op.key≠key) (hslot:slot env dir' key=none)
  (payload:RecordPayload) (hbefore:slot env dir key=some payload)
  (hvacant:(normalize env event.call.ctx.processInstanceId event.call.ctx.laterMs
   payload).1.vacant=true)
 | applied (hkey:event.call.op.key=key)
  (hreply:event.reply =
   replyOf env event.call.ctx event.call.op (current env event.call.ctx dir key))
  (hactive:activeOf env dir' key=(mutationOf env event.call.ctx event.call.op
   (current env event.call.ctx dir key)).1.active)
  (hhistory:historyOf env dir' key=(mutationOf env event.call.ctx event.call.op
   (current env event.call.ctx dir key)).1.completed)

variable {event:LedgerEvent}

theorem LedgerStep.effect (h:LedgerStep env dir event dir')
 (hreliable:Reliable env event.call.ctx) (hstored:WellStored env dir) :
 Effect env event.call.ctx event.call.op.key dir (mutationOf env event.call.ctx event.call.op)
  (replyOf env event.call.ctx event.call.op) (dir',event.reply):=by
 have heffect:=step_effect event.call hreliable hstored
 rwa [show step env dir event.call=(dir',event.reply) from h] at heffect

theorem LedgerStep.wellStored (h:LedgerStep env dir event dir')
 (hreliable:Reliable env event.call.ctx) (hstored:WellStored env dir) : WellStored env dir' :=
 (h.effect hreliable hstored).wellStored

theorem LedgerStep.keyEffect (h:LedgerStep env dir event dir')
 (hreliable:Reliable env event.call.ctx) (hstored:WellStored env dir) (key:String) :
 KeyEffect env event key dir dir':=by
 have heffect:=h.effect hreliable hstored
 by_cases hkey:event.call.op.key=key
 · subst hkey
   rcases heffect.own with ⟨hrefused,hslot⟩ | ⟨hreply,hactive,hhistory⟩
   · exact .kept hslot fun _=>hrefused
   · exact .applied rfl hreply hactive hhistory
 · rcases heffect.others key (Ne.symm hkey) with hslot | ⟨hslot,payload,hbefore,hvacant⟩
   · exact .kept hslot fun h=>absurd h hkey
   · exact .swept hkey hslot payload hbefore hvacant

theorem swept_active {payload:RecordPayload} {stage:ActiveOperation} (hbefore:slot env dir key=some payload)
 (hvacant:(normalize env ctx.processInstanceId ctx.laterMs payload).1.vacant=true)
 (hstage:activeOf env dir key=some stage) : retainActive ctx.processInstanceId ctx.laterMs (some stage)=none:=by
 have hactive:payload.active=some stage:=by
  unfold activeOf at hstage
  rwa [hbefore] at hstage
 rw [RecordPayload.vacant,normalize_active,hactive,Bool.and_eq_true] at hvacant
 exact Option.isNone_iff_eq_none.mp hvacant.1

theorem trace_wellStored {events:List LedgerEvent} (h:Trace (LedgerStep env) dir events dir')
 (hreliable:∀ event∈events,Reliable env event.call.ctx) (hstored:WellStored env dir) : WellStored env dir' :=
 h.invariant (WellStored env) (fun _ event _ hevent hdir hstep=>
  hstep.wellStored (hreliable event hevent) hdir) hstored

/-- The directory after the first `n` calls of a sequence. -/
def dirAfter (env:LedgerEnv) (calls:ℕ → LedgerCall) : ℕ → LedgerDir
 | 0=>.empty
 | n+1=>(step env (dirAfter env calls n) (calls n)).1

def eventOf (env:LedgerEnv) (dir:LedgerDir) (call:LedgerCall) : LedgerEvent :=
 ⟨call,(step env dir call).2⟩

theorem step_eventOf (env:LedgerEnv) (dir:LedgerDir) (call:LedgerCall) :
 LedgerStep env dir (eventOf env dir call) (step env dir call).1 :=
 rfl

def eventAt (env:LedgerEnv) (calls:ℕ → LedgerCall) (n:ℕ) : LedgerEvent :=
 eventOf env (dirAfter env calls n) (calls n)

theorem step_at (env:LedgerEnv) (calls:ℕ → LedgerCall) (n:ℕ) :
 LedgerStep env (dirAfter env calls n) (eventAt env calls n) (dirAfter env calls (n+1)) :=
 rfl

theorem trace_at (env:LedgerEnv) (calls:ℕ → LedgerCall) (n k:ℕ) :
 Trace (LedgerStep env) (dirAfter env calls n) ((List.range' n k).map (eventAt env calls))
  (dirAfter env calls (n+k)):=by
 induction k generalizing n with
 | zero=>exact .nil _
 | succ k ih=>
  have htail:=ih (n+1)
  rw [Nat.add_right_comm] at htail
  exact .cons (step_at env calls n) htail

/-- An enabled ledger that no environment variable configures. -/
def defaultEnv : LedgerEnv where
 maxFiles := none
 completedPerKey := none
 unresolvedSecs := none
 completedRetentionSecs := none
 storageDir := .ok true
 keyDigest := fun _=>Vector.replicate 32 0
 payloadDigest := fun _=>Vector.replicate 32 0

/-- A call within one clock tick and without file-system failures. -/
def calmContext (processInstanceId:String) (nowMs:ℕ) (h:nowMs ≤ u64Max) : CallContext :=
 ⟨processInstanceId,nowMs,nowMs,.none,le_refl _,h⟩

theorem calm_reliable {processInstanceId:String} {nowMs:ℕ} (h:nowMs ≤ u64Max) :
 Reliable defaultEnv (calmContext processInstanceId nowMs h) := ⟨rfl,rfl⟩

end CursorProxy.LedgerTransitions
