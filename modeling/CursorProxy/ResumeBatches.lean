import CursorProxy.AcceptanceMarker
import CursorProxy.LedgerExclusion
import CursorProxy.LedgerRollback

/-! The driver stages the next operation in the durable ledger, swaps the fingerprint that it
keeps in memory, acknowledges the request and only then sends frames. What the calls of the
ledger answer is given with the record that they leave. -/
namespace CursorProxy.ResumeBatches
open XmlElements LiveRunKeys TerminalErrors AcceptanceMarker LedgerModel LedgerRecords
open LedgerTransitions LedgerRollback LedgerReplay

variable {β:Type*}

structure LedgerAnswer where
 reply : Except IoError Bool
 record : RecordPayload

def LedgerAnswer.applied (answer:LedgerAnswer) : Bool :=
 match answer.reply with
 | .ok applied=>applied
 | .error _=>false

/-- An answered call mutated the current stage; one that failed may have done so before it
failed. -/
def Answers (env:LedgerEnv) (ctx:CallContext) (op:LedgerOp) (record:RecordPayload) (answer:LedgerAnswer) : Prop :=
 let mutated:=mutationOf env ctx op (normalize env ctx.processInstanceId ctx.nowMs record).1
 match answer.reply with
 | .ok applied=>applied=mutated.2 ∧ answer.record.active=mutated.1.active
 | .error _=>answer.record.active=record.active ∨ answer.record.active=mutated.1.active

def storedRecord (env:LedgerEnv) (dir:LedgerDir) (key:String) (nowMs:ℕ) : RecordPayload :=
 (slot env dir key).getD (emptyRecord key nowMs)

theorem activeOf_stored (env:LedgerEnv) (dir:LedgerDir) (key:String) (nowMs:ℕ) :
  (storedRecord env dir key nowMs).active=activeOf env dir key:=by
 unfold storedRecord activeOf
 cases slot env dir key <;> rfl

structure Refusal where
 status : ℕ
 message : Text

/-- How one frame goes out: a failure may be terminal. -/
inductive SendOutcome where
 | sent
 | failed (terminal:Bool) (message:Text)

inductive SendEnd where
 | all
 | terminal (message:Text)
 | failed

/-- The frames that went out, and how the loop over them ended. -/
def sendFrames (send:ℕ → SendOutcome) (total:ℕ) : List β → ℕ → List β×SendEnd
 | [],_=>([],.all)
 | frame::frames,sentFrames=>match send sentFrames with
  | .sent=>
   let rest:=sendFrames send total frames (sentFrames+1)
   (frame::rest.1,rest.2)
  | .failed terminal message=>
   if 0<sentFrames then
    ([],.terminal (partialToolResultSendError sentFrames total message))
   else if terminal then ([],.terminal message)
   else ([],.failed)

/-- The command, and the outcomes of everything that its arm calls. -/
structure ResumeBatch (β:Type*) where
 /-- The exchange of the dispatch state from waiting to started. -/
 started : Bool
 segmentCount : ℕ
 maxSegments : ℕ
 /-- `encode_tool_result_batch`. -/
 frames : Except Text (List β)
 acceptedFingerprint : Option UInt64
 prepare : LedgerAnswer
 markDispatched : LedgerAnswer
 rollback : LedgerAnswer
 /-- The requester still waits for the acknowledgement. -/
 acknowledged : Bool
 /-- The queued upstream bytes do not end the run. -/
 drained : Bool
 send : ℕ → SendOutcome
 cancelled : Bool
 reconnected : Bool
 resend : ℕ → SendOutcome

/-- Memory and the durable record, what the requester received, each sent frame with the
fingerprint and the stage at that time, the reported error, and whether the loop goes on. -/
structure Driver (β:Type*) where
 fingerprint : UInt64
 record : RecordPayload
 received : Option (Except Refusal Unit)
 sent : List (β×UInt64×Option (UInt64×ActiveState))
 reported : Option Text
 running : Bool

def stageOf (record:RecordPayload) : Option (UInt64×ActiveState) :=
 record.active.map fun active=>(active.fingerprint,active.state)

def cancelledMessage : Text :=
 "Cursor live resume dispatch was cancelled before driver acceptance".toList

def segmentLimitMessage (maxSegments:ℕ) : Text :=
 "Cursor live run reached its ".toList++decimal maxSegments ++ "-segment safety limit".toList

def ownerChangedMessage : Text := ("Cursor durable operation owner changed before tool-result " ++
 "resume; acceptance is ambiguous").toList

def unavailableMessage (error:IoError) : Text :=
 ("Cursor operation ledger is unavailable; tool results were not dispatched: ").toList ++ error.message.toList

def notCommittedMessage (mark:Except IoError Bool) : Text :=
 ("Cursor operation ledger could not commit tool-result dispatch; request was not sent: ").toList ++
  match mark with
  | .ok _ => "durable operation owner changed before dispatch".toList
  | .error error=>error.message.toList

def abandonedMessage : Text := ("Cursor tool-result resume acknowledgement was abandoned and " ++
 "durable rollback failed; completion is ambiguous").toList

namespace Driver

def refuse (driver:Driver β) (cmd:ResumeBatch β) (status:ℕ) (message:Text) : Driver β :=
 { driver with received := if cmd.acknowledged then some (.error ⟨status,message⟩) else none }

/-- `report_terminal_error`, `break 'driver`. -/
def stop (driver:Driver β) (message:Text) : Driver β :=
 { driver with reported := some message,running := false }

/-- Everything behind the acknowledgement that puts frames on the wire. -/
def submit (driver:Driver β) (cmd:ResumeBatch β) (frames:List β) : Driver β :=
 let stamp:=fun frame=>(frame,driver.fingerprint,stageOf driver.record)
 if !cmd.drained then { driver with running := false }
 else
  let first:=sendFrames cmd.send frames.length frames 0
  let driver:={ driver with sent := driver.sent++first.1.map stamp }
  match first.2 with
  | .terminal message=>driver.stop message
  | .all=>driver
  | .failed=>
   if cmd.cancelled||!cmd.reconnected then { driver with running := false }
   else
    let again:=sendFrames cmd.resend frames.length frames 0
    let driver:={ driver with sent := driver.sent++again.1.map stamp }
    match again.2 with
    | .terminal message=>driver.stop message
    | .all=>driver
    | .failed=>{ driver with running := false }

def acknowledge (driver:Driver β) (cmd:ResumeBatch β) (frames:List β) (abandoned:Driver β → Driver β) : Driver β :=
 if cmd.acknowledged then { driver with received := some (.ok ()) }.submit cmd frames
 else abandoned driver

/-- The record stays prepared when the rollback fails too. -/
def notDispatched (driver:Driver β) (cmd:ResumeBatch β) : Driver β :=
 let message:=notCommittedMessage cmd.markDispatched.reply
 let driver:={ driver with record := cmd.rollback.record }
 if cmd.rollback.applied then driver.refuse cmd 503 message
 else (driver.refuse cmd 409 message).stop message

def abandon (driver:Driver β) (cmd:ResumeBatch β) (previous:UInt64) : Driver β :=
 let driver:={ driver with fingerprint := previous,record := cmd.rollback.record }
 if cmd.rollback.applied then driver else driver.stop abandonedMessage

def stage (driver:Driver β) (cmd:ResumeBatch β) (frames:List β) (fingerprint:UInt64) : Driver β :=
 let previous:=driver.fingerprint
 let prepared:={ driver with record := cmd.prepare.record }
 match cmd.prepare.reply with
 | .ok true=>
  let marked:={ prepared with record := cmd.markDispatched.record }
  if cmd.markDispatched.applied then
   { marked with fingerprint := fingerprint }.acknowledge cmd frames fun driver=>
     driver.abandon cmd previous
  else marked.notDispatched cmd
 | .ok false=>(prepared.refuse cmd 409 ownerChangedMessage).stop ownerChangedMessage
 | .error error=>prepared.refuse cmd 503 (unavailableMessage error)

def resumeBatch (driver:Driver β) (cmd:ResumeBatch β) : Driver β :=
 if !cmd.started then driver.refuse cmd 503 cancelledMessage
 else if cmd.maxSegments ≤ cmd.segmentCount then
  (driver.refuse cmd 409 (segmentLimitMessage cmd.maxSegments)).stop (segmentLimitMessage cmd.maxSegments)
 else match cmd.frames with
 | .error error=>driver.refuse cmd 400 error
 | .ok frames=>match cmd.acceptedFingerprint with
  | some fingerprint=>driver.stage cmd frames fingerprint
  | none=>driver.acknowledge cmd frames id

end Driver
variable {env:LedgerEnv} {ctx:CallContext} {key owner:String} {record:RecordPayload}
 {answer:LedgerAnswer} {previous fingerprint:UInt64}

theorem applied_active {op:LedgerOp} (h:Answers env ctx op record answer) (happlied:answer.applied=true) :
  (mutationOf env ctx op (normalize env ctx.processInstanceId ctx.nowMs record).1).2=true ∧
   answer.record.active=(mutationOf env ctx op
    (normalize env ctx.processInstanceId ctx.nowMs record).1).1.active:=by
 unfold LedgerAnswer.applied at happlied
 unfold Answers at h
 cases hreply:answer.reply with
 | error error=>
  rw [hreply] at happlied
  cases happlied
 | ok applied=>
  rw [hreply] at h happlied
  exact ⟨h.1.symm.trans happlied,h.2⟩

theorem current_active {active:ActiveOperation}
  (h:(normalize env ctx.processInstanceId ctx.nowMs record).1.active=some active) : record.active=some active:=by
 rw [normalize_active] at h
 exact retainActive_eq_some h

theorem prepared_stage (h:Answers env ctx (.prepareStageIfOwner key owner previous fingerprint) record answer)
  (happlied:answer.applied=true) :
  (∃ state,stageOf record=some (previous,state)) ∧ stageOf answer.record=some (fingerprint,.prepared):=by
 obtain ⟨htrue,hactive⟩:=applied_active h happlied
 change (LedgerModel.prepareStage env ctx owner previous fingerprint _).2=true at htrue
 change _=(LedgerModel.prepareStage env ctx owner previous fingerprint _).1.active at hactive
 unfold LedgerModel.prepareStage at htrue hactive
 cases hcurrent:(normalize env ctx.processInstanceId ctx.nowMs record).1.active with
 | none=>
  rw [hcurrent] at htrue
  cases htrue
 | some active=>
  rw [hcurrent] at htrue hactive
  dsimp only at htrue hactive
  split_ifs at htrue hactive with hheld
  rw [Bool.or_eq_true,not_or] at hheld
  have hmine:=LedgerExclusion.heldBy_iff.mp (by simpa using hheld.1)
  refine ⟨⟨active.state,?_⟩,?_⟩
  · unfold stageOf
    rw [current_active hcurrent,Option.map_some,hmine.1]
  · unfold stageOf
    rw [hactive]
    rfl

theorem marked_stage (h:Answers env ctx (.markDispatchedIfOwner key fingerprint owner) record answer)
  (happlied:answer.applied=true) (hstage:stageOf record=some (fingerprint,.prepared)) :
  stageOf answer.record=some (fingerprint,.dispatched):=by
 obtain ⟨htrue,hactive⟩:=applied_active h happlied
 change (LedgerModel.markDispatched env ctx fingerprint owner _).2=true at htrue
 change _=(LedgerModel.markDispatched env ctx fingerprint owner _).1.active at hactive
 unfold LedgerModel.markDispatched at htrue hactive
 cases hcurrent:(normalize env ctx.processInstanceId ctx.nowMs record).1.active with
 | none=>
  rw [hcurrent] at htrue
  cases htrue
 | some active=>
  unfold stageOf at hstage
  rw [current_active hcurrent,Option.map_some] at hstage
  obtain ⟨hfingerprint,hprepared⟩:=Prod.mk.inj (Option.some.inj hstage)
  rw [hcurrent] at htrue hactive
  dsimp only at htrue hactive hprepared
  rw [if_pos hprepared] at hactive
  split_ifs at htrue hactive
  unfold stageOf
  rw [hactive,← hfingerprint]
  rfl

theorem rolledBack_stage (h:Answers env ctx (.rollbackStageIfOwner key owner fingerprint previous) record answer)
  (happlied:answer.applied=true) : stageOf answer.record=some (previous,.dispatched):=by
 obtain ⟨htrue,hactive⟩:=applied_active h happlied
 change (LedgerModel.rollbackStage env ctx owner fingerprint previous _).2=true at htrue
 change _=(LedgerModel.rollbackStage env ctx owner fingerprint previous _).1.active at hactive
 unfold LedgerModel.rollbackStage at htrue hactive
 split_ifs at htrue hactive
 unfold stageOf
 rw [hactive]
 rfl

def Driver.before (fingerprint:UInt64) (record:RecordPayload) : Driver β :=
 ⟨fingerprint,record,none,[],none,true⟩

/-- Memory and the record are as they were, or the driver stops with an ambiguous error. -/
def Driver.Undone (driver:Driver β) (fingerprint:UInt64) (record:RecordPayload) : Prop :=
 driver.sent=[] ∧
  (driver.fingerprint=fingerprint ∧ stageOf driver.record=stageOf record ∨
   driver.running=false ∧ ∃ message,driver.reported=some message ∧ terminalErrorIsAmbiguousAccept message=true)

/-- The new operation is dispatched, also when each frame goes out. -/
structure Driver.Committed (driver:Driver β) (fingerprint:UInt64) : Prop where
 memory : driver.fingerprint=fingerprint
 record : stageOf driver.record=some (fingerprint,.dispatched)
 sent : ∀ frame∈driver.sent,frame.2=(fingerprint,some (fingerprint,.dispatched))

structure Driver.Settled (driver:Driver β) (fingerprint:UInt64) (record:RecordPayload)
  (accepted:Option UInt64) : Prop where
 refused : driver.received≠some (.ok ()) → driver.Undone fingerprint record
 received : driver.received=some (.ok ()) → ∀ next,accepted=some next → driver.Committed next

def AllOrNothing (fingerprint:UInt64) (record:RecordPayload) (cmd:ResumeBatch β) : Prop :=
 ((Driver.before fingerprint record).resumeBatch cmd).Settled fingerprint record cmd.acceptedFingerprint

/-- The calls of the ledger, one after the other on the record of the run. -/
structure Consistent (env:LedgerEnv) (ctxs:Fin 3 → CallContext) (key owner:String)
  (previous next:UInt64) (record:RecordPayload) (cmd:ResumeBatch β) : Prop where
 prepare : Answers env (ctxs 0) (.prepareStageIfOwner key owner previous next) record cmd.prepare
 mark : Answers env (ctxs 1) (.markDispatchedIfOwner key next owner) cmd.prepare.record cmd.markDispatched
 rollback : Answers env (ctxs 2) (.rollbackStageIfOwner key owner next previous) cmd.markDispatched.record cmd.rollback

/-- A failed call of the ledger leaves nothing behind that the arm keeps. -/
structure Recovers (record:RecordPayload) (cmd:ResumeBatch β) : Prop where
 unprepared : ∀ error,cmd.prepare.reply=.error error → stageOf cmd.prepare.record=stageOf record
 rolledBack : cmd.prepare.applied=true →
  ¬(cmd.markDispatched.applied=true ∧ cmd.acknowledged=true) → cmd.rollback.applied=true →
   ∃ fingerprint,stageOf record=some (fingerprint,.dispatched)
 stuck : cmd.prepare.applied=true → cmd.markDispatched.applied=false →
  cmd.rollback.applied=false → stageOf cmd.rollback.record=stageOf record ∨
   terminalErrorIsAmbiguousAccept (notCommittedMessage cmd.markDispatched.reply)=true

def Staged (cmd:ResumeBatch β) : Prop :=
 cmd.started=true ∧ cmd.segmentCount<cmd.maxSegments ∧ (∃ frames,cmd.frames=.ok frames) ∧
  ∃ next,cmd.acceptedFingerprint=some next

theorem submit_kept (driver:Driver β) (cmd:ResumeBatch β) (frames:List β) :
  (driver.submit cmd frames).fingerprint=driver.fingerprint ∧
   (driver.submit cmd frames).record=driver.record ∧
    (driver.submit cmd frames).received=driver.received ∧
     ∀ frame∈(driver.submit cmd frames).sent,frame∈driver.sent ∨
      frame.2=(driver.fingerprint,stageOf driver.record):=by
 have hstamped:∀ (sent:List β),∀ frame ∈
   driver.sent++sent.map fun frame=>(frame,driver.fingerprint,stageOf driver.record),
   frame∈driver.sent ∨ frame.2=(driver.fingerprint,stageOf driver.record):=by
  intro sent frame hmem
  rcases List.mem_append.mp hmem with hold | hnew
  · exact Or.inl hold
  · obtain ⟨first,-,rfl⟩:=List.mem_map.mp hnew
    exact Or.inr rfl
 have htwice:∀ (sent again:List β),∀ frame ∈
   driver.sent++(sent.map fun frame=>(frame,driver.fingerprint,stageOf driver.record)) ++
    again.map fun frame=>(frame,driver.fingerprint,stageOf driver.record),
   frame∈driver.sent ∨ frame.2=(driver.fingerprint,stageOf driver.record):=by
  intro sent again frame hmem
  rw [List.append_assoc,← List.map_append] at hmem
  exact hstamped _ frame hmem
 unfold Driver.submit
 dsimp only
 split
 · exact ⟨rfl,rfl,rfl,fun frame hmem=>Or.inl hmem⟩
 · split
   · exact ⟨rfl,rfl,rfl,hstamped _⟩
   · exact ⟨rfl,rfl,rfl,hstamped _⟩
   · split
     · exact ⟨rfl,rfl,rfl,hstamped _⟩
     · split
       · exact ⟨rfl,rfl,rfl,htwice _ _⟩
       · exact ⟨rfl,rfl,rfl,htwice _ _⟩
       · exact ⟨rfl,rfl,rfl,htwice _ _⟩

def ownerChangedLower : Text := ("cursor durable operation owner changed before tool-result " ++
 "resume; acceptance is ambiguous").toList

def abandonedLower : Text := ("cursor tool-result resume acknowledgement was abandoned and " ++
 "durable rollback failed; completion is ambiguous").toList

theorem ownerChanged_lower : RetryPolicy.toAsciiLowercase ownerChangedMessage=ownerChangedLower:=by
 unfold ownerChangedMessage ownerChangedLower
 rw [String.toList_append,String.toList_append]
 simp -index only [String.toList_ofList]
 decide

theorem ownerChanged_ambiguous : terminalErrorIsAmbiguousAccept ownerChangedMessage=true:=by
 unfold terminalErrorIsAmbiguousAccept terminalErrorAllowsFreshRetry
  liveErrorIsKvBlobOverflowReplayable liveErrorIsKvBlobOverflow kvOverflowAcceptanceIsAmbiguous
  reportsLocalWait RetryPolicy.isIdleNoProgress unreachedMarkers openAcceptanceMarkers conversationResetRetryNote
 rw [ownerChanged_lower]
 unfold ownerChangedMessage ownerChangedLower
 rw [String.toList_append,String.toList_append]
 dsimp only [RetryPolicy.containsAny,List.any_cons,List.any_nil,RetryPolicy.contains]
 simp -index only [String.toList_ofList]
 decide

theorem abandoned_lower : RetryPolicy.toAsciiLowercase abandonedMessage=abandonedLower:=by
 unfold abandonedMessage abandonedLower
 rw [String.toList_append,String.toList_append]
 simp -index only [String.toList_ofList]
 decide

theorem abandoned_ambiguous : terminalErrorIsAmbiguousAccept abandonedMessage=true:=by
 unfold terminalErrorIsAmbiguousAccept terminalErrorAllowsFreshRetry
  liveErrorIsKvBlobOverflowReplayable liveErrorIsKvBlobOverflow kvOverflowAcceptanceIsAmbiguous
  reportsLocalWait RetryPolicy.isIdleNoProgress unreachedMarkers openAcceptanceMarkers conversationResetRetryNote
 rw [abandoned_lower]
 unfold abandonedMessage abandonedLower
 rw [String.toList_append,String.toList_append]
 dsimp only [RetryPolicy.containsAny,List.any_cons,List.any_nil,RetryPolicy.contains]
 simp -index only [String.toList_ofList]
 decide +kernel

variable {cmd:ResumeBatch β} {ctxs:Fin 3 → CallContext} {accepted:Option UInt64}

theorem refuse_received (driver:Driver β) (cmd:ResumeBatch β) (status:ℕ) (message:Text) :
  (driver.refuse cmd status message).received≠some (.ok ()):=by
 unfold Driver.refuse
 dsimp only
 split_ifs
 · intro h
   cases h
 · intro h
   cases h

theorem unreceived : (none:Option (Except Refusal Unit))≠some (.ok ()):=by
 intro h
 cases h

theorem settled_going {driver:Driver β} (hsent:driver.sent=[])
  (hmemory:driver.fingerprint=fingerprint) (hrunning:driver.running=true) (hreceived:driver.received≠some (.ok ())) :
  driver.Settled fingerprint record accepted ↔ stageOf driver.record=stageOf record:=by
 constructor
 · intro h
   rcases (h.refused hreceived).2 with hsame | ⟨hstopped,-⟩
   · exact hsame.2
   · rw [hrunning] at hstopped
     cases hstopped
 · intro hsame
   exact ⟨fun _=>⟨hsent,Or.inl ⟨hmemory,hsame⟩⟩,fun h=>absurd h hreceived⟩

theorem settled_stopped {driver:Driver β} {message:Text} (hsent:driver.sent=[])
  (hmemory:driver.fingerprint=fingerprint) (hreceived:driver.received≠some (.ok ())) :
  (driver.stop message).Settled fingerprint record accepted ↔
   stageOf driver.record=stageOf record ∨ terminalErrorIsAmbiguousAccept message=true:=by
 constructor
 · intro h
   rcases (h.refused hreceived).2 with hsame | ⟨-,reported,hreported,hambiguous⟩
   · exact Or.inl hsame.2
   · obtain rfl:=Option.some.inj hreported
     exact Or.inr hambiguous
 · intro h
   refine ⟨fun _=>⟨hsent,?_⟩,fun hreceived'=>absurd hreceived' hreceived⟩
   rcases h with hsame | hambiguous
   · exact Or.inl ⟨hmemory,hsame⟩
   · exact Or.inr ⟨rfl,message,rfl,hambiguous⟩

theorem rolledBack_iff {next:UInt64} (h:Consistent env ctxs key owner fingerprint next record cmd)
  (hprepare:cmd.prepare.applied=true) (hrollback:cmd.rollback.applied=true) :
  stageOf cmd.rollback.record=stageOf record ↔ ∃ previous,stageOf record=some (previous,.dispatched):=by
 obtain ⟨⟨state,hstate⟩,-⟩:=prepared_stage h.prepare hprepare
 rw [rolledBack_stage h.rollback hrollback,hstate]
 constructor
 · intro hsame
   exact ⟨fingerprint,hsame.symm⟩
 · intro ⟨previous,hprevious⟩
   obtain ⟨-,hdispatched⟩:=Prod.mk.inj (Option.some.inj hprevious)
   rw [hdispatched]

theorem stage_settled {frames:List β} {next:UInt64} (h:Consistent env ctxs key owner fingerprint next record cmd) :
  ((Driver.before fingerprint record).stage cmd frames next).Settled fingerprint record
    (some next) ↔ Recovers record cmd:=by
 unfold Driver.stage
 dsimp only
 cases hprepare:cmd.prepare.reply with
 | error error=>
  have hfailed:cmd.prepare.applied=false:=by rw [LedgerAnswer.applied,hprepare]
  refine (settled_going rfl rfl rfl (refuse_received _ _ _ _)).trans ?_
  constructor
  · intro hsame
    refine ⟨fun _ _=>hsame,fun happlied=>?_,fun happlied=>?_⟩
    · exact absurd (hfailed.symm.trans happlied) (by decide)
    · exact absurd (hfailed.symm.trans happlied) (by decide)
  · intro hrecovers
    exact hrecovers.unprepared error hprepare
 | ok prepared=>
  cases prepared with
  | false=>
   have hfailed:cmd.prepare.applied=false:=by rw [LedgerAnswer.applied,hprepare]
   refine iff_of_true ((settled_stopped rfl rfl (refuse_received _ _ _ _)).mpr
    (Or.inr ownerChanged_ambiguous)) ⟨fun error herror=>?_,fun happlied=>?_,
     fun happlied=>?_⟩
   · rw [hprepare] at herror
     cases herror
   · exact absurd (hfailed.symm.trans happlied) (by decide)
   · exact absurd (hfailed.symm.trans happlied) (by decide)
  | true=>
   have happlied:cmd.prepare.applied=true:=by rw [LedgerAnswer.applied,hprepare]
   have hanswered:∀ error,cmd.prepare.reply=.error error → stageOf cmd.prepare.record=stageOf record:=by
    intro error herror
    rw [hprepare] at herror
    cases herror
   have hstage:=(prepared_stage h.prepare happlied).2
   dsimp only
   cases hmark:cmd.markDispatched.applied with
   | true=>
    rw [if_pos rfl]
    unfold Driver.acknowledge
    cases hack:cmd.acknowledged with
    | true=>
     rw [if_pos rfl]
     have hmarked:=marked_stage h.mark hmark hstage
     refine iff_of_true ⟨fun hreceived=>?_,fun _ other hother=>?_⟩
      ⟨hanswered,fun _ hnot=>?_,fun _ hnot=>?_⟩
     · rw [(submit_kept _ _ _).2.2.1] at hreceived
       exact absurd rfl hreceived
     · obtain rfl:=Option.some.inj hother
       obtain ⟨hmemory,hrecord,-,hsent⟩:=submit_kept (β := β) { (Driver.before
        fingerprint record) with
         fingerprint := next,record := cmd.markDispatched.record
         received := some (.ok ()) } cmd frames
       refine ⟨hmemory,(congrArg stageOf hrecord).trans hmarked,fun frame hframe=>?_⟩
       rcases hsent frame hframe with hold | hnew
       · cases hold
       · rw [hnew,hmarked]
     · exact absurd ⟨hmark,hack⟩ hnot
     · exact absurd (hmark.symm.trans hnot) (by decide)
    | false=>
     rw [if_neg Bool.false_ne_true]
     unfold Driver.abandon
     dsimp only
     cases hrollback:cmd.rollback.applied with
     | true=>
      rw [if_pos rfl]
      refine Iff.trans (settled_going rfl rfl rfl unreceived)
       ((rolledBack_iff h happlied hrollback).trans ⟨fun hdispatched=>?_,
        fun hrecovers=>?_⟩)
      · exact ⟨hanswered,fun _ _ _=>hdispatched,
         fun _ hnot=>absurd (hmark.symm.trans hnot) (by decide)⟩
      · exact hrecovers.rolledBack happlied (fun hboth=>
         absurd (hack.symm.trans hboth.2) (by decide)) hrollback
     | false=>
      rw [if_neg Bool.false_ne_true]
      refine iff_of_true ((settled_stopped rfl rfl unreceived).mpr
       (Or.inr abandoned_ambiguous)) ⟨hanswered,fun _ _ hnot=>?_,fun _ hnot=>?_⟩
      · exact absurd (hrollback.symm.trans hnot) (by decide)
      · exact absurd (hmark.symm.trans hnot) (by decide)
   | false=>
    rw [if_neg Bool.false_ne_true]
    unfold Driver.notDispatched
    dsimp only
    cases hrollback:cmd.rollback.applied with
    | true=>
     rw [if_pos rfl]
     refine (settled_going rfl rfl rfl (refuse_received _ _ _ _)).trans
      ((rolledBack_iff h happlied hrollback).trans ⟨fun hdispatched=>?_,
       fun hrecovers=>?_⟩)
     · exact ⟨hanswered,fun _ _ _=>hdispatched,
        fun _ _ hnot=>absurd (hrollback.symm.trans hnot) (by decide)⟩
     · exact hrecovers.rolledBack happlied (fun hboth=>
        absurd (hmark.symm.trans hboth.1) (by decide)) hrollback
    | false=>
     rw [if_neg Bool.false_ne_true]
     refine (settled_stopped rfl rfl (refuse_received _ _ _ _)).trans ?_
     constructor
     · intro hstuck
       exact ⟨hanswered,fun _ _ hnot=>absurd (hrollback.symm.trans hnot) (by decide),
        fun _ _ _=>hstuck⟩
     · intro hrecovers
       exact hrecovers.stuck happlied hmark hrollback

theorem unstaged_settled (frames:List β) :
  ((Driver.before fingerprint record).acknowledge cmd frames id).Settled fingerprint record none:=by
 unfold Driver.acknowledge
 split_ifs
 · refine ⟨fun hreceived=>?_,fun _ next hnext=>nomatch hnext⟩
   rw [(submit_kept _ _ _).2.2.1] at hreceived
   exact absurd rfl hreceived
 · exact (settled_going rfl rfl rfl unreceived).mpr rfl

theorem allOrNothing_iff (h:∀ next,cmd.acceptedFingerprint=some next →
      Consistent env ctxs key owner fingerprint next record cmd) :
    AllOrNothing fingerprint record cmd ↔ (Staged cmd → Recovers record cmd):=by
  unfold AllOrNothing Driver.resumeBatch
  cases hstarted:cmd.started with
  | false=>
    refine iff_of_true ((settled_going rfl rfl rfl (refuse_received _ _ _ _)).mpr rfl) ?_
    intro hstaged
    exact absurd (hstarted.symm.trans hstaged.1) (by decide)
  | true=>
    rw [Bool.not_true,if_neg Bool.false_ne_true]
    by_cases hlimit:cmd.maxSegments ≤ cmd.segmentCount
    · rw [if_pos hlimit]
      refine iff_of_true ((settled_stopped rfl rfl (refuse_received _ _ _ _)).mpr (Or.inl rfl)) fun hstaged=>?_
      exact absurd hlimit (Nat.not_le_of_lt hstaged.2.1)
    · rw [if_neg hlimit]
      cases hframes:cmd.frames with
      | error error=>
        refine iff_of_true ((settled_going rfl rfl rfl (refuse_received _ _ _ _)).mpr rfl) ?_
        intro hstaged
        obtain ⟨frames,hok⟩:=hstaged.2.2.1
        rw [hframes] at hok
        cases hok
      | ok frames=>
        cases haccepted:cmd.acceptedFingerprint with
        | none=>
          refine iff_of_true (unstaged_settled frames) fun hstaged=>?_
          obtain ⟨next,hnext⟩:=hstaged.2.2.2
          rw [haccepted] at hnext
          cases hnext
        | some next=>
          have hstaged:Staged cmd :=
            ⟨hstarted,Nat.lt_of_not_le hlimit,⟨frames,hframes⟩,next,haccepted⟩
          exact (stage_settled (h next haccepted)).trans ⟨fun hrecovers _=>hrecovers,fun hrecovers=>hrecovers hstaged⟩

def ranOn (fingerprint:UInt64) (state:ActiveState) : RecordPayload :=
 ⟨"session",some ⟨fingerprint,"run","process",state,none,0,86400000⟩,[],0⟩

def stagedAt (mark rollback:LedgerAnswer) (acknowledged:Bool) : ResumeBatch ℕ where
 started := true
 segmentCount := 1
 maxSegments := 8
 frames := .ok [7]
 acceptedFingerprint := some 2
 prepare := ⟨.ok true,ranOn 2 .prepared⟩
 markDispatched := mark
 rollback := rollback
 acknowledged := acknowledged
 drained := true
 send := fun _=>.sent
 cancelled := false
 reconnected := false
 resend := fun _=>.sent

def calm (_:Fin 3) : CallContext := calmContext "process" 0 (Nat.zero_le _)

def dispatchedAnswer : LedgerAnswer := ⟨.ok true,ranOn 2 .dispatched⟩
def rolledBackAnswer : LedgerAnswer := ⟨.ok true,ranOn 1 .dispatched⟩
def failedAnswer : LedgerAnswer := ⟨.error ⟨.other,"disk full"⟩,ranOn 2 .prepared⟩

/-- The request is acknowledged, and its frame goes out. -/
theorem allOrNothing_iff_dispatched :
    AllOrNothing 1 (ranOn 1 .dispatched) (stagedAt dispatchedAnswer rolledBackAnswer true) ∧
      ((Driver.before 1 (ranOn 1 .dispatched)).resumeBatch
        (stagedAt dispatchedAnswer rolledBackAnswer true)).sent = [(7,2,some (2,.dispatched))]:=by
  have hconsistent:∀ next,some (2:UInt64)=some next →
      Consistent defaultEnv calm "session" "run" 1 next (ranOn 1 .dispatched)
        (stagedAt dispatchedAnswer rolledBackAnswer true):=by
    intro next hnext
    obtain rfl:=Option.some.inj hnext
    exact ⟨⟨rfl,by decide +kernel⟩,⟨rfl,by decide +kernel⟩,⟨rfl,by decide +kernel⟩⟩
  refine ⟨(allOrNothing_iff hconsistent).mpr fun _=>?_,rfl⟩
  refine ⟨fun error herror=>?_,fun _ hnot=>absurd ⟨rfl,rfl⟩ hnot,fun _ hnot=>?_⟩
  · cases herror
  · cases hnot

def diskFullLower : Text := ("cursor operation ledger could not commit tool-result dispatch; " ++
 "request was not sent: disk full").toList

theorem diskFull_unambiguous : terminalErrorIsAmbiguousAccept (notCommittedMessage failedAnswer.reply)=false:=by
 have hlower:RetryPolicy.toAsciiLowercase (notCommittedMessage failedAnswer.reply) = diskFullLower:=by
  unfold notCommittedMessage failedAnswer diskFullLower
  rw [String.toList_append]
  simp -index only [String.toList_ofList]
  decide
 unfold terminalErrorIsAmbiguousAccept terminalErrorAllowsFreshRetry
  liveErrorIsKvBlobOverflowReplayable liveErrorIsKvBlobOverflow kvOverflowAcceptanceIsAmbiguous
  reportsLocalWait RetryPolicy.isIdleNoProgress unreachedMarkers openAcceptanceMarkers conversationResetRetryNote
 rw [hlower]
 unfold notCommittedMessage failedAnswer diskFullLower
 rw [String.toList_append]
 dsimp only [RetryPolicy.containsAny,List.any_cons,List.any_nil,RetryPolicy.contains]
 simp -index only [String.toList_ofList]
 decide +kernel

/-- The record stays prepared for an operation that was refused, and the error that stops the
driver does not say so. -/
theorem failed_rollback_unreported :
    Consistent defaultEnv calm "session" "run" 1 2 (ranOn 1 .dispatched) (stagedAt failedAnswer failedAnswer true) ∧
      ¬AllOrNothing 1 (ranOn 1 .dispatched) (stagedAt failedAnswer failedAnswer true):=by
  have hconsistent:Consistent defaultEnv calm "session" "run" 1 2 (ranOn 1 .dispatched)
      (stagedAt failedAnswer failedAnswer true) :=
    ⟨⟨rfl,by decide +kernel⟩,Or.inl rfl,Or.inl rfl⟩
  refine ⟨hconsistent,fun hall=>?_⟩
  have hstage:((Driver.before 1 (ranOn 1 .dispatched)).stage
      (stagedAt failedAnswer failedAnswer true) [7] 2).Settled 1 (ranOn 1 .dispatched) (some 2) :=
    hall
  have hrecovers:=(stage_settled hconsistent).mp hstage
  rcases hrecovers.stuck rfl rfl rfl with hsame | hambiguous
  · exact absurd hsame (by decide)
  · exact absurd (diskFull_unambiguous.symm.trans hambiguous) (by decide)

end CursorProxy.ResumeBatches
