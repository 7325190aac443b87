import CursorProxy.LiveFencing

namespace CursorProxy.TerminalReaders
open XmlElements LiveRunKeys RetryPolicy TerminalErrors LedgerModel LiveRegistry LiveSlots
open LiveEffects LiveFencing

variable {env:LiveEnv} {s u:LiveState} {key message:Text} {handle:ℕ}

/-- The slot, and the calls on the durable record so far. -/
def outcome (s:LiveState) (key:Text) : Option LiveRunEntry×List LedgerOp :=
 (s.runs.get key,s.ledger)

def sealedOutcome (s:LiveState) (key:Text) (handle:ℕ) (message:Text) : Option LiveRunEntry×List LedgerOp :=
 (some (.ambiguous (s.now+liveAmbiguousOpenTtl) (s.handles handle).requestFingerprint),
  s.ledger++[.markAmbiguousIfOwner (String.ofList key) (s.handles handle).requestFingerprint
   (s.handles handle).runId (String.ofList message)])

def clearedOutcome (s:LiveState) (key:Text) (handle:ℕ) : Option LiveRunEntry×List LedgerOp :=
 (none,s.ledger++[.clearIfOwner (String.ofList key) (s.handles handle).requestFingerprint (s.handles handle).runId])

/-- The run in the slot ended with the message, and nobody has read it yet. -/
structure Ended (env:LiveEnv) (s:LiveState) (key:Text) (handle:ℕ) (message:Text) :
  Prop where
 slot : kept env s key=some (.running handle)
 error : (s.handles handle).freshError env s.now=some message

def probed (env:LiveEnv) (s:LiveState) (key:Text) : LiveState := (s.probeRun env key).1

def taken (env:LiveEnv) (s:LiveState) (key:Text) (expected:Option String) : LiveState :=
 (s.takeTerminalErrorMatchingRun env key expected).1

/-- Whether `probe_run` reads the outcome of the handle. -/
def probes (env:LiveEnv) (s:LiveState) (handle:ℕ) : Bool :=
 (s.handles handle).completed||(s.handles handle).commandClosed ||
  (s.handles handle).hasRetryableTerminalError env s.now

def takes (s:LiveState) (handle:ℕ) (expected:Option String) : Bool :=
 (s.handles handle).completed&&expected.all ((s.handles handle).runId == ·)

theorem outcome_settleProbe (hhandle:(u.handles handle).requestFingerprint =
      (s.handles handle).requestFingerprint ∧ (u.handles handle).runId=(s.handles handle).runId)
  (hnow:u.now=s.now) (hledger:u.ledger=s.ledger) :
  outcome (u.settleProbe key handle message).1 key =
   if terminalErrorClearsLiveSlot message then clearedOutcome s key handle
   else if terminalErrorIsAmbiguousAccept message then sealedOutcome s key handle message
   else clearedOutcome s key handle:=by
 have hcleared:outcome ((u.unpublish handle).clearAt key (u.handles handle).requestFingerprint
   (u.handles handle).runId) key=clearedOutcome s key handle:=by
  have hslot:(u.runs.removeKey key).get key=none:=by rw [get_removeKey,if_pos rfl]
  unfold clearedOutcome
  rw [← hhandle.1,← hhandle.2,← hledger,← hslot]
  rfl
 have hsealed:outcome ((u.unpublish handle).sealAt key (u.handles handle).requestFingerprint
   (u.handles handle).runId message) key=sealedOutcome s key handle message:=by
  have hslot:(u.runs.insertKey key (.ambiguous (u.now+liveAmbiguousOpenTtl)
    (u.handles handle).requestFingerprint)).get key=some (.ambiguous
     (u.now+liveAmbiguousOpenTtl) (u.handles handle).requestFingerprint):=by
   rw [get_insertKey,if_pos rfl]
  unfold sealedOutcome
  rw [← hhandle.1,← hhandle.2,← hledger,← hnow,← hslot]
  rfl
 unfold LiveState.settleProbe
 dsimp only
 split_ifs
 · exact hcleared
 · exact hsealed
 · exact hcleared

theorem outcome_pruned (s:LiveState) (key:Text) : outcome (s.pruneFinished env) key=(kept env s key,s.ledger) :=
 congrArg (·,s.ledger) (get_pruneFinished s key)

theorem slot_of_kept {entry:LiveRunEntry} (h:kept env s key=some entry) :
  (s.pruneFinished env).runs.get key=some entry:=by
 rw [get_pruneFinished,h]

theorem outcome_probed (h:Ended env s key handle message) (hprobes:probes env s handle=true) :
  outcome (probed env s key) key = if terminalErrorClearsLiveSlot message then clearedOutcome s key handle
   else if terminalErrorIsAmbiguousAccept message then sealedOutcome s key handle message
   else clearedOutcome s key handle:=by
 unfold probed LiveState.probeRun
 dsimp only
 rw [slot_of_kept h.slot]
 dsimp only
 have hcond:(((s.pruneFinished env).handles handle).completed ||
   ((s.pruneFinished env).handles handle).commandClosed ||
   ((s.pruneFinished env).handles handle).hasRetryableTerminalError env (s.pruneFinished env).now)=true := hprobes
 rw [if_pos hcond]
 have herror:((s.pruneFinished env).handles handle).freshError env (s.pruneFinished env).now=some message := h.error
 cases hretry:((s.pruneFinished env).handles handle).retryableTerminalError env (s.pruneFinished env).now with
 | some error=>
  unfold LiveRunHandle.retryableTerminalError at hretry
  rw [herror] at hretry
  obtain rfl:=Option.some.inj (Option.filter_eq_some_iff.mp hretry).1
  exact outcome_settleProbe ⟨rfl,rfl⟩ rfl rfl
 | none=>
  have htaken:((s.pruneFinished env).takeTerminalError env handle).2=some message:=herror
  dsimp only
  rw [htaken,Option.some_or]
  dsimp only
  refine outcome_settleProbe ?_ rfl rfl
  unfold LiveState.takeTerminalError LiveState.withHandle
  dsimp only
  rw [Function.update_self]
  exact ⟨rfl,rfl⟩

theorem probed_idle (h:Ended env s key handle message) (hprobes:probes env s handle=false) :
  probed env s key=s.pruneFinished env:=by
 unfold probed LiveState.probeRun
 dsimp only
 rw [slot_of_kept h.slot]
 dsimp only
 have hcond:(((s.pruneFinished env).handles handle).completed ||
   ((s.pruneFinished env).handles handle).commandClosed ||
   ((s.pruneFinished env).handles handle).hasRetryableTerminalError env (s.pruneFinished env).now)=false := hprobes
 rw [hcond,if_neg (by decide)]

theorem outcome_taken {expected:Option String} (h:Ended env s key handle message)
  (htakes:takes s handle expected=true) :
  outcome (taken env s key expected) key =
   if terminalErrorIsAmbiguousAccept message then sealedOutcome s key handle message
   else clearedOutcome s key handle:=by
 unfold taken LiveState.takeTerminalErrorMatchingRun
 dsimp only
 rw [slot_of_kept h.slot]
 dsimp only
 have hcond:(((s.pruneFinished env).handles handle).completed &&
   expected.all (((s.pruneFinished env).handles handle).runId == ·))=true := htakes
 have htaken:((s.pruneFinished env).takeTerminalError env handle).2=some message:=h.error
 rw [if_pos hcond,htaken]
 dsimp only
 split_ifs
 · have hslot:=get_insertKey (s.pruneFinished env).runs key
    (.ambiguous (s.now+liveAmbiguousOpenTtl) (s.handles handle).requestFingerprint) key
   rw [if_pos rfl] at hslot
   exact congrArg (·,(sealedOutcome s key handle message).2) hslot
 · have hslot:=get_removeKey (s.pruneFinished env).runs key key
   rw [if_pos rfl] at hslot
   exact congrArg (·,(clearedOutcome s key handle).2) hslot

theorem taken_idle {expected:Option String} (h:Ended env s key handle message)
  (htakes:takes s handle expected=false) : taken env s key expected=s.pruneFinished env:=by
 unfold taken LiveState.takeTerminalErrorMatchingRun
 dsimp only
 rw [slot_of_kept h.slot]
 dsimp only
 have hcond:(((s.pruneFinished env).handles handle).completed &&
   expected.all (((s.pruneFinished env).handles handle).runId == ·))=false := htakes
 rw [hcond,if_neg (by decide)]

theorem outcome_probed_other (h:∀ handle,kept env s key≠some (.running handle)) :
  outcome (probed env s key) key=(kept env s key,s.ledger):=by
 unfold probed LiveState.probeRun
 dsimp only
 rw [get_pruneFinished]
 split
 · exact outcome_pruned s key
 · rename_i handle hslot
   exact absurd hslot (h handle)
 · exact outcome_pruned s key

theorem outcome_taken_other (h:∀ handle,kept env s key≠some (.running handle)) (expected:Option String) :
  outcome (taken env s key expected) key=(kept env s key,s.ledger):=by
 unfold taken LiveState.takeTerminalErrorMatchingRun
 dsimp only
 rw [get_pruneFinished]
 split
 · rename_i handle hslot
   exact absurd hslot (h handle)
 · exact outcome_pruned s key

/-- The slot is vacant or holds a tombstone that has just been written. -/
def Settled (env:LiveEnv) (s:LiveState) (key:Text) : Prop :=
 kept env s key=s.runs.get key ∧ ∀ handle,s.runs.get key≠some (.running handle)

theorem settled_cleared (h:outcome u key=clearedOutcome s key handle) : Settled env u key:=by
 have hslot:u.runs.get key=none:=congrArg Prod.fst h
 unfold Settled kept
 rw [hslot]
 exact ⟨rfl,fun _=>by simp⟩

theorem settled_sealed (h:outcome u key=sealedOutcome s key handle message) (hnow:u.now=s.now) : Settled env u key:=by
 have hslot:u.runs.get key=some (.ambiguous (s.now+liveAmbiguousOpenTtl)
   (s.handles handle).requestFingerprint) := congrArg Prod.fst h
 have hfresh:u.now<s.now+liveAmbiguousOpenTtl:=by
  rw [hnow]
  exact Nat.lt_add_of_pos_right (by decide)
 unfold Settled
 rw [kept_tombstone (.ambiguous _ _) hslot hfresh,hslot]
 exact ⟨rfl,fun _=>by simp⟩

theorem Settled.probed (h:Settled env u key) : outcome (probed env u key) key=outcome u key:=by
 rw [outcome_probed_other (h.1 ▸ h.2),h.1]
 rfl

theorem Settled.taken (h:Settled env u key) (expected:Option String) :
  outcome (taken env u key expected) key=outcome u key:=by
 rw [outcome_taken_other (h.1 ▸ h.2),h.1]
 rfl

theorem Ended.pruned (h:Ended env s key handle message) : Ended env (s.pruneFinished env) key handle message:=by
 refine ⟨?_,h.error⟩
 have hslot:=slot_of_kept h.slot
 have hopen:(s.pruneFinished env).finished env (.running handle)=false:=(kept_some h.slot).2
 unfold kept
 rw [hslot,Option.filter_some,hopen]
 rfl

/-- No message is both an open acceptance and replayable. -/
def VerdictsApart (message:Text) : Prop :=
 ¬(terminalErrorIsAmbiguousAccept message=true ∧ terminalErrorClearsLiveSlot message=true)

/-- Whoever reads the message, and whoever reads it first, leaves the same slot and record. -/
def ReadersAgree (env:LiveEnv) (message:Text) : Prop :=
 ∀ s key handle expected,Ended env s key handle message →
  (takes s handle expected=true → outcome (probed env s key) key=outcome (taken env s key expected) key) ∧
  outcome (taken env (probed env s key) key expected) key = outcome (probed env (taken env s key expected) key) key

def settledOutcome (s:LiveState) (key:Text) (handle:ℕ) (message:Text) : Option LiveRunEntry×List LedgerOp :=
 if terminalErrorIsAmbiguousAccept message then sealedOutcome s key handle message
 else clearedOutcome s key handle

theorem settled_outcome (h:outcome u key=settledOutcome s key handle message)
  (hnow:u.now=s.now) : Settled env u key:=by
 unfold settledOutcome at h
 split_ifs at h
 · exact settled_sealed h hnow
 · exact settled_cleared h

theorem outcome_probed_apart (hapart:VerdictsApart message)
  (h:Ended env s key handle message) (hprobes:probes env s handle=true) :
  outcome (probed env s key) key=settledOutcome s key handle message:=by
 rw [outcome_probed h hprobes]
 unfold settledOutcome
 split_ifs with hclears hambiguous
 · exact absurd ⟨hambiguous,hclears⟩ hapart
 · rfl
 · rfl
 · rfl

theorem readers_agree (hapart:VerdictsApart message) : ReadersAgree env message:=by
 intro s key handle expected hended
 have hprobedNow:(probed env s key).now=s.now:=now_probeRun key
 have htakenNow:(taken env s key expected).now=s.now :=
  now_takeTerminalErrorMatchingRun key expected
 cases htakes:takes s handle expected with
 | true=>
  have hprobes:probes env s handle=true:=by
   have hcompleted:=(Bool.and_eq_true_iff.mp htakes).1
   unfold probes
   rw [hcompleted]
   rfl
  have hprobed:=outcome_probed_apart hapart hended hprobes
  have htaken:_=settledOutcome s key handle message:=outcome_taken hended htakes
  refine ⟨fun _=>hprobed.trans htaken.symm,?_⟩
  rw [(settled_outcome hprobed hprobedNow).taken,(settled_outcome htaken htakenNow).probed,hprobed,htaken]
 | false=>
  refine ⟨fun h=>absurd h (by decide),?_⟩
  rw [taken_idle hended htakes]
  cases hprobes:probes env s handle with
  | true=>
   have hprobed:=outcome_probed_apart hapart hended hprobes
   have hafter:outcome (probed env (s.pruneFinished env) key) key = settledOutcome s key handle message :=
    outcome_probed_apart hapart hended.pruned hprobes
   rw [(settled_outcome hprobed hprobedNow).taken,hprobed,hafter]
  | false=>
   rw [probed_idle hended hprobes,taken_idle hended.pruned htakes,probed_idle hended.pruned hprobes]

def endedRun (message:Text) : LiveState :=
 { runs := LiveRunMap.new.insertKey [] (.running 0),reservations := fun _=>none
   handles := fun _=>⟨"run",7,true,false,false,false,false,some ⟨message,0⟩⟩
   issued := 0,now := 0,ledger := [],published := fun _=>none }

theorem endedRun_ended (hambiguous:terminalErrorIsAmbiguousAccept message=true) :
  Ended env (endedRun message) [] 0 message:=by
 have hfresh:terminalOutcomeIsFresh env 0 ⟨message,0⟩=true:=by
  unfold terminalOutcomeIsFresh
  dsimp only
  rw [if_pos hambiguous]
  exact decide_eq_true (Nat.lt_of_lt_of_le (by decide) (Nat.le_max_right _ _))
 have herror:((endedRun message).handles 0).freshError env (endedRun message).now = some message:=by
  unfold LiveRunHandle.freshError
  change Option.map _ (Option.filter _ (some (TerminalOutcome.mk message 0)))=_
  rw [Option.filter_some]
  change Option.map _ (if terminalOutcomeIsFresh env 0 ⟨message,0⟩=true then _ else _)=_
  rw [if_pos hfresh]
  rfl
 refine ⟨?_,herror⟩
 have hslot:(endedRun message).runs.get []=some (.running 0):=by
  unfold endedRun
  dsimp only
  rw [get_insertKey,if_pos rfl]
 have hopen:(endedRun message).finished env (.running 0)=false:=by
  unfold LiveState.finished LiveRunHandle.hasTerminalError
  dsimp only
  rw [herror]
  exact Bool.and_false _
 unfold kept
 rw [hslot,Option.filter_some,hopen]
 rfl

theorem cleared_ne_sealed : clearedOutcome s key handle≠sealedOutcome s key handle message :=
 fun h=>absurd (congrArg Prod.fst h) (by simp [clearedOutcome,sealedOutcome])

theorem readers_disagree (hambiguous:terminalErrorIsAmbiguousAccept message=true)
  (hclears:terminalErrorClearsLiveSlot message=true) :
  outcome (taken env (probed env (endedRun message) []) [] none) [] = clearedOutcome (endedRun message) [] 0 ∧
   outcome (probed env (taken env (endedRun message) [] none) []) [] =
    sealedOutcome (endedRun message) [] 0 message:=by
 have hended:Ended env (endedRun message) [] 0 message:=endedRun_ended hambiguous
 have hprobed:=outcome_probed hended rfl
 have htakes:takes (endedRun message) 0 none=true:=rfl
 have htaken:=outcome_taken hended htakes
 rw [if_pos hclears] at hprobed
 rw [if_pos hambiguous] at htaken
 have hsealed:Settled env (taken env (endedRun message) [] none) [] :=
  settled_sealed htaken (now_takeTerminalErrorMatchingRun [] none)
 exact ⟨((settled_cleared hprobed).taken none).trans hprobed,hsealed.probed.trans htaken⟩

theorem not_readers_agree (hambiguous:terminalErrorIsAmbiguousAccept message=true)
  (hclears:terminalErrorClearsLiveSlot message=true) : ¬ReadersAgree env message:=by
 intro hagree
 obtain ⟨hfirst,hsecond⟩:=@readers_disagree env message hambiguous hclears
 have hsame:=(hagree _ _ _ none (endedRun_ended hambiguous)).2
 exact cleared_ne_sealed (hfirst.symm.trans (hsame.trans hsecond))

/-- The verdicts overlap on the replayable open acceptances, and elsewhere the readers agree. -/
theorem verdicts_and_readers (env:LiveEnv) (message:Text) :
    (VerdictsApart message ↔ ¬(Accepted message ∧ Replayable message)) ∧
      (¬(Accepted message ∧ Replayable message) → ReadersAgree env message):=by
  have hverdicts:VerdictsApart message ↔ ¬(Accepted message ∧ Replayable message) :=
    not_congr (verdicts_iff message)
  exact ⟨hverdicts,fun hnot=>readers_agree (hverdicts.mpr hnot)⟩

def idleMessage : Text := "idle timeout after 45s with no useful progress".toList

theorem idle_texts : toAsciiLowercase idleMessage=idleMessage ∧
  isIdleNoProgress idleMessage=true ∧ liveErrorIsKvBlobOverflow idleMessage=false:=by
 have hlower:toAsciiLowercase idleMessage=idleMessage:=by
  unfold idleMessage
  simp -index only [String.toList_ofList]
  decide
 refine ⟨hlower,?_⟩
 unfold isIdleNoProgress liveErrorIsKvBlobOverflow containsAny
 rw [hlower]
 unfold idleMessage
 dsimp only [List.any_cons,List.any_nil,contains]
 simp -index only [String.toList_ofList]
 decide

theorem idle_accepted : Accepted idleMessage:=by
 obtain ⟨hlower,hidle,hoverflow⟩:=idle_texts
 refine ⟨?_,?_,fun _=>?_,Or.inl hidle⟩
 · unfold terminalErrorAllowsFreshRetry liveErrorIsKvBlobOverflowReplayable
   rw [hoverflow,Bool.false_and,Bool.or_false]
   unfold contains conversationResetRetryNote idleMessage
   simp -index only [String.toList_ofList]
   decide
 · rw [hlower]
   unfold reportsLocalWait contains idleMessage
   simp -index only [String.toList_ofList]
   decide
 · rw [hlower]
   unfold containsAny unreachedMarkers idleMessage
   dsimp only [List.any_cons,List.any_nil,contains]
   simp -index only [String.toList_ofList]
   decide

theorem nonRetryable_unnamed (h:contains (toAsciiLowercase
      (message.filter fun char=>!isAsciiWhitespace char)) "error_provider_error" = false) :
  isNonRetryableProviderErrorMessage message=false:=by
 unfold isNonRetryableProviderErrorMessage
 dsimp only
 rw [h]
 simp

theorem idle_replayable : Replayable idleMessage:=by
 obtain ⟨hlower,hidle,hoverflow⟩:=idle_texts
 refine ⟨?_,?_,Or.inr ⟨hoverflow,hidle,?_⟩⟩
 · apply nonRetryable_unnamed
   unfold contains idleMessage
   simp -index only [String.toList_ofList]
   decide
 · unfold liveErrorIsUpstreamAlreadyActive containsAny
   rw [hlower]
   unfold idleMessage
   dsimp only [List.any_cons,List.any_nil,contains]
   simp -index only [String.toList_ofList]
   decide
 · rw [hlower]
   unfold containsAny committedMarkers idleMessage
   dsimp only [List.any_cons,List.any_nil,contains]
   simp -index only [String.toList_ofList]
   decide

/-- An idle stream without a marker of commitment gets both verdicts. -/
theorem idle_read_differently : ¬VerdictsApart idleMessage ∧ ¬ReadersAgree plainEnv idleMessage:=by
  obtain ⟨hambiguous,hclears⟩:=(verdicts_iff idleMessage).mpr ⟨idle_accepted,idle_replayable⟩
  exact ⟨fun hapart=>hapart ⟨hambiguous,hclears⟩,not_readers_agree hambiguous hclears⟩

end CursorProxy.TerminalReaders
