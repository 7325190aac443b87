import CursorProxy.RetryPolicy

/-! How the message of a finished run is read: as an acceptance that stays open, or as a failure
after which the same request may be replayed. -/
namespace CursorProxy.TerminalErrors
open XmlElements RetryPolicy

def conversationResetRetryNote : String :=
 "stale Cursor conversation reset; retry this message to continue"

def emptyTurnRetryNote : String :=
 "Cursor upstream finished this turn without text or tool calls; retry this turn"

def liveErrorIsUpstreamAlreadyActive (message:Text) : Bool :=
 let lower:=toAsciiLowercase message
 containsAny lower ["already active for this session","live run is already active",
  "already-active run","already active run"]&&containsAny lower ["cursor","live run","session","invocation"]

def liveErrorIsKvBlobOverflow (message:Text) : Bool :=
 let lower:=toAsciiLowercase message
 contains lower "kv blob store limit exceeded" ||
  (contains lower "cursor kv blob" && contains lower "limit exceeded") ||
  (contains lower "request too large (413)" && contains lower "blob store" && contains lower "cursor")

def kvOverflowAcceptanceIsAmbiguous (message:Text) : Bool :=
 containsAny (toAsciiLowercase message) ["acceptance is ambiguous","partially sent"]

def liveErrorIsKvBlobOverflowReplayable (message:Text) : Bool :=
 liveErrorIsKvBlobOverflow message&&!kvOverflowAcceptanceIsAmbiguous message

def terminalErrorAllowsFreshRetry (message:Text) : Bool :=
 let lower:=toAsciiLowercase message
 (contains message conversationResetRetryNote&&!contains lower "acceptance is ambiguous" &&
  !contains lower "partially sent")||liveErrorIsKvBlobOverflowReplayable message

/-- The wait ended before anything was accepted. -/
def reportsLocalWait (lower:Text) : Bool :=
 contains lower "before driver acceptance" ||
  (contains lower "request stream send timed out" && !contains lower "acceptance is ambiguous")

def unreachedMarkers : List String :=
 ["connect failed","error sending request for url","connection refused"]

def openAcceptanceMarkers : List String :=
 ["timed out","no progress","ambiguous","had no body","ended before the first byte"]

def terminalErrorIsAmbiguousAccept (message:Text) : Bool :=
 if terminalErrorAllowsFreshRetry message then false
 else
  let lower:=toAsciiLowercase message
  if reportsLocalWait lower then false
  else if isIdleNoProgress message&&containsAny lower unreachedMarkers then false
  else isIdleNoProgress message||containsAny lower openAcceptanceMarkers

/-- The markers that keep an idle run from being replayed. -/
def committedMarkers : List String :=
 ["acceptance is ambiguous","partially sent","upstream transport remained live","completion is ambiguous"]

def liveErrorIsEmptyTurnRetry (message:Text) : Bool :=
 if isIdleNoProgress message then !containsAny (toAsciiLowercase message) committedMarkers
 else contains message emptyTurnRetryNote

def cursorConnectErrorIsMissingConversationData (message:Text) : Bool :=
 containsAny (toAsciiLowercase message) ["conversation data missing",
  "conversation's data is missing","conversation’s data is missing"]

def cursorConnectErrorIsMissingImage (message:Text) : Bool :=
 containsAny (toAsciiLowercase message) ["image not found","imagenotfound"]

def isTransientStepFailure (message:Text) : Bool :=
 let lower:=toAsciiLowercase message
 contains lower "failed to run step" && contains lower "exceeded max retries" &&
  containsAny lower ["[internal]","connect error 502","cursor error 502"] &&
  !isBillingBlock message&&!isCapacityShed message&&!isPolicyRateLimit message

def liveErrorIsResourceExhausted (message:Text) : Bool :=
 containsAny (toAsciiLowercase message) ["[resource_exhausted]","error_resource_exhausted",
  "connect error 429","cursor error 429"]

def isCancelledMessage (message:Text) : Bool :=
 toAsciiLowercase (trim message)==toAsciiLowercase "Cursor live run cancelled".toList

def liveErrorIsSameRequestRetryable (message:Text) : Bool :=
 let lower:=toAsciiLowercase message
 let classified:=classifyProxyErrorStatus 502 message
 if isNonRetryableProviderErrorMessage message then false
 else if liveErrorIsUpstreamAlreadyActive message then false
 else if isTransientProviderErrorMessage message then true
 else if liveErrorIsKvBlobOverflow message then liveErrorIsKvBlobOverflowReplayable message
 else if isIdleNoProgress message then
  if containsAny lower committedMarkers then false else true
 else if terminalErrorIsAmbiguousAccept message then false
 else if isBillingBlock message||isCapacityShed message||isPolicyRateLimit message then false
 else if liveErrorIsEmptyTurnRetry message then true
 else if isCancelledMessage message then true
 else if cursorConnectErrorIsMissingConversationData message ||
  terminalErrorAllowsFreshRetry message then true
 else if cursorConnectErrorIsMissingImage message then true
 else if (decide (400 ≤ classified)&&decide (classified<500)) &&
  !isUpstreamRateLimit message then false
 else if isTransientStepFailure message then true
 else if containsAny lower ["outdated_client","outdated client"] then false
 else liveErrorIsResourceExhausted message||containsAny lower ["connect error 502",
  "connect error 503","connect error 504","unable to reach the model provider"]

def terminalErrorClearsLiveSlot (message:Text) : Bool := liveErrorIsSameRequestRetryable message

structure Accepted (message:Text) : Prop where
 noReset : terminalErrorAllowsFreshRetry message=false
 noLocalWait : reportsLocalWait (toAsciiLowercase message)=false
 reached : isIdleNoProgress message=true → containsAny (toAsciiLowercase message) unreachedMarkers=false
 stalled : isIdleNoProgress message=true ∨ containsAny (toAsciiLowercase message) openAcceptanceMarkers=true

/-- What makes such a message replayable: no account or session conflict, and either a provider
outage or an idle stream without a marker of commitment. -/
structure Replayable (message:Text) : Prop where
 noAccountError : isNonRetryableProviderErrorMessage message=false
 noConflict : liveErrorIsUpstreamAlreadyActive message=false
 outage : isTransientProviderErrorMessage message=true ∨
  liveErrorIsKvBlobOverflow message=false ∧ isIdleNoProgress message=true ∧
   containsAny (toAsciiLowercase message) committedMarkers=false

theorem ambiguous_iff (message:Text) : terminalErrorIsAmbiguousAccept message=true ↔ Accepted message:=by
 unfold terminalErrorIsAmbiguousAccept
 cases hreset:terminalErrorAllowsFreshRetry message with
 | true=>
  refine ⟨fun h=>absurd h (by simp),fun h=>?_⟩
  rw [h.noReset] at hreset
  exact absurd hreset (by decide)
 | false=>
  cases hwait:reportsLocalWait (toAsciiLowercase message) with
  | true=>
   refine ⟨fun h=>absurd h (by simp [hwait]),fun h=>?_⟩
   rw [h.noLocalWait] at hwait
   exact absurd hwait (by decide)
  | false=>
   cases hidle:isIdleNoProgress message with
   | false=>
    simp only [hwait,Bool.false_and,Bool.false_or,Bool.false_eq_true,if_false]
    refine ⟨fun h=>⟨hreset,hwait,fun hi=>?_,Or.inr h⟩,fun h=>?_⟩
    · rw [hidle] at hi
      exact absurd hi (by decide)
    · exact h.stalled.resolve_left (by rw [hidle]; decide)
   | true=>
    simp only [hwait,Bool.true_and,Bool.true_or,Bool.false_eq_true,if_false]
    cases hreached:containsAny (toAsciiLowercase message) unreachedMarkers with
    | true=>
     refine ⟨fun h=>absurd h (by simp),fun h=>?_⟩
     rw [h.reached hidle] at hreached
     exact absurd hreached (by decide)
    | false=>
     refine ⟨fun _=>⟨hreset,hwait,fun _=>hreached,Or.inl hidle⟩,fun _=>?_⟩
     rfl

theorem clears_iff {message:Text} (haccepted:Accepted message) :
 terminalErrorClearsLiveSlot message=true ↔ Replayable message:=by
 have hambiguous:=(ambiguous_iff message).mpr haccepted
 unfold terminalErrorClearsLiveSlot liveErrorIsSameRequestRetryable
 cases haccount:isNonRetryableProviderErrorMessage message with
 | true=>
  refine ⟨fun h=>absurd h (by simp),fun h=>?_⟩
  rw [h.noAccountError] at haccount
  exact absurd haccount (by decide)
 | false=>
  cases hactive:liveErrorIsUpstreamAlreadyActive message with
  | true=>
   refine ⟨fun h=>absurd h (by simp),fun h=>?_⟩
   rw [h.noConflict] at hactive
   exact absurd hactive (by decide)
  | false=>
   cases htransient:isTransientProviderErrorMessage message with
   | true=>
    refine ⟨fun _=>⟨haccount,hactive,Or.inl htransient⟩,fun _=>?_⟩
    simp
   | false=>
    cases hkv:liveErrorIsKvBlobOverflow message with
    | true=>
     have hreplayable:liveErrorIsKvBlobOverflowReplayable message=false:=by
      have hreset:=haccepted.noReset
      unfold terminalErrorAllowsFreshRetry at hreset
      exact (Bool.or_eq_false_iff.mp hreset).2
     refine ⟨fun h=>absurd h (by simp [hreplayable]),fun h=>?_⟩
     rcases h.outage with hout | hout
     · rw [htransient] at hout
       exact absurd hout (by decide)
     · rw [hkv] at hout
       exact absurd hout.1 (by decide)
    | false=>
     cases hidle:isIdleNoProgress message with
     | false=>
      refine ⟨fun h=>absurd h (by simp [hambiguous]),fun h=>?_⟩
      rcases h.outage with hout | hout
      · rw [htransient] at hout
        exact absurd hout (by decide)
      · rw [hidle] at hout
        exact absurd hout.2.1 (by decide)
     | true=>
      cases hcommitted:containsAny (toAsciiLowercase message) committedMarkers with
      | true=>
       refine ⟨fun h=>absurd h (by simp [hcommitted]),fun h=>?_⟩
       rcases h.outage with hout | hout
       · rw [htransient] at hout
         exact absurd hout (by decide)
       · rw [hcommitted] at hout
         exact absurd hout.2.2 (by decide)
      | false=>
       refine ⟨fun _=>⟨haccount,hactive,Or.inr ⟨hkv,hidle,hcommitted⟩⟩,fun _=>?_⟩
       simp [hcommitted]

theorem verdicts_iff (message:Text) : terminalErrorIsAmbiguousAccept message=true ∧
 terminalErrorClearsLiveSlot message=true ↔ Accepted message ∧ Replayable message:=by
 rw [ambiguous_iff]
 exact and_congr_right clears_iff

end CursorProxy.TerminalErrors
