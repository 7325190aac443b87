import CursorProxy.TerminalErrors
import CursorProxy.LiveRunKeys

/-! Errors of a batch that may have been accepted carry a marker in front of the diagnostic that
they wrap. What the diagnostic says is read together with the marker. -/
namespace CursorProxy.AcceptanceMarker
open CautiousScan XmlElements RetryPolicy TerminalErrors LiveRunKeys

variable {message:Text}

def liveErrorAllowsFreshConversation (message:Text) : Bool :=
 terminalErrorAllowsFreshRetry message

/-- What `ambiguous_http1_append_error` writes around a message that it wraps. -/
def ambiguousAppendMessage (operation message:Text) : Text :=
 "Cursor BidiAppend ".toList++operation ++ " failed; acceptance is ambiguous: ".toList++message

def partialToolResultSendError (sentFrames totalFrames:ℕ) (message:Text) : Text :=
 "Cursor tool-result batch partially sent (".toList++decimal sentFrames ++ '/' ::
  decimal totalFrames ++ "); acceptance is ambiguous: ".toList++message

def Marked (message:Text) : Prop :=
 contains (toAsciiLowercase message) "acceptance is ambiguous" = true

structure FailsClosed (message:Text) : Prop where
 ambiguous : terminalErrorIsAmbiguousAccept message=true
 notReplayed : liveErrorIsSameRequestRetryable message=false
 notRotated : liveErrorAllowsFreshConversation message=false
 notEmptyTurn : liveErrorIsEmptyTurnRetry message=false

/-- Nothing that stands beside the marker is read before it. -/
structure Unpreceded (message:Text) : Prop where
 noDriverWait : contains (toAsciiLowercase message) "before driver acceptance" = false
 reached : isIdleNoProgress message=true → containsAny (toAsciiLowercase message) unreachedMarkers=false
 noOutage : isTransientProviderErrorMessage message=true → liveErrorIsUpstreamAlreadyActive message=true
 noEmptyTurn : contains message emptyTurnRetryNote=true → isIdleNoProgress message=true

theorem contains_iff (text:Text) (marker:String) : contains text marker=true ↔ marker.toList <:+: text:=by
 unfold contains
 induction text with
 | nil=>
  rw [find]
  cases hmarker:marker.toList with
  | nil=>simp
  | cons char rest=>simp
 | cons char text ih=>
  rw [find,List.infix_cons_iff]
  by_cases hfront:marker.toList.isPrefixOf (char::text)=true
  · rw [if_pos hfront]
    exact iff_of_true rfl (Or.inl (List.isPrefixOf_iff_prefix.mp hfront))
  · rw [if_neg hfront,Option.isSome_map,ih]
    exact (or_iff_right fun h=>hfront (List.isPrefixOf_iff_prefix.mpr h)).symm

theorem contains_part {text:Text} {marker part:String} (h:contains text marker=true)
  (hpart:part.toList <:+: marker.toList) : contains text part=true :=
 (contains_iff text part).mpr (hpart.trans ((contains_iff text marker).mp h))

theorem marked_of_infix {wrapper message:Text} (h:"acceptance is ambiguous".toList <:+: toAsciiLowercase wrapper) :
  Marked (wrapper++message):=by
 apply (contains_iff _ _).mpr
 unfold toAsciiLowercase
 rw [List.map_append]
 exact h.trans (List.infix_append' [] _ _)

theorem toAsciiLowercase_append (text rest:Text) :
  toAsciiLowercase (text++rest)=toAsciiLowercase text++toAsciiLowercase rest :=
 List.map_append

theorem lead_lower : "acceptance is ambiguous".toList <:+:
      toAsciiLowercase " failed; acceptance is ambiguous: ".toList ∧
  "acceptance is ambiguous".toList <:+: toAsciiLowercase "); acceptance is ambiguous: ".toList:=by
 simp -index only [String.toList_ofList]
 decide

theorem ambiguousAppendMessage_marked (operation message:Text) : Marked (ambiguousAppendMessage operation message):=by
 apply marked_of_infix
 rw [toAsciiLowercase_append]
 exact lead_lower.1.trans (List.suffix_append _ _).isInfix

theorem partialToolResultSendError_marked (sentFrames totalFrames:ℕ) (message:Text) :
  Marked (partialToolResultSendError sentFrames totalFrames message):=by
 apply marked_of_infix
 rw [toAsciiLowercase_append]
 exact lead_lower.2.trans (List.suffix_append _ _).isInfix

theorem marked_ambiguous (h:Marked message) : containsAny (toAsciiLowercase message) openAcceptanceMarkers=true:=by
 have hpart:contains (toAsciiLowercase message) "ambiguous" = true:=by
  apply contains_part h
  simp -index only [String.toList_ofList]
  decide
 unfold containsAny openAcceptanceMarkers
 exact List.any_eq_true.mpr ⟨"ambiguous",by simp,hpart⟩

theorem marked_committed (h:Marked message) : containsAny (toAsciiLowercase message) committedMarkers=true:=by
 unfold containsAny committedMarkers
 exact List.any_eq_true.mpr ⟨"acceptance is ambiguous",by simp,h⟩

theorem marked_not_fresh (h:Marked message) : terminalErrorAllowsFreshRetry message=false:=by
 have hkv:kvOverflowAcceptanceIsAmbiguous message=true:=by
  unfold kvOverflowAcceptanceIsAmbiguous containsAny
  exact List.any_eq_true.mpr ⟨"acceptance is ambiguous",by simp,h⟩
 unfold Marked at h
 unfold terminalErrorAllowsFreshRetry liveErrorIsKvBlobOverflowReplayable
 dsimp only
 rw [hkv,h]
 simp

theorem marked_localWait (h:Marked message) : reportsLocalWait (toAsciiLowercase message) =
  contains (toAsciiLowercase message) "before driver acceptance" := by
 unfold Marked at h
 unfold reportsLocalWait
 rw [h]
 simp

theorem marked_accepted_iff (h:Marked message) : Accepted message ↔
  contains (toAsciiLowercase message) "before driver acceptance" = false ∧
   (isIdleNoProgress message=true → containsAny (toAsciiLowercase message) unreachedMarkers=false):=by
 have hwait:=marked_localWait h
 constructor
 · intro haccepted
   exact ⟨hwait ▸ haccepted.noLocalWait,haccepted.reached⟩
 · intro ⟨hdriver,hreached⟩
   exact ⟨marked_not_fresh h,hwait.trans hdriver,hreached,Or.inr (marked_ambiguous h)⟩

theorem marked_replayable_iff (h:Marked message) : Replayable message ↔
  isTransientProviderErrorMessage message=true ∧ liveErrorIsUpstreamAlreadyActive message=false:=by
 constructor
 · intro hreplayable
   refine ⟨hreplayable.outage.resolve_right fun hidle=>?_,hreplayable.noConflict⟩
   have hcommitted:=marked_committed h
   rw [hidle.2.2] at hcommitted
   exact absurd hcommitted (by decide)
 · intro ⟨houtage,hactive⟩
   refine ⟨?_,hactive,Or.inl houtage⟩
   unfold isNonRetryableProviderErrorMessage
   rw [if_pos houtage]

theorem marked_emptyTurn_iff (h:Marked message) : liveErrorIsEmptyTurnRetry message=false ↔
  (contains message emptyTurnRetryNote=true → isIdleNoProgress message=true):=by
 have hcommitted:=marked_committed h
 unfold liveErrorIsEmptyTurnRetry
 cases hidle:isIdleNoProgress message with
 | true=>simp [hcommitted]
 | false=>simp

/-- A marked text fails closed unless the diagnostic beside the marker is read first. -/
theorem failsClosed_iff (h:Marked message) : FailsClosed message ↔ Unpreceded message:=by
  constructor
  · intro hclosed
    have haccepted:=(ambiguous_iff message).mp hclosed.ambiguous
    obtain ⟨hdriver,hreached⟩:=(marked_accepted_iff h).mp haccepted
    refine ⟨hdriver,hreached,fun houtage=>?_,(marked_emptyTurn_iff h).mp hclosed.notEmptyTurn⟩
    cases hactive:liveErrorIsUpstreamAlreadyActive message with
    | true=>rfl
    | false=>
      have hreplayable:=(marked_replayable_iff h).mpr ⟨houtage,hactive⟩
      have hreplayed:=(clears_iff haccepted).mpr hreplayable
      exact absurd (hclosed.notReplayed.symm.trans hreplayed) (by decide)
  · intro hfirst
    have haccepted:=(marked_accepted_iff h).mpr ⟨hfirst.noDriverWait,hfirst.reached⟩
    have hreplayed:¬terminalErrorClearsLiveSlot message=true:=by
      intro hclears
      obtain ⟨houtage,hactive⟩:=(marked_replayable_iff h).mp ((clears_iff haccepted).mp hclears)
      exact absurd (hactive.symm.trans (hfirst.noOutage houtage)) (by decide)
    exact ⟨(ambiguous_iff message).mpr haccepted,Bool.eq_false_iff.mpr hreplayed,
      marked_not_fresh h,(marked_emptyTurn_iff h).mpr hfirst.noEmptyTurn⟩

def connectionReset : Text := partialToolResultSendError 1 2 "connection reset".toList

def resetLower : Text :=
 "cursor tool-result batch partially sent (1/2); acceptance is ambiguous: connection reset".toList

def providerOutage : Text :=
 partialToolResultSendError 1 2 "trouble connecting to the model provider".toList

def outageLower : Text := ("cursor tool-result batch partially sent (1/2); acceptance is " ++
 "ambiguous: trouble connecting to the model provider").toList

theorem decimal_small : decimal 1=['1'] ∧ decimal 2=['2']:=by
 decide

theorem reset_texts : toAsciiLowercase connectionReset=resetLower ∧
  normalizeProviderErrorText connectionReset=resetLower:=by
 have hlower:toAsciiLowercase connectionReset=resetLower:=by
  unfold connectionReset partialToolResultSendError resetLower
  rw [decimal_small.1,decimal_small.2]
  simp -index only [String.toList_ofList]
  decide
 refine ⟨hlower,?_⟩
 unfold normalizeProviderErrorText
 rw [hlower]
 unfold resetLower
 simp -index only [String.toList_ofList]
 decide

theorem outage_texts : toAsciiLowercase providerOutage=outageLower ∧
  normalizeProviderErrorText providerOutage=outageLower:=by
 have hlower:toAsciiLowercase providerOutage=outageLower:=by
  unfold providerOutage partialToolResultSendError outageLower
  rw [decimal_small.1,decimal_small.2,String.toList_append]
  simp -index only [String.toList_ofList]
  decide
 refine ⟨hlower,?_⟩
 unfold normalizeProviderErrorText
 rw [hlower]
 unfold outageLower
 rw [String.toList_append]
 simp -index only [String.toList_ofList]
 decide

theorem reset_unpreceded : Unpreceded connectionReset:=by
 obtain ⟨hlower,hnormal⟩:=reset_texts
 have hverdicts:contains resetLower "before driver acceptance" = false ∧
   containsAny resetLower unreachedMarkers=false ∧
    containsAny resetLower temporaryConnectivityMarkers=false ∧
     contains connectionReset emptyTurnRetryNote=false:=by
  unfold resetLower connectionReset partialToolResultSendError unreachedMarkers
   temporaryConnectivityMarkers emptyTurnRetryNote
  rw [decimal_small.1,decimal_small.2]
  dsimp only [containsAny,List.any_cons,List.any_nil,contains]
  simp -index only [String.toList_ofList]
  decide
 obtain ⟨hdriver,hreached,hconnectivity,hnote⟩:=hverdicts
 refine ⟨hlower ▸ hdriver,fun _=>hlower ▸ hreached,fun houtage=>?_,fun h=>?_⟩
 · unfold isTransientProviderErrorMessage at houtage
   dsimp only at houtage
   rw [hnormal,hconnectivity] at houtage
   simp at houtage
 · exact absurd (hnote.symm.trans h) (by decide)

theorem failsClosed_iff_reset : FailsClosed connectionReset :=
  (failsClosed_iff (partialToolResultSendError_marked 1 2 _)).mpr reset_unpreceded

theorem outage_replayed : liveErrorIsSameRequestRetryable providerOutage=true:=by
 obtain ⟨hlower,hnormal⟩:=outage_texts
 have houtage:isTransientProviderErrorMessage providerOutage=true ∧
   liveErrorIsUpstreamAlreadyActive providerOutage=false:=by
  unfold isTransientProviderErrorMessage liveErrorIsUpstreamAlreadyActive terminalPolicyMarkers
   temporaryConnectivityMarkers
  rw [hlower,hnormal]
  unfold outageLower
  rw [String.toList_append]
  dsimp only [containsAny,List.any_cons,List.any_nil,contains]
  simp -index only [String.toList_ofList]
  decide +kernel
 unfold liveErrorIsSameRequestRetryable isNonRetryableProviderErrorMessage
 rw [houtage.1,houtage.2]
 simp

/-- The batch is replayed although its first frame was sent. -/
theorem outage_not_closed : Marked providerOutage ∧ ¬FailsClosed providerOutage:=by
  refine ⟨partialToolResultSendError_marked 1 2 _,fun hclosed=>?_⟩
  exact absurd (hclosed.notReplayed.symm.trans outage_replayed) (by decide)

end CursorProxy.AcceptanceMarker
