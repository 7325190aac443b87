import CursorProxy.XmlElements

/-! The classifiers of upstream diagnostics. A message is the list of its characters; places are
counted in characters, which lower-casing leaves where they are. -/
namespace CursorProxy.RetryPolicy
open CautiousScan XmlElements

def contains (text:Text) (marker:String) : Bool := (find marker.toList text).isSome

def containsAny (text:Text) (markers:List String) : Bool := markers.any (contains text)

def toAsciiLowercase (text:Text) : Text := text.map Char.toLower

def isAsciiWhitespace (char:Char) : Bool :=
 char == ' ' || char == '\t' || char == '\n' || char==Char.ofNat 12||char == '\r'

/-- Where the word ends in the text, each time it is found behind the last one. -/
def endsFrom (word text:Text) : ℕ → ℕ → List ℕ
 | 0,_=>[]
 | fuel+1,offset=>match find word (text.drop offset) with
  | none=>[]
  | some relative=>
   let stop:=offset+relative+word.length
   stop::endsFrom word text fuel stop

def ends (word:String) (text:Text) : List ℕ :=
 endsFrom word.toList text (text.length+1) 0

def leadingDigits (text:Text) : Text := text.takeWhile Char.isDigit

def statusWithin (low high:ℕ) (digits:Text) : Option ℕ :=
 let status:=Nat.ofDigitChars 10 digits 0
 if digits.length==3&&decide (low ≤ status)&&decide (status<high) then some status
 else none

def joinWords (text:Text) : Text :=
 [' '].intercalate ((text.splitOnP isWhitespace).filter fun word=>!word.isEmpty)

def normalizeProviderErrorText (message:Text) : Text :=
 let blank:=fun pattern : String=>replace pattern.toList [' '] 0
 joinWords (blank "\\t" (blank "\\n" (blank "\\r" (toAsciiLowercase message))))

def terminalPolicyMarkers : List String :=
 ["out of usage","usage exhausted","usage has been exhausted","usage limit","usage-limit",
  "quota","rate limit exceeded","rate_limited","rate-limit exceeded","resource exhausted by",
  "unpaid invoice","pay your invoice","billing","entitlement","free plans","upgrade plan",
  "increase limits","switch to auto","high load","high demand"]

def temporaryConnectivityMarkers : List String :=
 ["provider unavailable","provider is unavailable","provider temporarily unavailable",
  "temporarily unavailable","temporary provider","temporary trouble connecting",
  "having trouble connecting to the model provider",
  "trouble connecting to the model provider","trouble connecting with the model provider",
  "trouble connecting to provider","unable to reach the model provider",
  "unable to connect to the model provider","upstream connection failed",
  "upstream connection reset","upstream connection closed","upstream connection unavailable",
  "upstream connection","connection to the model provider","provider connection",
  "temporary outage","temporarily unable to reach","try again in a moment","try again later",
  "might be temporary","may be temporary"]

def isTransientProviderErrorMessage (message:Text) : Bool :=
 let lower:=normalizeProviderErrorText message
 let providerMarker:=containsAny lower ["error_provider_error",
  "providererrorcode=error_provider_error","providererrorcode\":\"error_provider_error",
  "provider_error_code=error_provider_error"]
 if containsAny lower terminalPolicyMarkers then false
 else if !containsAny lower temporaryConnectivityMarkers then false
 else providerMarker||containsAny lower ["having trouble connecting to the model provider",
  "trouble connecting to the model provider","trouble connecting with the model provider"]

def isDiagnosticPunctuation (char:Char) : Bool :=
 char==quote||char==apostrophe||char == ':' || char == '=' || char == ','

def providerStatusIsNonRetryable4xx (compactLower:Text) : Bool :=
 let tailAt:=fun stop=>(compactLower.drop stop).dropWhile isDiagnosticPunctuation
 let retryableFalse:=["isretryable","is_retryable"].any fun key=>
  (ends key compactLower).any fun stop=>
   let tail:=tailAt stop
   "false".toList.isPrefixOf tail&&!(tail[5]?.any fun char=>char.isAlphanum||char == '_')
 retryableFalse&&["providerstatuscode","provider_status_code"].any fun key=>
  (ends key compactLower).any fun stop=>
   (statusWithin 400 500 (leadingDigits (tailAt stop))).isSome

def isNonRetryableProviderErrorMessage (message:Text) : Bool :=
 if isTransientProviderErrorMessage message then false
 else
  let compact:=toAsciiLowercase (message.filter fun char=>!isAsciiWhitespace char)
  let notRetryable:=containsAny compact ["isretryable\":false","is_retryable\":false",
   "isretryable=false","is_retryable=false"]
  let marker:=(find "providerstatuscode".toList compact).or
   (find "provider_status_code".toList compact)
  let statusIs4xx:=marker.any fun place=>
   let digits:=leadingDigits ((compact.drop place).dropWhile fun char=>!char.isDigit)
   (statusWithin 400 500 digits).isSome
  if contains compact "error_provider_error" && notRetryable&&statusIs4xx then true
  else contains compact "error_provider_error" &&
   containsAny compact ["providerstatuscode\":\"400\"","providerstatuscode\":400",
    "provider_status_code\":\"400\"","provider_status_code\":400","providerstatuscode=400",
    "provider_status_code=400"]&&notRetryable

def shouldRetryStatus (status:ℕ) : Bool :=
 status==429||status==500||status==502||status==503||status==504

def isBillingBlock (message:Text) : Bool :=
 let lower:=toAsciiLowercase message
 contains lower "unpaid invoice" || contains lower "pay your invoice" ||
  (contains lower "error_rate_limited" && contains lower "invoice")

def isProviderResourceExhausted (message:Text) : Bool :=
 if isTransientProviderErrorMessage message then false
 else
  let lower:=toAsciiLowercase message
  if !(contains lower "resource_exhausted" || contains lower "resource exhausted") then false
  else
   let compact:=lower.filter fun char=>!isAsciiWhitespace char
   let providerError :=
    contains compact "error_provider_error" || contains compact "providererror"
   if !providerError||!providerStatusIsNonRetryable4xx compact then false else true

def isCapacityShed (message:Text) : Bool :=
 let lower:=toAsciiLowercase message
 (contains lower "high load" || contains lower "high demand") &&
  containsAny lower ["switch to","another model","try again in a few"]

def isGrokBotVisionQuota (message:Text) : Bool :=
 let lower:=toAsciiLowercase message
 let current:=!contains lower "update required" &&
  !contains lower "version of cursor is no longer supported"
 if containsAny lower ["sand_included_limit","sand-included-limit","sand included limit"] &&
   current then true
 else if contains lower "grok bot usage limit" &&
   containsAny lower ["reached","out of usage","included"]&&current then true
 else contains lower "error_gpt_4_vision_preview_rate_limit" &&
  containsAny lower ["out of usage","grok bot","paid plan"]&&current

def isPolicyRateLimit (message:Text) : Bool :=
 if isBillingBlock message then true
 else if isTransientProviderErrorMessage message then false
 else
  let lower:=toAsciiLowercase message
  if isGrokBotVisionQuota lower then true
  else isProviderResourceExhausted message||contains lower "error_rate_limited_changeable" ||
   contains lower "user_rate_limit_exceeded" || contains lower "api_rate_limit_exceeded" ||
   (contains lower "error_rate_limited" && containsAny lower ["free plans","upgrade plans",
    "increase limits","out of usage","switch to auto"])

def isUpstreamRateLimit (message:Text) : Bool :=
 let lower:=toAsciiLowercase message
 if isBillingBlock message then true
 else if isTransientProviderErrorMessage message then false
 else isProviderResourceExhausted message||containsAny lower ["[resource_exhausted]",
  "error_rate_limited","error_resource_exhausted","connect error 429","cursor error 429"]

def isGeoPolicyBlock (message:Text) : Bool :=
 let lower:=toAsciiLowercase message
 let place:=containsAny lower ["country","region","territor"] ||
  containsAny message ["国家","区域","地区"]
 if !place then false
 else containsAny lower ["not available","unsupported","not supported","restricted",
  "blocked"]||contains message "不支持"

def embeddedConnectHttpStatus (message:Text) : Option ℕ :=
 let normalized:=toAsciiLowercase message
 ["connect error ","cursor error ","cursor upstream http ","cursor runsse http ",
  "request too large (","payload too large ("].findSome? fun label=>
   (ends label normalized).findSome? fun stop=>
    statusWithin 400 600 (leadingDigits (message.drop stop))

def isLocalAdmissionBackpressure (message:Text) : Bool :=
 containsAny (toAsciiLowercase message) ["sand accepted-stream admission",
  "sand stream capacity is unavailable","sand open admission queue timed out",
  "sand inference open admission deadline exhausted","cursor live generation admission queue timed out",
  "cursor live run admission queue timed out","already active for this session"]

def isIdleNoProgress (message:Text) : Bool :=
 let lower:=toAsciiLowercase message
 if !containsAny lower ["idle timeout","stream idle","setup idle","idle stall"] then false
 else containsAny lower ["no useful progress","no chunks received","no response bytes",
  "0 response bytes","no decodable text","no text yet","without text or tool calls","without useful output"]

def isAmbiguousLiveAccept (message:Text) : Bool :=
 let lower:=toAsciiLowercase message
 if contains lower "tool-result batch partially sent" ||
   contains lower "tool result batch partially sent" then true
 else if contains lower "connect failed" then false
 else if contains lower "error sending request for url" && !contains lower "connection reset" &&
   !contains lower "connection closed" then false
 else isIdleNoProgress message||containsAny lower ["live open timed out",
  "response-less resumeaction","acceptance is ambiguous","completion is ambiguous",
  "resume produced no progress","stream produced no useful progress",
  "tool result wait expired"]

def permissionMarkers : List String :=
 ["[permission_denied]","connect error 403","cursor error 403"]

def authenticationMarkers : List String :=
 ["[unauthenticated]","connect error 401","cursor error 401"]

def absenceMarkers : List String := ["[not_found]","connect error 404"]

def argumentMarkers : List String :=
 ["[invalid_argument]","[failed_precondition]","connect error 400","cursor error 400"]

def classifyProxyErrorStatus (status:ℕ) (message:Text) : ℕ :=
 if isAmbiguousLiveAccept message then 409
 else if isLocalAdmissionBackpressure message then 503
 else if isTransientProviderErrorMessage message then 503
 else if isUpstreamRateLimit message||status==429 then 429
 else
  let lower:=toAsciiLowercase message
  if isGeoPolicyBlock message||containsAny lower permissionMarkers then 403
  else if containsAny lower authenticationMarkers then 401
  else if containsAny lower absenceMarkers then 404
  else if containsAny lower argumentMarkers then 400
  else match embeddedConnectHttpStatus message with
   | some embedded=>if 400 ≤ embedded ∧ embedded<500 then embedded else status
   | none=>status

def shouldRetryUpstream (status:ℕ) (message:Text) : Bool :=
 shouldRetryStatus (classifyProxyErrorStatus status message)&&!isBillingBlock message &&
  !isCapacityShed message&&!isPolicyRateLimit message&&!isNonRetryableProviderErrorMessage message

def anthropicErrorKindForStatus (status:ℕ) (message:Text) : String :=
 let classified:=classifyProxyErrorStatus status message
 if classified=429 then "rate_limit_error"
 else if classified=401 then "authentication_error"
 else if classified=403 then "permission_error"
 else if classified=404 then "not_found_error"
 else if classified=400 ∨ classified=409 then "invalid_request_error"
 else if 400 ≤ classified ∧ classified<500 then "invalid_request_error"
 else "api_error"

theorem toLower_isAlpha : ∀ code<91,65 ≤ code → (Char.ofNat code).toLower.isAlpha=true:=by
 decide

theorem toLower_cases (char:Char) : char.toLower=char ∨ char.isAlpha=true ∧ char.toLower.isAlpha=true:=by
 by_cases hupper:char.val ≥ 'A'.val ∧ char.val ≤ 'Z'.val
 · have hlow:65 ≤ char.toNat:=UInt32.le_iff_toNat_le.mp hupper.1
   have hhigh:char.toNat ≤ 90:=UInt32.le_iff_toNat_le.mp hupper.2
   have halpha:=toLower_isAlpha char.toNat (Nat.lt_succ_of_le hhigh) hlow
   rw [Char.ofNat_toNat] at halpha
   refine Or.inr ⟨?_,halpha⟩
   unfold Char.isAlpha Char.isUpper
   rw [decide_eq_true hupper,Bool.true_or]
 · exact Or.inl (dif_neg hupper)

theorem toLower_eq_iff {char mark:Char} (hmark:mark.isAlpha=false) : char.toLower=mark ↔ char=mark:=by
 rcases toLower_cases char with hsame | ⟨hletter,hlower⟩
 · rw [hsame]
 · refine iff_of_false ?_ ?_
   · rintro rfl
     exact absurd (hmark.symm.trans hlower) (by decide)
   · rintro rfl
     exact absurd (hmark.symm.trans hletter) (by decide)

theorem shouldRetryUpstream_policy {message:Text} (h:isPolicyRateLimit message=true)
  (status:ℕ) : shouldRetryUpstream status message=false:=by
 unfold shouldRetryUpstream
 rw [h,Bool.not_true,Bool.and_false,Bool.false_and]

/-- No marker of another refusal stands before the status that the message embeds. -/
def OtherwiseUnmarked (message:Text) : Prop :=
 isGeoPolicyBlock message=false ∧ containsAny (toAsciiLowercase message)
  (permissionMarkers++authenticationMarkers++absenceMarkers++argumentMarkers)=false

/-- The message is known for an upstream rate limit, or embeds the status of one. -/
def ShowsRateLimit (message:Text) : Prop :=
 isTransientProviderErrorMessage message=false ∧ (isUpstreamRateLimit message=true ∨
  OtherwiseUnmarked message ∧ embeddedConnectHttpStatus message=some 429)

theorem containsAny_append (text:Text) (markers others:List String) :
  containsAny text (markers++others)=(containsAny text markers||containsAny text others) :=
 List.any_append

section
variable {message:Text} (haccept:isAmbiguousLiveAccept message=false)
 (hlocal:isLocalAdmissionBackpressure message=false)
include haccept hlocal

theorem classify_transient (h:isTransientProviderErrorMessage message=true) (status:ℕ) :
  classifyProxyErrorStatus status message=503:=by
 unfold classifyProxyErrorStatus
 rw [if_neg (Bool.eq_false_iff.mp haccept),if_neg (Bool.eq_false_iff.mp hlocal),if_pos h]

theorem classify_upstream (htransient:isTransientProviderErrorMessage message=false)
  (h:isUpstreamRateLimit message=true) (status:ℕ) : classifyProxyErrorStatus status message=429:=by
 unfold classifyProxyErrorStatus
 rw [if_neg (Bool.eq_false_iff.mp haccept),if_neg (Bool.eq_false_iff.mp hlocal),
  if_neg (Bool.eq_false_iff.mp htransient),h,Bool.true_or,if_pos rfl]

theorem classify_other (htransient:isTransientProviderErrorMessage message=false)
  (h:isUpstreamRateLimit message=false) {status:ℕ} (hstatus:status≠429) :
  classifyProxyErrorStatus status message=429 ↔
   OtherwiseUnmarked message ∧ embeddedConnectHttpStatus message=some 429:=by
 have hlimit:¬(isUpstreamRateLimit message||status==429)=true:=by
  rw [h,Bool.false_or,beq_iff_eq]
  exact hstatus
 unfold classifyProxyErrorStatus OtherwiseUnmarked
 rw [if_neg (Bool.eq_false_iff.mp haccept),if_neg (Bool.eq_false_iff.mp hlocal),
  if_neg (Bool.eq_false_iff.mp htransient),if_neg hlimit]
 simp only [containsAny_append,Bool.or_eq_false_iff]
 cases hgeo:isGeoPolicyBlock message with
 | true=>simp
 | false=>
  cases hpermission:containsAny (toAsciiLowercase message) permissionMarkers with
  | true=>simp
  | false=>
   cases hauthentication:containsAny (toAsciiLowercase message) authenticationMarkers with
   | true=>simp
   | false=>
    cases habsence:containsAny (toAsciiLowercase message) absenceMarkers with
    | true=>simp
    | false=>
     cases hargument:containsAny (toAsciiLowercase message) argumentMarkers with
     | true=>simp
     | false=>
      cases hembedded:embeddedConnectHttpStatus message with
      | none=>simpa using hstatus
      | some embedded=>
       by_cases hclient:400 ≤ embedded ∧ embedded<500
       · simp [hclient]
       · simp only [hclient,if_false,Bool.or_self,Bool.false_eq_true,and_self,true_and,Option.some.injEq]
         constructor
         · intro hsame
           exact absurd hsame hstatus
         · intro hsame
           omega

end

/-- An account limit reaches the client as a rate limit, whatever the incoming status, exactly
when the message shows one in a form that the status classifier knows. -/
theorem policy_limit_is_429 {message:Text} (hpolicy:isPolicyRateLimit message=true)
    (haccept:isAmbiguousLiveAccept message=false) (hlocal:isLocalAdmissionBackpressure message=false) :
    (∀ status,classifyProxyErrorStatus status message=429 ∧
      shouldRetryUpstream status message=false) ↔ ShowsRateLimit message:=by
  constructor
  · intro hall
    have hclass:=(hall 0).1
    cases htransient:isTransientProviderErrorMessage message with
    | true=>
      rw [classify_transient haccept hlocal htransient] at hclass
      exact absurd hclass (by decide)
    | false=>
      refine ⟨htransient,?_⟩
      cases hupstream:isUpstreamRateLimit message with
      | true=>exact Or.inl rfl
      | false=>
        exact Or.inr ((classify_other haccept hlocal htransient hupstream (by decide)).mp hclass)
  · rintro ⟨htransient,hshown⟩ status
    refine ⟨?_,shouldRetryUpstream_policy hpolicy status⟩
    cases hupstream:isUpstreamRateLimit message with
    | true=>exact classify_upstream haccept hlocal htransient hupstream status
    | false=>
      rw [hupstream] at hshown
      have hembedded:=hshown.resolve_left (by decide)
      by_cases hstatus:status=429
      · unfold classifyProxyErrorStatus
        rw [if_neg (Bool.eq_false_iff.mp haccept),if_neg (Bool.eq_false_iff.mp hlocal),
          if_neg (Bool.eq_false_iff.mp htransient),hstatus,if_pos (by simp)]
      · exact (classify_other haccept hlocal htransient hupstream hstatus).mpr hembedded

def invoiceMessage : Text := "unpaid invoice".toList

theorem invoice_texts : toAsciiLowercase invoiceMessage=invoiceMessage ∧
  normalizeProviderErrorText invoiceMessage=invoiceMessage:=by
 have hlower:toAsciiLowercase invoiceMessage=invoiceMessage:=by
  unfold invoiceMessage
  simp -index only [String.toList_ofList]
  decide
 refine ⟨hlower,?_⟩
 unfold normalizeProviderErrorText
 rw [hlower]
 unfold invoiceMessage
 simp -index only [String.toList_ofList]
 decide

theorem invoice_verdicts : isBillingBlock invoiceMessage=true ∧
  isTransientProviderErrorMessage invoiceMessage=false ∧
   isAmbiguousLiveAccept invoiceMessage=false ∧ isLocalAdmissionBackpressure invoiceMessage=false:=by
 obtain ⟨hlower,hnormal⟩:=invoice_texts
 unfold isBillingBlock isTransientProviderErrorMessage terminalPolicyMarkers isAmbiguousLiveAccept
  isIdleNoProgress isLocalAdmissionBackpressure
 dsimp only
 rw [hlower,hnormal]
 unfold invoiceMessage
 dsimp only [containsAny,List.any_cons,List.any_nil,contains]
 simp -index only [String.toList_ofList]
 decide

theorem invoice_is_429 : classifyProxyErrorStatus 502 invoiceMessage=429 ∧
    shouldRetryUpstream 502 invoiceMessage=false:=by
  obtain ⟨hbilling,htransient,haccept,hlocal⟩:=invoice_verdicts
  have hpolicy:isPolicyRateLimit invoiceMessage=true:=by
    unfold isPolicyRateLimit
    rw [if_pos hbilling]
  have hupstream:isUpstreamRateLimit invoiceMessage=true:=by
    unfold isUpstreamRateLimit
    rw [if_pos hbilling]
  exact (policy_limit_is_429 hpolicy haccept hlocal).mpr ⟨htransient,Or.inl hupstream⟩ 502

def proQuotaMessage : Text := "ERROR_PRO_USER_RATE_LIMIT_EXCEEDED".toList
def proQuotaLower : Text := "error_pro_user_rate_limit_exceeded".toList

theorem proQuota_texts : toAsciiLowercase proQuotaMessage=proQuotaLower ∧
  normalizeProviderErrorText proQuotaMessage=proQuotaLower:=by
 have hlower:toAsciiLowercase proQuotaMessage=proQuotaLower:=by
  unfold proQuotaMessage proQuotaLower
  simp -index only [String.toList_ofList]
  decide
 refine ⟨hlower,?_⟩
 unfold normalizeProviderErrorText
 rw [hlower]
 unfold proQuotaLower
 simp -index only [String.toList_ofList]
 decide

theorem proQuota_verdicts : isBillingBlock proQuotaMessage=false ∧
  isTransientProviderErrorMessage proQuotaMessage=false ∧
   isAmbiguousLiveAccept proQuotaMessage=false ∧ isLocalAdmissionBackpressure proQuotaMessage=false:=by
 obtain ⟨hlower,hnormal⟩:=proQuota_texts
 unfold isBillingBlock isTransientProviderErrorMessage terminalPolicyMarkers
  temporaryConnectivityMarkers isAmbiguousLiveAccept isIdleNoProgress isLocalAdmissionBackpressure
 dsimp only
 rw [hlower,hnormal]
 unfold proQuotaLower
 dsimp only [containsAny,List.any_cons,List.any_nil,contains]
 simp -index only [String.toList_ofList]
 decide

theorem proQuota_unknown : isPolicyRateLimit proQuotaMessage=true ∧
  isUpstreamRateLimit proQuotaMessage=false ∧ embeddedConnectHttpStatus proQuotaMessage=none:=by
 obtain ⟨hbilling,htransient,-,-⟩:=proQuota_verdicts
 obtain ⟨hlower,-⟩:=proQuota_texts
 unfold isPolicyRateLimit isUpstreamRateLimit isProviderResourceExhausted embeddedConnectHttpStatus ends
 rw [if_neg (Bool.eq_false_iff.mp hbilling),if_neg (Bool.eq_false_iff.mp htransient),
  if_neg (Bool.eq_false_iff.mp hbilling),if_neg (Bool.eq_false_iff.mp htransient),
  if_neg (Bool.eq_false_iff.mp htransient),hlower]
 unfold proQuotaLower proQuotaMessage
 dsimp only [containsAny,List.any_cons,List.any_nil,contains,List.findSome?]
 simp -index only [String.toList_ofList]
 decide

/-- An account limit that is named by its code only keeps the incoming status. -/
theorem proQuota_not_429 :
    ¬∀ message:Text,isPolicyRateLimit message=true → isAmbiguousLiveAccept message=false →
      isLocalAdmissionBackpressure message=false →
      ∀ status,classifyProxyErrorStatus status message=429 ∧ shouldRetryUpstream status message=false:=by
  intro hall
  obtain ⟨-,htransient,haccept,hlocal⟩:=proQuota_verdicts
  obtain ⟨hpolicy,hupstream,hembeds⟩:=proQuota_unknown
  have hclass:=(hall proQuotaMessage hpolicy haccept hlocal 502).1
  have hembedded:=((classify_other haccept hlocal htransient hupstream (by decide)).mp hclass).2
  rw [hembeds] at hembedded
  exact absurd hembedded (by simp)

end CursorProxy.RetryPolicy
