import CursorProxy.ResponsesStream

namespace CursorProxy.ErrorCase
open CautiousScan XmlElements RetryPolicy

/-- The messages differ in the case of ASCII letters only. -/
def SameLetters (message other:Text) : Prop :=
 List.Forall₂ (fun char char'=>char.toLower=char'.toLower) message other

theorem lowercase_eq {message other:Text} (h:SameLetters message other) :
  toAsciiLowercase message=toAsciiLowercase other:=by
 unfold toAsciiLowercase
 induction h with
 | nil=>rfl
 | cons hchar _ ih=>rw [List.map_cons,List.map_cons,hchar,ih]

theorem isAsciiWhitespace_toLower (char:Char) : isAsciiWhitespace char.toLower=isAsciiWhitespace char:=by
 have hmark:∀ mark:Char,mark.isAlpha=false → (char.toLower==mark)=(char==mark) :=
  fun mark hmark=>Bool.eq_iff_iff.mpr
   (beq_iff_eq.trans ((toLower_eq_iff hmark).trans beq_iff_eq.symm))
 unfold isAsciiWhitespace
 rw [hmark _ (by decide),hmark _ (by decide),hmark _ (by decide),hmark _ (by decide),
  hmark _ (by decide)]

theorem isDigit_of_isAlpha {char:Char} (h:char.isAlpha=true) : char.isDigit=false:=by
 unfold Char.isAlpha Char.isUpper Char.isLower at h
 unfold Char.isDigit
 simp only [ge_iff_le,Bool.or_eq_true,decide_eq_true_eq,UInt32.le_iff_toNat_le,
  Bool.and_eq_true,Bool.and_eq_false_iff,decide_eq_false_iff_not] at h ⊢
 change 65 ≤ char.val.toNat ∧ char.val.toNat ≤ 90 ∨ 97 ≤ char.val.toNat ∧ char.val.toNat ≤ 122 at h
 change ¬48 ≤ char.val.toNat ∨ ¬char.val.toNat ≤ 57
 omega

theorem isDigit_toLower (char:Char) : char.toLower.isDigit=char.isDigit:=by
 rcases toLower_cases char with hsame | ⟨hletter,hlower⟩
 · rw [hsame]
 · rw [isDigit_of_isAlpha hletter,isDigit_of_isAlpha hlower]

theorem leadingDigits_lowercase (text:Text) : leadingDigits (toAsciiLowercase text)=leadingDigits text:=by
 unfold leadingDigits toAsciiLowercase
 induction text with
 | nil=>rfl
 | cons char rest ih=>
  rw [List.map_cons,List.takeWhile_cons,List.takeWhile_cons,isDigit_toLower,ih]
  rcases toLower_cases char with hsame | ⟨hletter,-⟩
  · rw [hsame]
  · rw [isDigit_of_isAlpha hletter]
    rfl

theorem drop_lowercase (text:Text) (n:ℕ) : toAsciiLowercase (text.drop n)=(toAsciiLowercase text).drop n :=
 List.map_drop

theorem find_lowercase {word:Text} (hword:∀ char∈word,char.isAlpha=false) (text:Text) :
  find word (toAsciiLowercase text)=find word text:=by
 have hfront:∀ (word text:Text),(∀ char∈word,char.isAlpha=false) →
   word.isPrefixOf (toAsciiLowercase text)=word.isPrefixOf text:=by
  intro word
  induction word with
  | nil=>exact fun _ _=>rfl
  | cons mark word ih=>
   intro text hword
   cases text with
   | nil=>rfl
   | cons char text=>
    have hsame:(mark==char.toLower)=(mark==char):=Bool.eq_iff_iff.mpr
     (beq_iff_eq.trans ((eq_comm.trans ((toLower_eq_iff (hword mark List.mem_cons_self)).trans
      eq_comm)).trans beq_iff_eq.symm))
    have hrest:=ih text fun other hmem=>hword other (List.mem_cons_of_mem _ hmem)
    change (mark==char.toLower&&word.isPrefixOf (toAsciiLowercase text)) =
     (mark==char&&word.isPrefixOf text)
    rw [hsame,hrest]
 induction text with
 | nil=>rfl
 | cons char text ih=>
  have hhere:=hfront word (char::text) hword
  unfold toAsciiLowercase at hhere ih ⊢
  rw [List.map_cons] at hhere ⊢
  unfold find
  rw [hhere,ih]

theorem filter_lowercase (text:Text) :
  toAsciiLowercase (text.filter fun char=>!isAsciiWhitespace char) =
   (toAsciiLowercase text).filter fun char=>!isAsciiWhitespace char:=by
 unfold toAsciiLowercase
 rw [List.filter_map]
 congr 2
 funext char
 exact congrArg Bool.not (isAsciiWhitespace_toLower char).symm

section classifiers
variable {message other:Text} (h:toAsciiLowercase message=toAsciiLowercase other)
include h

theorem contains_congr {word:String} (hword:∀ char∈word.toList,char.isAlpha=false) :
  contains message word=contains other word:=by
 unfold contains
 rw [← find_lowercase hword message,h,find_lowercase hword other]

theorem isTransientProviderErrorMessage_congr :
  isTransientProviderErrorMessage message=isTransientProviderErrorMessage other:=by
 unfold isTransientProviderErrorMessage normalizeProviderErrorText
 rw [h]

theorem isNonRetryableProviderErrorMessage_congr :
  isNonRetryableProviderErrorMessage message=isNonRetryableProviderErrorMessage other:=by
 unfold isNonRetryableProviderErrorMessage
 rw [filter_lowercase,filter_lowercase,h,isTransientProviderErrorMessage_congr h]

theorem isBillingBlock_congr : isBillingBlock message=isBillingBlock other:=by
 unfold isBillingBlock
 rw [h]

theorem isProviderResourceExhausted_congr : isProviderResourceExhausted message=isProviderResourceExhausted other:=by
 unfold isProviderResourceExhausted
 rw [h,isTransientProviderErrorMessage_congr h]

theorem isCapacityShed_congr : isCapacityShed message=isCapacityShed other:=by
 unfold isCapacityShed
 rw [h]

theorem isPolicyRateLimit_congr : isPolicyRateLimit message=isPolicyRateLimit other:=by
 unfold isPolicyRateLimit
 rw [h,isBillingBlock_congr h,isTransientProviderErrorMessage_congr h,isProviderResourceExhausted_congr h]

theorem isUpstreamRateLimit_congr : isUpstreamRateLimit message=isUpstreamRateLimit other:=by
 unfold isUpstreamRateLimit
 rw [h,isBillingBlock_congr h,isTransientProviderErrorMessage_congr h,isProviderResourceExhausted_congr h]

omit h in
theorem unlettered {word:String} (hword:word.toList.any Char.isAlpha=false) : ∀ char∈word.toList,char.isAlpha=false :=
 fun char hmem=>Bool.eq_false_iff.mpr (List.any_eq_false.mp hword char hmem)

theorem isGeoPolicyBlock_congr : isGeoPolicyBlock message=isGeoPolicyBlock other:=by
 have hplace:containsAny message ["国家","区域","地区"] = containsAny other ["国家","区域","地区"]:=by
  unfold containsAny
  simp only [List.any_cons,List.any_nil]
  rw [contains_congr h (unlettered (by decide)),contains_congr h (unlettered (by decide)),
   contains_congr h (unlettered (by decide))]
 unfold isGeoPolicyBlock
 rw [h,hplace,contains_congr h (unlettered (by decide))]

theorem embeddedConnectHttpStatus_congr : embeddedConnectHttpStatus message=embeddedConnectHttpStatus other:=by
 have hdigits:∀ stop,leadingDigits (message.drop stop)=leadingDigits (other.drop stop):=by
  intro stop
  rw [← leadingDigits_lowercase,drop_lowercase,h,← drop_lowercase,leadingDigits_lowercase]
 unfold embeddedConnectHttpStatus
 simp only [hdigits,h]

theorem isLocalAdmissionBackpressure_congr :
  isLocalAdmissionBackpressure message=isLocalAdmissionBackpressure other:=by
 unfold isLocalAdmissionBackpressure
 rw [h]

theorem isIdleNoProgress_congr : isIdleNoProgress message=isIdleNoProgress other:=by
 unfold isIdleNoProgress
 rw [h]

theorem isAmbiguousLiveAccept_congr : isAmbiguousLiveAccept message=isAmbiguousLiveAccept other:=by
 unfold isAmbiguousLiveAccept
 rw [h,isIdleNoProgress_congr h]

theorem classifyProxyErrorStatus_congr (status:ℕ) :
  classifyProxyErrorStatus status message=classifyProxyErrorStatus status other:=by
 unfold classifyProxyErrorStatus
 rw [h,isAmbiguousLiveAccept_congr h,isLocalAdmissionBackpressure_congr h,
  isTransientProviderErrorMessage_congr h,isUpstreamRateLimit_congr h,
  isGeoPolicyBlock_congr h,embeddedConnectHttpStatus_congr h]

theorem shouldRetryUpstream_congr (status:ℕ) : shouldRetryUpstream status message=shouldRetryUpstream status other:=by
 unfold shouldRetryUpstream
 rw [classifyProxyErrorStatus_congr h,isBillingBlock_congr h,isCapacityShed_congr h,
  isPolicyRateLimit_congr h,isNonRetryableProviderErrorMessage_congr h]

end classifiers

theorem classification_ignores_case (status:ℕ) (kind:Option String) {message other:String}
    (h:SameLetters message.toList other.toList) :
    classifyProxyErrorStatus status message.toList = classifyProxyErrorStatus status other.toList ∧
      shouldRetryUpstream status message.toList=shouldRetryUpstream status other.toList ∧
      anthropicErrorKindForStatus status message.toList = anthropicErrorKindForStatus status other.toList ∧
      ResponsesStream.Translator.responsesErrorCode kind message =
        ResponsesStream.Translator.responsesErrorCode kind other:=by
  have hlower:=lowercase_eq h
  refine ⟨classifyProxyErrorStatus_congr hlower status,shouldRetryUpstream_congr hlower status,?_,?_⟩
  · unfold anthropicErrorKindForStatus
    rw [classifyProxyErrorStatus_congr hlower]
  · unfold ResponsesStream.Translator.responsesErrorCode
    rw [classifyProxyErrorStatus_congr hlower]

/-- A message in capitals, and the same in small letters. -/
theorem classification_ignores_case_geo :
    classifyProxyErrorStatus 502 "[NOT_FOUND] 区域".toList = classifyProxyErrorStatus 502 "[not_found] 区域".toList ∧
      shouldRetryUpstream 502 "[NOT_FOUND] 区域".toList = shouldRetryUpstream 502 "[not_found] 区域".toList ∧
      anthropicErrorKindForStatus 502 "[NOT_FOUND] 区域".toList =
        anthropicErrorKindForStatus 502 "[not_found] 区域".toList ∧
      ResponsesStream.Translator.responsesErrorCode none "[NOT_FOUND] 区域" =
        ResponsesStream.Translator.responsesErrorCode none "[not_found] 区域" := by
  refine classification_ignores_case 502 none ?_
  unfold SameLetters
  simp -index only [String.toList_ofList]
  decide

end CursorProxy.ErrorCase
