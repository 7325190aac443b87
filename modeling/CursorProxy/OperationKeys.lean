import CursorProxy.RouteEdits

namespace CursorProxy.OperationKeys
open XmlElements LiveRunKeys

structure HeaderText where
 text : Text
 visible : ∀ char∈text,char = '\t' ∨ (32 ≤ char.toNat ∧ char.toNat<127)

/-- A request, with what `serde_json` makes of it: a control character is escaped in JSON, and
the messages are an array. -/
structure Body where
 canonical : Text
 messages : Text
 escaped : ∀ char∈canonical,32 ≤ char.toNat
 array : messages.head?=some '['

structure RequestContext where
 clientRequestId : Option HeaderText
 sessionId : Option Text
 agentId : Option HeaderText
 parentAgentId : Option HeaderText

def headerText (value:Option HeaderText) : Option Text := present (value.map HeaderText.text)

def RequestContext.agents (ctx:RequestContext) : Text :=
 '\x00' :: (headerText ctx.agentId).getD [] ++ '\x00' :: (headerText ctx.parentAgentId).getD []

def liveOperationFingerprintPayload (body:Body) (clientRequestId:Option Text) : Text :=
 match present clientRequestId with
 | some requestId => "x-grok-req-id\x00".toList++requestId ++ '\x00' :: body.canonical
 | none=>body.messages

/-- `u8::from`. -/
def flagByte (compactionMode:Bool) : Char := if compactionMode then '\x01' else '\x00'

structure Call where
 body : Body
 ctx : RequestContext
 model : Text
 compactionMode : Bool

def Call.payload (call:Call) : Option Text :=
 (headerText call.ctx.clientRequestId).map fun clientId=>
  "ccp-sand-operation\x00".toList++trim call.model++flagByte call.compactionMode ::
   call.ctx.sessionId.getD []++call.ctx.agents ++ liveOperationFingerprintPayload call.body (some clientId)

def isXaiCompactRequest (clientRequestId:Option Text) : Bool :=
 match clientRequestId.map trim with
 | some id => "xai-compact-".toList <+: id&&id != "xai-compact-".toList
 | none=>false

def compactRequestId (ctx:RequestContext) : Option Text :=
 ((ctx.clientRequestId.map HeaderText.text).map trim).filter fun id=>
  isXaiCompactRequest (some id)

def compactPayload (body:Body) (ctx:RequestContext) : Text :=
 "ccp-compact-agent\x00".toList ++ (compactRequestId ctx).getD (liveOperationFingerprintPayload body none)++ctx.agents

section
variable {δ φ:Type*} (digest:List UInt8 → δ) (fingerprint:List UInt8 → φ)

def sandOperationKey (call:Call) : Option δ :=
 call.payload.map fun payload=>digest (SseEvents.bytesOf payload)

def compactAgentId (body:Body) (ctx:RequestContext) : φ :=
 fingerprint (SseEvents.bytesOf (compactPayload body ctx))

end

/-- A blank value is hashed as an absent one. -/
structure Hashed where
 model : Text
 compactionMode : Bool
 sessionId : Text
 agentId : Option Text
 parentAgentId : Option Text
 requestId : Text
 canonical : Text
deriving DecidableEq

def Call.hashed (call:Call) : Option Hashed :=
 (headerText call.ctx.clientRequestId).map fun clientId=>
  { model := trim call.model
    compactionMode := call.compactionMode
    sessionId := call.ctx.sessionId.getD []
    agentId := headerText call.ctx.agentId
    parentAgentId := headerText call.ctx.parentAgentId
    requestId := clientId
    canonical := call.body.canonical }

/-- What identifies a compaction, a request id or the messages, and the agents. -/
def compactHashed (body:Body) (ctx:RequestContext) : (Text ⊕ Text)×Option Text×Option Text :=
 (match compactRequestId ctx with
  | some requestId=>.inl requestId
  | none=>.inr body.messages,
  headerText ctx.agentId,headerText ctx.parentAgentId)

/-- The flag of the first stands inside the model of the second, and the flag of the second
inside the session of the first. -/
def Moved (first second:Hashed) : Prop :=
 ∃ moved,second.model=first.model++flagByte first.compactionMode::moved ∧
  first.sessionId=moved++flagByte second.compactionMode::second.sessionId

/-- Only the model, the flag and the session differ, with bytes moved between them. -/
def Shifted (first second:Hashed) : Prop :=
 first.agentId=second.agentId ∧ first.parentAgentId=second.parentAgentId ∧
  first.requestId=second.requestId ∧ first.canonical=second.canonical ∧
  (Moved first second ∨ Moved second first)

def Collide (first second:Call) : Prop :=
 ∃ before after,first.hashed=some before ∧ second.hashed=some after ∧
  Shifted before after

variable {value other:Option HeaderText} {text rest front back:Text}

theorem mem_trim {char:Char} (h:char∈trim text) : char∈text:=by
 have hstart:char∈trimStart text:=(List.rdropWhile_prefix _ (trimStart text)).subset h
 exact (List.dropWhile_suffix _).subset hstart

theorem headerText_noNul (value:Option HeaderText) : '\x00' ∉ (headerText value).getD []:=by
 intro hmem
 cases hvalue:value with
 | none=>
  rw [hvalue] at hmem
  cases hmem
 | some header=>
  have htrim : '\x00' ∈ trim header.text:=by
   rw [hvalue] at hmem
   by_cases hempty:(trim header.text).isEmpty <;>
    simp [headerText,present,Option.filter,hempty] at hmem
   exact hmem
  rcases header.visible _ (mem_trim htrim) with h | h
  · exact absurd h (by decide)
  · exact absurd h.1 (by decide)

theorem headerText_getD_inj (h:(headerText value).getD []=(headerText other).getD []) :
  headerText value=headerText other:=by
 have hfull:∀ {value:Option HeaderText} {id:Text},headerText value=some id → id≠[] := fun hsome=>(present_some hsome).2
 cases hvalue:headerText value with
 | none=>
  cases hother:headerText other with
  | none=>rfl
  | some id=>
   rw [hvalue,hother] at h
   exact absurd h.symm (hfull hother)
 | some id=>
  cases hother:headerText other with
  | none=>
   rw [hvalue,hother] at h
   exact absurd h (hfull hvalue)
  | some _=>
   rw [hvalue,hother] at h
   exact congrArg some h

/-- The last byte 0 is the same one. -/
theorem cut_last (h:front ++ '\x00' :: text=back ++ '\x00' :: rest)
  (htext : '\x00' ∉ text) (hrest : '\x00' ∉ rest) : front=back ∧ text=rest:=by
 rcases List.append_eq_append_iff.mp h with ⟨moved,hfront,hlast⟩ | ⟨moved,hfront,hlast⟩
 all_goals
  cases moved with
  | nil=>grind
  | cons char moved=>
   obtain ⟨-,rfl⟩:=List.cons.inj hlast
   simp at htext hrest

theorem agents_inj {ctx other:RequestContext} (h:front++ctx.agents=back++other.agents) :
  front=back ∧ headerText ctx.agentId=headerText other.agentId ∧
   headerText ctx.parentAgentId=headerText other.parentAgentId:=by
 have hsplit:∀ (front:Text) (ctx:RequestContext),front++ctx.agents =
   (front ++ '\x00' :: (headerText ctx.agentId).getD []) ++ '\x00' :: (headerText ctx.parentAgentId).getD []:=by
  intro front ctx
  simp [RequestContext.agents]
 rw [hsplit,hsplit] at h
 obtain ⟨h,hparent⟩:=cut_last h (headerText_noNul _) (headerText_noNul _)
 obtain ⟨h,hagent⟩:=cut_last h (headerText_noNul _) (headerText_noNul _)
 exact ⟨h,headerText_getD_inj hagent,headerText_getD_inj hparent⟩

theorem shared_flag {first second:Hashed} :
  first.model++flagByte first.compactionMode::first.sessionId =
    second.model++flagByte second.compactionMode::second.sessionId ↔
   (first.model=second.model ∧ first.compactionMode=second.compactionMode ∧
    first.sessionId=second.sessionId) ∨ Moved first second ∨ Moved second first:=by
 have hflag:∀ {mode other:Bool},flagByte mode=flagByte other ↔ mode=other:=by
  decide
 constructor
 · intro h
   rcases List.append_eq_append_iff.mp h with ⟨moved,hmodel,hrest⟩ | ⟨moved,hmodel,hrest⟩
   all_goals
    cases moved with
    | nil=>
     obtain ⟨hmode,hsession⟩:=List.cons.inj hrest
     rw [List.append_nil] at hmodel
     exact Or.inl ⟨by rw [hmodel],by rw [hflag.mp hmode],by rw [hsession]⟩
    | cons flag moved=>
     obtain ⟨rfl,hsession⟩:=List.cons.inj hrest
     first
      | exact Or.inr (Or.inl ⟨moved,hmodel,hsession⟩)
      | exact Or.inr (Or.inr ⟨moved,hmodel,hsession⟩)
 · rintro (⟨hmodel,hmode,hsession⟩ | ⟨moved,hmodel,hsession⟩ | ⟨moved,hmodel,hsession⟩)
   · rw [hmodel,hmode,hsession]
   · rw [hmodel,hsession]; simp
   · rw [hmodel,hsession]; simp

theorem hashed_some {call:Call} {values:Hashed} (h:call.hashed=some values) :
  '\x00' ∉ values.requestId ∧ '\x00' ∉ values.canonical ∧
   call.payload=some ((("ccp-sand-operation\x00".toList++(values.model ++
    flagByte values.compactionMode::values.sessionId))++call.ctx.agents ++
    "x-grok-req-id".toList ++ '\x00' :: values.requestId) ++ '\x00' :: values.canonical):=by
 obtain ⟨clientId,hid,rfl⟩:=Option.map_eq_some_iff.mp h
 refine ⟨?_,fun hmem=>absurd (call.body.escaped _ hmem) (by decide),?_⟩
 · have hnul:=headerText_noNul call.ctx.clientRequestId
   rwa [hid] at hnul
 · have hpresent:present (some clientId)=some clientId:=by
    rw [← hid,headerText,present_present]
   simp [Call.payload,hid,liveOperationFingerprintPayload,hpresent]

theorem payload_inj {first second:Call} {before after:Hashed}
  (hbefore:first.hashed=some before) (hafter:second.hashed=some after) :
  first.payload=second.payload ↔ before=after ∨ Shifted before after:=by
 obtain ⟨hid,hcanonical,hfirst⟩:=hashed_some hbefore
 obtain ⟨hid',hcanonical',hsecond⟩:=hashed_some hafter
 obtain ⟨_,-,rfl⟩:=Option.map_eq_some_iff.mp hbefore
 obtain ⟨_,-,rfl⟩:=Option.map_eq_some_iff.mp hafter
 rw [hfirst,hsecond,Option.some_inj]
 constructor
 · intro h
   obtain ⟨h,hbody⟩:=cut_last h hcanonical hcanonical'
   obtain ⟨h,hrequest⟩:=cut_last h hid hid'
   obtain ⟨h,hagent,hparent⟩:=agents_inj (List.append_cancel_right h)
   have hflag:=shared_flag.mp (List.append_cancel_left h)
   rcases hflag with ⟨hmodel,hmode,hsession⟩ | hmoved
   · exact Or.inl (Hashed.mk.injEq .. ▸ ⟨hmodel,hmode,hsession,hagent,hparent,hrequest,hbody⟩)
   · exact Or.inr ⟨hagent,hparent,hrequest,hbody,hmoved⟩
 · intro h
   have hagents:headerText first.ctx.agentId=headerText second.ctx.agentId →
     headerText first.ctx.parentAgentId=headerText second.ctx.parentAgentId →
     first.ctx.agents=second.ctx.agents:=by
    intro hagent hparent
    simp only [RequestContext.agents,hagent,hparent]
   rcases h with h | ⟨hagent,hparent,hrequest,hbody,hmoved⟩
   · obtain ⟨hmodel,hmode,hsession,hagent,hparent,hrequest,hbody⟩:=Hashed.mk.inj h
     rw [hmodel,hmode,hsession,hagents hagent hparent,hrequest,hbody]
   · rw [shared_flag.mpr (Or.inr hmoved),hagents hagent hparent,hrequest,hbody]

theorem Moved.ne {first second:Hashed} (h:Moved first second) : first.model≠second.model:=by
 obtain ⟨moved,hmodel,-⟩:=h
 intro heq
 have hlength:=congrArg List.length (heq.trans hmodel)
 simp at hlength

theorem compactPayload_inj {body otherBody:Body} {ctx otherCtx:RequestContext}
  (h:compactPayload body ctx=compactPayload otherBody otherCtx) :
  compactHashed body ctx=compactHashed otherBody otherCtx:=by
 obtain ⟨h,hagent,hparent⟩:=agents_inj h
 have hid:=List.append_cancel_left h
 have hx:∀ {ctx:RequestContext} {id:Text},compactRequestId ctx=some id → id.head?=some 'x' := by
  intro ctx id hsome
  obtain ⟨hid,hfilter⟩:=Option.filter_eq_some_iff.mp hsome
  obtain ⟨text,-,rfl⟩:=Option.map_eq_some_iff.mp hid
  simp only [isXaiCompactRequest,Option.map_some,LiveRunKeys.trim_trim,Bool.and_eq_true,
   decide_eq_true_eq] at hfilter
  obtain ⟨suffix,hsuffix⟩:=hfilter.1
  rw [← hsuffix]
  rfl
 have hmessages:∀ body:Body,liveOperationFingerprintPayload body none=body.messages :=
  fun _=>rfl
 rw [hmessages,hmessages] at hid
 cases hfirst:compactRequestId ctx <;> cases hsecond:compactRequestId otherCtx <;>
  rw [hfirst,hsecond] at hid <;>
  simp only [Option.getD_none,Option.getD_some] at hid <;>
  simp only [compactHashed,hfirst,hsecond,hagent,hparent,hid]
 · exact absurd (hx hsecond) (by rw [← hid,body.array]; decide)
 · exact absurd (hx hfirst) (by rw [hid,otherBody.array]; decide)

theorem keys_separate {δ φ:Type*} {digest:List UInt8 → δ} {fingerprint:List UInt8 → φ}
    (hdigest:Function.Injective digest) (hfingerprint:Function.Injective fingerprint) :
    (∀ first second : Call,
      (sandOperationKey digest first=sandOperationKey digest second →
        first.hashed=second.hashed) ↔ ¬ Collide first second) ∧
    ∀ (body otherBody:Body) (ctx otherCtx:RequestContext),
      compactAgentId fingerprint body ctx=compactAgentId fingerprint otherBody otherCtx →
        compactHashed body ctx=compactHashed otherBody otherCtx:=by
  have hinj:Function.Injective fun payload=>digest (SseEvents.bytesOf payload) :=
    fun _ _ h=>RouteEdits.bytesOf_injective (hdigest h)
  have hkey:∀ first second : Call,sandOperationKey digest first =
      sandOperationKey digest second ↔ first.payload=second.payload :=
    fun first second=>(Option.map_injective hinj).eq_iff
  constructor
  · intro first second
    rw [hkey]
    constructor
    · rintro h ⟨before,after,hbefore,hafter,hshifted⟩
      have heq:=h ((payload_inj hbefore hafter).mpr (Or.inr hshifted))
      rw [hbefore,hafter,Option.some_inj] at heq
      rcases hshifted.2.2.2.2 with hmoved | hmoved
      · exact hmoved.ne (congrArg Hashed.model heq)
      · exact hmoved.ne (congrArg Hashed.model heq.symm)
    · intro hfree h
      have hnone:∀ call:Call,call.payload=none ↔ call.hashed=none:=by
        intro call
        rw [Call.payload,Call.hashed,Option.map_eq_none_iff,Option.map_eq_none_iff]
      cases hbefore:first.hashed with
      | none=>exact ((hnone _).mp (h ▸ (hnone _).mpr hbefore)).symm
      | some before=>
        cases hafter:second.hashed with
        | none=>exact absurd ((hnone _).mp (h.trans ((hnone _).mpr hafter))) (by simp [hbefore])
        | some after=>
          rcases (payload_inj hbefore hafter).mp h with heq | hshifted
          · exact congrArg some heq
          · exact absurd ⟨before,after,hbefore,hafter,hshifted⟩ hfree
  · intro body otherBody ctx otherCtx h
    exact compactPayload_inj (RouteEdits.bytesOf_injective (hfingerprint h))

def sampleBody : Body where
 canonical := ['1']
 messages := ['[',']']
 escaped := List.forall_mem_singleton.mpr (by decide)
 array := rfl

def sampleCall (model session:String) : Call where
 body := sampleBody
 ctx :=
  { clientRequestId := some ⟨['r'],List.forall_mem_singleton.mpr (by decide)⟩
    sessionId := some session.toList
    agentId := none
    parentAgentId := none }
 model := model.toList
 compactionMode := false

theorem keys_separate_sample : ¬ Collide (sampleCall "m" "s") (sampleCall "m" "t"):=by
  refine ((keys_separate Function.injective_id Function.injective_id).1 _ _).mp fun h=>?_
  exact absurd h (by decide +kernel)

theorem model_takes_session :
    ∃ first second : Call,
      sandOperationKey id first=sandOperationKey id second ∧ first.body=second.body ∧ first.hashed≠second.hashed :=
  ⟨sampleCall "m" "x\x00y",sampleCall "m\x00x" "y",by decide +kernel,rfl,by
    decide +kernel⟩

end CursorProxy.OperationKeys
