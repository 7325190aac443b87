import CursorProxy.HandshakeSafety

/-! The frames that one chunk completes are read together. Where none of them says anything
behind the successful end of the invocation, the items are those of frames that come one by one. -/
namespace CursorProxy.ChunkCuts
open ConnectFrames ConnectFraming JsonValues RunInference HandshakeSafety

variable {τ ε:Type*} {env:InferenceEnv τ ε} {s t:SandRunInferenceStream τ ε}

/-- A frame that says nothing: a control frame, an empty one or a heartbeat. -/
def quiet (env:InferenceEnv τ ε) (frame:ConnectFrame) : Bool :=
 hasFlag frame flagControl||(!hasFlag frame flagEnd&&match framePayload env frame with
  | .error _=>false
  | .ok payload=>payload.isEmpty||match env.fromSlice payload with
   | .ok value=>value.asObject.isSome&&variantCount value==1&&carries value "heartbeat"
   | .error _=>false)

/-- Behind the frame that begins the finish of the request body only quiet frames come. -/
def TrailQuiet (env:InferenceEnv τ ε) (s:SandRunInferenceStream τ ε) (frames:List ConnectFrame) : Prop :=
 ∀ before frame after,frames=before++frame::after →
  (before.foldl (SandRunInferenceStream.queueFrame env) s).phase=.finishing → quiet env frame=true

theorem quiet_frame {frame:ConnectFrame} (h:quiet env frame=true)
 (s:SandRunInferenceStream τ ε) : s.queueFrame env frame=s:=by
 unfold SandRunInferenceStream.queueFrame
 unfold quiet at h
 cases hcontrol:hasFlag frame flagControl with
 | true=>
  rw [if_pos rfl]
  exact ite_self s
 | false=>
  rw [hcontrol,Bool.false_or,Bool.and_eq_true] at h
  obtain ⟨hend,h⟩:=h
  rw [Bool.not_eq_true'] at hend
  rw [hend,if_neg Bool.false_ne_true,if_neg Bool.false_ne_true]
  cases hpayload:framePayload env frame with
  | error error=>
   rw [hpayload] at h
   cases h
  | ok payload=>
   rw [hpayload] at h
   dsimp only at h ⊢
   cases hempty:payload.isEmpty with
   | true=>
    rw [if_pos rfl]
    exact ite_self s
   | false=>
    rw [hempty,Bool.false_or] at h
    rw [if_neg Bool.false_ne_true]
    cases hvalue:env.fromSlice payload with
    | error error=>
     rw [hvalue] at h
     cases h
    | ok value=>
     rw [hvalue] at h
     dsimp only at h ⊢
     rw [Bool.and_eq_true,Bool.and_eq_true] at h
     obtain ⟨⟨hobject,hcount⟩,hheartbeat⟩:=h
     have hsame:s.queueServerMessage env value=s:=by
      unfold SandRunInferenceStream.queueServerMessage
      rw [if_neg,if_neg,if_pos hheartbeat]
      · exact not_not_intro (beq_iff_eq.mp hcount)
      · rw [Option.isNone_iff_eq_none]
        intro hnone
        rw [hnone] at hobject
        cases hobject
     rw [hsame]
     exact ite_self s

theorem carries_absent {value:JsonValue} {key:String} (h:value.get key=none) : carries value key=false:=by
 unfold carries
 rw [h]
 rfl

theorem loud_message (hphase:s.phase=.finishing) {value:JsonValue}
 (hloud:(value.asObject.isSome&&variantCount value==1&&carries value "heartbeat") =
  false) : ∃ error,s.queueServerMessage env value=s.queueTerminalError error:=by
 unfold SandRunInferenceStream.queueServerMessage
 split_ifs with hobject hcount hheartbeat
 · exact ⟨_,rfl⟩
 · exact ⟨_,rfl⟩
 · rw [Option.isNone_iff_eq_none] at hobject
   obtain ⟨members,hmembers⟩:=Option.ne_none_iff_exists'.mp hobject
   rw [hmembers,not_not.mp hcount,hheartbeat] at hloud
   cases hloud
 · cases hready:value.get "runReady" with
   | some ready=>
    unfold SandRunInferenceStream.queueRunReady
    rw [hphase]
    exact ⟨_,if_pos (by decide)⟩
   | none=>cases hreply:value.get "invocationResponse" with
    | some reply=>
     unfold SandRunInferenceStream.queueInvocationResponse
     rw [hphase]
     exact ⟨_,if_pos (by decide)⟩
    | none=>cases hmessage:value.get "invocationEnd" with
     | some message=>
      unfold SandRunInferenceStream.queueInvocationEnd
      rw [hphase]
      exact ⟨_,if_pos (by decide)⟩
     | none=>
      have hnone:variantCount value=0:=by
       rw [Bool.not_eq_true] at hheartbeat
       unfold variantCount serverVariants
       simp [hheartbeat,carries_absent hready,carries_absent hreply,carries_absent hmessage]
      exact absurd (hnone.symm.trans (not_not.mp hcount)) (by decide)

theorem loud_frame (hphase:s.phase=.finishing) (hended:s.ended=false)
 (hemitted:s.terminalEmitted=false) {frame:ConnectFrame} (hloud:quiet env frame=false) :
 ∃ error,s.queueFrame env frame=s.queueTerminalError error:=by
 unfold SandRunInferenceStream.queueFrame
 unfold quiet at hloud
 rw [hended,hemitted,if_neg (by decide)]
 obtain ⟨hcontrol,hloud⟩:=Bool.or_eq_false_iff.mp hloud
 rw [hcontrol,if_neg Bool.false_ne_true]
 cases hend:hasFlag frame flagEnd with
 | true=>
  rw [if_pos rfl]
  unfold SandRunInferenceStream.queueEndFrame
  dsimp only
  split
  · exact ⟨_,rfl⟩
  · rw [hphase]
    exact ⟨_,if_pos (by decide)⟩
 | false=>
  rw [if_neg Bool.false_ne_true]
  rw [hend,Bool.not_false,Bool.true_and] at hloud
  cases hpayload:framePayload env frame with
  | error error=>exact ⟨_,rfl⟩
  | ok payload=>
   rw [hpayload] at hloud
   dsimp only at hloud ⊢
   obtain ⟨hempty,hloud⟩:=Bool.or_eq_false_iff.mp hloud
   rw [hempty,if_neg Bool.false_ne_true]
   cases hvalue:env.fromSlice payload with
   | error error=>exact ⟨_,rfl⟩
   | ok value=>
    rw [hvalue] at hloud
    exact loud_message hphase hloud

theorem ended_frame (hended:s.ended=true) (frame:ConnectFrame) : s.queueFrame env frame=s:=by
 unfold SandRunInferenceStream.queueFrame
 rw [hended]
 exact if_pos rfl

theorem ended_frames (hended:s.ended=true) (frames:List ConnectFrame) :
 frames.foldl (SandRunInferenceStream.queueFrame env) s=s:=by
 induction frames with
 | nil=>rfl
 | cons frame frames ih=>
  rw [List.foldl_cons,ended_frame hended]
  exact ih

theorem error_phase (error:CursorError) : (s.queueTerminalError error).phase=s.phase:=by
 unfold SandRunInferenceStream.queueTerminalError
 split_ifs <;> rfl

/-- The phase does not become finishing, or the request body is asked and the turn goes on. -/
def Begun (s t:SandRunInferenceStream τ ε) : Prop :=
 t.phase=.finishing → s.phase=.finishing ∨
  t.finishAck=some .waiting ∧ t.ended=s.ended ∧ t.terminalEmitted=s.terminalEmitted

theorem Begun.same (h:t.phase=s.phase) : Begun s t :=
 fun hphase=>Or.inl (h.symm.trans hphase)

theorem Begun.error (error:CursorError) : Begun s (s.queueTerminalError error) :=
 .same (error_phase error)

theorem runReady_begun (ready:JsonValue) : Begun s (s.queueRunReady env ready):=by
 have hsent (t:SandRunInferenceStream τ ε) : (t.sendInvokeModel env).1.phase=t.phase:=by
  unfold SandRunInferenceStream.sendInvokeModel
  split
  · rfl
  · dsimp only
    split_ifs
    · rfl
    · split <;> rfl
 unfold SandRunInferenceStream.queueRunReady
 split_ifs
 · exact .error _
 · split
   · exact .error _
   · next modelId _=>
     have hphase:=hsent (s.note (.runReady modelId))
     split
     · intro hfinishing
       cases hfinishing
     · next heq=>
       rw [heq] at hphase
       exact .same ((error_phase _).trans hphase)

theorem invocationResponse_begun (reply:JsonValue) : Begun s (s.queueInvocationResponse env reply):=by
 unfold SandRunInferenceStream.queueInvocationResponse
 split_ifs
 · exact .error _
 · exact .same rfl
 · split
   · exact .error _
   · unfold SandRunInferenceStream.queueInferenceResponse
     split
     · exact .same (error_phase _)
     · exact .same rfl

theorem invocationEnd_begun (message:JsonValue) : Begun s (s.queueInvocationEnd env message):=by
 unfold SandRunInferenceStream.queueInvocationEnd
 split_ifs
 · exact .error _
 · exact .same rfl
 · intro hfinishing
   rw [error_phase] at hfinishing
   cases hfinishing
 · unfold SandRunInferenceStream.beginFinishRequestBody
   split_ifs
   · exact .same (error_phase _)
   · cases env.takesFinish with
     | error error=>exact .same (error_phase _)
     | ok=>exact fun _=>Or.inr ⟨rfl,rfl,rfl⟩

theorem message_begun (value:JsonValue) : Begun s (s.queueServerMessage env value):=by
 unfold SandRunInferenceStream.queueServerMessage
 split_ifs
 · exact .error _
 · exact .error _
 · exact .same rfl
 · split
   · exact runReady_begun _
   · exact invocationResponse_begun _
   · exact invocationEnd_begun _
   · exact .same rfl

theorem frame_begun (frame:ConnectFrame) : Begun s (s.queueFrame env frame):=by
 unfold SandRunInferenceStream.queueFrame
 split_ifs
 · exact .same rfl
 · exact .same rfl
 · unfold SandRunInferenceStream.queueEndFrame
   dsimp only
   split
   · exact .error _
   · split_ifs
     · exact .error _
     · exact .same rfl
 · split
   · exact .error _
   · split_ifs
     · exact .same rfl
     · split
       · exact message_begun _
       · exact .error _

theorem finishing_frame (hphase:s.phase=.finishing) (frame:ConnectFrame) :
 (s.queueFrame env frame).phase=.finishing ∧ (s.queueFrame env frame).finishAck=s.finishAck:=by
 cases hquiet:quiet env frame with
 | true=>
  rw [quiet_frame hquiet]
  exact ⟨hphase,rfl⟩
 | false=>
  cases hended:s.ended||s.terminalEmitted with
  | true=>
   have hsame:s.queueFrame env frame=s:=by
    unfold SandRunInferenceStream.queueFrame
    rw [hended]
    exact if_pos rfl
   rw [hsame]
   exact ⟨hphase,rfl⟩
  | false=>
   obtain ⟨hended,hemitted⟩:=Bool.or_eq_false_iff.mp hended
   obtain ⟨error,herror⟩:=loud_frame hphase hended hemitted hquiet
   rw [herror,error_phase]
   unfold SandRunInferenceStream.queueTerminalError
   rw [hemitted]
   exact ⟨hphase,rfl⟩

/-- The request body is waited for only after it was asked. -/
def Asked (s:SandRunInferenceStream τ ε) : Prop :=
 s.phase=.finishing → s.finishAck=some .waiting

theorem Asked.frames {frames:List ConnectFrame} (h:Asked s) :
 Asked (frames.foldl (SandRunInferenceStream.queueFrame env) s):=by
 induction frames generalizing s with
 | nil=>exact h
 | cons frame frames ih=>
  apply ih
  intro hfinishing
  by_cases hphase:s.phase=.finishing
  · exact (finishing_frame hphase frame).2.trans (h hphase)
  · rcases frame_begun frame hfinishing with hbefore | ⟨hwaiting,-,-⟩
    · exact absurd hbefore hphase
    · exact hwaiting

theorem finishing_frames (hphase:s.phase=.finishing) (frames:List ConnectFrame) :
 (frames.foldl (SandRunInferenceStream.queueFrame env) s).phase=.finishing:=by
 induction frames generalizing s with
 | nil=>exact hphase
 | cons frame frames ih=>exact ih (finishing_frame hphase frame).1

theorem loud_frames (hphase:s.phase=.finishing) (hended:s.ended=false)
 (hemitted:s.terminalEmitted=false) {frames:List ConnectFrame} (hloud:∃ frame∈frames,quiet env frame=false) :
 ∃ error,frames.foldl (SandRunInferenceStream.queueFrame env) s = s.queueTerminalError error:=by
 induction frames with
 | nil=>
  obtain ⟨frame,hmem,-⟩:=hloud
  cases hmem
 | cons frame frames ih=>
  rw [List.foldl_cons]
  cases hquiet:quiet env frame with
  | true=>
   rw [quiet_frame hquiet]
   apply ih
   obtain ⟨other,hmem,hother⟩:=hloud
   rcases List.mem_cons.mp hmem with rfl | hmem
   · exact absurd (hquiet.symm.trans hother) (by decide)
   · exact ⟨other,hmem,hother⟩
  | false=>
   obtain ⟨error,herror⟩:=loud_frame hphase hended hemitted hquiet
   refine ⟨error,?_⟩
   rw [herror]
   apply ended_frames
   unfold SandRunInferenceStream.queueTerminalError
   rw [hemitted]
   rfl

theorem quiet_frames {frames:List ConnectFrame} (h:∀ frame∈frames,quiet env frame=true) :
 frames.foldl (SandRunInferenceStream.queueFrame env) s=s:=by
 induction frames with
 | nil=>rfl
 | cons frame frames ih=>
  rw [List.foldl_cons,quiet_frame (h frame List.mem_cons_self)]
  exact ih fun other hmem=>h other (List.mem_cons_of_mem _ hmem)

theorem trailQuiet_cons {frame:ConnectFrame} {frames:List ConnectFrame} :
 TrailQuiet env s (frame::frames) ↔
  (s.phase=.finishing → quiet env frame=true) ∧ TrailQuiet env (s.queueFrame env frame) frames:=by
 constructor
 · intro h
   exact ⟨h [] frame frames rfl,fun before later after hsplit=>
    h (frame::before) later after (by rw [hsplit]; rfl)⟩
 · intro ⟨hfirst,hrest⟩ before later after hsplit hphase
   cases before with
   | nil=>
    obtain ⟨rfl,rfl⟩:=List.cons.inj hsplit
    exact hfirst hphase
   | cons first before=>
    obtain ⟨rfl,htail⟩:=List.cons.inj hsplit
    exact hrest before later after htail hphase

theorem trailQuiet_finishing (hphase:s.phase=.finishing) {frames:List ConnectFrame} :
 TrailQuiet env s frames ↔ ∀ frame∈frames,quiet env frame=true:=by
 constructor
 · intro h frame hmem
   obtain ⟨before,after,hsplit⟩:=List.append_of_mem hmem
   exact h before frame after hsplit (finishing_frames hphase before)
 · intro h before frame after hsplit _
   exact h frame (by rw [hsplit]; simp)

def settle (env:InferenceEnv τ ε) (s:SandRunInferenceStream τ ε) : SandRunInferenceStream τ ε :=
 if s.phase=.finishing then
  SandRunInferenceStream.emitEndOnce env ({ s with
   finishAck := none,requestOpen := false,phase := .invocationEnded }.note .consumed)
 else s

def closedError : CursorError :=
 gateway "RunInference connection closed before invocationEnd" none

/-- The stream behind groups of frames that are read one after the other, with nothing taken out
of its queue. -/
def final (env:InferenceEnv τ ε) (s:SandRunInferenceStream τ ε) : List (List ConnectFrame) → SandRunInferenceStream τ ε
 | []=>
  if (settle env s).ended then settle env s else (settle env s).queueTerminalError closedError
 | group::groups=>
  if (settle env s).ended then settle env s
  else final env (group.foldl (SandRunInferenceStream.queueFrame env) (settle env s)) groups

/-- What begins the finish of the request body is trailed by quiet frames in its group. -/
def Untrailed (env:InferenceEnv τ ε) (s:SandRunInferenceStream τ ε) (groups:List (List ConnectFrame)) : Prop :=
 ∀ before group after,groups=before++group::after →
  (before.flatten.foldl (SandRunInferenceStream.queueFrame env) s).phase ≠ .finishing →
   TrailQuiet env (before.flatten.foldl (SandRunInferenceStream.queueFrame env) s) group

def singles (frames:List ConnectFrame) : List (List ConnectFrame) :=
 frames.map fun frame=>[frame]

theorem settle_going (hphase:s.phase ≠ .finishing) : settle env s=s := if_neg hphase

theorem settle_over (hphase:s.phase=.finishing) : (settle env s).phase ≠ .finishing:=by
 unfold settle SandRunInferenceStream.emitEndOnce
 rw [if_pos hphase]
 split_ifs <;> exact fun hfinishing=>(nomatch hfinishing)

theorem settle_ended (hended:s.ended=s.terminalEmitted) (hphase:s.phase=.finishing) : (settle env s).ended=true:=by
 unfold settle SandRunInferenceStream.emitEndOnce
 rw [if_pos hphase]
 split_ifs with hemitted
 · exact hended.trans hemitted
 · rfl

theorem settle_pending (hemitted:s.terminalEmitted=false) (hphase:s.phase=.finishing) :
 (settle env s).pending = s.pending++modelItems (env.flushToolBuffers s.tools).1++[.ok .finished]:=by
 unfold settle SandRunInferenceStream.emitEndOnce
 rw [if_pos hphase]
 exact congrArg SandRunInferenceStream.pending (if_neg (by
  change ¬s.terminalEmitted=true
  rw [hemitted]
  exact Bool.false_ne_true))

theorem final_ended (h:(settle env s).ended=true) (groups:List (List ConnectFrame)) :
 final env s groups=settle env s:=by
 cases groups with
 | nil=>exact if_pos h
 | cons group groups=>exact if_pos h

theorem final_cons (hphase:s.phase ≠ .finishing) (group:List ConnectFrame) (groups:List (List ConnectFrame)) :
 final env s (group::groups) = final env (group.foldl (SandRunInferenceStream.queueFrame env) s) groups:=by
 cases hended:s.ended with
 | true=>
  have hsettled:(settle env s).ended=true:=by
   rw [settle_going hphase]
   exact hended
  rw [ended_frames hended,final_ended hsettled,final_ended hsettled]
 | false=>
  rw [final,settle_going hphase,hended]
  exact if_neg Bool.false_ne_true

variable {own:String} {strict:Prop}

theorem final_finishing (h:Inv env own strict s) (hphase:s.phase=.finishing)
 (groups:List (List ConnectFrame)) : final env s groups=settle env s :=
 final_ended (settle_ended h.ended hphase) groups

theorem error_ended (h:Inv env own strict s) (error:CursorError) : (s.queueTerminalError error).ended=true:=by
 unfold SandRunInferenceStream.queueTerminalError
 split_ifs with hemitted
 · exact h.ended.trans hemitted
 · rfl

variable {group:List ConnectFrame}

theorem singles_quiet (h:Inv env own strict s) (hphase:s.phase ≠ .finishing)
 (hquiet:TrailQuiet env s group) (rest:List (List ConnectFrame)) :
 final env s (singles group++rest) = final env (group.foldl (SandRunInferenceStream.queueFrame env) s) rest:=by
 induction group generalizing s with
 | nil=>rfl
 | cons frame group ih=>
  obtain ⟨-,hquiet⟩:=trailQuiet_cons.mp hquiet
  have hnext:=h.frame frame
  change final env s ([frame]::(singles group++rest))=_
  rw [final_cons hphase]
  change final env (s.queueFrame env frame) _ =
   final env (group.foldl (SandRunInferenceStream.queueFrame env) (s.queueFrame env frame)) rest
  by_cases hfinishing:(s.queueFrame env frame).phase=.finishing
  · rw [quiet_frames ((trailQuiet_finishing hfinishing).mp hquiet),
     final_finishing hnext hfinishing,final_finishing hnext hfinishing]
  · exact ih hnext hfinishing hquiet

theorem singles_loud (h:Inv env own strict s) (hphase:s.phase ≠ .finishing)
 (hloud:¬TrailQuiet env s group) (rest:List (List ConnectFrame)) :
 ∃ mid error,Inv env own strict mid ∧ mid.phase=.finishing ∧ mid.terminalEmitted=false ∧
  group.foldl (SandRunInferenceStream.queueFrame env) s=mid.queueTerminalError error ∧
  final env s (singles group++rest)=settle env mid:=by
 induction group generalizing s with
 | nil=>exact (hloud fun before frame after hsplit=>by simp at hsplit).elim
 | cons frame group ih=>
  have hnext:=h.frame frame
  have hloud:¬TrailQuiet env (s.queueFrame env frame) group:=fun hquiet=>
   hloud (trailQuiet_cons.mpr ⟨fun hfinishing=>(hphase hfinishing).elim,hquiet⟩)
  have hfinal:final env s (singles (frame::group)++rest) =
   final env (s.queueFrame env frame) (singles group++rest) := final_cons hphase _ _
  rw [hfinal,List.foldl_cons]
  by_cases hfinishing:(s.queueFrame env frame).phase=.finishing
  · rcases frame_begun frame hfinishing with hbefore | ⟨-,hended,hemitted⟩
    · exact (hphase hbefore).elim
    · have hgoing:s.ended=false:=by
       rw [Bool.eq_false_iff]
       intro htrue
       rw [ended_frame htrue] at hfinishing
       exact hphase hfinishing
      rw [hgoing] at hended
      rw [← h.ended,hgoing] at hemitted
      have hsome:∃ other∈group,quiet env other=false:=by
       by_contra hnone
       refine hloud ((trailQuiet_finishing hfinishing).mpr fun other hmem=>?_)
       rw [← Bool.not_eq_false]
       exact fun hother=>hnone ⟨other,hmem,hother⟩
      obtain ⟨error,herror⟩:=loud_frames hfinishing hended hemitted hsome
      exact ⟨_,error,hnext,hfinishing,hemitted,herror,final_finishing hnext hfinishing _⟩
  · exact ih hnext hfinishing hloud

theorem untrailed_cons {groups:List (List ConnectFrame)} :
 Untrailed env s (group::groups) ↔ (s.phase ≠ .finishing → TrailQuiet env s group) ∧
  Untrailed env (group.foldl (SandRunInferenceStream.queueFrame env) s) groups:=by
 have hfold (before:List (List ConnectFrame)) :
  (group::before).flatten.foldl (SandRunInferenceStream.queueFrame env) s =
   before.flatten.foldl (SandRunInferenceStream.queueFrame env)
    (group.foldl (SandRunInferenceStream.queueFrame env) s):=by
  rw [List.flatten_cons,List.foldl_append]
 constructor
 · intro h
   refine ⟨h [] group groups rfl,fun before later after hsplit=>?_⟩
   rw [← hfold]
   exact h (group::before) later after (by rw [hsplit]; rfl)
 · intro ⟨hfirst,hrest⟩ before later after hsplit
   cases before with
   | nil=>
    obtain ⟨rfl,rfl⟩:=List.cons.inj hsplit
    exact hfirst
   | cons first before=>
    obtain ⟨rfl,htail⟩:=List.cons.inj hsplit
    rw [hfold]
    exact hrest before later after htail

theorem final_singles_iff (h:Inv env own strict s) (groups:List (List ConnectFrame)) :
 (final env s groups).pending=(final env s (singles groups.flatten)).pending ↔ Untrailed env s groups:=by
 induction groups generalizing s with
 | nil=>exact ⟨fun _ before group after hsplit=>by simp at hsplit,fun _=>rfl⟩
 | cons group groups ih=>
  rw [untrailed_cons]
  by_cases hphase:s.phase=.finishing
  · rw [final_finishing h hphase,final_finishing h hphase]
    have hrest:Untrailed env (group.foldl (SandRunInferenceStream.queueFrame env) s) groups :=
     by
     intro before later after _ hopen
     exact (hopen (finishing_frames (finishing_frames hphase _) _)).elim
    exact ⟨fun _=>⟨fun hopen=>(hopen hphase).elim,hrest⟩,fun _=>rfl⟩
  · have hsingles:singles (group::groups).flatten = singles group++singles groups.flatten:=by
     unfold singles
     rw [List.flatten_cons,List.map_append]
    rw [hsingles,final_cons hphase]
    by_cases hquiet:TrailQuiet env s group
    · rw [singles_quiet h hphase hquiet,ih (h.frames group)]
      exact ⟨fun hrest=>⟨fun _=>hquiet,hrest⟩,fun hall=>hall.2⟩
    · obtain ⟨mid,error,hmid,hfinishing,hemitted,hfailed,hfinal⟩ :=
       singles_loud h hphase hquiet (singles groups.flatten)
      refine ⟨fun hsame=>?_,fun hall=>(hquiet (hall.1 hphase)).elim⟩
      have hfailing:(mid.queueTerminalError error).phase=.finishing:=by
       rw [error_phase]
       exact hfinishing
      have herror:(final env (mid.queueTerminalError error) groups).pending = mid.pending++[.error error]:=by
       rw [final_finishing (hmid.error error) hfailing]
       unfold settle SandRunInferenceStream.emitEndOnce
       rw [if_pos hfailing]
       unfold SandRunInferenceStream.queueTerminalError
       rw [hemitted]
       rfl
      rw [hfinal,hfailed,herror,settle_pending hemitted hfinishing,List.append_assoc] at hsame
      have hlast:=congrArg List.getLast? (List.append_cancel_left hsame)
      rw [List.getLast?_concat,List.getLast?_singleton] at hlast
      cases hlast

/-- The same stream with more in front of its queue, another buffer and notes of what it
yielded. -/
def Ahead (front:List (Item ε)) (decoder:ConnectFrameDecoder) (items:List (Item ε))
 (s t:SandRunInferenceStream τ ε) : Prop :=
 ∃ notes,yielded notes=items ∧ t={ s with decoder := decoder,pending := front++s.pending,notes := notes }

variable {front items:List (Item ε)} {decoder:ConnectFrameDecoder}

theorem yielded_silent {notes:List (Note ε)} (h:yielded notes=items) {note:Note ε}
 (hsilent:yieldedItem note=none) : yielded (notes++[note])=items:=by
 rw [yielded_push,hsilent,h]
 exact List.append_nil _

theorem Ahead.refl (s:SandRunInferenceStream τ ε) : Ahead [] s.decoder (yielded s.notes) s s := ⟨s.notes,rfl,rfl⟩

theorem Ahead.note (h:Ahead front decoder items s t) (first second:Note ε) (hsilent:yieldedItem second=none) :
 Ahead front decoder items (s.note first) (t.note second):=by
 obtain ⟨notes,hitems,rfl⟩:=h
 exact ⟨notes++[second],yielded_silent hitems hsilent,rfl⟩

theorem Ahead.error (h:Ahead front decoder items s t) (error:CursorError) :
 Ahead front decoder items (s.queueTerminalError error) (t.queueTerminalError error):=by
 obtain ⟨notes,hitems,rfl⟩:=h
 unfold SandRunInferenceStream.queueTerminalError
 dsimp only
 split_ifs
 · exact ⟨notes,hitems,rfl⟩
 · exact ⟨notes,hitems,by simp⟩

theorem Ahead.events (h:Ahead front decoder items s t) (produced:List ε×τ) :
 Ahead front decoder items (s.queueEvents produced) (t.queueEvents produced):=by
 obtain ⟨notes,hitems,rfl⟩:=h
 exact ⟨notes,hitems,by simp [SandRunInferenceStream.queueEvents]⟩

theorem Ahead.emitEnd (h:Ahead front decoder items s t) :
 Ahead front decoder items (s.emitEndOnce env) (t.emitEndOnce env):=by
 have hevents:=h
 obtain ⟨notes,hitems,rfl⟩:=h
 unfold SandRunInferenceStream.emitEndOnce
 dsimp only
 split_ifs
 · exact hevents
 · exact ⟨notes,hitems,by simp [SandRunInferenceStream.queueEvents]⟩

theorem Ahead.settled (h:Ahead front decoder items s t) : Ahead front decoder items (settle env s) (settle env t):=by
 have hsame:=h
 obtain ⟨notes,hitems,rfl⟩:=h
 unfold settle
 dsimp only
 split_ifs
 · exact Ahead.emitEnd ⟨notes++[.consumed],yielded_silent hitems rfl,rfl⟩
 · exact hsame

theorem Ahead.invoke (h:Ahead front decoder items s t) :
 Ahead front decoder items (s.sendInvokeModel env).1 (t.sendInvokeModel env).1 ∧
  (s.sendInvokeModel env).2=(t.sendInvokeModel env).2:=by
 have hfields:t.invokeFrame=s.invokeFrame ∧ t.requestOpen=s.requestOpen:=by
  obtain ⟨notes,hitems,rfl⟩:=h
  exact ⟨rfl,rfl⟩
 have htaken:Ahead front decoder items { s with invokeFrame:=none }
  { t with invokeFrame := none,requestOpen := s.requestOpen }:=by
  obtain ⟨notes,hitems,rfl⟩:=h
  exact ⟨notes,hitems,rfl⟩
 unfold SandRunInferenceStream.sendInvokeModel
 rw [hfields.1,hfields.2]
 cases s.invokeFrame with
 | none=>exact ⟨h,rfl⟩
 | some frame=>
  dsimp only
  split_ifs
  · exact ⟨htaken,rfl⟩
  · cases env.takesInvoke with
    | error error=>exact ⟨htaken,rfl⟩
    | ok=>exact ⟨htaken.note _ _ rfl,rfl⟩

theorem Ahead.runReady (h:Ahead front decoder items s t) (ready:JsonValue) :
 Ahead front decoder items (s.queueRunReady env ready) (t.queueRunReady env ready):=by
 have hphase:t.phase=s.phase:=by
  obtain ⟨notes,hitems,rfl⟩:=h
  rfl
 unfold SandRunInferenceStream.queueRunReady
 rw [hphase]
 split_ifs
 · exact h.error _
 · cases resolvedModelId ready with
   | none=>exact h.error _
   | some modelId=>
    have hnoted:=h.note (.runReady modelId) (.runReady modelId) rfl
    obtain ⟨hsent,hresult⟩:=hnoted.invoke 
    dsimp only
    generalize (s.note (.runReady modelId)).sendInvokeModel env=first at hsent hresult ⊢
    generalize (t.note (.runReady modelId)).sendInvokeModel env=second at hsent hresult ⊢
    obtain ⟨sent,result⟩:=first
    obtain ⟨sent',result'⟩:=second
    obtain rfl : result=result':=hresult
    cases result with
    | error error=>exact hsent.error _
    | ok=>
     obtain ⟨notes,hitems,hrecord⟩:=hsent
     exact ⟨notes,hitems,congrArg (fun t=>{ t with phase := .awaitInvocation }) hrecord⟩

theorem Ahead.invocationResponse (h:Ahead front decoder items s t) (reply:JsonValue) :
 Ahead front decoder items (s.queueInvocationResponse env reply) (t.queueInvocationResponse env reply):=by
 have hsame:=h
 obtain ⟨notes,hitems,rfl⟩:=h
 unfold SandRunInferenceStream.queueInvocationResponse SandRunInferenceStream.own
 dsimp only
 split_ifs
 · exact hsame.error _
 · exact hsame
 · cases reply.get "response" with
   | none=>exact hsame.error _
   | some response=>
    have hnoted:=hsame.note (.response s.invocationId response) (.response s.invocationId response) rfl
    unfold SandRunInferenceStream.queueInferenceResponse
    dsimp only
    cases env.jsonError response with
    | some error=>exact hnoted.error _
    | none=>exact hnoted.events _

theorem Ahead.finish (h:Ahead front decoder items s t) :
 Ahead front decoder items (s.beginFinishRequestBody env).1 (t.beginFinishRequestBody env).1 ∧
  (s.beginFinishRequestBody env).2=(t.beginFinishRequestBody env).2:=by
 have hsame:=h
 obtain ⟨notes,hitems,rfl⟩:=h
 unfold SandRunInferenceStream.beginFinishRequestBody
 dsimp only
 split_ifs
 · exact ⟨hsame,rfl⟩
 · cases env.takesFinish with
   | error error=>exact ⟨hsame,rfl⟩
   | ok=>exact ⟨⟨notes++[.finishRun],yielded_silent hitems rfl,rfl⟩,rfl⟩

theorem Ahead.invocationEnd (h:Ahead front decoder items s t) (message:JsonValue) :
 Ahead front decoder items (s.queueInvocationEnd env message) (t.queueInvocationEnd env message):=by
 have hfields:t.phase=s.phase ∧ t.invocationId=s.invocationId:=by
  obtain ⟨notes,hitems,rfl⟩:=h
  exact ⟨rfl,rfl⟩
 unfold SandRunInferenceStream.queueInvocationEnd SandRunInferenceStream.own
 rw [hfields.1,hfields.2]
 split_ifs
 · exact h.error _
 · exact h
 · obtain ⟨notes,hitems,rfl⟩:=h
   exact Ahead.error ⟨notes++[.invocationEnd s.invocationId true],yielded_silent hitems rfl,rfl⟩ _
 · have hnoted:=h.note (.invocationEnd s.invocationId false) (.invocationEnd s.invocationId false) rfl
   obtain ⟨hbegun,hresult⟩:=hnoted.finish 
   generalize (s.note _).beginFinishRequestBody env=first at hbegun hresult ⊢
   generalize (t.note _).beginFinishRequestBody env=second at hbegun hresult ⊢
   obtain ⟨begun,result⟩:=first
   obtain ⟨begun',result'⟩:=second
   obtain rfl : result=result':=hresult
   cases result with
   | error error=>exact hbegun.error _
   | ok=>exact hbegun

theorem Ahead.frame (h:Ahead front decoder items s t) (frame:ConnectFrame) :
 Ahead front decoder items (s.queueFrame env frame) (t.queueFrame env frame):=by
 have hsame:=h
 obtain ⟨notes,hitems,rfl⟩:=h
 unfold SandRunInferenceStream.queueFrame
 dsimp only
 split_ifs
 · exact hsame
 · exact hsame
 · unfold SandRunInferenceStream.queueEndFrame
   dsimp only
   split
   · exact hsame.error _
   · split_ifs
     · exact hsame.error _
     · exact hsame
 · cases framePayload env frame with
   | error error=>exact hsame.error _
   | ok payload=>
    dsimp only
    split_ifs
    · exact hsame
    · cases env.fromSlice payload with
      | error error=>exact hsame.error _
      | ok value=>
       dsimp only
       unfold SandRunInferenceStream.queueServerMessage
       split_ifs
       · exact hsame.error _
       · exact hsame.error _
       · exact hsame
       · split
         · exact hsame.runReady _
         · exact hsame.invocationResponse _
         · exact hsame.invocationEnd _
         · exact hsame

theorem Ahead.frames (h:Ahead front decoder items s t) (frames:List ConnectFrame) :
 Ahead front decoder items (frames.foldl (SandRunInferenceStream.queueFrame env) s)
  (frames.foldl (SandRunInferenceStream.queueFrame env) t):=by
 induction frames generalizing s t with
 | nil=>exact h
 | cons frame frames ih=>exact ih (h.frame frame)

theorem Ahead.final_pending (h:Ahead front decoder items s t) (groups : List (List ConnectFrame)) :
 (final env t groups).pending=front++(final env s groups).pending:=by
 have hsame {s t:SandRunInferenceStream τ ε} (h:Ahead front decoder items s t) :
  t.pending=front++s.pending ∧ t.ended=s.ended:=by
  obtain ⟨notes,hitems,rfl⟩:=h
  exact ⟨rfl,rfl⟩
 induction groups generalizing s t with
 | nil=>
  have hsettled:Ahead front decoder items (settle env s) (settle env t):=h.settled
  unfold final
  rw [(hsame hsettled).2]
  split_ifs
  · exact (hsame hsettled).1
  · exact (hsame (hsettled.error _)).1
 | cons group groups ih=>
  have hsettled:Ahead front decoder items (settle env s) (settle env t):=h.settled
  unfold final
  rw [(hsame hsettled).2]
  split_ifs
  · exact (hsame hsettled).1
  · exact ih (hsettled.frames group)

/-- What is ready in one turn: the acknowledgement, and the next chunk or the body's end. -/
structure Ready where
 ack : Bool
 body : Bool

structure Delivery (τ ε:Type*) where
 stream : SandRunInferenceStream τ ε
 chunks : List (List UInt8)

def bodyAnswer : List (List UInt8) → BodyAnswer
 | []=>.eof
 | chunk::_=>.chunk chunk

def readsBody (s:SandRunInferenceStream τ ε) : Bool :=
 s.pending.isEmpty&&s.phase != .finishing&&!s.ended

namespace Delivery

def answer (d:Delivery τ ε) (ready:Ready) : Answer where
 ack := if ready.ack then .consumed else .pending
 body := if ready.body then bodyAnswer d.chunks else .pending

def step (env:InferenceEnv τ ε) (d:Delivery τ ε) (ready:Ready) : Delivery τ ε where
 stream := d.stream.step env (d.answer ready)
 chunks := if ready.body&&readsBody d.stream then d.chunks.tail else d.chunks

def after (env:InferenceEnv τ ε) (d:Delivery τ ε) (schedule:List Ready) : Delivery τ ε :=
 schedule.foldl (step env) d

def Drained (d:Delivery τ ε) : Prop :=
 d.stream.pending=[] ∧ d.stream.phase ≠ .finishing ∧ d.stream.ended=true

end Delivery

def deliver (env:InferenceEnv τ ε) (invocationId:String) (chunks:List (List UInt8))
 (schedule:List Ready) : Delivery τ ε :=
 Delivery.after env ⟨.new env invocationId,chunks⟩ schedule

/-- Some schedule drains the stream, with these items in all. -/
def Yields (env:InferenceEnv τ ε) (invocationId:String) (chunks:List (List UInt8)) (items:List (Item ε)) : Prop :=
 ∃ schedule,(deliver env invocationId chunks schedule).Drained ∧
  yielded (deliver env invocationId chunks schedule).stream.notes=items

def groups (decoder:ConnectFrameDecoder) : List (List UInt8) → List (List ConnectFrame)
 | []=>[]
 | chunk::chunks=>match decoder.pushWithLimit chunk maxSandFramePayload with
  | (next,.ok frames)=>frames::groups next chunks
  | (_,.error _)=>[]

def Whole (decoder:ConnectFrameDecoder) (chunks:List (List UInt8)) : Prop :=
 ∃ frames,feedChunks maxSandFramePayload decoder chunks=⟨frames,false,[]⟩

theorem Whole.nil {decoder:ConnectFrameDecoder} (h:Whole decoder []) : decoder.buffered=0:=by
 obtain ⟨frames,hfeed⟩:=h
 injection hfeed with _ _ hresidual
 exact congrArg List.length hresidual

theorem Whole.cons {decoder:ConnectFrameDecoder} {chunk:List UInt8}
 {chunks:List (List UInt8)} (h:Whole decoder (chunk::chunks)) :
 ∃ next frames,decoder.pushWithLimit chunk maxSandFramePayload=(next,.ok frames) ∧ Whole next chunks:=by
 obtain ⟨all,hfeed⟩:=h
 unfold feedChunks at hfeed
 split at hfeed
 · next next frames hpush=>
   refine ⟨next,frames,hpush,(feedChunks maxSandFramePayload next chunks).frames,?_⟩
   injection hfeed with _ hfailed hresidual
   exact FeedOutcome.ext rfl hfailed hresidual
 · injection hfeed with _ hfailed
   cases hfailed

variable {chunks:List (List UInt8)}

theorem groups_flatten {decoder:ConnectFrameDecoder} (h:Whole decoder chunks) :
 (groups decoder chunks).flatten = (feedChunks maxSandFramePayload decoder chunks).frames:=by
 induction chunks generalizing decoder with
 | nil=>rfl
 | cons chunk chunks ih=>
  obtain ⟨next,frames,hpush,hrest⟩:=h.cons
  unfold groups feedChunks
  rw [hpush]
  exact congrArg (frames ++ ·) (ih hrest)

structure Good (env:InferenceEnv τ ε) (own:String) (d:Delivery τ ε) : Prop where
 inv : Inv env own False d.stream
 asked : Asked d.stream
 whole : Whole d.stream.decoder d.chunks

/-- The items that were taken and those still to come. -/
def total (env:InferenceEnv τ ε) (d:Delivery τ ε) : List (Item ε) :=
 yielded d.stream.notes++(final env d.stream (groups d.stream.decoder d.chunks)).pending

/-- The stream goes on, with more yielded in the same measure as less is to come. -/
def Keeps (env:InferenceEnv τ ε) (d:Delivery τ ε) (next:SandRunInferenceStream τ ε) (chunks:List (List UInt8)) : Prop :=
 Asked next ∧ Whole next.decoder chunks ∧ total env ⟨next,chunks⟩=total env d

variable {d:Delivery τ ε}

theorem keeps_popped (h:Good env own d) {item:Item ε} {pending:List (Item ε)}
 (hpending:d.stream.pending=item::pending) :
 Keeps env d ({ d.stream with pending := pending }.note (.polled (.item item))) d.chunks:=by
 refine ⟨h.asked,h.whole,?_⟩
 have hahead:Ahead [item] d.stream.decoder (yielded d.stream.notes)
  ({ d.stream with pending := pending }.note (.polled (.item item))) d.stream:=by
  refine ⟨d.stream.notes,rfl,?_⟩
  change d.stream={ d.stream with pending := item::pending }
  rw [← hpending]
 unfold total
 rw [hahead.final_pending]
 change yielded (d.stream.notes++[_])++_=_
 rw [yielded_push,List.append_assoc]
 rfl

theorem keeps_nothing (h:Good env own d) {answer:Polled ε} (hnothing:yieldedItem (.polled answer)=none) :
 Keeps env d (d.stream.note (.polled answer)) d.chunks:=by
 refine ⟨h.asked,h.whole,?_⟩
 have hahead:Ahead [] d.stream.decoder (yielded d.stream.notes) d.stream (d.stream.note (.polled answer)) :=
  ⟨d.stream.notes++[.polled answer],yielded_silent rfl hnothing,rfl⟩
 unfold total
 rw [hahead.final_pending]
 change yielded (d.stream.notes++[_])++_=_
 rw [yielded_silent rfl hnothing]
 rfl

theorem keeps_settled (h:Good env own d) (hphase:d.stream.phase=.finishing) :
 Keeps env d (settle env d.stream) d.chunks:=by
 have hsettled:Ahead [] d.stream.decoder (yielded d.stream.notes) (settle env d.stream)
  (settle env d.stream) := (Ahead.refl d.stream).settled
 obtain ⟨notes,hitems,hsame⟩:=hsettled
 have hdecoder:(settle env d.stream).decoder=d.stream.decoder:=by
  rw [hsame]
 have hyielded:yielded (settle env d.stream).notes=yielded d.stream.notes:=by
  rw [hsame]
  exact hitems
 have hended:(settle env d.stream).ended=true:=settle_ended h.inv.ended hphase
 have hover:(settle env d.stream).phase ≠ .finishing:=settle_over hphase
 have hagain:settle env (settle env d.stream)=settle env d.stream:=settle_going hover
 refine ⟨fun hfinishing=>(hover hfinishing).elim,?_,?_⟩
 · rw [hdecoder]
   exact h.whole
 · unfold total
   dsimp only
   rw [hyielded,final_finishing h.inv hphase,final_ended (by rw [hagain]; exact hended),hagain]

theorem keeps_chunk (h:Good env own d) (hphase:d.stream.phase ≠ .finishing) {chunk:List UInt8}
 (hchunks:d.chunks=chunk::chunks) {next:ConnectFrameDecoder} {frames:List ConnectFrame}
 (hpush:d.stream.decoder.pushWithLimit chunk maxSandFramePayload=(next,.ok frames)) (hwhole:Whole next chunks) :
 Keeps env d (frames.foldl (SandRunInferenceStream.queueFrame env) { d.stream with decoder := next }) chunks:=by
 have hread:Ahead [] next (yielded d.stream.notes) d.stream
  { d.stream with decoder := next } := ⟨d.stream.notes,rfl,rfl⟩
 have hframes:Ahead [] next (yielded d.stream.notes) (frames.foldl (SandRunInferenceStream.queueFrame env) d.stream)
  (frames.foldl (SandRunInferenceStream.queueFrame env) { d.stream with decoder := next }) :=
  hread.frames frames
 have hfinal (groups:List (List ConnectFrame)) :
  (final env (frames.foldl (SandRunInferenceStream.queueFrame env)
   { d.stream with decoder := next }) groups).pending=[]++(final env
     (frames.foldl (SandRunInferenceStream.queueFrame env) d.stream) groups).pending :=
  hframes.final_pending groups
 obtain ⟨notes,hitems,hsame⟩:=hframes
 have hdecoder:=congrArg SandRunInferenceStream.decoder hsame
 have hyielded:=(congrArg (fun s=>yielded (SandRunInferenceStream.notes s)) hsame).trans hitems
 have hasked:Asked { d.stream with decoder:=next } := h.asked
 refine ⟨hasked.frames,?_,?_⟩
 · rw [hdecoder]
   exact hwhole
 · unfold total
   dsimp only at hdecoder hyielded ⊢
   rw [hyielded,hdecoder,hfinal,hchunks,groups,hpush]
   dsimp only
   rw [final_cons hphase]
   rfl

theorem finishAtEof_closed (h:Good env own d) (hopen:¬d.stream.ended=true) (hchunks:d.chunks=[]) :
 d.stream.finishAtEof=d.stream.queueTerminalError closedError:=by
 have hwhole:=h.whole
 rw [hchunks] at hwhole
 unfold SandRunInferenceStream.finishAtEof
 rw [if_neg hopen,hwhole.nil]
 rfl

theorem keeps_eof (h:Good env own d) (hphase:d.stream.phase ≠ .finishing)
 (hopen:¬d.stream.ended=true) (hchunks:d.chunks=[]) : Keeps env d d.stream.finishAtEof []:=by
 have heof:=finishAtEof_closed h hopen hchunks
 have herror:=(Ahead.refl d.stream).error closedError
 obtain ⟨notes,hitems,hsame⟩:=herror
 have hdecoder:=congrArg SandRunInferenceStream.decoder hsame
 have hyielded:=(congrArg (fun s=>yielded (SandRunInferenceStream.notes s)) hsame).trans hitems
 have hnext:(d.stream.queueTerminalError closedError).phase ≠ .finishing:=by
  rw [error_phase]
  exact hphase
 have hended:=error_ended h.inv closedError
 rw [heof]
 refine ⟨fun hfinishing=>(hnext hfinishing).elim,?_,?_⟩
 · rw [hdecoder]
   exact hchunks ▸ h.whole
 · unfold total
   dsimp only at hyielded ⊢
   rw [hyielded,hchunks,final_ended (by rw [settle_going hnext]; exact hended),
    settle_going hnext]
   unfold groups final
   rw [settle_going hphase,if_neg hopen]

theorem step_popped {item:Item ε} {pending:List (Item ε)} (hpending:d.stream.pending=item::pending) (ready:Ready) :
 d.step env ready = ⟨{ d.stream with pending := pending }.note (.polled (.item item)),d.chunks⟩:=by
 have hturn:=turn_popped env hpending (d.answer ready)
 have hbusy:readsBody d.stream=false:=by
  unfold readsBody
  rw [hpending]
  rfl
 unfold Delivery.step
 rw [step_returns (by rw [hturn]),hturn,hbusy,Bool.and_false,if_neg Bool.false_ne_true]

theorem step_finishing (h:Good env own d) (hpending:d.stream.pending=[])
 (hphase:d.stream.phase=.finishing) (ready:Ready) :
 d.step env ready=⟨if ready.ack then settle env d.stream
  else d.stream.note (.polled .pending),d.chunks⟩:=by
 obtain ⟨ack,body⟩:=ready
 have hturn:=turn_finishing env hpending hphase (d.answer ⟨ack,body⟩)
 have hbusy:readsBody d.stream=false:=by
  unfold readsBody
  rw [hphase]
  exact congrArg (· && _) (Bool.and_false _)
 unfold SandRunInferenceStream.pollFinishRequestBody at hturn
 rw [h.asked hphase] at hturn
 unfold Delivery.step
 rw [hbusy,Bool.and_false,if_neg Bool.false_ne_true]
 cases ack with
 | false=>rw [step_returns (by rw [hturn]; rfl),hturn]; rfl
 | true=>
  rw [step_continues (by rw [hturn]; rfl),hturn]
  unfold settle
  rw [if_pos hphase]
  rfl

theorem step_ended (hpending:d.stream.pending=[]) (hphase:d.stream.phase ≠ .finishing)
 (hended:d.stream.ended=true) (ready:Ready) : d.step env ready=⟨d.stream.note (.polled .none),d.chunks⟩:=by
 have hturn:=turn_ended env hpending hphase hended (d.answer ready)
 have hbusy:readsBody d.stream=false:=by
  unfold readsBody
  rw [hended]
  exact Bool.and_false _
 unfold Delivery.step
 rw [step_returns (by rw [hturn]),hturn,hbusy,Bool.and_false,if_neg Bool.false_ne_true]

theorem step_reads (hpending:d.stream.pending=[]) (hphase:d.stream.phase ≠ .finishing)
 (hopen:¬d.stream.ended=true) (ready:Ready) : d.step env ready=if ready.body then
  ⟨d.stream.step env ⟨(d.answer ready).ack,bodyAnswer d.chunks⟩,d.chunks.tail⟩
  else ⟨d.stream.note (.polled .pending),d.chunks⟩:=by
 obtain ⟨ack,body⟩:=ready
 have hturn:=turn_reads env hpending hphase hopen (d.answer ⟨ack,body⟩)
 have hreads:readsBody d.stream=true:=by
  unfold readsBody
  rw [hpending,Bool.eq_false_iff.mpr hopen,bne_iff_ne.mpr hphase]
  rfl
 unfold Delivery.step
 rw [hreads,Bool.and_true]
 cases body with
 | false=>rw [step_returns (by rw [hturn]; rfl),hturn]; rfl
 | true=>rfl

theorem step_chunk (h:Good env own d) (hpending:d.stream.pending=[])
 (hphase:d.stream.phase ≠ .finishing) (hopen:¬d.stream.ended=true) {chunk:List UInt8}
 (hchunks:d.chunks=chunk::chunks) (ack:AckAnswer) :
 ∃ next frames,d.stream.decoder.pushWithLimit chunk maxSandFramePayload = (next,.ok frames) ∧ Whole next chunks ∧
  d.stream.step env ⟨ack,bodyAnswer d.chunks⟩ =
   frames.foldl (SandRunInferenceStream.queueFrame env) { d.stream with decoder := next }:=by
 have hwhole:=h.whole
 rw [hchunks] at hwhole ⊢
 obtain ⟨next,frames,hpush,hrest⟩:=hwhole.cons
 have hread:d.stream.pollBody env (.chunk chunk) =
  (frames.foldl (SandRunInferenceStream.queueFrame env) { d.stream with decoder := next },none):=by
  unfold SandRunInferenceStream.pollBody
  dsimp only
  rw [hpush]
 have hturn:=(turn_reads env hpending hphase hopen ⟨ack,bodyAnswer (chunk::chunks)⟩).trans hread
 refine ⟨next,frames,hpush,hrest,?_⟩
 rw [step_continues (by rw [hturn]),hturn]

theorem step_eof (hpending:d.stream.pending=[]) (hphase:d.stream.phase ≠ .finishing)
 (hopen:¬d.stream.ended=true) (hchunks:d.chunks=[]) (ack:AckAnswer) :
 d.stream.step env ⟨ack,bodyAnswer d.chunks⟩=d.stream.finishAtEof:=by
 have hturn:=turn_reads env hpending hphase hopen ⟨ack,bodyAnswer d.chunks⟩
 rw [hchunks] at hturn ⊢
 rw [step_continues (by rw [hturn]; rfl),hturn]
 rfl

theorem Good.keeps (h:Good env own d) (ready:Ready) :
 Keeps env d (d.step env ready).stream (d.step env ready).chunks:=by
 cases hpending:d.stream.pending with
 | cons item pending=>
  rw [step_popped hpending]
  exact keeps_popped h hpending
 | nil=>
  by_cases hphase:d.stream.phase=.finishing
  · rw [step_finishing h hpending hphase]
    cases ready.ack with
    | false=>exact keeps_nothing h rfl
    | true=>exact keeps_settled h hphase
  · by_cases hended:d.stream.ended=true
    · rw [step_ended hpending hphase hended]
      exact keeps_nothing h rfl
    · rw [step_reads hpending hphase hended]
      cases ready.body with
      | false=>exact keeps_nothing h rfl
      | true=>
       cases hchunks:d.chunks with
       | nil=>
        rw [if_pos rfl,← hchunks,step_eof hpending hphase hended hchunks,hchunks]
        exact keeps_eof h hphase hended hchunks
       | cons chunk chunks=>
        obtain ⟨next,frames,hpush,hrest,hstep⟩ :=
         step_chunk h hpending hphase hended hchunks (d.answer ready).ack
        rw [if_pos rfl,← hchunks,hstep,hchunks]
        exact keeps_chunk h hphase hchunks hpush hrest

theorem Good.step (h:Good env own d) (ready:Ready) : Good env own (d.step env ready):=by
 obtain ⟨hasked,hwhole,-⟩:=h.keeps ready
 exact ⟨h.inv.step fun hfalse=>hfalse.elim,hasked,hwhole⟩

theorem Good.after (h:Good env own d) (schedule:List Ready) :
 Good env own (d.after env schedule) ∧ total env (d.after env schedule)=total env d:=by
 induction schedule generalizing d with
 | nil=>exact ⟨h,rfl⟩
 | cons ready schedule ih=>
  obtain ⟨hgood,htotal⟩:=ih (h.step ready)
  exact ⟨hgood,htotal.trans (h.keeps ready).2.2⟩

theorem drained_total (h:d.Drained) : total env d=yielded d.stream.notes:=by
 obtain ⟨hpending,hphase,hended⟩:=h
 unfold total
 rw [final_ended (by rw [settle_going hphase]; exact hended),settle_going hphase,hpending]
 exact List.append_nil _

def alwaysReady : Ready := ⟨true,true⟩

theorem after_append (d:Delivery τ ε) (first second:List Ready) :
 d.after env (first++second)=(d.after env first).after env second :=
 List.foldl_append

theorem pops (env:InferenceEnv τ ε) (d:Delivery τ ε) :
 ∃ schedule notes,d.after env schedule = ⟨{ d.stream with pending := [],notes := notes },d.chunks⟩:=by
 obtain ⟨stream,chunks⟩:=d
 generalize hpending : stream.pending=pending
 induction pending generalizing stream with
 | nil=>exact ⟨[],stream.notes,by rw [← hpending]; rfl⟩
 | cons item pending ih=>
  obtain ⟨schedule,notes,hafter⟩ :=
   ih ({ stream with pending := pending }.note (.polled (.item item))) rfl
  have hstep:Delivery.step env ⟨stream,chunks⟩ alwaysReady=_:=step_popped hpending _
  refine ⟨alwaysReady::schedule,notes,?_⟩
  change (Delivery.step env ⟨stream,chunks⟩ alwaysReady).after env schedule=_
  rw [hstep]
  exact hafter

theorem drains_over (hphase:d.stream.phase ≠ .finishing) (hended:d.stream.ended=true) :
 ∃ schedule,(d.after env schedule).Drained:=by
 obtain ⟨schedule,notes,hafter⟩:=pops env d
 refine ⟨schedule,?_⟩
 rw [hafter]
 exact ⟨rfl,hphase,hended⟩

theorem after_cons (d:Delivery τ ε) (ready:Ready) (schedule:List Ready) :
 d.after env (ready::schedule)=(d.step env ready).after env schedule := rfl

theorem Good.drains_from (h:Good env own d)
 (hread:∀ t:Delivery τ ε,Good env own t → t.chunks=d.chunks → t.stream.pending=[] →
  t.stream.phase ≠ .finishing → ¬t.stream.ended=true →
   ∃ schedule,((t.step env alwaysReady).after env schedule).Drained) :
 ∃ schedule,(d.after env schedule).Drained:=by
 obtain ⟨first,notes,hfirst⟩:=pops env d
 have hgood:=(h.after first).1
 have hpending:(d.after env first).stream.pending=[]:=by rw [hfirst]
 have hchunks:(d.after env first).chunks=d.chunks:=by rw [hfirst]
 suffices hrest : ∃ schedule,((d.after env first).after env schedule).Drained by
  obtain ⟨schedule,hdrained⟩:=hrest
  exact ⟨first++schedule,by rw [after_append]; exact hdrained⟩
 generalize d.after env first=t at hgood hpending hchunks
 by_cases hphase:t.stream.phase=.finishing
 · have hover:∃ schedule,(Delivery.after env ⟨settle env t.stream,t.chunks⟩ schedule).Drained :=
    drains_over (settle_over hphase) (settle_ended hgood.inv.ended hphase)
   obtain ⟨schedule,hdrained⟩:=hover
   refine ⟨alwaysReady::schedule,?_⟩
   rw [after_cons,step_finishing hgood hpending hphase]
   exact hdrained
 · by_cases hended:t.stream.ended=true
   · exact ⟨[],hpending,hphase,hended⟩
   · obtain ⟨schedule,hdrained⟩:=hread t hgood hchunks hpending hphase hended
     exact ⟨alwaysReady::schedule,hdrained⟩

theorem Good.drains (h:Good env own d) : ∃ schedule,(d.after env schedule).Drained:=by
 generalize hleft : d.chunks=left
 induction left generalizing d with
 | nil=>
  refine h.drains_from fun t hgood hchunks hpending hphase hopen=>?_
  rw [hleft] at hchunks
  have heof:=finishAtEof_closed hgood hopen hchunks
  rw [step_reads hpending hphase hopen]
  apply drains_over
  · change (t.stream.step env _).phase≠_
    rw [step_eof hpending hphase hopen hchunks,heof,error_phase]
    exact hphase
  · change (t.stream.step env _).ended=_
    rw [step_eof hpending hphase hopen hchunks,heof]
    exact error_ended hgood.inv closedError
 | cons chunk chunks ih=>
  refine h.drains_from fun t hgood hchunks hpending hphase hopen=>?_
  rw [hleft] at hchunks
  apply ih (hgood.step alwaysReady)
  rw [step_reads hpending hphase hopen]
  exact congrArg List.tail hchunks

/-- Cut in this way, the frames yield what they yield when each comes in a chunk of its own. -/
def CutIndependent (env:InferenceEnv τ ε) (invocationId:String)
 (chunks:List (List UInt8)) (frames:List ConnectFrame) : Prop :=
 ∀ items,Yields env invocationId chunks items ↔ Yields env invocationId
  (frames.map fun frame=>encodeConnectFrame frame.payload frame.flags) items

theorem good_new (env:InferenceEnv τ ε) (invocationId:String) {frames:List ConnectFrame}
 (hlimit:WithinLimit maxSandFramePayload frames) (hchunks:chunks.flatten=encodeFrames frames) :
 Good env invocationId ⟨.new env invocationId,chunks⟩ :=
 ⟨inv_new env False invocationId,fun hfinishing=>(nomatch hfinishing),frames,
  feedChunks_encodeFrames maxSandFramePayload frames chunks hlimit hchunks⟩

theorem yields_iff (env:InferenceEnv τ ε) (invocationId:String) {frames:List ConnectFrame}
 (hlimit:WithinLimit maxSandFramePayload frames) (hchunks:chunks.flatten=encodeFrames frames) (items:List (Item ε)) :
 Yields env invocationId chunks items ↔ items=(final env (.new env invocationId) (groups .new chunks)).pending:=by
 have hgood:=good_new env invocationId hlimit hchunks
 have hall (schedule:List Ready) (hdrained:(deliver env invocationId chunks schedule).Drained) :
  yielded (deliver env invocationId chunks schedule).stream.notes =
   (final env (.new env invocationId) (groups .new chunks)).pending:=by
  have hyielded:total env (deliver env invocationId chunks schedule)=_ :=
   drained_total hdrained
  rw [← hyielded]
  exact (hgood.after schedule).2
 constructor
 · intro ⟨schedule,hdrained,hitems⟩
   exact hitems.symm.trans (hall schedule hdrained)
 · intro hitems
   obtain ⟨schedule,hdrained⟩:=hgood.drains
   exact ⟨schedule,hdrained,(hall schedule hdrained).trans hitems.symm⟩

def encodeFrame (frame:ConnectFrame) : List UInt8 :=
 encodeConnectFrame frame.payload frame.flags

theorem groups_singles {frames:List ConnectFrame} (hlimit:WithinLimit maxSandFramePayload frames) :
 groups .new (frames.map encodeFrame)=singles frames:=by
 induction frames with
 | nil=>rfl
 | cons frame frames ih=>
  obtain ⟨hmax,h32⟩:=hlimit frame List.mem_cons_self
  have hempty:(drainLoop maxSandFramePayload).run []=⟨[],[],none⟩ :=
   (drainLoop maxSandFramePayload).run_done rfl
  have hrun:=run_encoded_frame frame [] hmax h32
  rw [List.append_nil,hempty] at hrun
  have hpush:ConnectFrameDecoder.new.pushWithLimit (encodeFrame frame) maxSandFramePayload = (.new,.ok [frame]):=by
   rw [pushWithLimit_eq]
   unfold encodeFrame
   change (ConnectFrameDecoder.mk ((drainLoop maxSandFramePayload).run
    (encodeConnectFrame frame.payload frame.flags)).state,_)=_
   rw [show ConnectFrameDecoder.new.buffer++encodeConnectFrame frame.payload frame.flags =
    encodeConnectFrame frame.payload frame.flags from rfl,hrun]
   rfl
  rw [List.map_cons,groups,hpush]
  exact congrArg ([frame] :: ·) (ih fun other hmem=>hlimit other (List.mem_cons_of_mem _ hmem))

/-- The cutting does not matter exactly if no chunk completes a frame that says something behind
the one that begins the finish of the request body. -/
theorem cutIndependent_iff (env:InferenceEnv τ ε) (invocationId:String)
    {frames:List ConnectFrame} (hlimit:WithinLimit maxSandFramePayload frames)
    {chunks:List (List UInt8)} (hchunks:chunks.flatten=encodeFrames frames) :
    (∃ items,Yields env invocationId chunks items) ∧
      (CutIndependent env invocationId chunks frames ↔ Untrailed env (.new env invocationId) (groups .new chunks)):=by
  have hcut:=yields_iff env invocationId hlimit hchunks
  have hapart:=yields_iff env invocationId hlimit (show (frames.map encodeFrame).flatten=encodeFrames frames from rfl)
  rw [groups_singles hlimit] at hapart
  have hflatten:(groups .new chunks).flatten=frames:=by
    have hfeed:=feedChunks_encodeFrames maxSandFramePayload frames chunks hlimit hchunks
    rw [groups_flatten ⟨frames,hfeed⟩,hfeed]
  have hsame:=final_singles_iff (inv_new env False invocationId) (groups .new chunks)
  rw [hflatten] at hsame
  refine ⟨⟨_,(hcut _).mpr rfl⟩,Iff.trans ?_ hsame⟩
  constructor
  · intro hindependent
    exact (hapart _).mp ((hindependent _).mp ((hcut _).mpr rfl))
  · intro hpending items
    rw [hcut,hpending]
    exact (hapart items).symm

def readyFrame : ConnectFrame := ⟨0,[1]⟩
def invocationEndFrame : ConnectFrame := ⟨0,[2]⟩
def endFrame : ConnectFrame := ⟨2,[]⟩

/-- A cut inside the first header, and a chunk with both frames. -/
theorem cutIndependent_iff_headers :
    CutIndependent numberedEnv "inv-1" [[0,0,0],[0,1,1,0,0,0,0,1,2]] [readyFrame,invocationEndFrame]:=by
  refine (cutIndependent_iff numberedEnv "inv-1" (by decide) (by decide)).2.mpr ?_
  have hgroups:groups .new [[0,0,0],[0,1,1,0,0,0,0,1,2]] = [[],[readyFrame,invocationEndFrame]] := by decide +kernel
  have hready:(SandRunInferenceStream.queueFrame numberedEnv (.new numberedEnv "inv-1")
      readyFrame).phase ≠ .finishing := by decide +kernel
  rw [hgroups,untrailed_cons,untrailed_cons]
  refine ⟨fun _ before frame after hsplit=>by simp at hsplit,fun _=>?_,
    fun before group after hsplit=>by simp at hsplit⟩
  rw [trailQuiet_cons,trailQuiet_cons]
  exact ⟨fun hfinishing=>(nomatch hfinishing),fun hfinishing=>(hready hfinishing).elim,
    fun before frame after hsplit=>by simp at hsplit⟩

/-- An end frame in the chunk of the invocation's end turns the finished turn into an error. -/
theorem end_frame_fails :
    ¬CutIndependent numberedEnv "inv-1" [[0,0,0,0,1,1],[0,0,0,0,1,2,2,0,0,0,0]]
      [readyFrame,invocationEndFrame,endFrame]:=by
  intro hindependent
  have hlimit:WithinLimit maxSandFramePayload [readyFrame,invocationEndFrame,endFrame]:=by
    decide
  have hcut:=yields_iff numberedEnv "inv-1" hlimit (show [[0,0,0,0,1,1],[0,0,0,0,1,2,2,0,0,0,0]].flatten=_ by decide)
  have hapart:=yields_iff numberedEnv "inv-1" hlimit
    (show ([readyFrame,invocationEndFrame,endFrame].map encodeFrame).flatten=_ by decide)
  have hsame:=(hapart _).mp ((hindependent _).mp ((hcut _).mpr rfl))
  exact absurd (congrArg (List.map Except.isOk) hsame) (by decide +kernel)

end CursorProxy.ChunkCuts
