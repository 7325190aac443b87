import CursorProxy.RunInference

namespace CursorProxy.HandshakeSafety
open ConnectFrames JsonValues XmlElements RunInference Traces

variable {τ ε:Type*} {env:InferenceEnv τ ε}

def Invoked (notes:List (Note ε)) : Prop := ∃ frame, .invokeModel frame∈notes

def Over (notes:List (Note ε)) : Prop := ∃ id failed, .invocationEnd id failed∈notes

def yieldedItem : Note ε → Option (Item ε)
 | .polled (.item item)=>some item
 | _=>none

def yielded (notes:List (Note ε)) : List (Item ε) := notes.filterMap yieldedItem

def terminal : Item ε → Bool
 | .ok (.model _)=>false
 | _=>true

def responseValue : Note ε → Option JsonValue
 | .response _ value=>some value
 | _=>none

/-- One response read with the tools that the earlier ones gathered. -/
def tell (env:InferenceEnv τ ε) (told:List ε×τ) (value:JsonValue) : List ε×τ :=
 match env.jsonError value with
 | some _=>told
 | none=>
  let produced:=env.eventsFromJson ((value.get "result").getD value) told.2
  (told.1++produced.1,produced.2)

/-- The events of the model that the noted responses carry, and the tools they leave. -/
def told (env:InferenceEnv τ ε) (notes:List (Note ε)) : List ε×τ :=
 (notes.filterMap responseValue).foldl (tell env) ([],env.noTools)

def modelItems (events:List ε) : List (Item ε) := events.map fun event=>.ok (.model event)

/-- The handshake in the order that the notes have. -/
def Allowed (own:String) (before:List (Note ε)) : Note ε → Prop
 | .runReady modelId=>modelId≠[]
 | .invokeModel _=>¬Invoked before ∧ ∃ modelId,modelId≠[] ∧ .runReady modelId∈before
 | .response id _=>id=own ∧ Invoked before ∧ ¬Over before
 | .invocationEnd id _=>id=own ∧ Invoked before ∧ ¬Over before
 | .finishRun=>.invocationEnd own false∈before
 | .consumed=>.finishRun∈before
 | .polled answer=>
  answer=.item (.ok .finished) → .invocationEnd own false∈before ∧ .consumed∈before

/-- A poll behind a terminal item yields nothing. -/
def Closed (before:List (Note ε)) : Note ε → Prop
 | .polled answer=>(∃ item∈yielded before,terminal item=true) → answer=.none
 | _=>True

/-- With `strict` the polls behind a terminal item are watched too. -/
def Permitted (strict:Prop) (own:String) (before:List (Note ε)) (note:Note ε) : Prop :=
 Allowed own before note ∧ (strict → Closed before note)

/-- What follows the model's events: nothing yet, an error, or the flushed tools and the end. -/
inductive Tail (env:InferenceEnv τ ε) (own:String) (notes:List (Note ε)) :
  Bool → List (Item ε) → Prop where
 | going : Tail env own notes false []
 | failed (error:CursorError) : Tail env own notes true [.error error]
 | finished (hmatched:.invocationEnd own false∈notes) (hconsumed:.consumed∈notes) :
   Tail env own notes true
    (modelItems (env.flushToolBuffers (told env notes).2).1++[.ok .finished])

theorem yielded_push (notes:List (Note ε)) (note:Note ε) :
  yielded (notes++[note])=yielded notes++(yieldedItem note).toList:=by
 unfold yielded
 rw [List.filterMap_append]
 cases h:yieldedItem note <;> simp [h]

theorem told_push (notes:List (Note ε)) {note:Note ε} (h:responseValue note=none) :
  told env (notes++[note])=told env notes:=by
 unfold told
 rw [List.filterMap_append]
 simp [h]

theorem told_response (notes:List (Note ε)) (id:String) (value:JsonValue) :
  told env (notes++[.response id value])=tell env (told env notes) value:=by
 unfold told
 rw [List.filterMap_append,List.foldl_append]
 rfl

variable {notes:List (Note ε)}

theorem invoked_push {note:Note ε} (h:∀ frame,note ≠ .invokeModel frame) : Invoked (notes++[note]) ↔ Invoked notes:=by
 unfold Invoked
 constructor
 · intro ⟨frame,hmem⟩
   rcases List.mem_append.mp hmem with hold | hnew
   · exact ⟨frame,hold⟩
   · exact absurd (List.mem_singleton.mp hnew).symm (h frame)
 · intro ⟨frame,hmem⟩
   exact ⟨frame,List.mem_append_left _ hmem⟩

theorem over_push {note:Note ε} (h:∀ id failed,note ≠ .invocationEnd id failed)
  : Over (notes++[note]) ↔ Over notes:=by
 unfold Over
 constructor
 · intro ⟨id,failed,hmem⟩
   rcases List.mem_append.mp hmem with hold | hnew
   · exact ⟨id,failed,hold⟩
   · exact absurd (List.mem_singleton.mp hnew).symm (h id failed)
 · intro ⟨id,failed,hmem⟩
   exact ⟨id,failed,List.mem_append_left _ hmem⟩

/-- The phase knows where the handshake stands, and what was yielded and queued so far is what
the responses told. -/
structure Inv (env:InferenceEnv τ ε) (own:String) (strict:Prop)
  (s:SandRunInferenceStream τ ε) : Prop where
 named : s.invocationId=own
 ordered : Ordered (Permitted strict s.invocationId) s.notes
 output : ∃ tail,yielded s.notes++s.pending=modelItems (told env s.notes).1++tail ∧
  Tail env s.invocationId s.notes s.terminalEmitted tail
 tools : s.terminalEmitted=false → s.tools=(told env s.notes).2
 ended : s.ended=s.terminalEmitted
 ready : s.phase=.awaitRunReady → ¬Invoked s.notes
 invoked : s.phase ≠ .awaitRunReady → Invoked s.notes
 awaiting : s.phase=.awaitInvocation → s.terminalEmitted=false → ¬Over s.notes
 finished : s.phase=.finishing ∨ s.phase=.invocationEnded → Over s.notes
 finishing : s.phase=.finishing →
  .invocationEnd s.invocationId false∈s.notes ∧ .finishRun∈s.notes
 acknowledged : s.phase=.finishing → s.finishAck=some .waiting ∨ s.finishAck=some .completed ∧ s.terminalEmitted=true

variable {s:SandRunInferenceStream τ ε} {own:String} {strict:Prop}

theorem inv_new (env:InferenceEnv τ ε) (strict:Prop) (invocationId:String) :
  Inv env invocationId strict (.new env invocationId):=by
 refine ⟨rfl,Ordered.nil,⟨[],rfl,.going⟩,fun _=>rfl,rfl,fun _ ⟨frame,hmem⟩=>?_,
  fun h=>(h rfl).elim,fun h=>(nomatch h),fun h=>?_,fun h=>(nomatch h),
  fun h=>(nomatch h)⟩
 · cases hmem
 · rcases h with h | h <;> cases h

theorem Inv.error (h:Inv env own strict s) (error:CursorError) : Inv env own strict (s.queueTerminalError error):=by
 unfold SandRunInferenceStream.queueTerminalError
 split_ifs with hemitted
 · exact h
 · rw [Bool.not_eq_true] at hemitted
   obtain ⟨tail,houtput,htail⟩:=h.output
   rw [hemitted] at htail
   cases htail
   refine ⟨h.named,h.ordered,⟨[.error error],?_,.failed error⟩,
     fun hfalse=>(nomatch hfalse),rfl,
    h.ready,h.invoked,fun _ hfalse=>(nomatch hfalse),h.finished,h.finishing,
    fun hfinishing=>(h.acknowledged hfinishing).imp_right (And.imp_right fun _=>rfl)⟩
   change yielded s.notes++(s.pending++[.error error])=_
   rw [← List.append_assoc,houtput,List.append_nil]

variable {own:String} {emitted:Bool} {tail:List (Item ε)}

theorem Tail.note {note:Note ε} (h:Tail env own notes emitted tail) (htold:told env (notes++[note])=told env notes) :
  Tail env own (notes++[note]) emitted tail:=by
 cases h with
 | going=>exact .going
 | failed error=>exact .failed error
 | finished hmatched hconsumed=>
  rw [← htold]
  exact .finished (List.mem_append_left _ hmatched) (List.mem_append_left _ hconsumed)

theorem Inv.noted (h:Inv env own strict s) {note:Note ε} (hpermitted:Permitted strict s.invocationId s.notes note)
  (hyielded:yieldedItem note=none) (htold:told env (s.notes++[note])=told env s.notes)
  (hinvoke:∀ frame,note ≠ .invokeModel frame)
  (hend:∀ id failed,note ≠ .invocationEnd id failed) : Inv env own strict (s.note note):=by
 obtain ⟨tail,houtput,htail⟩:=h.output
 refine ⟨h.named,h.ordered.push hpermitted,⟨tail,?_,htail.note htold⟩,fun hgoing=>?_,
  h.ended,
  fun hphase=>?_,fun hphase=>(invoked_push hinvoke).mpr (h.invoked hphase),
  fun hphase hgoing=>?_,fun hphase=>(over_push hend).mpr (h.finished hphase),
  fun hphase=>(h.finishing hphase).imp (List.mem_append_left _) (List.mem_append_left _),
  h.acknowledged⟩
 · change yielded (s.notes++[note])++s.pending = modelItems (told env (s.notes++[note])).1++_
   rw [yielded_push,hyielded,htold,Option.toList_none,List.append_nil]
   exact houtput
 · exact (h.tools hgoing).trans (congrArg Prod.snd htold).symm
 · exact fun hinvoked=>h.ready hphase ((invoked_push hinvoke).mp hinvoked)
 · exact fun hover=>h.awaiting hphase hgoing ((over_push hend).mp hover)

theorem Inv.response (h:Inv env own strict s) (hphase:s.phase=.awaitInvocation)
  (hgoing:s.terminalEmitted=false) (value:JsonValue) :
  Inv env own strict ((s.note (.response s.invocationId value)).queueInferenceResponse env value):=by
 have hinvoked:Invoked s.notes:=h.invoked (by rw [hphase]; decide)
 have hallowed:Allowed s.invocationId s.notes (.response s.invocationId value) :=
  ⟨rfl,hinvoked,h.awaiting hphase hgoing⟩
 unfold SandRunInferenceStream.queueInferenceResponse
 cases hjson:env.jsonError value with
 | some error=>
  have htold:told env (s.notes++[.response s.invocationId value])=told env s.notes:=by
   rw [told_response,tell,hjson]
  exact (h.noted ⟨hallowed,fun _=>trivial⟩ rfl htold (by simp) (by simp)).error error
 | none=>
  obtain ⟨tail,houtput,htail⟩:=h.output
  rw [hgoing] at htail
  cases htail
  have htold:told env (s.notes++[.response s.invocationId value]) =
    ((told env s.notes).1++(env.eventsFromJson ((value.get "result").getD value) s.tools).1,
     (env.eventsFromJson ((value.get "result").getD value) s.tools).2):=by
   rw [told_response,tell,hjson,h.tools hgoing]
  refine ⟨h.named,h.ordered.push ⟨hallowed,fun _=>trivial⟩,⟨[],?_,?_⟩,fun _=>?_,
   h.ended,fun hready=>?_,
   fun _=>(invoked_push (by simp)).mpr hinvoked,fun _ _ hover=>?_,fun hover=>?_,
   fun hfinishing=>?_,fun hfinishing=>?_⟩
  · change yielded (s.notes++[_])++(s.pending++modelItems _)=modelItems (told env (s.notes++[_])).1++[]
    rw [yielded_push,htold]
    unfold modelItems
    rw [List.map_append,List.append_nil,← List.append_assoc]
    have hbefore:yielded s.notes++s.pending=modelItems (told env s.notes).1:=by
     rw [houtput,List.append_nil]
    exact congrArg (· ++ _) ((congrArg (· ++ s.pending) (List.append_nil _)).trans hbefore)
  · change Tail env _ _ s.terminalEmitted []
    rw [hgoing]
    exact .going
  · exact (congrArg Prod.snd htold).symm
  · exact absurd (hphase.symm.trans hready) (by decide)
  · exact h.awaiting hphase hgoing ((over_push (by simp)).mp hover)
  · rcases hover with hover | hover
    · exact absurd (hphase.symm.trans hover) (by decide)
    · exact absurd (hphase.symm.trans hover) (by decide)
  · exact absurd (hphase.symm.trans hfinishing) (by decide)
  · exact absurd (hphase.symm.trans hfinishing) (by decide)

theorem Inv.endFailed (h:Inv env own strict s) (hphase:s.phase=.awaitInvocation)
  (hgoing:s.terminalEmitted=false) (failed:Bool) (phase:RunInferencePhase)
  (hnext:phase=.awaitInvocation ∨ phase=.invocationEnded) (error:CursorError) :
  Inv env own strict (({ s with phase := phase }.note
   (.invocationEnd s.invocationId failed)).queueTerminalError error):=by
 have hinvoked:Invoked s.notes:=h.invoked (by rw [hphase]; decide)
 have hallowed:Allowed s.invocationId s.notes (.invocationEnd s.invocationId failed) :=
  ⟨rfl,hinvoked,h.awaiting hphase hgoing⟩
 obtain ⟨tail,houtput,htail⟩:=h.output
 rw [hgoing] at htail
 cases htail
 unfold SandRunInferenceStream.queueTerminalError
 rw [if_neg (by rw [Bool.not_eq_true]; exact hgoing)]
 refine ⟨h.named,h.ordered.push ⟨hallowed,fun _=>trivial⟩,⟨[.error error],?_,.failed error⟩,
  fun hfalse=>(nomatch hfalse),rfl,fun hready=>?_,
  fun _=>(invoked_push (by simp)).mpr hinvoked,fun _ hfalse=>(nomatch hfalse),
  fun _=>⟨s.invocationId,failed,by simp [SandRunInferenceStream.note]⟩,
  fun hfinishing=>?_,fun hfinishing=>?_⟩
 · change yielded (s.notes++[_])++(s.pending++[.error error])=modelItems (told env (s.notes++[_])).1++_
   rw [yielded_push,told_push _ rfl,← List.append_assoc]
   have hbefore:yielded s.notes++s.pending=modelItems (told env s.notes).1:=by
    rw [houtput,List.append_nil]
   exact congrArg (· ++ _) ((congrArg (· ++ s.pending) (List.append_nil _)).trans hbefore)
 · change phase=_ at hready
   rcases hnext with hnext | hnext <;> rw [hnext] at hready <;> cases hready
 · change phase=_ at hfinishing
   rcases hnext with hnext | hnext <;> rw [hnext] at hfinishing <;> cases hfinishing
 · change phase=_ at hfinishing
   rcases hnext with hnext | hnext <;> rw [hnext] at hfinishing <;> cases hfinishing

theorem Inv.endMatched (h:Inv env own strict s) (hphase:s.phase=.awaitInvocation) (hgoing:s.terminalEmitted=false) :
  Inv env own strict ({ s.note (.invocationEnd s.invocationId false) with
   finishAck := some .waiting,phase := .finishing }.note .finishRun):=by
 have hinvoked:Invoked s.notes:=h.invoked (by rw [hphase]; decide)
 have hallowed:Allowed s.invocationId s.notes (.invocationEnd s.invocationId false) :=
  ⟨rfl,hinvoked,h.awaiting hphase hgoing⟩
 obtain ⟨tail,houtput,htail⟩:=h.output
 have htold:told env (s.notes++[.invocationEnd s.invocationId false]++[.finishRun]) = told env s.notes:=by
  rw [told_push _ rfl,told_push _ rfl]
 have hmatched : .invocationEnd s.invocationId false ∈ s.notes++[.invocationEnd s.invocationId false] := by simp
 refine ⟨h.named,(h.ordered.push ⟨hallowed,fun _=>trivial⟩).push ⟨hmatched,fun _=>trivial⟩,
  ⟨tail,?_,(htail.note (told_push _ rfl)).note (told_push _ rfl)⟩,
  fun _=>(h.tools hgoing).trans (congrArg Prod.snd htold).symm,h.ended,
  fun hready=>(nomatch hready),fun _=>?_,fun hawaiting=>(nomatch hawaiting),
  fun _=>⟨s.invocationId,false,List.mem_append_left _ hmatched⟩,
  fun _=>⟨List.mem_append_left _ hmatched,?_⟩,fun _=>Or.inl rfl⟩
 · change yielded (s.notes++[_]++[_])++s.pending=modelItems (told env (s.notes++[_]++[_])).1++tail
   rw [htold,yielded_push,yielded_push]
   exact (congrArg (· ++ s.pending) ((List.append_nil _).trans (List.append_nil _))).trans houtput
 · exact (invoked_push (by simp)).mpr ((invoked_push (by simp)).mpr hinvoked)
 · exact List.mem_append_right _ List.mem_cons_self

theorem resolvedModelId_ne {ready:JsonValue} {modelId:Text} (h:resolvedModelId ready=some modelId) : modelId≠[]:=by
 obtain ⟨-,hnonempty⟩:=Option.filter_eq_some_iff.mp h
 intro hnil
 rw [hnil] at hnonempty
 cases hnonempty

theorem Inv.invokeSent (h:Inv env own strict s) (hphase:s.phase=.awaitRunReady) {modelId : Text}
  (hmodel:modelId≠[]) (frame:List UInt8) :
  Inv env own strict { ({ s.note (.runReady modelId) with invokeFrame := none }.note
   (.invokeModel frame)) with phase := .awaitInvocation }:=by
 have hready:=h.ready hphase
 have hnotOver:¬Over s.notes:=by
  intro ⟨id,failed,hmem⟩
  obtain ⟨before,after,hsplit⟩:=List.append_of_mem hmem
  obtain ⟨⟨-,⟨sent,hsent⟩,-⟩,-⟩:=h.ordered before _ after hsplit
  exact hready ⟨sent,hsplit ▸ List.mem_append_left _ hsent⟩
 obtain ⟨tail,houtput,htail⟩:=h.output
 have htold:told env (s.notes++[.runReady modelId]++[.invokeModel frame]) = told env s.notes:=by
  rw [told_push _ rfl,told_push _ rfl]
 have hinvoke:Allowed s.invocationId (s.notes++[.runReady modelId]) (.invokeModel frame) :=
  ⟨fun hinvoked=>hready ((invoked_push (by simp)).mp hinvoked),modelId,hmodel,by simp⟩
 have hordered:Ordered (Permitted strict s.invocationId) (s.notes++[.runReady modelId]) :=
  h.ordered.push ⟨hmodel,fun _=>trivial⟩
 refine ⟨h.named,hordered.push ⟨hinvoke,fun _=>trivial⟩,
  ⟨tail,?_,(htail.note (told_push _ rfl)).note (told_push _ rfl)⟩,
  fun hgoing=>(h.tools hgoing).trans (congrArg Prod.snd htold).symm,h.ended,
  fun hready=>(nomatch hready),fun _=>⟨frame,List.mem_append_right _ List.mem_cons_self⟩,
  fun _ _ hover=>?_,fun hover=>?_,fun hfinishing=>(nomatch hfinishing),
  fun hfinishing=>(nomatch hfinishing)⟩
 · change yielded (s.notes++[_]++[_])++s.pending=modelItems (told env (s.notes++[_]++[_])).1++tail
   rw [htold,yielded_push,yielded_push]
   exact (congrArg (· ++ s.pending) ((List.append_nil _).trans (List.append_nil _))).trans houtput
 · exact hnotOver ((over_push (by simp)).mp ((over_push (by simp)).mp hover))
 · rcases hover with hover | hover <;> cases hover

theorem Inv.runReady (h:Inv env own strict s) (ready:JsonValue) : Inv env own strict (s.queueRunReady env ready):=by
 unfold SandRunInferenceStream.queueRunReady
 by_cases hready:s.phase=.awaitRunReady
 · rw [if_neg (not_not_intro hready)]
   cases hmodel:resolvedModelId ready with
   | none=>exact h.error _
   | some modelId=>
    have hne:=resolvedModelId_ne hmodel
    have hnoted:Inv env own strict (s.note (.runReady modelId)) :=
     h.noted ⟨hne,fun _=>trivial⟩ rfl (told_push _ rfl) (by simp) (by simp)
    have htaken:Inv env own strict { s.note (.runReady modelId) with invokeFrame:=none } :=
     ⟨hnoted.named,hnoted.ordered,hnoted.output,hnoted.tools,hnoted.ended,hnoted.ready,
      hnoted.invoked,hnoted.awaiting,hnoted.finished,hnoted.finishing,hnoted.acknowledged⟩
    unfold SandRunInferenceStream.sendInvokeModel
    dsimp only
    cases hframe:(s.note (.runReady modelId)).invokeFrame with
    | none=>exact hnoted.error _
    | some frame=>
     dsimp only
     split_ifs
     · exact htaken.error _
     · cases env.takesInvoke with
       | error error=>exact htaken.error _
       | ok=>exact h.invokeSent hready hne frame
 · rw [if_pos hready]
   exact h.error _

theorem Inv.serverMessage (h:Inv env own strict s) (hgoing:s.terminalEmitted=false)
  (value:JsonValue) : Inv env own strict (s.queueServerMessage env value):=by
 unfold SandRunInferenceStream.queueServerMessage
 split_ifs
 · exact h.error _
 · exact h.error _
 · exact h
 · split
   · exact h.runReady _
   · unfold SandRunInferenceStream.queueInvocationResponse
     split_ifs with hawait
     · exact h.error _
     · exact h
     · split
       · exact h.error _
       · exact h.response (not_not.mp hawait) hgoing _
   · unfold SandRunInferenceStream.queueInvocationEnd
     split_ifs with hawait
     · exact h.error _
     · exact h
     · exact h.endFailed (not_not.mp hawait) hgoing true .invocationEnded (Or.inr rfl) _
     · unfold SandRunInferenceStream.beginFinishRequestBody
       split_ifs
       · exact h.endFailed (not_not.mp hawait) hgoing false s.phase (Or.inl (not_not.mp hawait)) _
       · cases env.takesFinish with
         | error error=>
          exact h.endFailed (not_not.mp hawait) hgoing false s.phase (Or.inl (not_not.mp hawait)) _
         | ok=>exact h.endMatched (not_not.mp hawait) hgoing
   · exact h

theorem Inv.frame (h:Inv env own strict s) (frame:ConnectFrame) : Inv env own strict (s.queueFrame env frame):=by
 unfold SandRunInferenceStream.queueFrame
 cases hended:s.ended||s.terminalEmitted with
 | true=>exact h
 | false=>
  have hgoing:s.terminalEmitted=false:=(Bool.or_eq_false_iff.mp hended).2
  rw [if_neg Bool.false_ne_true]
  split_ifs
  · exact h
  · unfold SandRunInferenceStream.queueEndFrame
    dsimp only
    split
    · exact h.error _
    · split_ifs
      · exact h.error _
      · exact h
  · split
    · exact h.error _
    · split_ifs
      · exact h
      · split
        · exact h.serverMessage hgoing _
        · exact h.error _

theorem Inv.frames (h:Inv env own strict s) (frames:List ConnectFrame) :
  Inv env own strict (frames.foldl (SandRunInferenceStream.queueFrame env) s):=by
 induction frames generalizing s with
 | nil=>exact h
 | cons frame frames ih=>exact ih (h.frame frame)

theorem Inv.decoded (h:Inv env own strict s) (decoder:ConnectFrameDecoder) :
  Inv env own strict { s with decoder := decoder } :=
 ⟨h.named,h.ordered,h.output,h.tools,h.ended,h.ready,h.invoked,h.awaiting,h.finished,
  h.finishing,h.acknowledged⟩

theorem Inv.body (h:Inv env own strict s) (body:BodyAnswer) : Inv env own strict (s.pollBody env body).1:=by
 unfold SandRunInferenceStream.pollBody
 cases body with
 | pending=>exact h
 | chunk bytes=>
  dsimp only
  split
  · exact (h.decoded _).frames _
  · exact (h.decoded _).error _
 | failed error=>exact h.error error
 | eof=>
  change Inv env own strict s.finishAtEof
  unfold SandRunInferenceStream.finishAtEof
  split_ifs
  · exact h
  · exact h.error _
  · exact h.error _

theorem Tail.before_last (h:Tail env own notes emitted tail) (events:List ε) :
  ∀ item∈(modelItems events++tail).dropLast,terminal item=false:=by
 have hmodel (events:List ε) : ∀ item∈modelItems events,terminal item=false:=by
  intro item hitem
  obtain ⟨event,-,rfl⟩:=List.mem_map.mp hitem
  rfl
 intro item hitem
 cases h with
 | going=>
  rw [List.append_nil] at hitem
  exact hmodel events item (List.dropLast_subset _ hitem)
 | failed error=>
  rw [List.dropLast_concat] at hitem
  exact hmodel events item hitem
 | finished hmatched hconsumed=>
  rw [← List.append_assoc,List.dropLast_concat] at hitem
  rcases List.mem_append.mp hitem with hitem | hitem
  · exact hmodel events item hitem
  · exact hmodel _ item hitem

theorem Tail.matched (h:Tail env own notes emitted tail) {events:List ε} (hmem:.ok .finished∈modelItems events++tail) :
  .invocationEnd own false∈notes ∧ .consumed∈notes:=by
 rcases List.mem_append.mp hmem with hmodel | htail
 · obtain ⟨event,-,hevent⟩:=List.mem_map.mp hmodel
   cases hevent
 · cases h with
   | going=>cases htail
   | failed error=>exact absurd (List.mem_singleton.mp htail) (by simp)
   | finished hmatched hconsumed=>exact ⟨hmatched,hconsumed⟩

theorem Inv.unfinished (h:Inv env own strict s) (hpending:s.pending≠[]) :
  ¬∃ item∈yielded s.notes,terminal item=true:=by
 intro ⟨item,hitem,hterminal⟩
 obtain ⟨tail,houtput,htail⟩:=h.output
 have hbefore:item∈(modelItems (told env s.notes).1++tail).dropLast:=by
  rw [← houtput,List.dropLast_append_of_ne_nil hpending]
  exact List.mem_append_left _ hitem
 exact absurd hterminal (Bool.eq_false_iff.mp (htail.before_last _ item hbefore))

theorem Inv.emitted_iff (h:Inv env own strict s) (hpending:s.pending=[]) :
  (∃ item∈yielded s.notes,terminal item=true) ↔ s.terminalEmitted=true:=by
 obtain ⟨tail,houtput,htail⟩:=h.output
 rw [hpending,List.append_nil] at houtput
 rw [houtput]
 generalize s.terminalEmitted=emitted at htail ⊢
 cases htail with
 | going=>
  refine ⟨fun ⟨item,hitem,hterminal⟩=>?_,fun hfalse=>(nomatch hfalse)⟩
  rw [List.append_nil] at hitem
  obtain ⟨event,-,rfl⟩:=List.mem_map.mp hitem
  exact hterminal
 | failed error=>exact ⟨fun _=>rfl,fun _=>⟨.error error,by simp,rfl⟩⟩
 | finished hmatched hconsumed=>exact ⟨fun _=>rfl,fun _=>⟨.ok .finished,by simp,rfl⟩⟩

theorem Inv.consumed (h:Inv env own strict s) (hphase:s.phase=.finishing) :
  Inv env own strict (SandRunInferenceStream.emitEndOnce env ({ s with
   finishAck := none,requestOpen := false,phase := .invocationEnded }.note .consumed)):=by
 obtain ⟨hmatched,hfinish⟩:=h.finishing hphase
 have hnoted:Inv env own strict (s.note .consumed) :=
  h.noted ⟨hfinish,fun _=>trivial⟩ rfl (told_push _ rfl) (by simp) (by simp)
 have hended:Inv env own strict ({ s with
   finishAck := none,requestOpen := false,phase := .invocationEnded }.note .consumed):=by
  refine ⟨hnoted.named,hnoted.ordered,hnoted.output,hnoted.tools,hnoted.ended,
   fun hready=>(nomatch hready),fun _=>hnoted.invoked ?_,
   fun hawaiting=>(nomatch hawaiting),fun _=>hnoted.finished (Or.inl hphase),
   fun hfinishing=>(nomatch hfinishing),fun hfinishing=>(nomatch hfinishing)⟩
  change s.phase ≠ .awaitRunReady
  rw [hphase]
  decide
 unfold SandRunInferenceStream.emitEndOnce
 split_ifs with hemitted
 · exact hended
 · rw [Bool.not_eq_true] at hemitted
   obtain ⟨tail,houtput,htail⟩:=hended.output
   rw [hemitted] at htail
   cases htail
   have hconsumed : .consumed∈s.notes++[.consumed]:=by simp
   refine ⟨hended.named,hended.ordered,⟨_,?_,.finished (List.mem_append_left _ (h.named ▸ hmatched)) hconsumed⟩,
    fun hfalse=>(nomatch hfalse),rfl,fun hready=>(nomatch hready),hended.invoked,
    fun hawaiting=>(nomatch hawaiting),hended.finished,fun hfinishing=>(nomatch hfinishing),
    fun hfinishing=>(nomatch hfinishing)⟩
   rw [List.append_nil] at houtput
   have htools:s.tools=(told env (s.notes++[.consumed])).2:=hended.tools hemitted
   change yielded (s.notes++[.consumed]) ++ (s.pending++modelItems (env.flushToolBuffers s.tools).1++[.ok .finished])=_
   rw [htools,List.append_assoc,← List.append_assoc]
   exact congrArg (· ++ _) houtput

theorem Inv.acknowledge (h:Inv env own strict s) (hphase:s.phase=.finishing)
  (ack:AckAnswer) : Inv env own strict (s.pollFinishRequestBody env ack).1:=by
 unfold SandRunInferenceStream.pollFinishRequestBody
 cases s.finishAck with
 | none=>exact h.error _
 | some state=>cases state with
  | completed=>exact h
  | waiting=>cases ack with
   | pending=>exact h
   | consumed=>exact h.consumed hphase
   | closed=>
    have herror:=h.error (gateway "RunInference request body closed before finishRun was consumed" none)
    unfold SandRunInferenceStream.queueTerminalError at herror ⊢
    dsimp only at herror ⊢
    split_ifs at herror ⊢ with hemitted
    · exact ⟨h.named,h.ordered,h.output,h.tools,h.ended,h.ready,h.invoked,h.awaiting,
       h.finished,h.finishing,fun _=>Or.inr ⟨rfl,hemitted⟩⟩
    · exact ⟨herror.named,herror.ordered,herror.output,herror.tools,herror.ended,
       herror.ready,herror.invoked,herror.awaiting,herror.finished,herror.finishing,
       fun _=>Or.inr ⟨rfl,rfl⟩⟩

/-- The poll neither gives an item nor ends although the stream has failed. -/
def Stalls (s:SandRunInferenceStream τ ε) (answer:Answer) : Prop :=
 s.pending=[] ∧ s.phase=.finishing ∧ s.terminalEmitted=true ∧ (s.finishAck=some .completed ∨ answer.ack=.pending)

theorem Inv.popped (h:Inv env own strict s) {item:Item ε} {pending:List (Item ε)} (hpending:s.pending=item::pending) :
  Inv env own strict ({ s with pending := pending }.note (.polled (.item item))):=by
 have hopen:=h.unfinished (by rw [hpending]; exact List.cons_ne_nil _ _)
 obtain ⟨tail,houtput,htail⟩:=h.output
 have hallowed:Allowed s.invocationId s.notes (.polled (.item item)):=by
  intro hfinished
  obtain rfl : item=.ok .finished:=by
   injection hfinished
  have hmem:(.ok .finished : Item ε)∈modelItems (told env s.notes).1++tail:=by
   rw [← houtput,hpending]
   simp
  exact htail.matched hmem
 refine ⟨h.named,h.ordered.push ⟨hallowed,fun _ hclosed=>(hopen hclosed).elim⟩,
  ⟨tail,?_,htail.note (told_push _ rfl)⟩,
  fun hgoing=>(h.tools hgoing).trans (congrArg Prod.snd (told_push _ rfl)).symm,h.ended,
  fun hready hinvoked=>h.ready hready ((invoked_push (by simp)).mp hinvoked),
  fun hphase=>(invoked_push (by simp)).mpr (h.invoked hphase),
  fun hphase hgoing hover=>h.awaiting hphase hgoing ((over_push (by simp)).mp hover),
  fun hphase=>(over_push (by simp)).mpr (h.finished hphase),
  fun hphase=>(h.finishing hphase).imp (List.mem_append_left _) (List.mem_append_left _),
  h.acknowledged⟩
 change yielded (s.notes++[_])++pending=modelItems (told env (s.notes++[_])).1++tail
 rw [told_push _ rfl,yielded_push,← houtput,hpending,List.append_assoc]
 rfl

theorem Inv.polledNothing (h:Inv env own strict s) {answer:Polled ε}
  (hitem:yieldedItem (.polled answer)=none) (hclosed:strict → Closed s.notes (.polled answer)) :
  Inv env own strict (s.note (.polled answer)):=by
 refine h.noted ⟨fun hfinished=>?_,hclosed⟩ hitem (told_push _ rfl) (by simp) (by simp)
 rw [hfinished] at hitem
 cases hitem

theorem pollFinishRequestBody_returns {ack:AckAnswer} {answer:Polled ε}
  (h:(s.pollFinishRequestBody env ack).2=some answer) :
  (s.pollFinishRequestBody env ack).1=s ∧ yieldedItem (.polled answer)=none ∧
   (s.finishAck=some .completed ∨ ack=.pending):=by
 unfold SandRunInferenceStream.pollFinishRequestBody at h ⊢
 cases hack:s.finishAck with
 | none=>
  rw [hack] at h
  cases h
 | some state=>
  rw [hack] at h
  cases state with
  | completed=>
   obtain rfl:=Option.some.inj h
   exact ⟨rfl,rfl,Or.inl rfl⟩
  | waiting=>cases ack with
   | pending=>
    obtain rfl:=Option.some.inj h
    exact ⟨rfl,rfl,Or.inr rfl⟩
   | consumed=>cases h
   | closed=>cases h

theorem pollBody_returns {body:BodyAnswer} {answer:Polled ε}
  (h:(s.pollBody env body).2=some answer) : (s.pollBody env body).1=s ∧ answer=.pending:=by
 unfold SandRunInferenceStream.pollBody at h ⊢
 cases body with
 | pending=>exact ⟨rfl,(Option.some.inj h).symm⟩
 | chunk bytes=>
  dsimp only at h
  split at h <;> cases h
 | failed error=>cases h
 | eof=>cases h

variable {answer:Answer}

theorem step_continues (h:(s.turn env answer).2=none) : s.step env answer=(s.turn env answer).1:=by
 unfold SandRunInferenceStream.step
 split
 · next heq=>
   rw [heq] at h
   cases h
 · next heq=>rw [heq]

theorem step_returns {polled:Polled ε} (h:(s.turn env answer).2=some polled) :
  s.step env answer=(s.turn env answer).1.note (.polled polled):=by
 unfold SandRunInferenceStream.step
 split
 · next heq=>
   rw [heq] at h ⊢
   rw [Option.some.inj h]
 · next heq=>
   rw [heq] at h
   cases h

theorem turn_popped (env:InferenceEnv τ ε) {item:Item ε} {pending:List (Item ε)}
  (h:s.pending=item::pending) (answer:Answer) :
  s.turn env answer=({ s with pending := pending },some (.item item)):=by
 unfold SandRunInferenceStream.turn
 rw [h]

theorem turn_finishing (env:InferenceEnv τ ε) (hpending:s.pending=[]) (hphase:s.phase=.finishing) (answer:Answer) :
  s.turn env answer=s.pollFinishRequestBody env answer.ack:=by
 unfold SandRunInferenceStream.turn
 rw [hpending]
 exact if_pos hphase

theorem turn_ended (env:InferenceEnv τ ε) (hpending:s.pending=[])
  (hphase:s.phase ≠ .finishing) (hended:s.ended=true) (answer:Answer) : s.turn env answer=(s,some .none):=by
 unfold SandRunInferenceStream.turn
 rw [hpending]
 exact (if_neg hphase).trans (if_pos hended)

theorem turn_reads (env:InferenceEnv τ ε) (hpending:s.pending=[])
  (hphase:s.phase ≠ .finishing) (hopen:¬s.ended=true) (answer:Answer) :
  s.turn env answer=s.pollBody env answer.body:=by
 unfold SandRunInferenceStream.turn
 rw [hpending]
 exact (if_neg hphase).trans (if_neg hopen)

theorem Inv.step (h:Inv env own strict s) (hcalm:strict → ¬Stalls s answer)
  : Inv env own strict (s.step env answer):=by
 cases hpending:s.pending with
 | cons item pending=>
  have hturn:=turn_popped env hpending answer
  rw [step_returns (by rw [hturn]),hturn]
  exact h.popped hpending
 | nil=>
  have hemitted:=h.emitted_iff hpending
  by_cases hphase:s.phase=.finishing
  · have hturn:=turn_finishing env hpending hphase answer
    cases hreturned:(s.pollFinishRequestBody env answer.ack).2 with
    | none=>
     rw [step_continues (by rw [hturn,hreturned]),hturn]
     exact h.acknowledge hphase answer.ack
    | some polled=>
     obtain ⟨hsame,hnothing,hstuck⟩:=pollFinishRequestBody_returns hreturned
     rw [step_returns (by rw [hturn,hreturned]),hturn,hsame]
     exact h.polledNothing hnothing fun hstrict hclosed=>
      (hcalm hstrict ⟨hpending,hphase,hemitted.mp hclosed,hstuck⟩).elim
  · cases hended:s.ended with
    | true=>
     have hturn:=turn_ended env hpending hphase hended answer
     rw [step_returns (by rw [hturn]),hturn]
     exact h.polledNothing rfl fun _ _=>rfl
    | false=>
     have hopen:¬s.ended=true:=by
      rw [hended]
      exact Bool.false_ne_true
     have hturn:=turn_reads env hpending hphase hopen answer
     cases hreturned:(s.pollBody env answer.body).2 with
     | none=>
      rw [step_continues (by rw [hturn,hreturned]),hturn]
      exact h.body answer.body
     | some polled=>
      obtain ⟨hsame,rfl⟩:=pollBody_returns hreturned
      rw [step_returns (by rw [hturn,hreturned]),hturn,hsame]
      exact h.polledNothing rfl fun _ hclosed=>
       (hopen (h.ended.trans (hemitted.mp hclosed))).elim

def run (env:InferenceEnv τ ε) (invocationId:String) (answers:List Answer) : SandRunInferenceStream τ ε :=
 answers.foldl (SandRunInferenceStream.step env) (.new env invocationId)

theorem run_push (invocationId:String) (answers:List Answer) (answer:Answer) :
  run env invocationId (answers++[answer]) = (run env invocationId answers).step env answer:=by
 unfold run
 rw [List.foldl_append]
 rfl

theorem run_inv (invocationId:String) (answers:List Answer)
  (hcalm:strict → ∀ before answer after,answers=before++answer::after →
   ¬Stalls (run env invocationId before) answer) : Inv env invocationId strict (run env invocationId answers):=by
 induction answers using List.reverseRecOn with
 | nil=>exact inv_new env strict invocationId
 | append_singleton answers answer ih=>
  have hbefore:=ih fun hstrict before earlier after hsplit=>
   hcalm hstrict before earlier (after++[answer]) (by rw [hsplit]; simp)
  rw [run_push]
  exact hbefore.step fun hstrict=>hcalm hstrict answers answer [] rfl

/-- The handshake keeps its order, the items are what the responses told and one terminal item
at most, behind which polls give nothing, and an open invocation is not replayed. -/
structure HandshakeSafe (env:InferenceEnv τ ε) (own:String)
  (s:SandRunInferenceStream τ ε) : Prop where
 ordered : Ordered (Allowed own) s.notes
 closed : Ordered Closed s.notes
 produced : ∃ emitted tail,Tail env own s.notes emitted tail ∧
  yielded s.notes <+: modelItems (told env s.notes).1++tail
 single : (yielded s.notes).countP terminal ≤ 1
 replay : Invoked s.notes → ¬Over s.notes → s.replaySafe=false

theorem countP_le_one {items:List (Item ε)}
  (h:∀ item∈items.dropLast,terminal item=false) : items.countP terminal ≤ 1:=by
 cases items using List.reverseRecOn with
 | nil=>exact Nat.zero_le _
 | append_singleton before last=>
  rw [List.dropLast_concat] at h
  rw [List.countP_append,List.countP_eq_zero.mpr fun item hitem=>by
   rw [h item hitem]
   exact Bool.false_ne_true]
  rw [Nat.zero_add]
  exact List.countP_le_length

theorem Inv.safe (h:Inv env own True s) : HandshakeSafe env own s:=by
 obtain ⟨tail,houtput,htail⟩:=h.output
 obtain rfl:=h.named
 have hproduced:yielded s.notes <+: modelItems (told env s.notes).1++tail :=
  ⟨s.pending,houtput⟩
 refine ⟨fun before note after hsplit=>(h.ordered before note after hsplit).1,
  fun before note after hsplit=>(h.ordered before note after hsplit).2 trivial,
  ⟨_,tail,htail,hproduced⟩,
  (hproduced.sublist.countP_le).trans (countP_le_one (htail.before_last _)),?_⟩
 intro hinvoked hopen
 cases hphase:s.phase with
 | awaitRunReady=>exact absurd hinvoked (h.ready hphase)
 | awaitInvocation=>
  unfold SandRunInferenceStream.replaySafe
  rw [hphase]
  rfl
 | finishing=>exact absurd (h.finished (Or.inl hphase)) hopen
 | invocationEnded=>exact absurd (h.finished (Or.inr hphase)) hopen

theorem Inv.stalled (h:Inv env own strict s) (hstalls:Stalls s answer) : ¬Ordered Closed (s.step env answer).notes:=by
 obtain ⟨hpending,hphase,hterminal,hstuck⟩:=hstalls
 have hturn:=turn_finishing env hpending hphase answer
 have hpolled:∃ polled,polled ≠ .none ∧ s.turn env answer=(s,some polled):=by
  rw [hturn]
  unfold SandRunInferenceStream.pollFinishRequestBody
  rcases h.acknowledged hphase with hwaiting | ⟨hcompleted,-⟩
  · rcases hstuck with hcompleted | hanswer
    · exact absurd (hwaiting.symm.trans hcompleted) (by decide)
    · rw [hwaiting,hanswer]
      exact ⟨.pending,by simp,rfl⟩
  · rw [hcompleted]
    exact ⟨.fault,by simp,rfl⟩
 obtain ⟨polled,hpolled,hreturned⟩:=hpolled
 rw [step_returns (by rw [hreturned]),hreturned]
 exact fun hclosed=>hpolled
  (hclosed s.notes (.polled polled) [] rfl ((h.emitted_iff hpending).mpr hterminal))

/-- Also where polls stall the handshake keeps its order, and the items are what the responses told
with one terminal item at most. -/
theorem handshake_ordered (env:InferenceEnv τ ε) (invocationId:String) (answers:List Answer) :
  let s:=run env invocationId answers
  Ordered (Allowed invocationId) s.notes ∧ (yielded s.notes).countP terminal ≤ 1 ∧
   ∃ emitted tail,Tail env invocationId s.notes emitted tail ∧ yielded s.notes <+: modelItems (told env s.notes).1++tail:=by
 have h:Inv env invocationId False (run env invocationId answers):=run_inv invocationId answers fun hfalse=>hfalse.elim
 obtain ⟨tail,houtput,htail⟩:=h.output
 have hordered:=h.ordered
 rw [h.named] at htail hordered
 have hproduced:yielded (run env invocationId answers).notes <+:
   modelItems (told env (run env invocationId answers).notes).1++tail:=⟨_,houtput⟩
 exact ⟨fun before note after hsplit=>(hordered before note after hsplit).1,
  hproduced.sublist.countP_le.trans (countP_le_one (htail.before_last _)),_,tail,htail,hproduced⟩

def readyMessage : JsonValue :=
 .object [("runReady",.object [("resolvedModel",.object [("modelId",.string "composer-1")])])]

def endMessage : JsonValue :=
 .object [("invocationEnd",.object [("invocationId",.string "inv-1")])]

def numberedEnv : InferenceEnv Unit Unit where
 decodeGzip _ := .error "not gzip"
 fromSlice payload :=
  if payload=[1] then .ok readyMessage
  else if payload=[2] then .ok endMessage
  else .error "expected value"
 parseConnectError _ := none
 jsonError _ := none
 eventsFromJson _ _ := ([],())
 flushToolBuffers _ := ([],())
 invocationError _ := gateway "RunInference invocation failed" none
 noTools := ()
 invokeFrame := [0]
 takesInvoke := .ok ()
 takesFinish := .ok ()

/-- The second chunk holds the end of the invocation and the end frame. -/
def trailedAnswers : List Answer :=
 [⟨.pending,.chunk [0,0,0,0,1,1]⟩,⟨.pending,.chunk [0,0,0,0,1,2,2,0,0,0,0]⟩,⟨.pending,.pending⟩]

end CursorProxy.HandshakeSafety
