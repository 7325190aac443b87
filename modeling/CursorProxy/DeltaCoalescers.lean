import CursorProxy.LiveRunKeys

namespace CursorProxy.DeltaCoalescers
open LiveRunKeys XmlElements

inductive Kind where
 | thinking
 | text
deriving DecidableEq

/-- A text or thinking delta, or anything else that is sent downstream. -/
inductive Event (α:Type*) where
 | delta (kind:Kind) (text:Text)
 | other (event:α)
deriving DecidableEq

def liveEventChannelCap : ℕ := 512
def coalesceWindow : ℕ := 8
def coalesceMaxChars : ℕ := 4096
def maxDeferredLiveEvents : ℕ := 1024

def channelBackpressured (remaining cap:ℕ) : Bool := 0<cap&&remaining*2 ≤ cap

structure LiveDeltaCoalescer where
 pending : Option (Kind×Text)
 started : Option ℕ
deriving DecidableEq

variable {α:Type*}

namespace LiveDeltaCoalescer

def new : LiveDeltaCoalescer := ⟨none,none⟩

def flushed (c:LiveDeltaCoalescer) : List (Event α) :=
 c.pending.toList.map fun (kind,text)=>.delta kind text

def ingest (c:LiveDeltaCoalescer) (event:Event α) (remaining now:ℕ) : List (Event α)×LiveDeltaCoalescer :=
 match event,c.pending with
 | .other _,_=>(c.flushed++[event],new)
 | .delta kind text,pending=>
  if channelBackpressured remaining liveEventChannelCap then
   match pending with
   | some (same,front)=>
    if same=kind then
     let text:=front++text
     if coalesceMaxChars ≤ len text ∨
       (∃ started∈c.started,coalesceWindow ≤ now-started) then
      ([.delta kind text],new)
     else ([],⟨some (kind,text),c.started⟩)
    else (c.flushed,⟨some (kind,text),some now⟩)
   | none=>([],⟨some (kind,text),some now⟩)
  else (c.flushed++[event],new)

end LiveDeltaCoalescer

/-- All events sent or deferred, in their order, and the length of the queue. -/
structure Downstream (α:Type*) where
 coalescer : LiveDeltaCoalescer
 deferred : ℕ
 out : List (Event α)

namespace Downstream

/-- `sends` is whether the channel takes the event in time; a closed one takes everything. -/
def emitOrDefer (s:Downstream α) (sink sends:Bool) (event:Event α) : Downstream α×Bool :=
 if sink then
  if sends then ({ s with out := s.out++[event] },true) else (s,false)
 else if maxDeferredLiveEvents ≤ s.deferred then (s,false)
 else ({ s with deferred := s.deferred+1,out := s.out++[event] },true)

/-- The loop over what was ingested, with an answer of the channel for each event. -/
def emitAll (sink:Bool) : List Bool → Downstream α → List (Event α) → Downstream α×Bool
 | _,s,[]=>(s,true)
 | sends,s,event::events=>
  match s.emitOrDefer sink (sends.headD true) event with
  | (s,false)=>(s,false)
  | (s,true)=>emitAll sink sends.tail s events

/-- `sink` is the room left in the channel, nothing without a sink. -/
def emitLiveDelta (s:Downstream α) (event:Event α) (turnCtx:Bool) (sink:Option ℕ)
  (now:ℕ) (sends:List Bool) : Downstream α×Bool :=
 match turnCtx,sink with
 | true,some remaining=>
  let (events,coalescer):=s.coalescer.ingest event remaining now
  emitAll true sends { s with coalescer := coalescer } events
 | _,_=>s.emitOrDefer sink.isSome (sends.headD true) event

def flushCoalescer (s:Downstream α) (sink:Bool) (sends:List Bool) : Downstream α×Bool :=
 emitAll sink sends { s with coalescer := .new } s.coalescer.flushed

def drain (s:Downstream α) : Downstream α := { s with deferred := 0 }

end Downstream

inductive Call (α:Type*) where
 | emit (event:Event α) (turnCtx:Bool) (sink:Option ℕ) (now:ℕ) (sends:List Bool)
 | flush (sink:Bool) (sends:List Bool)
 | drain

def Call.apply (s:Downstream α) : Call α → Downstream α×Bool
 | .emit event turnCtx sink now sends=>s.emitLiveDelta event turnCtx sink now sends
 | .flush sink sends=>s.flushCoalescer sink sends
 | .drain=>(s.drain,true)

def Call.event : Call α → List (Event α)
 | .emit event .. => [event]
 | _=>[]

/-- An event goes around the coalescer only while nothing is held, and is taken. -/
def Call.Orderly (s:Downstream α) (call:Call α) : Prop :=
 (call.apply s).2=true ∧
  match call with
  | .emit _ turnCtx sink .. => (turnCtx=true ∧ sink.isSome=true) ∨ s.coalescer.pending=none
  | _=>True

def OrderlyRun : Downstream α → List (Call α) → Prop
 | _,[]=>True
 | s,call::calls=>call.Orderly s ∧ OrderlyRun (call.apply s).1 calls

def run : Downstream α → List (Call α) → Downstream α
 | s,[]=>s
 | s,call::calls=>run (call.apply s).1 calls

def start : Downstream α := ⟨.new,0,[]⟩

/-- A delta behind one of its kind is one with it. -/
def add (events:List (Event α)) : Event α → List (Event α)
 | .other event=>events++[.other event]
 | .delta kind text=>
  match events.getLast? with
  | some (.delta same front)=>
   if same=kind then events.dropLast++[.delta kind (front++text)]
   else events++[.delta kind text]
  | _=>events++[.delta kind text]

def merged (events:List (Event α)) : List (Event α) := events.foldl add []

theorem merged_snoc (events:List (Event α)) (event:Event α) : merged (events++[event])=add (merged events) event:=by
 rw [merged,List.foldl_append]
 rfl

theorem add_join (events:List (Event α)) (kind:Kind) (front text:Text) :
  add (add events (.delta kind front)) (.delta kind text) = add events (.delta kind (front++text)):=by
 cases hlast:events.getLast? with
 | none=>simp [add,hlast]
 | some last=>
  cases last with
  | other event=>simp [add,hlast]
  | delta same held=>
   by_cases hsame:same=kind
   · simp [add,hlast,hsame]
   · simp [add,hlast,hsame]

/-- All that came in, in its order, is out or held. -/
def Downstream.Holds (s:Downstream α) (ingested:List (Event α)) : Prop :=
 merged (s.out++s.coalescer.flushed)=merged ingested

variable {s:Downstream α} {ingested:List (Event α)}

theorem holds_ingest (h:s.Holds ingested) (event:Event α) (remaining now:ℕ) :
  merged (s.out++(s.coalescer.ingest event remaining now).1 ++
   (s.coalescer.ingest event remaining now).2.flushed)=merged (ingested++[event]):=by
 obtain ⟨⟨pending,started⟩,deferred,out⟩:=s
 have hkept:merged (out++((LiveDeltaCoalescer.mk pending started).flushed++[event])) = merged (ingested++[event]):=by
  rw [← List.append_assoc,merged_snoc,merged_snoc]
  exact congrArg (add · event) h
 have hnew:(LiveDeltaCoalescer.new.flushed : List (Event α))=[]:=rfl
 unfold LiveDeltaCoalescer.ingest
 cases event with
 | other event=>simpa [hnew] using hkept
 | delta kind text=>
  dsimp only
  split_ifs with hfull
  · cases pending with
    | none=>simpa [LiveDeltaCoalescer.flushed] using hkept
    | some held=>
     obtain ⟨same,front⟩:=held
     dsimp only
     by_cases hsame:same=kind
     · subst hsame
       have hjoined:merged (out++[.delta same (front++text)]) = merged (ingested++[.delta same text]):=by
        rw [← hkept,← List.append_assoc,merged_snoc,merged_snoc,← add_join,← merged_snoc]
        rfl
       rw [if_pos rfl]
       split_ifs
       · simpa [hnew] using hjoined
       · simpa [LiveDeltaCoalescer.flushed] using hjoined
     · rw [if_neg hsame]
       simpa [LiveDeltaCoalescer.flushed] using hkept
  · simpa [hnew] using hkept

theorem emitOrDefer_taken {sink sends:Bool} {event:Event α} (h:(s.emitOrDefer sink sends event).2=true) :
  (s.emitOrDefer sink sends event).1.out=s.out++[event] ∧
   (s.emitOrDefer sink sends event).1.coalescer=s.coalescer:=by
 unfold Downstream.emitOrDefer at *
 split_ifs at * <;> simp_all

theorem emitAll_taken {sink:Bool} {events:List (Event α)} : ∀ {sends:List Bool}
  {s:Downstream α},(s.emitAll sink sends events).2=true →
   (s.emitAll sink sends events).1.out=s.out++events ∧ (s.emitAll sink sends events).1.coalescer=s.coalescer:=by
 induction events with
 | nil=>exact fun _=>⟨(List.append_nil _).symm,rfl⟩
 | cons event events ih=>
  intro sends s h
  have htaken:=@emitOrDefer_taken α s sink (sends.headD true) event
  rw [Downstream.emitAll] at h ⊢
  rcases hemit : s.emitOrDefer sink (sends.headD true) event with ⟨t,_ | _⟩
  · rw [hemit] at h
    cases h
  · rw [hemit] at h htaken
    obtain ⟨hout,hcoalescer⟩:=htaken rfl
    obtain ⟨hrest,hrestCoalescer⟩:=ih h
    dsimp only at hout hcoalescer ⊢
    rw [hrest,hrestCoalescer,hout,hcoalescer,List.append_assoc]
    exact ⟨rfl,rfl⟩

/-- Without the coalescer, while nothing is held. -/
theorem holds_around {sink sends:Bool} {event:Event α} (h:s.Holds ingested)
  (hnone:s.coalescer.pending=none) (htaken:(s.emitOrDefer sink sends event).2=true) :
  (s.emitOrDefer sink sends event).1.Holds (ingested++[event]):=by
 obtain ⟨hout,hcoalescer⟩:=emitOrDefer_taken htaken
 have hnil:(s.coalescer.flushed : List (Event α))=[]:=by
  simp [LiveDeltaCoalescer.flushed,hnone]
 unfold Downstream.Holds at *
 rw [hout,hcoalescer,hnil,List.append_nil,merged_snoc,merged_snoc]
 rw [hnil,List.append_nil] at h
 rw [h]

theorem holds_apply {call:Call α} (h:s.Holds ingested) (horderly:call.Orderly s) :
  (call.apply s).1.Holds (ingested++call.event):=by
 obtain ⟨htaken,haround⟩:=horderly
 cases call with
 | drain=>
  change s.Holds (ingested++[])
  rwa [List.append_nil]
 | flush sink sends=>
  obtain ⟨hout,hcoalescer⟩:=emitAll_taken htaken
  change (s.flushCoalescer sink sends).1.Holds (ingested++[])
  rw [List.append_nil,Downstream.Holds,Downstream.flushCoalescer,hout,hcoalescer]
  exact (congrArg merged (List.append_nil _)).trans h
 | emit event turnCtx sink now sends=>
  change Downstream.Holds _ (ingested++[event])
  rcases turnCtx with _ | _
  · exact holds_around h (haround.resolve_left (by simp)) htaken
  · cases sink with
    | none=>exact holds_around h (haround.resolve_left (by simp)) htaken
    | some remaining=>
     have hkeeps:=holds_ingest h event remaining now
     generalize hpair : s.coalescer.ingest event remaining now=pair at hkeeps
     have happly:Call.apply s (.emit event true (some remaining) now sends) =
       Downstream.emitAll true sends { s with coalescer := pair.2 } pair.1:=by
      rw [← hpair]
      rfl
     rw [happly] at htaken ⊢
     obtain ⟨hout,hcoalescer⟩:=emitAll_taken htaken
     rw [Downstream.Holds,hout,hcoalescer]
     exact hkeeps

theorem holds_run {calls:List (Call α)} : ∀ {s:Downstream α} {ingested:List (Event α)},
  s.Holds ingested → OrderlyRun s calls → (run s calls).Holds (ingested++calls.flatMap Call.event):=by
 induction calls with
 | nil=>
  intro s ingested h _
  rw [List.flatMap_nil,List.append_nil]
  exact h
 | cons call calls ih=>
  intro s ingested h horderly
  rw [List.flatMap_cons,← List.append_assoc]
  exact ih (holds_apply h horderly.1) horderly.2

theorem transparent {calls:List (Call α)} (h:OrderlyRun start calls) :
    (run start calls).Holds (calls.flatMap Call.event) :=
  List.nil_append (calls.flatMap Call.event) ▸ holds_run rfl h

def held : Call Empty := .emit (.delta .text ['a']) true (some 0) 0 []
def later : Call Empty := .emit (.delta .text ['b']) true none 1 []
def flushes : Call Empty := .flush false []

theorem transparent_sample : (run start [held,flushes,later]).Holds ([held,flushes,later].flatMap Call.event) :=
  transparent ⟨⟨by decide,Or.inl ⟨rfl,rfl⟩⟩,⟨by decide,trivial⟩,⟨by decide,Or.inr (by decide)⟩,
    trivial⟩

theorem delta_goes_around :
    (run start [held,later,flushes]).out=[.delta .text ['b'],.delta .text ['a']] ∧
      ¬ (run start [held,later,flushes]).Holds ([held,later,flushes].flatMap Call.event):=by
  constructor
  · decide
  · unfold Downstream.Holds
    decide

end CursorProxy.DeltaCoalescers
