import CursorProxy.PendingExecs
import CursorProxy.Traces

/-! One atomic word holds the deadline of the exposed batch and who may act on it. The calls load
it and exchange it in separate steps; a permit that is dropped runs such a call too. -/
namespace CursorProxy.ResumeAdmissions
open PendingExecs Traces

deriving instance DecidableEq for ResumeAdmissionState,ResumeAdmission

def stateBits : ResumeAdmissionState → ℕ
 | .idle=>0
 | .inFlight=>1
 | .expired=>2

def pack (admission:ResumeAdmission) : ℕ :=
 admission.deadlineTicks*4+stateBits admission.state

theorem stateBits_lt (state:ResumeAdmissionState) : stateBits state<4:=by
 cases state <;> decide

theorem pack_injective : Function.Injective pack:=by
 intro a b h
 obtain ⟨ticks,state⟩:=a
 obtain ⟨ticks',state'⟩:=b
 have hbits:=stateBits_lt state
 have hbits':=stateBits_lt state'
 change ticks*4+stateBits state=ticks'*4+stateBits state' at h
 have hticks:ticks=ticks':=by omega
 have hstate:stateBits state=stateBits state':=by omega
 rw [hticks]
 cases state <;> cases state' <;> first | rfl | exact absurd hstate (by decide)

theorem pack_ticksAt (instant:ℕ) (state:ResumeAdmissionState) : pack ⟨ticksAt instant,state⟩<2 ^ 64:=by
 have hbits:=stateBits_lt state
 have hticks:ticksAt instant ≤ (2 ^ 64-1) / 4:=Nat.min_le_right _ _
 change ticksAt instant*4+stateBits state<2 ^ 64
 omega

inductive ResumeAdmissionError where
 | inFlight
 | expired
deriving DecidableEq

/-- A call with the word that it saw last, or what became of it. -/
inductive Call where
 | tryAdmit (now:ℕ) (seen:ResumeAdmission)
 | claimExpired (seen:ResumeAdmission)
 | refused (error:ResumeAdmissionError)
 | claimed (won:Bool)
 /-- The permit is held. -/
 | admitted
 /-- The permit is being dropped. -/
 | releasing (seen:ResumeAdmission)
 | released
deriving DecidableEq

def Call.alive : Call → Bool
 | .admitted | .releasing _=>true
 | _=>false

/-- What happened to the batches, each known by how many were exposed up to it. -/
inductive Event where
 | admitted (call batch:ℕ)
 | expired (batch:ℕ)
 | reopened (call batch:ℕ)
 | released (call:ℕ)
deriving DecidableEq

structure AdmissionState where
 packed : ResumeAdmission
 calls : List Call
 batch : ℕ
 log : List Event

inductive ResumeOp where
 | markExposedAt (now toolTtl:ℕ)
 | tryAdmit (now:ℕ)
 | claimExpired
 | dropPermit (call:ℕ)
 /-- One turn of the loop of a call. -/
 | advance (call:ℕ)

namespace AdmissionState

/-- `ResumeAdmission::default`. -/
def start : AdmissionState := ⟨⟨0,.idle⟩,[],0,[]⟩

def alive (s:AdmissionState) (call:ℕ) : Prop :=
 ∃ c,s.calls[call]?=some c ∧ c.alive=true

def settle (s:AdmissionState) (call:ℕ) (next:Call) : AdmissionState :=
 { s with calls := s.calls.set call next }

/-- The exchange succeeds when the word is still the one that was seen. -/
def exchange (s:AdmissionState) (call:ℕ) (seen:ResumeAdmission)
  (state:ResumeAdmissionState) (won:Call) (lost:ResumeAdmission → Call) (events:List Event) : AdmissionState :=
 if s.packed=seen then
  { s with
    packed := ⟨seen.deadlineTicks,state⟩
    calls := s.calls.set call won,log := s.log++events }
 else s.settle call (lost s.packed)

def tryAdmit (s:AdmissionState) (call now:ℕ) (seen:ResumeAdmission) : AdmissionState :=
 match seen.state with
 | .inFlight=>s.settle call (.refused .inFlight)
 | .expired=>s.settle call (.refused .expired)
 | .idle=>
  if seen.deadlineTicks≠0 ∧ seen.deadlineTicks ≤ ticksAt now then
   s.exchange call seen .expired (.refused .expired) (.tryAdmit now) [.expired s.batch]
  else s.exchange call seen .inFlight .admitted (.tryAdmit now) [.admitted call s.batch]

def claimExpired (s:AdmissionState) (call:ℕ) (seen:ResumeAdmission) : AdmissionState :=
 if seen.state ≠ .idle then s.settle call (.claimed false)
 else s.exchange call seen .expired (.claimed true) .claimExpired [.expired s.batch]

def release (s:AdmissionState) (call:ℕ) (seen:ResumeAdmission) : AdmissionState :=
 if seen.state ≠ .inFlight then
  { s.settle call .released with log := s.log++[.released call] }
 else
  s.exchange call seen .idle .released .releasing [.reopened call s.batch,.released call]

def advance (s:AdmissionState) (call:ℕ) : Option AdmissionState :=
 match s.calls[call]? with
 | some (.tryAdmit now seen)=>some (s.tryAdmit call now seen)
 | some (.claimExpired seen)=>some (s.claimExpired call seen)
 | some (.releasing seen)=>some (s.release call seen)
 | _=>none

def step (s:AdmissionState) : ResumeOp → Option AdmissionState
 | .markExposedAt now toolTtl=>
  some { s with packed := .setDeadline (now+toolTtl),batch := s.batch+1 }
 | .tryAdmit now=>some { s with calls := s.calls++[.tryAdmit now s.packed] }
 | .claimExpired=>some { s with calls := s.calls++[.claimExpired s.packed] }
 | .dropPermit call=>
  if s.calls[call]?=some .admitted then some (s.settle call (.releasing s.packed)) else none
 | .advance call=>s.advance call

end AdmissionState

variable {s t:AdmissionState} {call:ℕ}

/-- Every permit handed out so far was released. -/
def Vacant (log:List Event) : Prop :=
 ∀ call batch, .admitted call batch∈log → .released call∈log

/-- An admission and an expiry find every earlier permit released, a batch that expired is not
admitted any more, and a release reopens the batch of its own admission, which has not expired. -/
def Allowed (before:List Event) : Event → Prop
 | .admitted _ batch=>Vacant before ∧ .expired batch ∉ before
 | .expired _=>Vacant before
 | .reopened call batch=>.admitted call batch∈before ∧ .expired batch ∉ before
 | .released call=>∃ batch, .admitted call batch∈before

def Fenced (log:List Event) : Prop := Ordered Allowed log

/-- The word tells who holds a permit and whether the current batch expired. -/
structure Inv (s:AdmissionState) : Prop where
 fenced : Fenced s.log
 alive : ∀ call,s.alive call ↔ (∃ batch, .admitted call batch∈s.log) ∧ .released call ∉ s.log
 inFlight : s.packed.state=.inFlight ↔ ∃ call,s.alive call
 single : ∀ call other,s.alive call → s.alive other → call=other
 current : ∀ call batch,s.alive call → .admitted call batch∈s.log → batch=s.batch
 loaded : ∀ (call:ℕ) seen,s.calls[call]?=some (Call.releasing seen) → seen=s.packed
 expired : .expired s.batch∈s.log ↔ s.packed.state=.expired
 past : ∀ batch, .expired batch∈s.log → batch ≤ s.batch
 known : ∀ call batch, .admitted call batch∈s.log → call<s.calls.length
 unclaimed : ∀ (call:ℕ) now seen,s.calls[call]?=some (Call.tryAdmit now seen) → ∀ batch, .admitted call batch ∉ s.log

theorem inv_start : Inv .start:=by
 have hnone:∀ call,¬AdmissionState.start.alive call:=by
  intro call ⟨c,hc,_⟩
  cases hc
 refine ⟨Ordered.nil,fun call=>⟨fun h=>(hnone call h).elim,fun h=>?_⟩,?_,?_,?_,?_,?_,
  ?_,?_,?_⟩
 · obtain ⟨⟨batch,hmem⟩,-⟩:=h
   cases hmem
 · exact ⟨fun h=>(nomatch h),fun ⟨call,h⟩=>(hnone call h).elim⟩
 · intro call other h
   exact (hnone call h).elim
 · intro call batch h
   exact (hnone call h).elim
 · intro call seen h
   cases h
 · exact ⟨fun h=>(nomatch h),fun h=>nomatch h⟩
 · intro batch h
   cases h
 · intro call batch h
   cases h
 · intro call now seen h
   cases h

theorem Inv.vacant (h:Inv s) (hstate:s.packed.state ≠ .inFlight) : Vacant s.log:=by
 intro call batch hadmitted
 by_contra hheld
 exact hstate (h.inFlight.mpr ⟨call,(h.alive call).mpr ⟨⟨batch,hadmitted⟩,hheld⟩⟩)

theorem Inv.unexpired (h:Inv s) (hstate:s.packed.state ≠ .expired) : .expired s.batch ∉ s.log:=by
 intro hmem
 exact hstate (h.expired.mp hmem)

variable {next:Call}

theorem alive_settle (hcall:call<s.calls.length) (other:ℕ) :
  (s.settle call next).alive other ↔ if other=call then next.alive=true else s.alive other:=by
 unfold AdmissionState.alive AdmissionState.settle
 by_cases hsame:other=call
 · subst hsame
   rw [if_pos rfl,List.getElem?_set_self hcall]
   simp
 · rw [if_neg hsame,List.getElem?_set_ne (Ne.symm hsame)]

variable {c:Call}

theorem lt_of_call (h:s.calls[call]?=some c) : call<s.calls.length :=
 (List.getElem?_eq_some_iff.mp h).1

theorem set_cases {other:ℕ} (h:(s.calls.set call next)[other]?=some c) :
  other=call ∧ next=c ∨ s.calls[other]?=some c:=by
 by_cases hsame:other=call
 · subst hsame
   have hlt:other<s.calls.length:=by
    have hset:other<(s.calls.set other next).length:=(List.getElem?_eq_some_iff.mp h).1
    rwa [List.length_set] at hset
   rw [List.getElem?_set_self hlt] at h
   exact Or.inl ⟨rfl,Option.some.inj h⟩
 · rw [List.getElem?_set_ne (Ne.symm hsame)] at h
   exact Or.inr h

theorem Inv.settle (h:Inv s) (hcall:s.calls[call]?=some c) (halive:next.alive=c.alive)
  (hloaded:∀ seen,next=.releasing seen → seen=s.packed)
  (hunclaimed:∀ now seen,next=.tryAdmit now seen → ∀ batch, .admitted call batch ∉ s.log) :
  Inv (s.settle call next):=by
 have hlt:=lt_of_call hcall
 have hsame:∀ other,(s.settle call next).alive other ↔ s.alive other:=by
  intro other
  rw [alive_settle hlt]
  by_cases hother:other=call
  · subst hother
    rw [if_pos rfl,halive]
    exact ⟨fun hc=>⟨c,hcall,hc⟩,fun ⟨d,hd,hlive⟩=>
     Option.some.inj (hcall.symm.trans hd) ▸ hlive⟩
  · rw [if_neg hother]
 refine ⟨h.fenced,fun other=>(hsame other).trans (h.alive other),?_,?_,?_,?_,h.expired,
  h.past,?_,?_⟩
 · exact h.inFlight.trans (exists_congr fun other=>(hsame other).symm)
 · intro one other hone hother
   exact h.single one other ((hsame one).mp hone) ((hsame other).mp hother)
 · intro other batch hother hmem
   exact h.current other batch ((hsame other).mp hother) hmem
 · intro other seen hother
   rcases set_cases hother with ⟨-,rfl⟩ | hother
   · exact hloaded seen rfl
   · exact h.loaded other seen hother
 · intro other batch hmem
   change other<(s.calls.set call next).length
   rw [List.length_set]
   exact h.known other batch hmem
 · intro other now seen hother
   rcases set_cases hother with ⟨rfl,rfl⟩ | hother
   · exact hunclaimed now seen rfl
   · exact h.unclaimed other now seen hother

variable {seen:ResumeAdmission}

theorem Inv.admit (h:Inv s) {now:ℕ} (hcall:s.calls[call]?=some (.tryAdmit now seen))
  (hidle:s.packed.state=.idle) (ticks:ℕ) : Inv { s with
   packed := ⟨ticks,.inFlight⟩,calls := s.calls.set call .admitted
   log := s.log++[.admitted call s.batch] }:=by
 have hlt:=lt_of_call hcall
 have hvacant:=h.vacant (by rw [hidle]; decide)
 have hunexpired:=h.unexpired (by rw [hidle]; decide)
 have hnone:∀ other,¬s.alive other:=by
  intro other hother
  have hflight:=h.inFlight.mpr ⟨other,hother⟩
  rw [hidle] at hflight
  cases hflight
 have hreleased : .released call ∉ s.log:=by
  intro hmem
  obtain ⟨before,after,hsplit⟩:=List.append_of_mem hmem
  obtain ⟨batch,hadmitted⟩:=h.fenced before _ after hsplit
  exact h.unclaimed call now seen hcall batch (hsplit ▸ List.mem_append_left _ hadmitted)
 have halive:∀ other,(s.settle call .admitted).alive other ↔ other=call:=by
  intro other
  rw [alive_settle hlt]
  by_cases hother:other=call
  · simp [hother,Call.alive]
  · simp [hother,hnone other]
 refine ⟨h.fenced.push (And.intro hvacant hunexpired),fun other=>(halive other).trans ?_,?_,?_,?_,?_,
  ?_,?_,?_,?_⟩
 · constructor
   · rintro rfl
     refine ⟨⟨s.batch,by simp⟩,?_⟩
     simpa using hreleased
   · intro ⟨⟨batch,hmem⟩,hheld⟩
     rcases List.mem_append.mp hmem with hold | hnew
     · exact absurd (List.mem_append_left _ (hvacant other batch hold)) hheld
     · simp at hnew
       exact hnew.1
 · exact ⟨fun _=>⟨call,(halive call).mpr rfl⟩,fun _=>rfl⟩
 · intro one other hone hother
   rw [(halive one).mp hone,(halive other).mp hother]
 · intro other batch hother hmem
   obtain rfl:=(halive other).mp hother
   rcases List.mem_append.mp hmem with hold | hnew
   · exact absurd hold (h.unclaimed other now seen hcall batch)
   · simp at hnew
     exact hnew
 · intro other seen hother
   rcases set_cases hother with ⟨-,hnext⟩ | hother
   · cases hnext
   · exact (hnone other ⟨_,hother,rfl⟩).elim
 · constructor
   · intro hmem
     exact absurd (by simpa using hmem) hunexpired
   · intro hstate
     cases hstate
 · intro batch hmem
   exact h.past batch (by simpa using hmem)
 · intro other batch hmem
   change other<(s.calls.set call .admitted).length
   rw [List.length_set]
   rcases List.mem_append.mp hmem with hold | hnew
   · exact h.known other batch hold
   · simp at hnew
     rw [hnew.1]
     exact hlt
 · intro other now seen hother batch hmem
   rcases set_cases hother with ⟨-,hnext⟩ | hold
   · cases hnext
   · rcases List.mem_append.mp hmem with hmem | hnew
     · exact h.unclaimed other now seen hold batch hmem
     · simp at hnew
       obtain rfl:=hnew.1
       change (s.calls.set other .admitted)[other]?=_ at hother
       rw [List.getElem?_set_self hlt] at hother
       cases hother

theorem Inv.idle (h:Inv s) (hidle:s.packed.state=.idle) (other:ℕ) : ¬s.alive other:=by
 intro hother
 have hflight:=h.inFlight.mpr ⟨other,hother⟩
 rw [hidle] at hflight
 cases hflight

theorem Inv.expire (h:Inv s) (hcall:s.calls[call]?=some c) (hidle:s.packed.state=.idle)
  (hnext:next.alive=false) (hloop:∀ now seen,next ≠ .tryAdmit now seen) (ticks:ℕ)
  : Inv { s with
   packed := ⟨ticks,.expired⟩,calls := s.calls.set call next
   log := s.log++[.expired s.batch] }:=by
 have hlt:=lt_of_call hcall
 have hvacant:=h.vacant (by rw [hidle]; decide)
 have hnone:=h.idle hidle
 have hdead:∀ other,¬(s.settle call next).alive other:=by
  intro other hother
  rw [alive_settle hlt] at hother
  by_cases hsame:other=call
  · rw [if_pos hsame,hnext] at hother
    cases hother
  · rw [if_neg hsame] at hother
    exact hnone other hother
 refine ⟨h.fenced.push hvacant,fun other=>iff_of_false (hdead other) ?_,?_,?_,?_,?_,?_,?_,
  ?_,?_⟩
 · intro ⟨⟨batch,hmem⟩,hheld⟩
   have hold : .admitted other batch∈s.log:=by simpa using hmem
   exact hheld (List.mem_append_left _ (hvacant other batch hold))
 · exact ⟨fun hstate=>(nomatch hstate),fun ⟨other,hother⟩=>(hdead other hother).elim⟩
 · intro one other hone
   exact (hdead one hone).elim
 · intro other batch hother
   exact (hdead other hother).elim
 · intro other seen hother
   rcases set_cases hother with ⟨-,hsame⟩ | hold
   · rw [hsame] at hnext
     cases hnext
   · exact (hnone other ⟨_,hold,rfl⟩).elim
 · exact iff_of_true (by simp) rfl
 · intro batch hmem
   rcases List.mem_append.mp hmem with hold | hnew
   · exact h.past batch hold
   · simp at hnew
     exact Nat.le_of_eq hnew
 · intro other batch hmem
   change other<(s.calls.set call next).length
   rw [List.length_set]
   exact h.known other batch (by simpa using hmem)
 · intro other now seen hother batch hmem
   rcases set_cases hother with ⟨-,hsame⟩ | hold
   · exact hloop now seen hsame
   · exact h.unclaimed other now seen hold batch (by simpa using hmem)

theorem Inv.reopen (h:Inv s) (hcall:s.calls[call]?=some (.releasing seen)) (ticks:ℕ)
  : Inv { s with
   packed := ⟨ticks,.idle⟩,calls := s.calls.set call .released
   log := s.log++[.reopened call s.batch,.released call] }:=by
 have hlt:=lt_of_call hcall
 have hlive:s.alive call:=⟨_,hcall,rfl⟩
 have hflight:=h.inFlight.mpr ⟨call,hlive⟩
 have hunexpired:=h.unexpired (by rw [hflight]; decide)
 obtain ⟨⟨batch,hadmitted⟩,-⟩:=(h.alive call).mp hlive
 obtain rfl:=h.current call batch hlive hadmitted
 have hdead:∀ other,¬(s.settle call .released).alive other:=by
  intro other hother
  rw [alive_settle hlt] at hother
  by_cases hsame:other=call
  · rw [if_pos hsame] at hother
    cases hother
  · rw [if_neg hsame] at hother
    exact hsame (h.single other call hother hlive)
 have hlog:Fenced (s.log++[.reopened call s.batch,.released call]):=by
  have hfirst:Fenced (s.log++[.reopened call s.batch]) :=
   h.fenced.push ⟨hadmitted,hunexpired⟩
  have hboth:Fenced (s.log++[.reopened call s.batch]++[.released call]) :=
   hfirst.push ⟨s.batch,List.mem_append_left _ hadmitted⟩
  rwa [List.append_assoc] at hboth
 refine ⟨hlog,fun other=>iff_of_false (hdead other) ?_,?_,?_,?_,?_,?_,?_,?_,?_⟩
 · intro ⟨⟨batch,hmem⟩,hheld⟩
   have hold : .admitted other batch∈s.log:=by simpa using hmem
   by_cases hsame:other=call
   · exact hheld (by simp [hsame])
   · have hother:¬s.alive other:=fun hother=>hsame (h.single other call hother hlive)
     rw [h.alive other] at hother
     have hreleased : .released other∈s.log:=by
      by_contra hnot
      exact hother ⟨⟨batch,hold⟩,hnot⟩
     exact hheld (List.mem_append_left _ hreleased)
 · exact ⟨fun hstate=>(nomatch hstate),fun ⟨other,hother⟩=>(hdead other hother).elim⟩
 · intro one other hone
   exact (hdead one hone).elim
 · intro other batch hother
   exact (hdead other hother).elim
 · intro other seen hother
   rcases set_cases hother with ⟨-,hsame⟩ | hold
   · cases hsame
   · by_cases hsame:other=call
     · subst hsame
       change (s.calls.set other .released)[other]?=_ at hother
       rw [List.getElem?_set_self hlt] at hother
       cases hother
     · exact (hsame (h.single other call ⟨_,hold,rfl⟩ hlive)).elim
 · refine iff_of_false (fun hmem=>hunexpired (by simpa using hmem)) ?_
   intro hstate
   cases hstate
 · intro batch hmem
   exact h.past batch (by simpa using hmem)
 · intro other batch hmem
   change other<(s.calls.set call .released).length
   rw [List.length_set]
   exact h.known other batch (by simpa using hmem)
 · intro other now seen hother batch hmem
   rcases set_cases hother with ⟨-,hsame⟩ | hold
   · cases hsame
   · exact h.unclaimed other now seen hold batch (by simpa using hmem)

theorem Inv.expose (h:Inv s) (hquiet:∀ call,¬s.alive call) (deadline:ℕ) :
  Inv { s with packed := .setDeadline deadline,batch := s.batch+1 }:=by
 refine ⟨h.fenced,h.alive,?_,h.single,fun call batch hcall=>(hquiet call hcall).elim,?_,?_,
  ?_,h.known,h.unclaimed⟩
 · exact ⟨fun hstate=>(nomatch hstate),fun ⟨call,hcall⟩=>(hquiet call hcall).elim⟩
 · intro call seen hcall
   exact (hquiet call ⟨_,hcall,rfl⟩).elim
 · refine iff_of_false (fun hmem=>?_) (fun hstate=>nomatch hstate)
   have hpast:=h.past (s.batch+1) hmem
   omega
 · intro batch hmem
   have hpast:=h.past batch hmem
   change batch ≤ s.batch+1
   omega

theorem call_cases {next c:Call} {other:ℕ} (h:(s.calls++[next])[other]?=some c) :
  s.calls[other]?=some c ∨ other=s.calls.length ∧ next=c:=by
 by_cases hlt:other<s.calls.length
 · rw [List.getElem?_append_left hlt] at h
   exact Or.inl h
 · have hend:=(List.getElem?_eq_some_iff.mp h).1
   rw [List.length_append,List.length_singleton] at hend
   obtain rfl : other=s.calls.length:=by omega
   rw [List.getElem?_concat_length] at h
   exact Or.inr ⟨rfl,Option.some.inj h⟩

theorem Inv.called (h:Inv s) (hnext:next.alive=false) : Inv { s with calls := s.calls++[next] }:=by
 have hsame:∀ other,AdmissionState.alive { s with calls:=s.calls++[next] } other ↔
   s.alive other:=by
  intro other
  constructor
  · intro ⟨c,hc,hlive⟩
    rcases call_cases hc with hold | ⟨-,rfl⟩
    · exact ⟨c,hold,hlive⟩
    · exact absurd (hnext.symm.trans hlive) (by decide)
  · intro ⟨c,hc,hlive⟩
    exact ⟨c,(List.getElem?_append_left (lt_of_call hc)).trans hc,hlive⟩
 refine ⟨h.fenced,fun other=>(hsame other).trans (h.alive other),?_,?_,?_,?_,h.expired,
  h.past,?_,?_⟩
 · exact h.inFlight.trans (exists_congr fun other=>(hsame other).symm)
 · intro one other hone hother
   exact h.single one other ((hsame one).mp hone) ((hsame other).mp hother)
 · intro other batch hother hmem
   exact h.current other batch ((hsame other).mp hother) hmem
 · intro other seen hother
   rcases call_cases hother with hold | ⟨-,rfl⟩
   · exact h.loaded other seen hold
   · cases hnext
 · intro other batch hmem
   change other<(s.calls++[next]).length
   rw [List.length_append]
   exact Nat.lt_add_right _ (h.known other batch hmem)
 · intro other now seen hother batch hmem
   rcases call_cases hother with hold | ⟨rfl,-⟩
   · exact h.unclaimed other now seen hold batch hmem
   · exact absurd (h.known _ batch hmem) (Nat.lt_irrefl _)

theorem Inv.tryAdmit (h:Inv s) {now:ℕ} (hcall:s.calls[call]?=some (.tryAdmit now seen))
  : Inv (s.tryAdmit call now seen):=by
 have hagain:Inv (s.settle call (.tryAdmit now s.packed)):=h.settle hcall rfl
  (fun _ hnext=>(nomatch hnext)) (fun _ _ _=>h.unclaimed call now seen hcall)
 have hrefused:∀ error,Inv (s.settle call (.refused error)):=fun error=>
  h.settle hcall rfl (fun _ hnext=>(nomatch hnext)) (fun _ _ hnext=>(nomatch hnext))
 unfold AdmissionState.tryAdmit
 cases hstate:seen.state with
 | inFlight=>exact hrefused .inFlight
 | expired=>exact hrefused .expired
 | idle=>
  dsimp only
  unfold AdmissionState.exchange
  by_cases hsame:s.packed=seen
  · have hidle:s.packed.state=.idle:=by rw [hsame,hstate]
    split_ifs
    · exact h.expire hcall hidle rfl (by simp) _
    · exact h.admit hcall hidle _
  · rw [if_neg hsame,if_neg hsame,ite_self]
    exact hagain

theorem Inv.claimExpired (h:Inv s) (hcall:s.calls[call]?=some (.claimExpired seen))
  : Inv (s.claimExpired call seen):=by
 have hsettle:∀ next:Call,next.alive=false → (∀ now word,next ≠ .tryAdmit now word) → Inv (s.settle call next):=by
  intro next hnext hloop
  refine h.settle hcall hnext (fun word hword=>?_) (fun now word hword=>?_)
  · rw [hword] at hnext
    cases hnext
  · exact (hloop now word hword).elim
 unfold AdmissionState.claimExpired
 by_cases hidle:seen.state=.idle
 · rw [if_neg (not_not_intro hidle)]
   unfold AdmissionState.exchange
   by_cases hsame:s.packed=seen
   · rw [if_pos hsame]
     exact h.expire hcall (hsame ▸ hidle) rfl (by simp) _
   · rw [if_neg hsame]
     exact hsettle _ rfl fun _ _ hnext=>(nomatch hnext)
 · rw [if_pos hidle]
   exact hsettle _ rfl fun _ _ hnext=>(nomatch hnext)

theorem Inv.release (h:Inv s) (hcall:s.calls[call]?=some (.releasing seen)) : Inv (s.release call seen):=by
 have hseen:=h.loaded call seen hcall
 have hflight:seen.state=.inFlight:=by
  rw [hseen]
  exact h.inFlight.mpr ⟨call,_,hcall,rfl⟩
 unfold AdmissionState.release AdmissionState.exchange
 rw [if_neg (not_not_intro hflight),if_pos hseen.symm]
 exact h.reopen hcall _

def QuietStep (s:AdmissionState) (op:ResumeOp) (t:AdmissionState) : Prop :=
 s.step op=some t ∧ ∀ now toolTtl,op=.markExposedAt now toolTtl → s.calls.any Call.alive=false

theorem step_inv {op:ResumeOp} (hstep:QuietStep s op t) (h:Inv s) : Inv t:=by
 obtain ⟨hstep,hquiet⟩:=hstep
 cases op with
 | markExposedAt now toolTtl=>
  obtain rfl:=Option.some.inj hstep
  apply h.expose
  intro call ⟨c,hc,hlive⟩
  have hnone:=List.any_eq_false.mp (hquiet now toolTtl rfl) c (List.mem_of_getElem? hc)
  exact hnone hlive
 | tryAdmit now=>
  obtain rfl:=Option.some.inj hstep
  exact h.called rfl
 | claimExpired=>
  obtain rfl:=Option.some.inj hstep
  exact h.called rfl
 | dropPermit call=>
  change (if _ then _ else none)=_ at hstep
  split_ifs at hstep with hcall
  obtain rfl:=Option.some.inj hstep
  refine h.settle hcall rfl (fun seen hnext=>?_) (fun _ _ hnext=>(nomatch hnext))
  exact (Call.releasing.inj hnext).symm
 | advance call=>
  change s.advance call=some t at hstep
  unfold AdmissionState.advance at hstep
  split at hstep
  · rename_i hcall
    obtain rfl:=Option.some.inj hstep
    exact h.tryAdmit hcall
  · rename_i hcall
    obtain rfl:=Option.some.inj hstep
    exact h.claimExpired hcall
  · rename_i hcall
    obtain rfl:=Option.some.inj hstep
    exact h.release hcall
  · cases hstep

/-- In every run that exposes no batch while a permit is held, admissions exclude each other and
the expiry of their batch, and a release reopens the batch of its own admission. -/
theorem resumes_fenced {ops:List ResumeOp} (h:Trace QuietStep .start ops s) : Fenced s.log :=
  (h.invariant Inv (fun _ _ _ _ hs hstep=>step_inv hstep hs) inv_start).fenced

/-- A resume in front of the deadline, and behind it an expiry. -/
theorem resumes_fenced_late : ∃ s,Trace QuietStep .start
      [.markExposedAt 0 10, .tryAdmit 1,.advance 0,.claimExpired,.advance 1,.dropPermit 0,
        .advance 0,.markExposedAt 2 10, .tryAdmit 12,.advance 2] s ∧
    s.log=[.admitted 0 1,.reopened 0 1,.released 0,.expired 2] ∧ Fenced s.log:=by
  have hrun:Trace QuietStep .start
      [.markExposedAt 0 10, .tryAdmit 1,.advance 0,.claimExpired,.advance 1,.dropPermit 0,
        .advance 0,.markExposedAt 2 10, .tryAdmit 12,.advance 2] _ :=
    .cons ⟨rfl,fun _ _ _=>rfl⟩ <| .cons ⟨rfl,by simp⟩ <| .cons ⟨rfl,by simp⟩ <|
      .cons ⟨rfl,by simp⟩ <| .cons ⟨rfl,by simp⟩ <| .cons ⟨rfl,by simp⟩ <|
      .cons ⟨rfl,by simp⟩ <| .cons ⟨rfl,fun _ _ _=>rfl⟩ <| .cons ⟨rfl,by simp⟩ <|
      .cons ⟨rfl,by simp⟩ <| .nil _
  exact ⟨_,hrun,rfl,resumes_fenced hrun⟩

/-- The next batch is exposed while the permit of the last one is held: both are admitted. -/
theorem exposure_reopens : ∃ s,perform AdmissionState.step .start
      [.markExposedAt 0 10, .tryAdmit 1,.advance 0,.markExposedAt 2 10, .tryAdmit 3,
        .advance 1]=some s ∧ ¬Fenced s.log:=by
  refine ⟨_,rfl,fun hfenced=>?_⟩
  have hallowed:=hfenced [.admitted 0 1] (.admitted 1 2) [] rfl
  have hreleased:=hallowed.1 0 1 (by simp)
  simp at hreleased

end CursorProxy.ResumeAdmissions
