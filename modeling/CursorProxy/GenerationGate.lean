import CursorProxy.PermitPools
import CursorProxy.Traces

/-! Three semaphores over one total budget: ordinary starts, interactive starts and everything
that runs. An acquisition waits on its semaphores step by step; what it holds goes back when it
is abandoned. -/
namespace CursorProxy.GenerationGate
open PermitPools Traces

inductive Pool where
 | total
 | starts
 | interactiveStarts
deriving DecidableEq

def liveGenerationMax : ℕ := 8192
def liveGenerationResumeReserveMax : ℕ := 512
def liveGenerationInteractiveReserveMax : ℕ := 1024

structure LiveGenerationGate where
 limit : ℕ
 resumeReserve : ℕ
 interactiveReserve : ℕ

def newWithInteractiveReserve (limit resumeReserve interactiveReserve:ℕ) : LiveGenerationGate :=
 ⟨min (max limit 1) liveGenerationMax,min resumeReserve liveGenerationResumeReserveMax,
  min interactiveReserve liveGenerationInteractiveReserveMax⟩

def LiveGenerationGate.capacity (gate:LiveGenerationGate) : Pool → ℕ
 | .total=>gate.limit+gate.interactiveReserve+gate.resumeReserve
 | .starts=>gate.limit
 | .interactiveStarts=>gate.interactiveReserve

structure LiveGenerationPermit where
 totalPermit : Option (Permit Pool)
 startPermit : Option (Permit Pool)
deriving DecidableEq

def LiveGenerationPermit.empty : LiveGenerationPermit := ⟨none,none⟩

def LiveGenerationPermit.held (permit:LiveGenerationPermit) : List (Permit Pool) :=
 permit.totalPermit.toList++permit.startPermit.toList

/-- A call that waits. A semaphore may have granted a permit to it that it has not seen yet. -/
inductive Acquire where
 | start (granted:Option (Permit Pool))
 | interactiveStart (primary reserve:Option (Permit Pool))
 | finishStart (startPermit:Permit Pool) (granted:Option (Permit Pool))
 | resume (granted:Option (Permit Pool))
 | done

namespace Acquire

def held : Acquire → List (Permit Pool)
 | .start granted=>granted.toList
 | .interactiveStart primary reserve=>primary.toList++reserve.toList
 | .finishStart startPermit granted=>startPermit::granted.toList
 | .resume granted=>granted.toList
 | .done=>[]

def queuedAt : Acquire → Pool → Bool
 | .start none, .starts=>true
 | .interactiveStart none _, .starts=>true
 | .interactiveStart _ none, .interactiveStarts=>true
 | .finishStart _ none, .total=>true
 | .resume none, .total=>true
 | _,_=>false

def grant (acquire:Acquire) (permit:Permit Pool) : Acquire :=
 match acquire with
 | .start _=>.start (some permit)
 | .interactiveStart primary reserve=>
  if permit.pool=.starts then .interactiveStart (some permit) reserve
  else .interactiveStart primary (some permit)
 | .finishStart startPermit _=>.finishStart startPermit (some permit)
 | .resume _=>.resume (some permit)
 | .done=>.done

/-- What a call becomes when it sees a permit, what it lets go and what it returns. The ordinary
semaphore is looked at before the reserve. -/
def poll : Acquire → Option (Acquire×List (Permit Pool)×Option LiveGenerationPermit)
 | .start (some permit)=>some (.finishStart permit none,[],none)
 | .interactiveStart (some permit) reserve=>
  some (.finishStart permit none,reserve.toList,none)
 | .interactiveStart none (some permit)=>some (.finishStart permit none,[],none)
 | .finishStart startPermit (some totalPermit)=>
  some (.done,[],some ⟨some totalPermit,some startPermit⟩)
 | .resume (some totalPermit)=>some (.done,[],some ⟨some totalPermit,none⟩)
 | _=>none

end Acquire

structure GateState where
 pools : Pools Pool
 acquires : List Acquire
 permits : List LiveGenerationPermit

inductive GateOp where
 | acquireStart
 | acquireInteractiveStart
 | acquireResume
 | grant (call:ℕ) (pool:Pool)
 | poll (call:ℕ)
 /-- The call is cancelled, times out, or its future is dropped. -/
 | abandon (call:ℕ)
 | dropPermit (place:ℕ)
 | releaseGeneration (place:ℕ)
 | replaceGeneration (place replacement:ℕ)

namespace GateState

def start (gate:LiveGenerationGate) : GateState := ⟨Pools.full gate.capacity,[],[]⟩

def held (s:GateState) : List (Permit Pool) :=
 s.acquires.flatMap Acquire.held++s.permits.flatMap LiveGenerationPermit.held

def call (s:GateState) (acquire:Acquire) : GateState :=
 { s with acquires := s.acquires++[acquire] }

def grant (s:GateState) (call:ℕ) (pool:Pool) : Option GateState := do
 let acquire ← s.acquires[call]?
 guard (acquire.queuedAt pool)
 let (pools,permit) ← s.pools.take pool
 return { s with pools := pools,acquires := s.acquires.set call (acquire.grant permit) }

def poll (s:GateState) (call:ℕ) : Option GateState := do
 let acquire ← s.acquires[call]?
 let (next,dropped,permit) ← acquire.poll
 return ⟨s.pools.giveAll dropped,s.acquires.set call next,s.permits++permit.toList⟩

def abandon (s:GateState) (call:ℕ) : Option GateState := do
 let acquire ← s.acquires[call]?
 return { s with pools := s.pools.giveAll acquire.held,acquires := s.acquires.set call .done }

/-- A dropped permit and a released one let go of the same slots; a released one lives on. -/
def dropPermit (s:GateState) (place:ℕ) : Option GateState := do
 let permit ← s.permits[place]?
 return { s with pools := s.pools.giveAll permit.held,permits := s.permits.set place .empty }

def releaseGeneration (s:GateState) (place:ℕ) : Option GateState := do
 let permit ← s.permits[place]?
 return { s with
  pools := s.pools.giveAll (permit.startPermit.toList++permit.totalPermit.toList)
  permits := s.permits.set place .empty }

/-- The permit takes over what its replacement holds, and what it held goes back. -/
def replaceGeneration (s:GateState) (place replacement:ℕ) : Option GateState := do
 guard (place≠replacement)
 let permit ← s.permits[place]?
 let other ← s.permits[replacement]?
 return { s with
  pools := s.pools.giveAll permit.held
  permits := (s.permits.set replacement .empty).set place other }

def step (s:GateState) : GateOp → Option GateState
 | .acquireStart=>some (s.call (.start none))
 | .acquireInteractiveStart=>some (s.call (.interactiveStart none none))
 | .acquireResume=>some (s.call (.resume none))
 | .grant call pool=>s.grant call pool
 | .poll call=>s.poll call
 | .abandon call=>s.abandon call
 | .dropPermit place=>s.dropPermit place
 | .releaseGeneration place=>s.releaseGeneration place
 | .replaceGeneration place replacement=>s.replaceGeneration place replacement

end GateState

variable {gate:LiveGenerationGate} {s t:GateState}

variable {acquire:Acquire} {permit:Permit Pool}

theorem grant_held (h:acquire.queuedAt permit.pool=true) : (acquire.grant permit).held.Perm (permit::acquire.held):=by
 obtain ⟨pool,serial⟩:=permit
 cases acquire with
 | start granted=>
  cases granted with
  | none=>rfl
  | some _=>cases pool <;> cases h
 | interactiveStart primary reserve=>
  cases pool with
  | total=>cases primary <;> cases reserve <;> cases h
  | starts=>
   cases primary with
   | none=>rfl
   | some _=>cases reserve <;> cases h
  | interactiveStarts=>
   cases reserve with
   | none=>
    change (primary.toList++[_]).Perm (_::(primary.toList++[]))
    rw [List.append_nil]
    exact List.perm_append_singleton _ _
   | some _=>cases primary <;> cases h
 | finishStart startPermit granted=>
  cases granted with
  | none=>exact List.Perm.swap _ _ _
  | some _=>cases pool <;> cases h
 | resume granted=>
  cases granted with
  | none=>rfl
  | some _=>cases pool <;> cases h
 | done=>cases pool <;> cases h

variable {dropped:List (Permit Pool)}

theorem poll_held {next:Acquire} {permit:Option LiveGenerationPermit} (h:acquire.poll=some (next,dropped,permit)) :
  acquire.held.Perm (dropped++(next.held++permit.toList.flatMap LiveGenerationPermit.held)):=by
 unfold Acquire.poll at h
 split at h
 · cases h
   rfl
 · cases h
   change (_::Option.toList _).Perm (Option.toList _++[_])
   exact (List.perm_append_singleton _ _).symm
 · cases h
   rfl
 · cases h
   exact List.Perm.swap _ _ _
 · cases h
   rfl
 · cases h

theorem take_pool {pools pools':Pools Pool} {pool:Pool}
  (h:pools.take pool=some (pools',permit)) : permit.pool=pool:=by
 unfold Pools.take at h
 split_ifs at h
 obtain ⟨-,rfl⟩:=Prod.mk.inj (Option.some.inj h)
 rfl

def heldBeside (s:GateState) (call:ℕ) : List (Permit Pool) :=
 (s.acquires.eraseIdx call).flatMap Acquire.held++s.permits.flatMap LiveGenerationPermit.held

theorem held_call {call:ℕ} (h:s.acquires[call]?=some acquire) : s.held.Perm (acquire.held++heldBeside s call):=by
 have hsplit:=(held_split h Acquire.held).append_right (s.permits.flatMap LiveGenerationPermit.held)
 rw [List.append_assoc] at hsplit
 exact hsplit

theorem held_called {call:ℕ} (h:s.acquires[call]?=some acquire) (next:Acquire) (pools:Pools Pool) :
  GateState.held { s with pools := pools,acquires := s.acquires.set call next } |>.Perm
   (next.held++heldBeside s call):=by
 have hset:=(held_set h next Acquire.held).append_right (s.permits.flatMap LiveGenerationPermit.held)
 rw [List.append_assoc] at hset
 exact hset

theorem call_accounts (hheld:acquire.held=[]) (h:Accounts gate.capacity s.pools s.held) :
  Accounts gate.capacity (s.call acquire).pools (s.call acquire).held:=by
 have hsame:(s.call acquire).held=s.held:=by
  change (s.acquires++[acquire]).flatMap Acquire.held++_=_
  rw [List.flatMap_append,List.flatMap_singleton,hheld,List.append_nil]
  rfl
 rw [hsame]
 exact h

/-- What a grant can do. -/
theorem grant_cases {call:ℕ} {pool:Pool} (hstep:s.grant call pool=some t) :
  ∃ acquire pools permit,s.acquires[call]?=some acquire ∧
   acquire.queuedAt permit.pool=true ∧ s.pools.take pool=some (pools,permit) ∧
   t={ s with pools := pools,acquires := s.acquires.set call (acquire.grant permit) }:=by
 obtain ⟨acquire,hcall,hrest⟩:=Option.bind_eq_some_iff.mp hstep
 obtain ⟨_,hguard,hrest⟩:=Option.bind_eq_some_iff.mp hrest
 obtain ⟨⟨pools,permit⟩,htake,hdone⟩:=Option.bind_eq_some_iff.mp hrest
 have hqueued:acquire.queuedAt permit.pool=true:=by
  rw [take_pool htake]
  by_contra hnot
  simp [guard,hnot] at hguard
 exact ⟨acquire,pools,permit,hcall,hqueued,htake,(Option.some.inj hdone).symm⟩

theorem grant_accounts {call:ℕ} {pool:Pool} (hstep:s.grant call pool=some t)
  (h:Accounts gate.capacity s.pools s.held) : Accounts gate.capacity t.pools t.held:=by
 obtain ⟨acquire,pools,permit,hcall,hqueued,htake,rfl⟩:=grant_cases hstep
 have htaken:=(h.perm (held_call hcall)).take htake
 apply htaken.perm
 have hgranted:=(grant_held hqueued).append_right (heldBeside s call)
 exact hgranted.symm.trans (held_called hcall _ _).symm

theorem poll_accounts {call:ℕ} (hstep:s.poll call=some t)
  (h:Accounts gate.capacity s.pools s.held) : Accounts gate.capacity t.pools t.held:=by
 obtain ⟨acquire,hcall,hrest⟩:=Option.bind_eq_some_iff.mp hstep
 obtain ⟨⟨next,dropped,permit⟩,hpoll,hdone⟩:=Option.bind_eq_some_iff.mp hrest
 obtain rfl:=Option.some.inj hdone
 apply Accounts.giveAll
 apply h.perm
 have hnext:=held_called hcall next (s.pools.giveAll dropped)
 have hbefore:=(held_call hcall).trans ((poll_held hpoll).append_right _)
 refine hbefore.trans ?_
 rw [List.append_assoc]
 apply List.Perm.append_left dropped
 change List.Perm _ ((s.acquires.set call next).flatMap Acquire.held ++
  (s.permits++permit.toList).flatMap LiveGenerationPermit.held)
 rw [List.flatMap_append,← List.append_assoc]
 refine List.Perm.trans ?_ (hnext.symm.append_right _)
 rw [List.append_assoc,List.append_assoc]
 exact List.Perm.append_left _ List.perm_append_comm

theorem abandon_accounts {call:ℕ} (hstep:s.abandon call=some t)
  (h:Accounts gate.capacity s.pools s.held) : Accounts gate.capacity t.pools t.held:=by
 obtain ⟨acquire,hcall,hdone⟩:=Option.bind_eq_some_iff.mp hstep
 obtain rfl:=Option.some.inj hdone
 apply Accounts.giveAll
 apply h.perm
 exact (held_call hcall).trans ((held_called hcall .done _).symm.append_left acquire.held)

theorem permit_accounts {place:ℕ} {permit next:LiveGenerationPermit}
  (hpermit:s.permits[place]?=some permit) (hheld:permit.held.Perm (dropped++next.held))
  (h:Accounts gate.capacity s.pools s.held) :
  Accounts gate.capacity (s.pools.giveAll dropped)
   (GateState.held { s with pools := s.pools.giveAll dropped
                            permits := s.permits.set place next }):=by
 apply Accounts.giveAll
 apply h.perm
 have hsplit:=held_split hpermit LiveGenerationPermit.held
 have hset:=held_set hpermit next LiveGenerationPermit.held
 have hpermits:(s.permits.flatMap LiveGenerationPermit.held).Perm
   (dropped++(s.permits.set place next).flatMap LiveGenerationPermit.held):=by
  refine hsplit.trans ((hheld.append_right _).trans ?_)
  rw [List.append_assoc]
  exact hset.symm.append_left dropped
 refine (hpermits.append_left _).trans ?_
 rw [← List.append_assoc]
 change List.Perm _ (dropped++(s.acquires.flatMap Acquire.held++_))
 rw [← List.append_assoc]
 exact List.perm_append_comm.append_right _

theorem replace_accounts {place replacement:ℕ} (hstep:s.replaceGeneration place replacement=some t)
  (h:Accounts gate.capacity s.pools s.held) : Accounts gate.capacity t.pools t.held:=by
 obtain ⟨_,hguard,hrest⟩:=Option.bind_eq_some_iff.mp hstep
 obtain ⟨permit,hpermit,hrest⟩:=Option.bind_eq_some_iff.mp hrest
 obtain ⟨other,hother,hdone⟩:=Option.bind_eq_some_iff.mp hrest
 obtain rfl:=Option.some.inj hdone
 have hne:place≠replacement:=by
  by_contra hsame
  simp [guard,hsame] at hguard
 -- The replacement lets go of its slots, and the permit that holds them lets go of its own.
 have hempty:(s.permits.set replacement .empty)[place]?=some permit:=by
  rw [List.getElem?_set_ne (Ne.symm hne)]
  exact hpermit
 have hmoved:(s.permits.flatMap LiveGenerationPermit.held).Perm (permit.held ++
   ((s.permits.set replacement .empty).set place other).flatMap LiveGenerationPermit.held):=by
  have hsplit:=held_split hother LiveGenerationPermit.held
  have hset:=held_set hother .empty LiveGenerationPermit.held
  have hsplit':=held_split hempty LiveGenerationPermit.held
  have hset':=held_set hempty other LiveGenerationPermit.held
  refine hsplit.trans ((hset.symm.append_left other.held).trans ?_)
  refine (hsplit'.append_left other.held).trans ?_
  rw [← List.append_assoc]
  refine (List.perm_append_comm.append_right _).trans ?_
  rw [List.append_assoc]
  exact hset'.symm.append_left permit.held
 apply Accounts.giveAll
 apply h.perm
 refine (hmoved.append_left _).trans ?_
 rw [← List.append_assoc]
 change List.Perm _ (permit.held++(s.acquires.flatMap Acquire.held++_))
 rw [← List.append_assoc]
 exact List.perm_append_comm.append_right _

theorem step_accounts {op:GateOp} (hstep:s.step op=some t)
  (h:Accounts gate.capacity s.pools s.held) : Accounts gate.capacity t.pools t.held:=by
 cases op with
 | acquireStart=>
  obtain rfl:=Option.some.inj hstep
  exact call_accounts rfl h
 | acquireInteractiveStart=>
  obtain rfl:=Option.some.inj hstep
  exact call_accounts rfl h
 | acquireResume=>
  obtain rfl:=Option.some.inj hstep
  exact call_accounts rfl h
 | grant call pool=>exact grant_accounts hstep h
 | poll call=>exact poll_accounts hstep h
 | abandon call=>exact abandon_accounts hstep h
 | dropPermit place=>
  obtain ⟨permit,hpermit,hdone⟩:=Option.bind_eq_some_iff.mp hstep
  obtain rfl:=Option.some.inj hdone
  exact permit_accounts hpermit (by simp [LiveGenerationPermit.empty,
   LiveGenerationPermit.held]) h
 | releaseGeneration place=>
  obtain ⟨permit,hpermit,hdone⟩:=Option.bind_eq_some_iff.mp hstep
  obtain rfl:=Option.some.inj hdone
  apply permit_accounts hpermit _ h
  change List.Perm _ (permit.startPermit.toList++permit.totalPermit.toList++[])
  rw [List.append_nil]
  exact List.perm_append_comm
 | replaceGeneration place replacement=>exact replace_accounts hstep h

/-- The slots of the total budget that are held without one of a start. -/
def Acquire.resumes : Acquire → ℕ
 | .resume (some _)=>1
 | _=>0

def LiveGenerationPermit.resumes (permit:LiveGenerationPermit) : ℕ :=
 if permit.totalPermit.isSome&&permit.startPermit.isNone then 1 else 0

def GateState.resumes (s:GateState) : ℕ :=
 (s.acquires.map Acquire.resumes).sum+(s.permits.map LiveGenerationPermit.resumes).sum

def Acquire.Typed : Acquire → Prop
 | .start granted=>∀ permit∈granted,permit.pool=.starts
 | .interactiveStart primary reserve=>(∀ permit∈primary,permit.pool=.starts) ∧
  ∀ permit∈reserve,permit.pool=.interactiveStarts
 | .finishStart startPermit granted=>startPermit.pool ≠ .total ∧
  ∀ permit∈granted,permit.pool=.total
 | .resume granted=>∀ permit∈granted,permit.pool=.total
 | .done=>True

structure LiveGenerationPermit.Typed (permit:LiveGenerationPermit) : Prop where
 total : ∀ slot∈permit.totalPermit,slot.pool=.total
 start : ∀ slot∈permit.startPermit,slot.pool ≠ .total

structure Typed (s:GateState) : Prop where
 acquires : ∀ acquire∈s.acquires,acquire.Typed
 permits : ∀ permit∈s.permits,permit.Typed

def startsHeld (held:List (Permit Pool)) : ℕ :=
 heldIn held .starts+heldIn held .interactiveStarts

theorem startsHeld_append (held held':List (Permit Pool)) :
  startsHeld (held++held')=startsHeld held+startsHeld held':=by
 unfold startsHeld
 rw [heldIn_append,heldIn_append]
 omega

variable {α:Type*}

theorem startsHeld_flatMap (records:List α) (holds:α → List (Permit Pool)) :
  startsHeld (records.flatMap holds) = (records.map fun record=>startsHeld (holds record)).sum:=by
 induction records with
 | nil=>rfl
 | cons record records ih=>
  rw [List.flatMap_cons,startsHeld_append,ih,List.map_cons,List.sum_cons]

theorem acquire_balance (h:acquire.Typed) : heldIn acquire.held .total ≤ startsHeld acquire.held+acquire.resumes:=by
 unfold startsHeld
 cases acquire with
 | start granted=>
  cases granted with
  | none=>simp [Acquire.held,heldIn]
  | some permit=>simp [Acquire.held,heldIn,h permit rfl]
 | interactiveStart primary reserve=>
  cases primary with
  | none=>
   cases reserve with
   | none=>simp [Acquire.held,heldIn]
   | some permit=>simp [Acquire.held,heldIn,h.2 permit rfl]
  | some permit=>
   cases reserve with
   | none=>simp [Acquire.held,heldIn,h.1 permit rfl]
   | some other=>simp [Acquire.held,heldIn,h.1 permit rfl,h.2 other rfl]
 | finishStart startPermit granted=>
  have hstart:startPermit.pool=.starts ∨ startPermit.pool=.interactiveStarts:=by
   cases hpool:startPermit.pool with
   | total=>exact absurd hpool h.1
   | starts=>exact Or.inl rfl
   | interactiveStarts=>exact Or.inr rfl
  cases granted with
  | none=>rcases hstart with hpool | hpool <;> simp [Acquire.held,heldIn,hpool]
  | some permit=>
   rcases hstart with hpool | hpool <;> simp [Acquire.held,heldIn,hpool,h.2 permit rfl]
 | resume granted=>
  cases granted with
  | none=>simp [Acquire.held,heldIn]
  | some permit=>simp [Acquire.held,heldIn,Acquire.resumes,h permit rfl]
 | done=>simp [Acquire.held,heldIn]

theorem permit_balance {permit:LiveGenerationPermit} (h:permit.Typed) :
  heldIn permit.held .total ≤ startsHeld permit.held+permit.resumes:=by
 obtain ⟨totalPermit,startPermit⟩:=permit
 unfold startsHeld LiveGenerationPermit.held LiveGenerationPermit.resumes
 cases startPermit with
 | none=>
  cases totalPermit with
  | none=>simp [heldIn]
  | some slot=>simp [heldIn,h.total slot rfl]
 | some start=>
  have hstart:start.pool=.starts ∨ start.pool=.interactiveStarts:=by
   cases hpool:start.pool with
   | total=>exact absurd hpool (h.start start rfl)
   | starts=>exact Or.inl rfl
   | interactiveStarts=>exact Or.inr rfl
  cases totalPermit with
  | none=>rcases hstart with hpool | hpool <;> simp [heldIn,hpool]
  | some slot=>rcases hstart with hpool | hpool <;> simp [heldIn,hpool,h.total slot rfl]

theorem sum_balance {records:List α} {f g r:α → ℕ} (h:∀ record∈records,f record ≤ g record+r record) :
  (records.map f).sum ≤ (records.map g).sum+(records.map r).sum:=by
 induction records with
 | nil=>exact Nat.le_refl 0
 | cons record records ih=>
  have hhead:=h record List.mem_cons_self
  have htail:=ih fun other hother=>h other (List.mem_cons_of_mem _ hother)
  rw [List.map_cons,List.map_cons,List.map_cons,List.sum_cons,List.sum_cons,List.sum_cons]
  omega

theorem typed_balance (h:Typed s) : heldIn s.held .total ≤ startsHeld s.held+s.resumes:=by
 have hacquires:=sum_balance (r := Acquire.resumes) fun acquire hmem=>
  acquire_balance (h.acquires acquire hmem)
 have hpermits:=sum_balance (r := LiveGenerationPermit.resumes) fun permit hmem=>
  permit_balance (h.permits permit hmem)
 unfold GateState.held GateState.resumes
 rw [heldIn_append,startsHeld_append,heldIn_flatMap,heldIn_flatMap,startsHeld_flatMap,startsHeld_flatMap]
 omega

theorem typed_grant (h:acquire.Typed) (hqueued:acquire.queuedAt permit.pool=true) : (acquire.grant permit).Typed:=by
 have hsame:∀ slot∈some permit,slot.pool=permit.pool:=by
  intro slot hslot
  rw [Option.some.inj hslot]
 obtain ⟨pool,serial⟩:=permit
 cases acquire with
 | start granted=>
  cases granted with
  | none=>
   cases pool with
   | starts=>exact hsame
   | total=>cases hqueued
   | interactiveStarts=>cases hqueued
  | some _=>cases pool <;> cases hqueued
 | interactiveStart primary reserve=>
  cases pool with
  | total=>cases primary <;> cases reserve <;> cases hqueued
  | starts=>exact ⟨hsame,h.2⟩
  | interactiveStarts=>exact ⟨h.1,hsame⟩
 | finishStart startPermit granted=>
  cases granted with
  | none=>
   cases pool with
   | total=>exact ⟨h.1,hsame⟩
   | starts=>cases hqueued
   | interactiveStarts=>cases hqueued
  | some _=>cases pool <;> cases hqueued
 | resume granted=>
  cases granted with
  | none=>
   cases pool with
   | total=>exact hsame
   | starts=>cases hqueued
   | interactiveStarts=>cases hqueued
  | some _=>cases pool <;> cases hqueued
 | done=>trivial

theorem typed_poll {next:Acquire} {permit:Option LiveGenerationPermit} (h:acquire.Typed)
  (hpoll:acquire.poll=some (next,dropped,permit)) : next.Typed ∧ ∀ returned∈permit.toList,returned.Typed:=by
 have hempty:∀ slot∈(none:Option (Permit Pool)),slot.pool=.total:=by
  intro slot hslot
  cases hslot
 unfold Acquire.poll at hpoll
 split at hpoll
 · cases hpoll
   refine ⟨⟨?_,hempty⟩,by simp⟩
   rw [h _ rfl]
   decide
 · cases hpoll
   refine ⟨⟨?_,hempty⟩,by simp⟩
   rw [h.1 _ rfl]
   decide
 · cases hpoll
   refine ⟨⟨?_,hempty⟩,by simp⟩
   rw [h.2 _ rfl]
   decide
 · cases hpoll
   refine ⟨trivial,fun returned hreturned=>?_⟩
   obtain rfl:=List.mem_singleton.mp hreturned
   refine ⟨h.2,fun slot hslot=>?_⟩
   rw [← Option.some.inj hslot]
   exact h.1
 · cases hpoll
   refine ⟨trivial,fun returned hreturned=>?_⟩
   obtain rfl:=List.mem_singleton.mp hreturned
   exact ⟨h,fun slot hslot=>by cases hslot⟩
 · cases hpoll

theorem typed_set {Good:α → Prop} {records:List α} {i:ℕ} {next:α} (h:∀ record∈records,Good record) (hnext:Good next) :
  ∀ record∈records.set i next,Good record:=by
 intro record hmem
 rcases List.mem_or_eq_of_mem_set hmem with hold | rfl
 · exact h record hold
 · exact hnext

theorem no_slot {Good:Permit Pool → Prop} : ∀ slot∈(none:Option (Permit Pool)),Good slot:=by
 intro slot hslot
 cases hslot

theorem typed_empty : LiveGenerationPermit.empty.Typed := ⟨no_slot,no_slot⟩

theorem typed_called (h:Typed s) (hacquire:acquire.Typed) : Typed (s.call acquire):=by
 refine ⟨fun other hother=>?_,h.permits⟩
 rcases List.mem_append.mp hother with hold | hnew
 · exact h.acquires other hold
 · rw [List.mem_singleton.mp hnew]
   exact hacquire

theorem step_typed {op:GateOp} (hstep:s.step op=some t) (h:Typed s) : Typed t:=by
 cases op with
 | acquireStart=>
  obtain rfl:=Option.some.inj hstep
  exact typed_called h no_slot
 | acquireInteractiveStart=>
  obtain rfl:=Option.some.inj hstep
  exact typed_called h ⟨no_slot,no_slot⟩
 | acquireResume=>
  obtain rfl:=Option.some.inj hstep
  exact typed_called h no_slot
 | grant call pool=>
  obtain ⟨acquire,pools,permit,hcall,hqueued,-,rfl⟩:=grant_cases hstep
  have hgranted:=typed_grant (h.acquires acquire (List.mem_of_getElem? hcall)) hqueued
  exact ⟨typed_set h.acquires hgranted,h.permits⟩
 | poll call=>
  obtain ⟨acquire,hcall,hrest⟩:=Option.bind_eq_some_iff.mp hstep
  obtain ⟨⟨next,dropped,permit⟩,hpoll,hdone⟩:=Option.bind_eq_some_iff.mp hrest
  obtain rfl:=Option.some.inj hdone
  have hpolled:=typed_poll (h.acquires acquire (List.mem_of_getElem? hcall)) hpoll
  refine ⟨typed_set h.acquires hpolled.1,fun other hother=>?_⟩
  rcases List.mem_append.mp hother with hold | hnew
  · exact h.permits other hold
  · exact hpolled.2 other hnew
 | abandon call=>
  obtain ⟨acquire,-,hdone⟩:=Option.bind_eq_some_iff.mp hstep
  obtain rfl:=Option.some.inj hdone
  exact ⟨typed_set h.acquires trivial,h.permits⟩
 | dropPermit place=>
  obtain ⟨permit,-,hdone⟩:=Option.bind_eq_some_iff.mp hstep
  obtain rfl:=Option.some.inj hdone
  exact ⟨h.acquires,typed_set h.permits typed_empty⟩
 | releaseGeneration place=>
  obtain ⟨permit,-,hdone⟩:=Option.bind_eq_some_iff.mp hstep
  obtain rfl:=Option.some.inj hdone
  exact ⟨h.acquires,typed_set h.permits typed_empty⟩
 | replaceGeneration place replacement=>
  obtain ⟨_,-,hrest⟩:=Option.bind_eq_some_iff.mp hstep
  obtain ⟨permit,-,hrest⟩:=Option.bind_eq_some_iff.mp hrest
  obtain ⟨other,hother,hdone⟩:=Option.bind_eq_some_iff.mp hrest
  obtain rfl:=Option.some.inj hdone
  have htyped:=h.permits other (List.mem_of_getElem? hother)
  exact ⟨h.acquires,typed_set (typed_set h.permits typed_empty) htyped⟩

/-- Every call returned or was abandoned, and every permit was released or dropped. -/
def GateState.Ended (s:GateState) : Prop :=
 (∀ acquire∈s.acquires,acquire.held=[]) ∧ ∀ permit∈s.permits,permit.held=[]

structure Gated (gate:LiveGenerationGate) (s:GateState) : Prop where
 bulk : heldIn s.held .starts ≤ gate.limit
 starts : startsHeld s.held ≤ gate.limit+gate.interactiveReserve
 total : heldIn s.held .total ≤ gate.limit+gate.interactiveReserve+gate.resumeReserve
 once : (s.held++s.pools.returned).Perm s.pools.issued ∧ s.pools.issued.Nodup
 headroom : gate.resumeReserve ≤ s.pools.free .total+s.resumes
 restored : s.Ended → s.pools.free=gate.capacity ∧ s.pools.returned.Perm s.pools.issued

theorem gated_of (haccounts:Accounts gate.capacity s.pools s.held) (htyped:Typed s) : Gated gate s:=by
 have hstarts:=haccounts.heldIn_le .starts
 have hinteractive:=haccounts.heldIn_le .interactiveStarts
 have htotal:=haccounts.free .total
 have hbalance:=typed_balance htyped
 unfold startsHeld at hbalance
 change _ ≤ gate.limit at hstarts
 change _ ≤ gate.interactiveReserve at hinteractive
 change _=gate.limit+gate.interactiveReserve+gate.resumeReserve at htotal
 refine ⟨hstarts,Nat.add_le_add hstarts hinteractive,by omega,
  ⟨haccounts.once,haccounts.nodup⟩,by omega,fun hended=>?_⟩
 have hnothing:s.held=[]:=by
  unfold GateState.held
  rw [List.flatMap_eq_nil_iff.mpr hended.1,List.flatMap_eq_nil_iff.mpr hended.2]
  rfl
 rw [hnothing] at haccounts
 exact haccounts.restored

/-- Whatever is called, granted, abandoned, dropped, released and replaced, in whatever order. -/
theorem gate_accounts {limit resumeReserve interactiveReserve:ℕ} {ops:List GateOp}
    (h:perform GateState.step (.start (newWithInteractiveReserve limit resumeReserve interactiveReserve)) ops=some s) :
    Gated (newWithInteractiveReserve limit resumeReserve interactiveReserve) s:=by
  have hrun:=perform_trace h
  have hstart:Typed (.start (newWithInteractiveReserve limit resumeReserve interactiveReserve)) :=
    ⟨fun acquire hmem=>(List.not_mem_nil hmem).elim,
      fun permit hmem=>(List.not_mem_nil hmem).elim⟩
  have haccounts:=hrun.invariant
    (fun s=>Accounts (newWithInteractiveReserve limit resumeReserve interactiveReserve).capacity
      s.pools s.held) (fun _ _ _ _ hs hstep=>step_accounts hstep hs) (Accounts.full _)
  have htyped:=hrun.invariant Typed (fun _ _ _ _ hs hstep=>step_typed hstep hs) hstart
  exact gated_of haccounts htyped

/-- An interactive start beside a bulk one, and a resume that takes its permit over. -/
def handover : List GateOp :=
 [.acquireStart,.acquireInteractiveStart,.grant 0 .starts,.grant 1 .interactiveStarts,.poll 0,
  .poll 1,.grant 1 .total,.poll 1,.grant 0 .total,.poll 0,.acquireResume,.grant 2 .total,
  .poll 2,.replaceGeneration 0 2,.releaseGeneration 1,.dropPermit 0]

theorem gate_accounts_handover : ∃ s,perform GateState.step (.start (newWithInteractiveReserve 1 1 1)) handover=some s ∧
    Gated (newWithInteractiveReserve 1 1 1) s:=by
  have hruns:(perform GateState.step (.start (newWithInteractiveReserve 1 1 1)) handover).isSome=true := by decide
  obtain ⟨s,hs⟩:=Option.isSome_iff_exists.mp hruns
  exact ⟨s,hs,gate_accounts hs⟩

end CursorProxy.GenerationGate
