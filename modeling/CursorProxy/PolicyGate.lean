import Mathlib

/-! The probe gate and the breaker of one account and model. Their maps are not full, so that
both entries stay; the callers take the two locks in turns. -/
namespace CursorProxy.PolicyGate

inductive ProbeState where
 | unknown
 | probing (lease started:ℕ)
 | healthy
deriving DecidableEq

structure Gate where
 epoch : ℕ
 phase : ProbeState
deriving DecidableEq

/-- A lease that is not dropped yet; it is granted once the second preflight has passed. -/
structure Lease where
 epoch : ℕ
 started : ℕ
 granted : Bool
deriving DecidableEq

/-- Where a caller is: between the reads of the breaker, or between the two parts of a policy
result. -/
inductive CallerState where
 | idle
 | passed
 | healthy
 | acquired (lease:ℕ)
 | noted
deriving DecidableEq

inductive Event where
 /-- A probe, with the start of the probe it takes the place of. -/
 | probe (lease epoch:ℕ) (previous:Option ℕ) (window now:ℕ)
 | reported (lease epoch:ℕ)
 /-- A Sand probe was quiet for the window. -/
 | quiet (epoch started window now:ℕ)
 | admitted (now:ℕ)
 /-- The deadline of a policy result, and the one that is kept. -/
 | published (deadline kept:ℕ)
deriving DecidableEq

structure GateState (κ:Type) where
 clock : ℕ
 gate : Gate
 breaker : Option ℕ
 sequence : ℕ
 leases : ℕ → Option Lease
 callers : κ → CallerState
 log : List Event

inductive Action (κ:Type) where
 | preflight (key:κ)
 | decideProbe (key:κ) (window:ℕ)
 | confirm (key:κ)
 | drop (lease:ℕ)
 | markHealthy (lease:ℕ)
 | publish (key:κ) (seconds:ℕ)
 | reset (key:κ)
 | advance (time:ℕ)
 /-- Other keys prune the breaker and draw from the sequence. -/
 | sweep
 | draw

namespace GateState
variable {κ:Type}

def new : GateState κ := ⟨0,⟨0,.unknown⟩,none,1,fun _=>none,fun _=>.idle,[]⟩

/-- Expired entries go at every read and write of the breaker. -/
def sweep (s:GateState κ) : GateState κ :=
 { s with breaker := s.breaker.filter fun deadline=>s.clock<deadline }

def dropLease (s:GateState κ) (id:ℕ) (lease:Lease) : GateState κ :=
 { s with
   gate := match s.gate.phase with
    | .probing named _=>
     if s.gate.epoch=lease.epoch ∧ named=id then ⟨s.gate.epoch,.unknown⟩ else s.gate
    | _=>s.gate
   leases := Function.update s.leases id none }

def drop (s:GateState κ) (id:ℕ) : GateState κ :=
 match s.leases id with
 | some lease=>if lease.granted then s.dropLease id lease else s
 | none=>s

def markHealthy (s:GateState κ) (id:ℕ) : GateState κ :=
 match s.leases id with
 | some lease=>
  if lease.granted then { s with
   gate := if s.gate.epoch=lease.epoch then ⟨s.gate.epoch,.healthy⟩ else s.gate
   leases := Function.update s.leases id none
   log := .reported id lease.epoch::s.log }
  else s
 | none=>s

section callers
variable [DecidableEq κ] (sand:Bool)

def moved (s:GateState κ) (key:κ) (state:CallerState) : GateState κ :=
 { s with callers := Function.update s.callers key state }

def preflight (s:GateState κ) (key:κ) : GateState κ :=
 match s.callers key with
 | .idle=>if s.sweep.breaker.isSome then s.sweep else s.sweep.moved key .passed
 | _=>s

def acquire (s:GateState κ) (key:κ) (previous:Option ℕ) (window:ℕ) : GateState κ :=
 { s with
   gate := ⟨s.gate.epoch,.probing s.sequence s.clock⟩
   sequence := s.sequence+1
   leases := Function.update s.leases s.sequence (some ⟨s.gate.epoch,s.clock,false⟩)
   callers := Function.update s.callers key (.acquired s.sequence)
   log := .probe s.sequence s.gate.epoch previous window s.clock::s.log }

def decideProbe (s:GateState κ) (key:κ) (window:ℕ) : GateState κ :=
 match s.callers key with
 | .passed=>match s.gate.phase with
  | .healthy=>s.moved key .healthy
  | .unknown=>s.acquire key none window
  | .probing _ started=>
   if sand ∧ window ≤ s.clock-started then { s with
    gate := ⟨s.gate.epoch,.healthy⟩
    callers := Function.update s.callers key .healthy
    log := .quiet s.gate.epoch started window s.clock::s.log }
   else if !sand ∧ window ≤ s.clock-started then s.acquire key (some started) window
   else s.moved key .idle
 | _=>s

def admitted (s:GateState κ) (key:κ) : GateState κ :=
 { s with
   callers := Function.update s.callers key .idle
   log := .admitted s.clock::s.log }

def confirm (s:GateState κ) (key:κ) : GateState κ :=
 match s.callers key with
 | .healthy=>
  if s.sweep.breaker.isSome then s.sweep.moved key .idle else s.sweep.admitted key
 | .acquired id=>match s.leases id with
  | some lease=>
   if s.sweep.breaker.isSome then (s.sweep.dropLease id lease).moved key .idle
   else { s.sweep.admitted key with
    leases := Function.update s.leases id (some { lease with granted := true }) }
  | none=>s
 | _=>s

def keptDeadline (previous:Option ℕ) (deadline:ℕ) : ℕ :=
 match previous with
 | some previous=>if previous<deadline then deadline else previous
 | none=>deadline

def publish (s:GateState κ) (key:κ) (seconds:ℕ) : GateState κ :=
 match s.callers key with
 | .idle=>
  let deadline:=s.clock+seconds
  let kept:=keptDeadline s.sweep.breaker deadline
  { s with
    breaker := some kept
    callers := Function.update s.callers key .noted
    log := .published deadline kept::s.log }
 | _=>s

def reset (s:GateState κ) (key:κ) : GateState κ :=
 match s.callers key with
 | .noted=>{ s with
  gate := ⟨s.gate.epoch+1,.unknown⟩
  callers := Function.update s.callers key .idle }
 | _=>s

def step (s:GateState κ) : Action κ → GateState κ
 | .preflight key=>s.preflight key
 | .decideProbe key window=>s.decideProbe sand key window
 | .confirm key=>s.confirm key
 | .drop id=>s.drop id
 | .markHealthy id=>s.markHealthy id
 | .publish key seconds=>s.publish key seconds
 | .reset key=>s.reset key
 | .advance time=>{ s with clock := s.clock+time }
 | .sweep=>s.sweep
 | .draw=>{ s with sequence := s.sequence+1 }

def run (s:GateState κ) (actions:List (Action κ)) : GateState κ :=
 actions.foldl (step sand) s

end callers
end GateState

def lastProbe : List Event → Option ℕ
 | []=>none
 | .probe _ _ _ _ now::_=>some now
 | _::earlier=>lastProbe earlier

/-- Probes follow a full window, nobody is admitted before a deadline, and deadlines grow. -/
def LogSound (sand:Bool) : List Event → Prop
 | []=>True
 | .probe _ _ previous window now::earlier=>
  (∀ started∈previous,sand=false ∧ lastProbe earlier=some started ∧ started+window ≤ now) ∧ LogSound sand earlier
 | .quiet _ started window now::earlier=>
  (sand=true ∧ lastProbe earlier=some started ∧ started+window ≤ now) ∧ LogSound sand earlier
 | .admitted now::earlier=>
  (∀ deadline kept, .published deadline kept∈earlier → deadline ≤ now) ∧ LogSound sand earlier
 | .published deadline kept::earlier=>
  (deadline ≤ kept ∧ ∀ deadline' kept', .published deadline' kept'∈earlier → kept' ≤ kept) ∧ LogSound sand earlier
 | .reported _ _::earlier=>LogSound sand earlier

end CursorProxy.PolicyGate
