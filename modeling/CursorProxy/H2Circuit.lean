import Mathlib

namespace CursorProxy.H2Circuit

/-- `TRANSPORT_BREAKER_COOLDOWN` in nanoseconds, like every time here. -/
def transportBreakerCooldown : ℕ := 30*10 ^ 9

def transportBreakerThreshold : ℕ := 3

inductive H2CircuitRoute where
 | http2 (epoch:ℕ)
 | http1
 | probeHttp2 (probeId epoch:ℕ)
deriving DecidableEq

inductive H2ProbePhase where
 | transport
 | run
deriving DecidableEq

structure H2ProbeLease where
 id : ℕ
 phase : H2ProbePhase
deriving DecidableEq

structure ProcessH2Circuit where
 consecutiveTimeouts : ℕ := 0
 openSince : Option ℕ := none
 epoch : ℕ := 0
 nextProbeId : ℕ := 0
 probe : Option H2ProbeLease := none
deriving DecidableEq

namespace ProcessH2Circuit

def routeAt (circuit:ProcessH2Circuit) (now:ℕ) : H2CircuitRoute×ProcessH2Circuit :=
 match circuit.openSince with
 | none=>(.http2 circuit.epoch,circuit)
 | some opened=>
  if circuit.probe.isSome ∨ now-opened<transportBreakerCooldown then (.http1,circuit)
  else
   let id:=max ((circuit.nextProbeId+1) % 2 ^ 64) 1
   (.probeHttp2 id circuit.epoch,{ circuit with nextProbeId := id,probe := some ⟨id,.transport⟩ })

def advanceEpoch (circuit:ProcessH2Circuit) : ProcessH2Circuit :=
 { circuit with epoch := (circuit.epoch+1) % 2 ^ 64 }

/-- What a failure leaves: an open circuit, without a probe, and a further timeout. -/
def failed (circuit:ProcessH2Circuit) (now:ℕ) : ProcessH2Circuit :=
 { circuit.advanceEpoch with
   consecutiveTimeouts := min (circuit.consecutiveTimeouts+1) (2 ^ 32-1)
   openSince := some now
   probe := none }

def onH2OpenTimeoutAt (circuit:ProcessH2Circuit) (now epoch:ℕ) : Bool×ProcessH2Circuit :=
 if epoch≠circuit.epoch then (false,circuit)
 else (circuit.openSince.isNone,circuit.failed now)

def onH2OpenSuccess (circuit:ProcessH2Circuit) (probeId:Option ℕ) : Bool×ProcessH2Circuit :=
 match probeId with
 | none=>(false,circuit)
 | some id=>
  if circuit.probe≠some ⟨id,.run⟩ then (false,circuit)
  else (true,{ circuit.advanceEpoch with
   consecutiveTimeouts := 0,openSince := none,probe := none })

def onH2ProbeTransportResult (circuit:ProcessH2Circuit) (now probeId:ℕ) (succeeded:Bool) : Bool×ProcessH2Circuit :=
 if circuit.probe≠some ⟨probeId,.transport⟩ then (false,circuit)
 else if succeeded then (true,{ circuit with probe := some ⟨probeId,.run⟩ })
 else (true,circuit.failed now)

def releaseH2Probe (circuit:ProcessH2Circuit) (probeId:ℕ) : Bool×ProcessH2Circuit :=
 if circuit.probe.all (·.id≠probeId) then (false,circuit)
 else (true,{ circuit with probe := none })

def onH2ProbeRunFailure (circuit:ProcessH2Circuit) (now probeId:ℕ) : Bool×ProcessH2Circuit :=
 if circuit.probe≠some ⟨probeId,.run⟩ then (false,circuit)
 else (true,circuit.failed now)

def onH2StreamResetAt (circuit:ProcessH2Circuit) (now epoch:ℕ) : Bool×ProcessH2Circuit :=
 if epoch≠circuit.epoch then (false,circuit)
 else (circuit.openSince.isNone,{ circuit.advanceEpoch with
  consecutiveTimeouts := transportBreakerThreshold,openSince := some now,probe := none })

end ProcessH2Circuit

inductive Report where
 | openTimeout (epoch:ℕ)
 | streamReset (epoch:ℕ)
 | openSuccess (probeId:Option ℕ)
 | transportResult (probeId:ℕ) (succeeded:Bool)
 | runFailure (probeId:ℕ)
 | release (probeId:ℕ)
deriving DecidableEq

inductive Call where
 | attempt
 | report (report:Report)
deriving DecidableEq

inductive Answer where
 | route (route:H2CircuitRoute)
 | done (accepted:Bool)
deriving DecidableEq

def Report.apply (circuit:ProcessH2Circuit) (now:ℕ) : Report → Bool×ProcessH2Circuit
 | .openTimeout epoch=>circuit.onH2OpenTimeoutAt now epoch
 | .streamReset epoch=>circuit.onH2StreamResetAt now epoch
 | .openSuccess probeId=>circuit.onH2OpenSuccess probeId
 | .transportResult probeId succeeded=>circuit.onH2ProbeTransportResult now probeId succeeded
 | .runFailure probeId=>circuit.onH2ProbeRunFailure now probeId
 | .release probeId=>circuit.releaseH2Probe probeId

/-- One critical section, with the circuit as it was before and is after. -/
structure Entry where
 before : ProcessH2Circuit
 now : ℕ
 call : Call
 answer : Answer
 after : ProcessH2Circuit

def step (circuit:ProcessH2Circuit) (now:ℕ) : Call → Entry
 | .attempt=>
  let (route,next):=circuit.routeAt now
  ⟨circuit,now,.attempt,.route route,next⟩
 | .report report=>
  let (accepted,next):=report.apply circuit now
  ⟨circuit,now,.report report,.done accepted,next⟩

/-- The entries of a run, the last one first. -/
def history : List (ℕ×Call) → List Entry
 | []=>[]
 | (now,call)::earlier=>
  step (((history earlier).head?.map Entry.after).getD {}) now call::history earlier

def circuitAfter (entries:List Entry) : ProcessH2Circuit :=
 (entries.head?.map Entry.after).getD {}

/-- A report of another epoch, or of a probe that is not the current one. -/
def Stale (circuit:ProcessH2Circuit) : Report → Prop
 | .openTimeout epoch | .streamReset epoch=>epoch≠circuit.epoch
 | .openSuccess probeId=>∀ lease,circuit.probe=some lease → probeId≠some lease.id
 | .transportResult probeId _ | .runFailure probeId | .release probeId=>
  ∀ lease,circuit.probe=some lease → probeId≠lease.id

def current (circuit:ProcessH2Circuit) : Report → Bool
 | .openTimeout epoch | .streamReset epoch=>epoch=circuit.epoch
 | .openSuccess probeId=>circuit.probe.any fun lease=>probeId=some lease.id ∧ lease.phase=.run
 | .transportResult probeId _=>circuit.probe=some ⟨probeId,.transport⟩
 | .runFailure probeId=>circuit.probe=some ⟨probeId,.run⟩
 | .release probeId=>circuit.probe.any (·.id=probeId)

def isFailure : Report → Bool
 | .openTimeout _ | .streamReset _ | .transportResult _ false | .runFailure _=>true
 | _=>false

def timeoutsSince : List Entry → ℕ
 | []=>0
 | entry::earlier=>
  match entry.call with
  | .attempt=>timeoutsSince earlier
  | .report report=>
   if current entry.before report then
    if isFailure report then timeoutsSince earlier+1
    else match report with
     | .openSuccess _=>0
     | _=>timeoutsSince earlier
   else timeoutsSince earlier

/-- The leases that were granted and have neither ended nor been superseded. -/
def outstanding : List Entry → List ℕ
 | []=>[]
 | entry::earlier=>
  match entry.call,entry.answer with
  | .attempt, .route (.probeHttp2 id _)=>id::outstanding earlier
  | .report report,_=>
   if current entry.before report then
    match report with
    | .openTimeout _ | .streamReset _=>[]
    | .openSuccess probeId=>(outstanding earlier).filter (some · ≠ probeId)
    | .transportResult id succeeded=>
     if succeeded then outstanding earlier else (outstanding earlier).filter (· ≠ id)
    | .runFailure id | .release id=>(outstanding earlier).filter (· ≠ id)
   else outstanding earlier
  | _,_=>outstanding earlier

/-- The ids of all leases, the last one first. -/
def granted (entries:List Entry) : List ℕ :=
 entries.filterMap fun entry=>
  match entry.answer with
  | .route (.probeHttp2 id _)=>some id
  | _=>none

structure CircuitSound (entries:List Entry) : Prop where
 oneLease : outstanding entries=(circuitAfter entries).probe.toList.map H2ProbeLease.id ∧
  (outstanding entries).length ≤ 1
 routed : ∀ entry∈entries,entry.call=.attempt → entry.before.openSince.isSome →
  entry.answer=.route .http1 ∨ ∃ id,entry.before.probe=none ∧
   entry.answer=.route (.probeHttp2 id entry.before.epoch) ∧ entry.after.probe=some ⟨id,.transport⟩
 closes : ∀ entry∈entries,entry.before.openSince.isSome → entry.after.openSince=none →
  ∃ id,entry.call=.report (.openSuccess (some id)) ∧ entry.before.probe=some ⟨id,.run⟩
 stale : ∀ entry∈entries,∀ report,entry.call=.report report → Stale entry.before report → entry.after=entry.before
 counter : (circuitAfter entries).consecutiveTimeouts=0 ↔
  (circuitAfter entries).openSince=none ∧ timeoutsSince entries=0
 fresh : (granted entries).length<2 ^ 64 → (granted entries).Nodup

attribute [local simp] step Report.apply ProcessH2Circuit.failed
 ProcessH2Circuit.onH2OpenTimeoutAt ProcessH2Circuit.onH2StreamResetAt
 ProcessH2Circuit.onH2OpenSuccess ProcessH2Circuit.onH2ProbeTransportResult
 ProcessH2Circuit.onH2ProbeRunFailure ProcessH2Circuit.releaseH2Probe transportBreakerThreshold

section
variable (circuit:ProcessH2Circuit) (now:ℕ)

theorem current_of_stale {circuit:ProcessH2Circuit} {report:Report} (h:Stale circuit report) :
  current circuit report=false:=by
 cases report <;> cases hprobe:circuit.probe <;> simp_all [Stale,current] <;> grind

theorem apply_not_current {report:Report} (h:current circuit report=false) : (report.apply circuit now).2=circuit:=by
 cases report with
 | openSuccess probeId=>
  cases probeId with
  | none=>rfl
  | some id=>
   have hother:circuit.probe≠some ⟨id,.run⟩:=fun hprobe=>by simp [current,hprobe] at h
   simp [hother]
 | release probeId=>cases hprobe:circuit.probe <;> simp_all [current]
 | _=>simp_all [current]

theorem apply_current {report:Report} (h:current circuit report=true) :
  (isFailure report=true ∧ (report.apply circuit now).2.openSince=some now ∧
    (report.apply circuit now).2.consecutiveTimeouts≠0) ∨
   (isFailure report=false ∧ ∃ id,report=.openSuccess (some id) ∧
    circuit.probe=some ⟨id,.run⟩ ∧ (report.apply circuit now).2.openSince=none ∧
    (report.apply circuit now).2.consecutiveTimeouts=0) ∨
   (isFailure report=false ∧ (∀ id,report ≠ .openSuccess id) ∧
    (report.apply circuit now).2.openSince=circuit.openSince ∧
    (report.apply circuit now).2.consecutiveTimeouts=circuit.consecutiveTimeouts):=by
 cases report with
 | openSuccess probeId=>
  refine .inr (.inl ⟨rfl,?_⟩)
  cases hprobe:circuit.probe with
  | none=>simp [current,hprobe] at h
  | some lease=>
   obtain ⟨id,phase⟩:=lease
   obtain ⟨rfl,rfl⟩ : probeId=some id ∧ phase=.run:=by simpa [current,hprobe] using h
   exact ⟨id,rfl,rfl,by simp [hprobe]⟩
 | transportResult probeId succeeded=>cases succeeded <;> simp_all [current,isFailure]
 | release probeId=>cases hprobe:circuit.probe <;> simp_all [current,isFailure]
 | _=>simp_all [current,isFailure]

theorem routeAt_open (h:circuit.openSince.isSome) :
  circuit.routeAt now=(.http1,circuit) ∨ circuit.probe=none ∧ let id:=max ((circuit.nextProbeId+1) % 2 ^ 64) 1
   circuit.routeAt now=(.probeHttp2 id circuit.epoch,
    { circuit with nextProbeId := id,probe := some ⟨id,.transport⟩ }):=by
 obtain ⟨opened,hopened⟩:=Option.isSome_iff_exists.mp h
 unfold ProcessH2Circuit.routeAt
 rw [hopened]
 by_cases hclosed:circuit.probe.isSome ∨ now-opened<transportBreakerCooldown
 · exact .inl (if_pos hclosed)
 · refine .inr ⟨?_,if_neg hclosed⟩
   simpa using (not_or.mp hclosed).1

theorem routeAt_closed (h:circuit.openSince=none) : circuit.routeAt now=(.http2 circuit.epoch,circuit):=by
 unfold ProcessH2Circuit.routeAt
 rw [h]

theorem routeAt_openSince : (circuit.routeAt now).2.openSince=circuit.openSince ∧
  (circuit.routeAt now).2.consecutiveTimeouts=circuit.consecutiveTimeouts:=by
 cases hopened:circuit.openSince with
 | none=>simp [routeAt_closed circuit now hopened,hopened]
 | some opened=>
  obtain h | ⟨-,h⟩:=routeAt_open circuit now (by rw [hopened]; rfl) <;> simp [h,hopened]

end

/-- What every entry keeps. -/
structure Kept (entries:List Entry) : Prop where
 timeouts : (circuitAfter entries).consecutiveTimeouts=0 ↔ (circuitAfter entries).openSince=none
 since : timeoutsSince entries=0 ↔ (circuitAfter entries).openSince=none
 leases : outstanding entries=(circuitAfter entries).probe.toList.map H2ProbeLease.id
 ids : (granted entries).length<2 ^ 64 →
  (circuitAfter entries).nextProbeId=(granted entries).length ∧
   granted entries=(List.range' 1 (granted entries).length).reverse

theorem apply_nextProbeId (circuit:ProcessH2Circuit) (now:ℕ) (report:Report) :
  (report.apply circuit now).2.nextProbeId=circuit.nextProbeId:=by
 cases report with
 | openSuccess probeId=>
  cases probeId with
  | none=>rfl
  | some id=>simp only [Report.apply,ProcessH2Circuit.onH2OpenSuccess]; split <;> rfl
 | _=>
  simp only [Report.apply,ProcessH2Circuit.onH2OpenTimeoutAt,
   ProcessH2Circuit.onH2StreamResetAt,ProcessH2Circuit.onH2ProbeTransportResult,
   ProcessH2Circuit.onH2ProbeRunFailure,ProcessH2Circuit.releaseH2Probe]
  split_ifs <;> rfl

theorem kept_attempt {earlier:List Entry} (h:Kept earlier) (now:ℕ) :
  Kept (step (circuitAfter earlier) now .attempt::earlier):=by
 have hafter:circuitAfter (step (circuitAfter earlier) now .attempt::earlier) =
   ((circuitAfter earlier).routeAt now).2 := rfl
 obtain ⟨hopen,htimeouts⟩:=routeAt_openSince (circuitAfter earlier) now
 constructor
 · rw [hafter,hopen,htimeouts]
   exact h.timeouts
 · rw [hafter,hopen]
   exact h.since
 · rw [hafter]
   cases hopened:(circuitAfter earlier).openSince with
   | none=>
    simpa [outstanding,routeAt_closed (circuitAfter earlier) now hopened] using h.leases
   | some opened=>
    obtain hroute | ⟨hprobe,hroute⟩:=routeAt_open (circuitAfter earlier) now (by simp [hopened])
    · simpa [outstanding,hroute] using h.leases
    · have hnone:outstanding earlier=[]:=by simpa [hprobe] using h.leases
      simp [outstanding,hroute,hnone]
 · rw [hafter]
   cases hopened:(circuitAfter earlier).openSince with
   | none=>
    simpa [granted,routeAt_closed (circuitAfter earlier) now hopened] using h.ids
   | some opened=>
    obtain hroute | ⟨hprobe,hroute⟩:=routeAt_open (circuitAfter earlier) now (by simp [hopened])
    · simpa [granted,hroute] using h.ids
    · intro hlength
      have hcons:granted (step (circuitAfter earlier) now .attempt::earlier) =
        max (((circuitAfter earlier).nextProbeId+1) % 2 ^ 64) 1::granted earlier:=by
       simp [granted,hroute]
      rw [hcons,List.length_cons] at hlength ⊢
      obtain ⟨hnext,hids⟩:=h.ids (by omega)
      have hid:max (((circuitAfter earlier).nextProbeId+1) % 2 ^ 64) 1 = (granted earlier).length+1:=by
       rw [hnext,Nat.mod_eq_of_lt hlength]
       omega
      rw [hroute,hid]
      refine ⟨rfl,?_⟩
      rw [List.range'_concat,List.reverse_append,← hids]
      simp [Nat.add_comm]

theorem kept_report {earlier:List Entry} (h:Kept earlier) (now:ℕ) (report:Report) :
  Kept (step (circuitAfter earlier) now (.report report)::earlier):=by
 have hgranted:granted (step (circuitAfter earlier) now (.report report)::earlier) = granted earlier := rfl
 have hafter:circuitAfter (step (circuitAfter earlier) now (.report report)::earlier) =
   (report.apply (circuitAfter earlier) now).2 := rfl
 have hids:=h.ids
 rw [← apply_nextProbeId _ now report] at hids
 cases hcurrent:current (circuitAfter earlier) report with
 | false=>
  have hsame:=apply_not_current _ now hcurrent
  refine ⟨?_,?_,?_,hids⟩
  · rw [hafter,hsame]
    exact h.timeouts
  · rw [hafter,hsame]
    simpa [timeoutsSince,hcurrent] using h.since
  · rw [hafter,hsame]
    simpa [outstanding,hcurrent] using h.leases
 | true=>
  have hleases:=h.leases
  refine ⟨?_,?_,?_,hids⟩
  · rw [hafter]
    obtain ⟨-,hopen,hcount⟩ | ⟨-,_,-,-,hopen,hcount⟩ | ⟨-,-,hopen,hcount⟩ :=
     apply_current _ now hcurrent
    · exact iff_of_false hcount (by rw [hopen]; nofun)
    · exact iff_of_true hcount hopen
    · rw [hopen,hcount]
      exact h.timeouts
  · rw [hafter]
    obtain ⟨hfailure,hopen,-⟩ | ⟨hfailure,_,rfl,-,hopen,-⟩ | ⟨hfailure,hother,hopen,-⟩ :=
     apply_current _ now hcurrent
    · rw [hopen]
      simp [timeoutsSince,hcurrent,hfailure]
    · rw [hopen]
      simp [timeoutsSince,hcurrent,hfailure]
    · rw [hopen,← h.since]
      cases report <;> simp_all [timeoutsSince]
  · rw [hafter]
    cases report with
    | openSuccess probeId=>
     obtain ⟨hfailure,-⟩ | ⟨-,id,hsuccess,hprobe,-⟩ | ⟨-,hother,-⟩ :=
      apply_current _ now hcurrent
     · exact (nomatch hfailure)
     · obtain rfl:=Report.openSuccess.inj hsuccess
       simp [outstanding,hcurrent,hleases,hprobe]
     · exact absurd rfl (hother probeId)
    | transportResult probeId succeeded=>
     cases succeeded <;> simp_all [outstanding,current]
    | release probeId=>
     cases hprobe:(circuitAfter earlier).probe <;> simp_all [outstanding,current]
    | _=>simp_all [outstanding,current]

theorem kept_history (turns:List (ℕ×Call)) : Kept (history turns):=by
 induction turns with
 | nil=>exact ⟨by simp [history,circuitAfter],by simp [history,circuitAfter,timeoutsSince],
   rfl,fun _=>⟨rfl,rfl⟩⟩
 | cons turn earlier ih=>
  obtain ⟨now,call⟩:=turn
  cases call with
  | attempt=>exact kept_attempt ih now
  | report report=>exact kept_report ih now report

theorem entry_step {turns:List (ℕ×Call)} {entry:Entry} (h:entry∈history turns) :
  entry=step entry.before entry.now entry.call:=by
 induction turns with
 | nil=>exact absurd h List.not_mem_nil
 | cons turn earlier ih=>
  obtain ⟨now,call⟩:=turn
  rcases List.mem_cons.mp h with rfl | hmem
  · cases call <;> rfl
  · exact ih hmem

theorem h2_circuit_sound (turns:List (ℕ×Call)) : CircuitSound (history turns):=by
  have hkept:=kept_history turns
  constructor
  · refine ⟨hkept.leases,?_⟩
    rw [hkept.leases]
    cases (circuitAfter (history turns)).probe <;> simp
  · intro entry hmem hcall hopen
    rw [entry_step hmem,hcall]
    obtain hroute | ⟨hprobe,hroute⟩:=routeAt_open entry.before entry.now hopen
    · exact .inl (by simp [hroute])
    · refine .inr ⟨max ((entry.before.nextProbeId+1) % 2 ^ 64) 1,hprobe,?_⟩
      simp [hroute]
  · intro entry hmem hopen hclosed
    rw [entry_step hmem] at hclosed
    cases hcall:entry.call with
    | attempt=>
      rw [hcall] at hclosed
      have hsame:=(routeAt_openSince entry.before entry.now).1.symm.trans hclosed
      simp [hsame] at hopen
    | report report=>
      rw [hcall] at hclosed
      change (report.apply entry.before entry.now).2.openSince=none at hclosed
      cases hcurrent:current entry.before report with
      | false=>
        rw [apply_not_current _ _ hcurrent] at hclosed
        simp [hclosed] at hopen
      | true=>
        obtain ⟨-,hnow,-⟩ | ⟨-,id,rfl,hprobe,-⟩ | ⟨-,-,hsame,-⟩ :=
          apply_current _ entry.now hcurrent
        · exact absurd (hnow.symm.trans hclosed) (by simp)
        · exact ⟨id,rfl,hprobe⟩
        · simp [hsame.symm.trans hclosed] at hopen
  · intro entry hmem report hcall hstale
    rw [entry_step hmem,hcall]
    exact apply_not_current _ entry.now (current_of_stale hstale)
  · rw [hkept.timeouts,hkept.since,and_self]
  · intro hlength
    rw [(hkept.ids hlength).2,List.nodup_reverse]
    exact List.nodup_range'

end CursorProxy.H2Circuit
