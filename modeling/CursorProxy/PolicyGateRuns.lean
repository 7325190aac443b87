import CursorProxy.PolicyGate

namespace CursorProxy.PolicyGateRuns
open PolicyGate

section leases
variable (sand:Bool) (least:ℕ)

/-- What relates the gate to the leases that are not dropped. A lease of the current epoch started
a full window before the probe that took its place, and on a Sand key there is no other. -/
structure LeaseInv (clock:ℕ) (gate:Gate) (leases:ℕ → Option Lease) : Prop where
 epoch_le : ∀ id lease,leases id=some lease → lease.epoch ≤ gate.epoch
 unknown : gate.phase=.unknown → ∀ id lease,leases id=some lease →
  lease.epoch=gate.epoch → sand=false ∧ lease.started+least ≤ clock
 probing : ∀ named started,gate.phase=.probing named started → started ≤ clock ∧
  ∀ id lease,leases id=some lease → lease.epoch=gate.epoch →
   id=named ∧ lease.started=started ∨ sand=false ∧ lease.started+least ≤ started
 apart : ∀ id id' lease lease',leases id=some lease → leases id'=some lease' →
  lease.epoch=gate.epoch → lease'.epoch=gate.epoch → id≠id' →
  sand=false ∧ (lease.started+least ≤ lease'.started ∨ lease'.started+least ≤ lease.started)

def Shrinks (leases' leases:ℕ → Option Lease) : Prop :=
 ∀ id lease',leases' id=some lease' → ∃ lease,leases id=some lease ∧
  lease.epoch=lease'.epoch ∧ lease.started=lease'.started

variable {sand least} {clock:ℕ} {gate:Gate} {leases leases':ℕ → Option Lease}

theorem shrinks_drop (id:ℕ) : Shrinks (Function.update leases id none) leases:=by
 intro id' lease' h
 by_cases hid:id'=id
 · subst hid
   rw [Function.update_self] at h
   exact (nomatch h)
 · rw [Function.update_of_ne hid] at h
   exact ⟨lease',h,rfl,rfl⟩

theorem shrinks_grant {id:ℕ} {lease:Lease} (h:leases id=some lease) :
  Shrinks (Function.update leases id (some { lease with granted := true })) leases:=by
 intro id' lease' h'
 by_cases hid:id'=id
 · subst hid
   rw [Function.update_self] at h'
   obtain rfl:=Option.some.inj h'
   exact ⟨lease,h,rfl,rfl⟩
 · rw [Function.update_of_ne hid] at h'
   exact ⟨lease',h',rfl,rfl⟩

theorem LeaseInv.shrink (h:LeaseInv sand least clock gate leases)
  (hsub:Shrinks leases' leases) : LeaseInv sand least clock gate leases':=by
 constructor
 · intro id lease' hlease
   obtain ⟨lease,hold,hepoch,-⟩:=hsub id lease' hlease
   exact hepoch ▸ h.epoch_le id lease hold
 · intro hphase id lease' hlease hcurrent
   obtain ⟨lease,hold,hepoch,hstarted⟩:=hsub id lease' hlease
   exact hstarted ▸ h.unknown hphase id lease hold (hepoch.trans hcurrent)
 · intro named started hphase
   refine ⟨(h.probing named started hphase).1,fun id lease' hlease hcurrent=>?_⟩
   obtain ⟨lease,hold,hepoch,hstarted⟩:=hsub id lease' hlease
   exact hstarted ▸ (h.probing named started hphase).2 id lease hold (hepoch.trans hcurrent)
 · intro id id' lease₁ lease₂ hlease₁ hlease₂ hcurrent₁ hcurrent₂ hne
   obtain ⟨old₁,hold₁,hepoch₁,hstarted₁⟩:=hsub id lease₁ hlease₁
   obtain ⟨old₂,hold₂,hepoch₂,hstarted₂⟩:=hsub id' lease₂ hlease₂
   rw [← hstarted₁,← hstarted₂]
   exact h.apart id id' old₁ old₂ hold₁ hold₂ (hepoch₁.trans hcurrent₁) (hepoch₂.trans hcurrent₂) hne

theorem LeaseInv.later (h:LeaseInv sand least clock gate leases) {clock':ℕ}
  (hclock:clock ≤ clock') : LeaseInv sand least clock' gate leases:=by
 refine ⟨h.epoch_le,fun hphase id lease hlease hcurrent=>?_,fun named started hphase=>?_,
  h.apart⟩
 · have hold:=h.unknown hphase id lease hlease hcurrent
   exact ⟨hold.1,hold.2.trans hclock⟩
 · have hold:=h.probing named started hphase
   exact ⟨hold.1.trans hclock,hold.2⟩

theorem LeaseInv.healthy (h:LeaseInv sand least clock gate leases) :
  LeaseInv sand least clock ⟨gate.epoch,.healthy⟩ leases :=
 ⟨h.epoch_le,nofun,nofun,h.apart⟩

theorem LeaseInv.reset (h:LeaseInv sand least clock gate leases) :
  LeaseInv sand least clock ⟨gate.epoch+1,.unknown⟩ leases:=by
 have hnone:∀ id lease,leases id=some lease → lease.epoch≠gate.epoch+1 :=
  fun id lease hlease=>Nat.ne_of_lt (Nat.lt_succ_of_le (h.epoch_le id lease hlease))
 refine ⟨fun id lease hlease=>Nat.le_succ_of_le (h.epoch_le id lease hlease),
  fun _ id lease hlease hcurrent=>absurd hcurrent (hnone id lease hlease),nofun,?_⟩
 intro id _ lease _ hlease _ hcurrent
 exact absurd hcurrent (hnone id lease hlease)

theorem LeaseInv.release (h:LeaseInv sand least clock gate leases) {named started:ℕ}
  (hphase:gate.phase=.probing named started) :
  LeaseInv sand least clock ⟨gate.epoch,.unknown⟩ (Function.update leases named none):=by
 have hrest:=h.shrink (shrinks_drop named)
 refine ⟨hrest.epoch_le,fun _ id lease hlease hcurrent=>?_,nofun,hrest.apart⟩
 obtain ⟨hclock,hothers⟩:=hrest.probing named started hphase
 rcases hothers id lease hlease hcurrent with ⟨rfl,-⟩ | ⟨hsand,hapart⟩
 · rw [Function.update_self] at hlease
   exact (nomatch hlease)
 · exact ⟨hsand,hapart.trans hclock⟩

theorem LeaseInv.acquire (h:LeaseInv sand least clock gate leases) (named:ℕ)
  (hold:∀ id lease,leases id=some lease → lease.epoch=gate.epoch → sand=false ∧ lease.started+least ≤ clock) :
  LeaseInv sand least clock ⟨gate.epoch,.probing named clock⟩
   (Function.update leases named (some ⟨gate.epoch,clock,false⟩)):=by
 have hcases:∀ id lease,Function.update leases named (some ⟨gate.epoch,clock,false⟩) id=some lease →
   id=named ∧ lease=⟨gate.epoch,clock,false⟩ ∨ leases id=some lease:=by
  intro id lease hlease
  by_cases hid:id=named
  · subst hid
    rw [Function.update_self] at hlease
    exact Or.inl ⟨rfl,(Option.some.inj hlease).symm⟩
  · rw [Function.update_of_ne hid] at hlease
    exact Or.inr hlease
 constructor
 · intro id lease hlease
   rcases hcases id lease hlease with ⟨-,rfl⟩ | hlease
   · exact le_rfl
   · exact h.epoch_le id lease hlease
 · exact nofun
 · intro named' started hphase
   obtain ⟨rfl,rfl⟩:=ProbeState.probing.inj hphase
   refine ⟨le_rfl,fun id lease hlease hcurrent=>?_⟩
   rcases hcases id lease hlease with ⟨hid,rfl⟩ | hlease
   · exact Or.inl ⟨hid,rfl⟩
   · exact Or.inr (hold id lease hlease hcurrent)
 · intro id id' lease lease' hlease hlease' hcurrent hcurrent' hne
   rcases hcases id lease hlease with ⟨rfl,rfl⟩ | hbefore <;>
    rcases hcases id' lease' hlease' with ⟨rfl,rfl⟩ | hbefore'
   · exact absurd rfl hne
   · have hapart:=hold id' lease' hbefore' hcurrent'
     exact ⟨hapart.1,Or.inr hapart.2⟩
   · have hapart:=hold id lease hbefore hcurrent
     exact ⟨hapart.1,Or.inl hapart.2⟩
   · exact h.apart id id' lease lease' hbefore hbefore' hcurrent hcurrent' hne

end leases

section log
variable {κ:Type} (sand:Bool)

/-- A lease of the epoch has reported health, or a Sand probe of it was quiet for a window. -/
def HealthShown (epoch:ℕ) (log:List Event) : Prop :=
 (∃ id, .reported id epoch∈log) ∨
  ∃ started window now, .quiet epoch started window now∈log ∧ sand=true ∧ started+window ≤ now

structure LogInv (s:GateState κ) : Prop where
 sound : LogSound sand s.log
 last : ∀ named started,s.gate.phase=.probing named started → lastProbe s.log=some started
 healthy : s.gate.phase=.healthy → HealthShown sand s.gate.epoch s.log
 kept : ∀ deadline kept, .published deadline kept∈s.log →
  deadline ≤ kept ∧ (kept ≤ s.clock ∨ ∃ limit∈s.breaker,kept ≤ limit)

theorem HealthShown.mono {epoch:ℕ} {log:List Event} (h:HealthShown sand epoch log)
  (event:Event) : HealthShown sand epoch (event::log):=by
 rcases h with ⟨id,hid⟩ | ⟨started,window,now,hquiet,hrest⟩
 · exact Or.inl ⟨id,List.mem_cons_of_mem _ hid⟩
 · exact Or.inr ⟨started,window,now,List.mem_cons_of_mem _ hquiet,hrest⟩

variable {sand} {s:GateState κ}

theorem kept_sweep
  (h:∀ deadline kept, .published deadline kept∈s.log →
   deadline ≤ kept ∧ (kept ≤ s.clock ∨ ∃ limit∈s.breaker,kept ≤ limit)) :
  ∀ deadline kept, .published deadline kept∈s.log →
   deadline ≤ kept ∧ (kept ≤ s.clock ∨ ∃ limit∈s.sweep.breaker,kept ≤ limit):=by
 intro deadline kept hmem
 obtain ⟨hdeadline,hkept⟩:=h deadline kept hmem
 refine ⟨hdeadline,?_⟩
 rcases hkept with hpast | ⟨limit,hlimit,hkept⟩
 · exact Or.inl hpast
 · by_cases hahead:s.clock<limit
   · exact Or.inr ⟨limit,Option.mem_filter_iff.mpr ⟨hlimit,decide_eq_true hahead⟩,hkept⟩
   · exact Or.inl (hkept.trans (Nat.not_lt.mp hahead))

theorem LogInv.sweep (h:LogInv sand s) : LogInv sand s.sweep :=
 ⟨h.sound,h.last,h.healthy,kept_sweep h.kept⟩

theorem LogInv.passed (h:LogInv sand s) (hopen:¬s.sweep.breaker.isSome=true) :
  ∀ deadline kept, .published deadline kept∈s.log → deadline ≤ s.clock:=by
 intro deadline kept hmem
 obtain ⟨hdeadline,hpast | ⟨limit,hlimit,-⟩⟩:=kept_sweep h.kept deadline kept hmem
 · exact hdeadline.trans hpast
 · exact absurd (Option.isSome_of_mem hlimit) hopen

end log

section steps
variable {κ:Type} (sand:Bool) (least:ℕ)

structure Inv (s:GateState κ) : Prop where
 leases : LeaseInv sand least s.clock s.gate s.leases
 log : LogInv sand s

def WindowMet : Action κ → Prop
 | .decideProbe _ window=>least ≤ window
 | _=>True

variable {sand least} {s:GateState κ}

theorem Inv.sweep (h:Inv sand least s) : Inv sand least s.sweep :=
 ⟨h.leases,h.log.sweep⟩

theorem Inv.dropLease (h:Inv sand least s) (id:ℕ) (lease:Lease) : Inv sand least (s.dropLease id lease):=by
 have hshrink:=h.leases.shrink (shrinks_drop id)
 have hsame:Inv sand least { s with leases:=Function.update s.leases id none } :=
  ⟨hshrink,⟨h.log.sound,h.log.last,h.log.healthy,h.log.kept⟩⟩
 unfold GateState.dropLease
 cases hphase:s.gate.phase with
 | unknown=>exact hsame
 | healthy=>exact hsame
 | probing named started=>
  dsimp only
  split_ifs with hnamed
  · obtain ⟨-,rfl⟩:=hnamed
    exact ⟨h.leases.release hphase,h.log.sound,nofun,nofun,h.log.kept⟩
  · exact hsame

theorem Inv.drop (h:Inv sand least s) (id:ℕ) : Inv sand least (s.drop id):=by
 unfold GateState.drop
 cases s.leases id with
 | none=>exact h
 | some lease=>
  dsimp only
  split_ifs
  · exact h.dropLease id lease
  · exact h

theorem Inv.markHealthy (h:Inv sand least s) (id:ℕ) : Inv sand least (s.markHealthy id):=by
 unfold GateState.markHealthy
 cases s.leases id with
 | none=>exact h
 | some lease=>
  dsimp only
  have hshrink:=h.leases.shrink (shrinks_drop id)
  have hkept:∀ deadline kept, .published deadline kept ∈ Event.reported id lease.epoch::s.log →
    deadline ≤ kept ∧ (kept ≤ s.clock ∨ ∃ limit∈s.breaker,kept ≤ limit):=by
   intro deadline kept hmem
   rcases List.mem_cons.mp hmem with heq | hmem
   · exact (nomatch heq)
   · exact h.log.kept deadline kept hmem
  split_ifs with hgranted hepoch
  · refine ⟨hshrink.healthy,h.log.sound,nofun,fun _=>Or.inl ⟨id,?_⟩,hkept⟩
    rw [hepoch]
    exact List.mem_cons_self
  · exact ⟨hshrink,h.log.sound,h.log.last,fun hphase=>(h.log.healthy hphase).mono sand _,
     hkept⟩
  · exact h

section callers
variable [DecidableEq κ]

omit [DecidableEq κ] in
theorem Inv.callers (h:Inv sand least s) (callers:κ → CallerState) : Inv sand least { s with callers := callers } :=
 ⟨h.leases,h.log.sound,h.log.last,h.log.healthy,h.log.kept⟩

theorem Inv.preflight (h:Inv sand least s) (key:κ) : Inv sand least (s.preflight key):=by
 unfold GateState.preflight
 cases s.callers key with
 | idle=>
  dsimp only
  split_ifs
  · exact h.sweep
  · exact h.sweep.callers _
 | passed=>exact h
 | healthy=>exact h
 | acquired _=>exact h
 | noted=>exact h

theorem Inv.acquire (h:Inv sand least s) (key:κ) {previous:Option ℕ} {window:ℕ}
  (hold:∀ id lease,s.leases id=some lease → lease.epoch=s.gate.epoch → sand=false ∧ lease.started+least ≤ s.clock)
  (hprevious:∀ started∈previous,sand=false ∧ lastProbe s.log=some started ∧
   started+window ≤ s.clock) : Inv sand least (s.acquire key previous window):=by
 refine ⟨h.leases.acquire s.sequence hold,⟨hprevious,h.log.sound⟩,fun named started hphase=>?_,
  nofun,fun deadline kept hmem=>?_⟩
 · obtain ⟨-,rfl⟩:=ProbeState.probing.inj hphase
   rfl
 · rcases List.mem_cons.mp hmem with heq | hmem
   · exact (nomatch heq)
   · exact h.log.kept deadline kept hmem

theorem Inv.decideProbe (h:Inv sand least s) (key:κ) {window:ℕ} (hwindow:least ≤ window) :
  Inv sand least (s.decideProbe sand key window):=by
 unfold GateState.decideProbe
 cases s.callers key with
 | passed=>
  dsimp only
  cases hphase:s.gate.phase with
  | healthy=>exact h.callers _
  | unknown=>exact h.acquire key (h.leases.unknown hphase) fun _ hnone=>(nomatch hnone)
  | probing named started=>
   obtain ⟨hclock,hothers⟩:=h.leases.probing named started hphase
   have hlast:=h.log.last named started hphase
   dsimp only
   split_ifs with hsand hother
   · -- The quiet window of a Sand key.
     have hpassed:started+window ≤ s.clock:=by omega
     refine ⟨h.leases.healthy,⟨⟨hsand.1,hlast,hpassed⟩,h.log.sound⟩,nofun,
      fun _=>Or.inr ⟨started,window,s.clock,List.mem_cons_self,hsand.1,hpassed⟩,
      fun deadline kept hmem=>?_⟩
     rcases List.mem_cons.mp hmem with heq | hmem
     · exact (nomatch heq)
     · exact h.log.kept deadline kept hmem
   · -- One additional probe; the one before goes on.
     have hsand:sand=false:=by
      rw [← Bool.not_eq_true']
      exact hother.1
     have hpassed:started+window ≤ s.clock:=by omega
     refine h.acquire key (fun id lease hlease hcurrent=>⟨hsand,?_⟩) fun started' heq=>?_
     · rcases hothers id lease hlease hcurrent with ⟨-,hstarted⟩ | ⟨-,hapart⟩
       · omega
       · omega
     · obtain rfl:=Option.some.inj heq
       exact ⟨hsand,hlast,hpassed⟩
   · exact h.callers _
 | idle=>exact h
 | healthy=>exact h
 | acquired _=>exact h
 | noted=>exact h

theorem Inv.admitted (h:Inv sand least s) (key:κ) (hopen:¬s.sweep.breaker.isSome=true) :
  Inv sand least (s.sweep.admitted key):=by
 refine ⟨h.leases,⟨h.log.passed hopen,h.log.sound⟩,h.log.last,
  fun hphase=>(h.log.healthy hphase).mono sand _,fun deadline kept hmem=>?_⟩
 rcases List.mem_cons.mp hmem with heq | hmem
 · exact (nomatch heq)
 · exact h.log.sweep.kept deadline kept hmem

theorem Inv.confirm (h:Inv sand least s) (key:κ) : Inv sand least (s.confirm key):=by
 unfold GateState.confirm
 cases s.callers key with
 | healthy=>
  dsimp only
  split_ifs with hlimited
  · exact h.sweep.callers _
  · exact h.admitted key hlimited
 | acquired id=>
  dsimp only
  cases hlease:s.leases id with
  | none=>exact h
  | some lease=>
   dsimp only
   split_ifs with hlimited
   · exact (h.sweep.dropLease id lease).callers _
   · have hadmitted:=h.admitted key hlimited
     exact ⟨h.leases.shrink (shrinks_grant hlease),hadmitted.log.sound,hadmitted.log.last,
      hadmitted.log.healthy,hadmitted.log.kept⟩
 | idle=>exact h
 | passed=>exact h
 | noted=>exact h

theorem keptDeadline_spec (previous:Option ℕ) (deadline:ℕ) :
  deadline ≤ GateState.keptDeadline previous deadline ∧
   ∀ limit∈previous,limit ≤ GateState.keptDeadline previous deadline:=by
 unfold GateState.keptDeadline
 cases previous with
 | none=>exact ⟨le_rfl,fun _ hnone=>(nomatch hnone)⟩
 | some previous=>
  dsimp only
  split_ifs with hless
  · exact ⟨le_rfl,fun limit hlimit=>Option.some.inj hlimit ▸ hless.le⟩
  · exact ⟨Nat.not_lt.mp hless,fun limit hlimit=>(Option.some.inj hlimit).symm.le⟩

theorem Inv.publish (h:Inv sand least s) (key:κ) (seconds:ℕ) : Inv sand least (s.publish key seconds):=by
 unfold GateState.publish
 cases s.callers key with
 | idle=>
  dsimp only
  have hswept:=kept_sweep h.log.kept
  obtain ⟨hdeadline,hlimits⟩:=keptDeadline_spec s.sweep.breaker (s.clock+seconds)
  have hearlier:∀ deadline' kept', .published deadline' kept'∈s.log →
    kept' ≤ GateState.keptDeadline s.sweep.breaker (s.clock+seconds):=by
   intro deadline' kept' hmem
   rcases (hswept deadline' kept' hmem).2 with hpast | ⟨limit,hlimit,hle⟩
   · omega
   · exact hle.trans (hlimits limit hlimit)
  refine ⟨h.leases,⟨⟨hdeadline,hearlier⟩,h.log.sound⟩,h.log.last,
   fun hphase=>(h.log.healthy hphase).mono sand _,fun deadline' kept' hmem=>?_⟩
  rcases List.mem_cons.mp hmem with heq' | hmem
  · obtain ⟨rfl,rfl⟩:=Event.published.inj heq'
    exact ⟨hdeadline,Or.inr ⟨_,rfl,le_rfl⟩⟩
  · exact ⟨(hswept deadline' kept' hmem).1,Or.inr ⟨_,rfl,hearlier deadline' kept' hmem⟩⟩
 | passed=>exact h
 | healthy=>exact h
 | acquired _=>exact h
 | noted=>exact h

theorem Inv.reset (h:Inv sand least s) (key:κ) : Inv sand least (s.reset key):=by
 unfold GateState.reset
 cases s.callers key with
 | noted=>exact ⟨h.leases.reset,h.log.sound,nofun,nofun,h.log.kept⟩
 | idle=>exact h
 | passed=>exact h
 | healthy=>exact h
 | acquired _=>exact h

theorem Inv.step (h:Inv sand least s) (action:Action κ) (hwindow:WindowMet least action) :
  Inv sand least (s.step sand action):=by
 cases action with
 | preflight key=>exact h.preflight key
 | decideProbe key window=>exact h.decideProbe key hwindow
 | confirm key=>exact h.confirm key
 | drop id=>exact h.drop id
 | markHealthy id=>exact h.markHealthy id
 | publish key seconds=>exact h.publish key seconds
 | reset key=>exact h.reset key
 | advance time=>
  refine ⟨h.leases.later (Nat.le_add_right _ _),h.log.sound,h.log.last,h.log.healthy,
   fun deadline kept hmem=>?_⟩
  obtain ⟨hdeadline,hkept⟩:=h.log.kept deadline kept hmem
  exact ⟨hdeadline,hkept.imp_left fun hpast=>hpast.trans (Nat.le_add_right _ _)⟩
 | sweep=>exact h.sweep
 | draw=>exact ⟨h.leases,h.log.sound,h.log.last,h.log.healthy,h.log.kept⟩

omit [DecidableEq κ] in
theorem inv_new : Inv sand least (GateState.new : GateState κ) :=
 ⟨⟨fun _ _ hnone=>(nomatch hnone),fun _ _ _ hnone=>(nomatch hnone),nofun,
  fun _ _ _ _ hnone=>(nomatch hnone)⟩,trivial,nofun,nofun,
  fun _ _ hmem=>(nomatch hmem)⟩

theorem inv_run (actions:List (Action κ)) : ∀ s:GateState κ,Inv sand least s →
  (∀ action∈actions,WindowMet least action) → Inv sand least (s.run sand actions):=by
 induction actions with
 | nil=>exact fun _ h _=>h
 | cons action actions ih=>
  intro s h hwindow
  exact ih _ (h.step action (hwindow action List.mem_cons_self))
   fun other hmem=>hwindow other (List.mem_cons_of_mem _ hmem)

structure GateSound (sand:Bool) (least:ℕ) (s:GateState κ) : Prop where
 /-- Leases of the current epoch that are outstanding together. -/
 apart : ∀ id id' lease lease',s.leases id=some lease → s.leases id'=some lease' →
  lease.epoch=s.gate.epoch → lease'.epoch=s.gate.epoch → id≠id' →
  sand=false ∧ (lease.started+least ≤ lease'.started ∨ lease'.started+least ≤ lease.started)
 named : ∀ named started,s.gate.phase=.probing named started →
  ∀ id lease,s.leases id=some lease → lease.epoch=s.gate.epoch → id≠named → sand=false ∧ lease.started+least ≤ started
 healthy : s.gate.phase=.healthy → HealthShown sand s.gate.epoch s.log
 closed : ∀ deadline kept, .published deadline kept∈s.log → s.clock<deadline → s.sweep.breaker.isSome=true
 superseded : ∀ id lease,s.leases id=some lease → lease.epoch≠s.gate.epoch →
  (s.markHealthy id).gate=s.gate ∧ (s.drop id).gate=s.gate
 newer : ∀ named started id,s.gate.phase=.probing named started → id≠named → (s.drop id).gate=s.gate

omit [DecidableEq κ] in
theorem drop_gate {id:ℕ} {lease:Lease} (hlease:s.leases id=some lease)
  (h:∀ named started,s.gate.phase=.probing named started →
   ¬(s.gate.epoch=lease.epoch ∧ named=id)) : (s.drop id).gate=s.gate:=by
 unfold GateState.drop
 rw [hlease]
 dsimp only
 split_ifs
 · unfold GateState.dropLease
   cases hphase:s.gate.phase with
   | unknown=>rfl
   | healthy=>rfl
   | probing named started=>exact if_neg (h named started hphase)
 · rfl

omit [DecidableEq κ] in
theorem Inv.gateSound (h:Inv sand least s) : GateSound sand least s:=by
 refine ⟨h.leases.apart,?_,h.log.healthy,?_,?_,?_⟩
 · intro named started hphase id lease hlease hcurrent hother
   rcases (h.leases.probing named started hphase).2 id lease hlease hcurrent with hsame | hapart
   · exact absurd hsame.1 hother
   · exact hapart
 · intro deadline kept hmem hahead
   by_contra hopen
   exact absurd (h.log.passed hopen deadline kept hmem) (Nat.not_le.mpr hahead)
 · intro id lease hlease hother
   constructor
   · unfold GateState.markHealthy
     rw [hlease]
     dsimp only
     split_ifs with hgranted hepoch
     · exact absurd hepoch.symm hother
     · rfl
     · rfl
   · exact drop_gate hlease fun _ _ _ hsame=>hother hsame.1.symm
 · intro named started id hphase hother
   cases hlease:s.leases id with
   | none=>
    unfold GateState.drop
    rw [hlease]
   | some lease=>
    refine drop_gate hlease fun named' started' hphase' hsame=>?_
    obtain ⟨rfl,-⟩:=ProbeState.probing.inj (hphase.symm.trans hphase')
    exact hother hsame.2.symm

/-- The gate and the breaker over every interleaving of callers, results and time. -/
theorem gate_sound (sand:Bool) (least:ℕ) (actions:List (Action κ)) (hwindow:∀ action∈actions,WindowMet least action) :
    GateSound sand least ((GateState.new : GateState κ).run sand actions) ∧
      LogSound sand ((GateState.new : GateState κ).run sand actions).log:=by
  have h:Inv sand least ((GateState.new : GateState κ).run sand actions) :=
    inv_run actions GateState.new inv_new hwindow
  exact ⟨h.gateSound,h.log.sound⟩

end callers
end steps

/-- Two callers, and a probe that is quiet for its window of 30. -/
def quietRun : List (Action ℕ) :=
 [.preflight 0,.decideProbe 0 30,.confirm 0,.advance 30,
  .preflight 1,.decideProbe 1 30,.confirm 1]

theorem gate_sound_quiet :
    GateSound false 30 ((GateState.new : GateState ℕ).run false quietRun) ∧
      LogSound false ((GateState.new : GateState ℕ).run false quietRun).log:=by
  refine gate_sound false 30 quietRun fun action hmem=>?_
  simp only [quietRun,List.mem_cons,List.not_mem_nil,or_false] at hmem
  rcases hmem with rfl | rfl | rfl | rfl | rfl | rfl | rfl
  all_goals first | exact le_rfl | exact trivial

/-- The first probe goes on beside the second one. -/
theorem quiet_probe_outstanding :
    ¬ ∀ (sand:Bool) (actions:List (Action ℕ)) (id id':ℕ) (lease lease':Lease),
      ((GateState.new : GateState ℕ).run sand actions).leases id=some lease →
      ((GateState.new : GateState ℕ).run sand actions).leases id'=some lease' →
      lease.epoch=((GateState.new : GateState ℕ).run sand actions).gate.epoch →
      lease'.epoch=((GateState.new : GateState ℕ).run sand actions).gate.epoch → id=id':=by
  intro h
  have hsame:=h false quietRun 1 2 ⟨0,0,true⟩ ⟨0,30,true⟩ rfl rfl rfl rfl
  exact absurd hsame (by decide)

end CursorProxy.PolicyGateRuns
