import CursorProxy.Traces

/-! Calls that run side by side. What a call has to do is a list of sections, each of
which runs without interruption; a section may be blocked, and says what its call has to
do next. -/
namespace CursorProxy.AtomicSections
open Traces

variable {σ α ι κ:Type*}

/-- The sections of a requested call, and what a section does. -/
structure System (σ α ι κ:Type*) where
 sections : κ → List α
 run : ι → α → σ → Option (σ×List α)

/-- What the calls share, and what each of them has still to run. -/
structure Config (σ α:Type*) where
 shared : σ
 calls : AList fun _ : ℕ=>List α

inductive Event (κ ι:Type*) where
 | start (call:ℕ) (request:κ)
 | run (call:ℕ) (input:ι)

namespace Config

def step (system:System σ α ι κ) (config:Config σ α) : Event κ ι → Option (Config σ α)
 | .start call request=>
  if call∈config.calls then none
  else some { config with calls := config.calls.insert call (system.sections request) }
 | .run call input=>
  match config.calls.lookup call with
  | some (act::rest)=>
   (system.run input act config.shared).map fun (shared,more)=>
    ⟨shared,config.calls.insert call (more++rest)⟩
  | _=>none

def Quiet (config:Config σ α) : Prop := ∀ entry∈config.calls.entries,entry.2=[]

/-- A call other than `call` has still to run a section with the property. -/
def Awaits (config:Config σ α) (call:ℕ) (p:α → Prop) : Prop :=
 ∃ other sections,other≠call ∧ config.calls.lookup other=some sections ∧ ∃ act∈sections,p act

/-- Some call has still to run a section with the property. -/
def Pending (config:Config σ α) (p:α → Prop) : Prop :=
 ∃ call sections,config.calls.lookup call=some sections ∧ ∃ act∈sections,p act

end Config

abbrev Run (system:System σ α ι κ) : Config σ α → List (Event κ ι) → Config σ α → Prop :=
 Trace fun config event next=>config.step system event=some next

variable {system:System σ α ι κ} {config next:Config σ α} {p:α → Prop}

variable {call:ℕ}

theorem step_start {request:κ} (h:config.step system (.start call request)=some next) :
 call ∉ config.calls ∧ next = { config with calls := config.calls.insert call (system.sections request) }:=by
 simp only [Config.step] at h
 split at h
 · exact absurd h (by simp)
 · rename_i hfree
   exact ⟨hfree,(Option.some.inj h).symm⟩

theorem step_run {input:ι} (h:config.step system (.run call input)=some next) :
 ∃ act rest shared more,config.calls.lookup call=some (act::rest) ∧
  system.run input act config.shared=some (shared,more) ∧ next=⟨shared,config.calls.insert call (more++rest)⟩:=by
 simp only [Config.step] at h
 split at h
 · rename_i act rest hcall
   obtain ⟨⟨shared,more⟩,hrun,hnext⟩:=Option.map_eq_some_iff.mp h
   exact ⟨act,rest,shared,more,hcall,hrun,hnext.symm⟩
 · exact absurd h (by simp)

theorem shared_invariant {P:σ → Prop}
 (hrun:∀ input act shared next more,P shared → system.run input act shared=some (next,more) → P next)
 {events:List (Event κ ι)} (h:Run system config events next) (hstart:P config.shared) : P next.shared:=by
 refine h.invariant (fun config=>P config.shared) (fun config event next _ hP hstep=>?_) hstart
 cases event with
 | start call request=>
  obtain ⟨_,rfl⟩:=step_start hstep
  exact hP
 | run call input=>
  obtain ⟨act,rest,shared,more,_,hsection,rfl⟩:=step_run hstep
  exact hrun input act config.shared shared more hP hsection

def Config.All (config:Config σ α) (Q:α → Prop) : Prop :=
 ∀ call sections,config.calls.lookup call=some sections → ∀ act∈sections,Q act

variable {Q:α → Prop} {shared:σ} {sections:List α}

theorem all_insert (h:config.All Q) (hsections:∀ act∈sections,Q act) :
 Config.All ⟨shared,config.calls.insert call sections⟩ Q:=by
 intro other found hfound act hact
 by_cases hsame:other=call
 · subst hsame
   rw [← Option.some.inj ((AList.lookup_insert _).symm.trans hfound)] at hact
   exact hsections act hact
 · exact h other found ((AList.lookup_insert_ne hsame).symm.trans hfound) act hact

theorem all_step {event:Event κ ι} (h:config.All Q)
 (hrequest:∀ call request,event=.start call request → ∀ act∈system.sections request,Q act)
 (hrun:∀ input act shared next more,Q act → system.run input act shared=some (next,more) → ∀ act∈more,Q act)
 (hstep:config.step system event=some next) : next.All Q:=by
 cases event with
 | start call request=>
  obtain ⟨_,rfl⟩:=step_start hstep
  exact all_insert h (hrequest call request rfl)
 | run call input=>
  obtain ⟨first,rest,shared,more,hcall,hsection,rfl⟩:=step_run hstep
  have hleft:=h call _ hcall
  refine all_insert h fun act hact=>?_
  obtain hmore | hrest:=List.mem_append.mp hact
  · exact hrun input first config.shared shared more (hleft first List.mem_cons_self)
     hsection act hmore
  · exact hleft act (List.mem_cons_of_mem _ hrest)

theorem all_invariant {events:List (Event κ ι)} (h:Run system config events next)
 (hrequest:∀ request,∀ act∈system.sections request,Q act)
 (hrun:∀ input act shared next more,Q act → system.run input act shared=some (next,more) → ∀ act∈more,Q act)
 (hstart:config.All Q) : next.All Q :=
 h.invariant (fun config=>config.All Q)
  (fun _ _ _ _ hQ hstep=>all_step hQ (fun _ request _=>hrequest request) hrun hstep) hstart

theorem Config.Awaits.insert (h:config.Awaits call p) :
 Config.Pending ⟨shared,config.calls.insert call sections⟩ p:=by
 obtain ⟨other,rest,hne,hother,hact⟩:=h
 exact ⟨other,rest,(AList.lookup_insert_ne hne).trans hother,hact⟩

theorem pending_added (h:∃ act∈sections,p act) : Config.Pending ⟨shared,config.calls.insert call sections⟩ p :=
 ⟨call,sections,AList.lookup_insert _,h⟩

theorem pending_run {act:α} {more rest:List α}
 (hcall:config.calls.lookup call=some (act::rest)) (hact:p act → ∃ act∈more,p act)
 (h:config.Pending p) : Config.Pending ⟨shared,config.calls.insert call (more++rest)⟩ p:=by
 obtain ⟨other,sections,hother,left,hleft,hp⟩:=h
 by_cases hne:other=call
 · subst hne
   rw [Option.some.inj (hother.symm.trans hcall)] at hleft
   refine ⟨other,more++rest,AList.lookup_insert _,?_⟩
   obtain rfl | hrest:=List.mem_cons.mp hleft
   · obtain ⟨next,hnext,hpnext⟩:=hact hp
     exact ⟨next,List.mem_append_left _ hnext,hpnext⟩
   · exact ⟨left,List.mem_append_right _ hrest,hp⟩
 · exact ⟨other,sections,(AList.lookup_insert_ne hne).trans hother,left,hleft,hp⟩

theorem pending_start (hfree:call ∉ config.calls) (h:config.Pending p) :
 Config.Pending { config with calls := config.calls.insert call sections } p:=by
 obtain ⟨other,rest,hother,hact⟩:=h
 have hne:other≠call:=by
  rintro rfl
  exact hfree (AList.lookup_isSome.mp (Option.isSome_of_eq_some hother))
 exact ⟨other,rest,(AList.lookup_insert_ne hne).trans hother,hact⟩

theorem not_pending (h:config.Quiet) : ¬config.Pending p:=by
 rintro ⟨call,sections,hcall,act,hact,_⟩
 have hnil:sections=[]:=h ⟨call,sections⟩ (AList.mem_lookup_iff.mp hcall)
 rw [hnil] at hact
 exact absurd hact List.not_mem_nil

end CursorProxy.AtomicSections
