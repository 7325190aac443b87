import CursorProxy.SandRegistry

namespace CursorProxy.SandOwnership
open SandModel SandFidelity SandRegistry Traces

variable {env:SandEnv} {state next:RegistryState}

/-- Only an owner that is through has set a finish time. -/
def Ended (entry:SandState) : Prop :=
 entry.entry.finishedAt.isSome → entry.phase=.ended ∨ entry.phase=.failed ∨ entry.phase=.dropped

def Stable (entry entry':SandState) : Prop :=
 ∀ finished,entry.entry.finishedAt=some finished → entry'.entry.finishedAt=some finished

theorem subscribe_finished (env:SandEnv) (entry:SandState) (owner:Bool) :
  (entry.subscribe env owner).1.entry.finishedAt=entry.entry.finishedAt ∧
   (entry.subscribe env owner).1.phase=entry.phase:=by
 unfold SandState.subscribe
 dsimp only
 split_ifs <;> exact ⟨rfl,rfl⟩

theorem ended_new (env:SandEnv) : Ended (SandState.new env) :=
 fun hsome=>absurd hsome (by simp [SandState.new,SandOperationEntry.new])

theorem ended_subscribe {entry:SandState} (h:Ended entry) (owner:Bool) : Ended (entry.subscribe env owner).1:=by
 obtain ⟨hfinished,hphase⟩:=subscribe_finished env entry owner
 unfold Ended
 rw [hfinished,hphase]
 exact h

theorem ended_step {entry entry':SandState} {action:SandAction} (h:Ended entry)
  (hstep:SandStep env entry action entry') : Ended entry' ∧ Stable entry entry':=by
 -- An owner that goes on has not finished.
 have hopen:(entry.phase=.opening ∨ entry.phase=.failing ∨ entry.phase=.forwarding) → entry.entry.finishedAt=none:=by
  intro hphase
  by_contra hsome
  rcases h (Option.isSome_iff_ne_none.mpr hsome) with hended | hended | hended <;>
   rw [hended] at hphase <;> simp at hphase
 cases hstep.effect with
 | subscribed=>
  refine ⟨ended_subscribe h false,fun finished hfinished=>?_⟩
  rw [(subscribe_finished env entry false).1]
  exact hfinished
 | forwarded hphase=>
  have hnone:=hopen (.inl hphase)
  exact ⟨fun hsome=>absurd hsome (by simp [hnone]),fun _ hfinished=>hfinished⟩
 | began _ event phase _ _ hphase=>
  have hnone:=hopen (hphase.imp (·.1) (fun hforwarding=>.inr hforwarding.1))
  have hsame:=(appendReplay_frame env entry.entry event).2
  refine ⟨fun hsome=>?_,fun finished hfinished=>hsame.trans hfinished⟩
  change (appendReplay env entry.entry event).finishedAt.isSome=true at hsome
  rw [hsame,hnone] at hsome
  exact absurd hsome (by simp)
 | delivered=>exact ⟨h,fun _ hfinished=>hfinished⟩
 | refused=>exact ⟨h,fun _ hfinished=>hfinished⟩
 | settled=>exact ⟨h,fun _ hfinished=>hfinished⟩
 | finished now phase _ hphase=>
  have hnone:=hopen (.inr (hphase.symm.imp (·.1) (·.1)))
  refine ⟨fun _=>?_,fun _ hfinished=>absurd hfinished (by simp [hnone])⟩
  exact (hphase.imp (·.2) (·.2)).imp_right .inl
 | dropped now=>
  unfold SandState.dropOwner
  split
  · exact ⟨h,fun _ hfinished=>hfinished⟩
  · exact ⟨h,fun _ hfinished=>hfinished⟩
  · exact ⟨h,fun _ hfinished=>hfinished⟩
  all_goals
   dsimp only
   split_ifs with hnone
   · rw [Option.isNone_iff_eq_none] at hnone
     exact ⟨fun _=>.inr (.inr rfl),fun _ hfinished=>absurd hfinished (by simp [hnone])⟩
   · exact ⟨fun _=>.inr (.inr rfl),fun _ hfinished=>hfinished⟩
 | receiver=>exact ⟨h,fun _ hfinished=>hfinished⟩

inductive RegistryEffect (env:SandEnv) (state:RegistryState) : RegistryState → Prop where
 | started (key:SandOperationKey) (order:List SandOperationKey) :
   RegistryEffect env state { state with admission := some ⟨key,.pruning order⟩ }
 | pruned (key visited:SandOperationKey) (pending:List SandOperationKey) :
   RegistryEffect env state
    { state.prune env visited with admission := some ⟨key,.pruning pending⟩ }
 | joined (key:SandOperationKey) (id:ℕ) : RegistryEffect env state (state.join env key id)
 | full (key:SandOperationKey) (order:List SandOperationKey)
   (habsent:state.operations.lookup key=none) :
   RegistryEffect env state { state with admission := some ⟨key,.evicting order none⟩ }
 | owned (key:SandOperationKey) (habsent:state.operations.lookup key=none)
   (hroom:state.operations.keys.length<env.operationEntryLimit) :
   RegistryEffect env state (state.own env key)
 | scanned (key visited:SandOperationKey) (pending:List SandOperationKey)
   (oldest:Option (SandOperationKey×ℕ))
   (hadmission:state.admission=some ⟨key,.evicting (visited::pending) oldest⟩) :
   RegistryEffect env state { state with
    admission := some ⟨key,.evicting pending (state.scan env visited oldest)⟩ }
 | replaced (key oldest:SandOperationKey) (finished:ℕ)
   (hadmission:state.admission=some ⟨key,.evicting [] (some (oldest,finished))⟩) :
   RegistryEffect env state ((state.remove oldest).own env key)
 | exceeded (key:SandOperationKey) :
   RegistryEffect env state (state.answer key .capacityExceeded)
 | operated (id:ℕ) (action:SandAction) (entry:SandState)
   (hstep:SandStep env (state.entries id) action entry) :
   RegistryEffect env state (state.withEntry id entry)

theorem act_effect {action:RegistryAction} (hact:state.act env action=some next) : RegistryEffect env state next:=by
 unfold RegistryState.act at hact
 cases action with
 | request key order=>
  dsimp only at hact
  split_ifs at hact
  obtain rfl:=Option.some.inj hact
  exact .started key order
 | prune now=>
  dsimp only at hact
  split at hact
  · rename_i key visited pending _
    obtain rfl:=Option.some.inj hact
    exact .pruned key visited pending
  · exact absurd hact (by simp)
 | lookup order=>
  dsimp only at hact
  split at hact
  · rename_i key _
    split at hact
    · rename_i id _
      obtain rfl:=Option.some.inj hact
      exact .joined key id
    · rename_i habsent
      split_ifs at hact with hfull
      · obtain rfl:=Option.some.inj hact
        exact .full key order habsent
      · obtain rfl:=Option.some.inj hact
        exact .owned key habsent (Nat.lt_of_not_le hfull)
  · exact absurd hact (by simp)
 | scan now=>
  dsimp only at hact
  split at hact
  · rename_i key visited pending oldest hadmission
    obtain rfl:=Option.some.inj hact
    exact .scanned key visited pending oldest hadmission
  · exact absurd hact (by simp)
 | evict=>
  dsimp only at hact
  split at hact
  · rename_i key oldest finished hadmission
    obtain rfl:=Option.some.inj hact
    exact .replaced key oldest finished hadmission
  · rename_i key _
    obtain rfl:=Option.some.inj hact
    exact .exceeded key
  · exact absurd hact (by simp)
 | operate id action=>
  have hoperate:((state.entries id).step env action).map (state.withEntry id)=some next:=by
   cases action with
   | subscribe=>exact absurd hact (by simp)
   | _=>
    dsimp only at hact
    split_ifs at hact
    exact hact
  obtain ⟨entry,hstep,rfl⟩:=Option.map_eq_some_iff.mp hoperate
  exact .operated id action entry hstep

def RegistryStep (env:SandEnv) (state:RegistryState) (action:RegistryAction) (next:RegistryState) : Prop :=
 state.step env action=some next

theorem RegistryStep.effect {action:RegistryAction} (hstep:RegistryStep env state action next) :
  ∃ now,state.clock ≤ now ∧ RegistryEffect env { state with clock := now } next:=by
 unfold RegistryStep RegistryState.step at hstep
 split at hstep
 · rename_i now _
   split_ifs at hstep with hclock
   exact ⟨now,hclock,act_effect hstep⟩
 · exact ⟨state.clock,Nat.le_refl _,act_effect hstep⟩

/-- The earlier owner of the key was finished for the retention when the later one
was admitted. -/
def Succeeds (env:SandEnv) (state:RegistryState) (earlier later:Outcome) : Prop :=
 ∀ first second,earlier.answer=.owner first → later.answer=.owner second →
  earlier.key=later.key →
   ∃ finished,(state.entries first).entry.finishedAt=some finished ∧
    finished+env.terminalReplayTtl ≤ later.time

/-- An operation is registered under its owner's key until its retention is over. -/
structure Owned (env:SandEnv) (state:RegistryState) : Prop where
 ended : ∀ id,Ended (state.entries id)
 retained : ∀ id<state.nextEntry,state.operations.lookup (state.owners id)=some id ∨
  ∃ finished,(state.entries id).entry.finishedAt=some finished ∧ finished+env.terminalReplayTtl ≤ state.clock
 outcomes : ∀ outcome∈state.outcomes,∀ id,outcome.answer=.owner id → id<state.nextEntry ∧ state.owners id=outcome.key
 pairwise : state.outcomes.Pairwise (Succeeds env state)
 absent : ∀ key pending oldest,state.admission=some ⟨key,.evicting pending oldest⟩ → state.operations.lookup key=none
 oldest : ∀ key pending oldest finished,
  state.admission=some ⟨key,.evicting pending (some (oldest,finished))⟩ →
   state.finishedAt oldest=some finished ∧ finished+env.terminalReplayTtl ≤ state.clock
 bounded : state.operations.keys.length ≤ env.operationEntryLimit

theorem retention_positive (env:SandEnv) : 0<env.terminalReplayTtl:=by
 unfold SandEnv.terminalReplayTtl clamp
 have:=Nat.le_max_left 1 (min (env.replayTtlSecs.getD defaultTerminalReplayTtlSecs) 300)
 omega

theorem retention_over {clock finished:ℕ} (h:¬clock-finished<env.terminalReplayTtl) :
  finished+env.terminalReplayTtl ≤ clock:=by
 have:=retention_positive env
 omega

namespace Owned

theorem new (env:SandEnv) : Owned env (RegistryState.new env) where
 ended _ := ended_new env
 retained id hid := absurd hid (Nat.not_lt_zero id)
 outcomes _ hmem := absurd hmem List.not_mem_nil
 pairwise := List.Pairwise.nil
 absent _ _ _ hnone := absurd hnone (by simp [RegistryState.new])
 oldest _ _ _ _ hnone := absurd hnone (by simp [RegistryState.new])
 bounded := Nat.zero_le _

theorem tick (h:Owned env state) {now:ℕ} (hnow:state.clock ≤ now) : Owned env { state with clock := now } where
 ended := h.ended
 retained id hid := (h.retained id hid).imp_right
  fun ⟨finished,hfinished,hover⟩=>⟨finished,hfinished,hover.trans hnow⟩
 outcomes := h.outcomes
 pairwise := h.pairwise
 absent := h.absent
 oldest key pending oldest finished hadmission :=
  (h.oldest key pending oldest finished hadmission).imp_right fun hover=>hover.trans hnow
 bounded := h.bounded

theorem withEntry (h:Owned env state) {id:ℕ} {entry:SandState} (hended:Ended entry)
  (hstable:Stable (state.entries id) entry) : Owned env (state.withEntry id entry):=by
 have hkeep:∀ other,Stable (state.entries other) ((state.withEntry id entry).entries other):=by
  intro other
  unfold RegistryState.withEntry
  by_cases hother:other=id
  · subst hother
    simpa using hstable
  · simp only [ne_eq,hother,not_false_eq_true,Function.update_of_ne]
    exact fun _ hfinished=>hfinished
 refine ⟨?_,?_,h.outcomes,?_,h.absent,?_,h.bounded⟩
 · intro other
   unfold RegistryState.withEntry
   by_cases hother:other=id
   · subst hother
     simpa using hended
   · simpa [hother] using h.ended other
 · intro other hother
   exact (h.retained other hother).imp_right fun ⟨finished,hfinished,hover⟩=>
    ⟨finished,hkeep other finished hfinished,hover⟩
 · refine h.pairwise.imp fun hsucceeds first second hfirst hsecond hkey=>?_
   obtain ⟨finished,hfinished,hover⟩:=hsucceeds first second hfirst hsecond hkey
   exact ⟨finished,hkeep first finished hfinished,hover⟩
 · intro key pending oldest finished hadmission
   obtain ⟨hfound,hover⟩:=h.oldest key pending oldest finished hadmission
   obtain ⟨other,hlookup,hfinished⟩:=Option.bind_eq_some_iff.mp hfound
   exact ⟨Option.bind_eq_some_iff.mpr ⟨other,hlookup,hkeep other finished hfinished⟩,hover⟩

theorem withAdmission (h:Owned env state) (admission:Option Admission)
  (habsent:∀ key pending oldest,admission=some ⟨key,.evicting pending oldest⟩ → state.operations.lookup key=none)
  (holdest:∀ key pending oldest finished,
   admission=some ⟨key,.evicting pending (some (oldest,finished))⟩ →
    state.finishedAt oldest=some finished ∧ finished+env.terminalReplayTtl ≤ state.clock) :
  Owned env { state with admission } :=
 ⟨h.ended,h.retained,h.outcomes,h.pairwise,habsent,holdest,h.bounded⟩

theorem pruning (h:Owned env state) (key:SandOperationKey) (pending:List SandOperationKey) :
  Owned env { state with admission := some ⟨key,.pruning pending⟩ } :=
 h.withAdmission _ (fun _ _ _ hstage=>absurd hstage (by simp))
  (fun _ _ _ _ hstage=>absurd hstage (by simp))

theorem remove (h:Owned env state) {key:SandOperationKey} {finished:ℕ} (hfinished:state.finishedAt key=some finished)
  (hover:finished+env.terminalReplayTtl ≤ state.clock) : Owned env { state.remove key with admission := none }:=by
 obtain ⟨removed,hlookup,hfound⟩:=Option.bind_eq_some_iff.mp hfinished
 refine ⟨h.ended,?_,h.outcomes,h.pairwise,fun _ _ _ hnone=>absurd hnone (by simp),
  fun _ _ _ _ hnone=>absurd hnone (by simp),?_⟩
 · intro id hid
   change (state.operations.erase key).lookup (state.owners id)=some id ∨ _
   by_cases hkey:state.owners id=key
   · refine .inr ((h.retained id hid).elim (fun hregistered=>?_) fun hreleased=>hreleased)
     rw [hkey,hlookup] at hregistered
     obtain rfl:=Option.some.inj hregistered
     exact ⟨finished,hfound,hover⟩
   · rw [AList.lookup_erase_ne hkey]
     exact h.retained id hid
 · change (state.operations.erase key).keys.length ≤ _
   rw [AList.keys_erase]
   exact (List.length_erase_le).trans h.bounded

theorem answer (h:Owned env state) (key:SandOperationKey) {answer:SandOperationAdmission}
  (hanswer:∀ id,answer=.owner id → id<state.nextEntry ∧ state.owners id=key)
  (hsucceeds:∀ earlier∈state.outcomes,Succeeds env state earlier ⟨key,answer,state.clock⟩) :
  Owned env (state.answer key answer):=by
 refine ⟨h.ended,h.retained,?_,?_,
  fun _ _ _ hnone=>absurd hnone (by simp [RegistryState.answer]),
  fun _ _ _ _ hnone=>absurd hnone (by simp [RegistryState.answer]),h.bounded⟩
 · intro outcome hmem
   rcases List.mem_append.mp hmem with hold | hnew
   · exact h.outcomes outcome hold
   · obtain rfl:=List.mem_singleton.mp hnew
     exact hanswer
 · refine List.pairwise_append.mpr ⟨h.pairwise,List.pairwise_singleton _ _,?_⟩
   intro earlier hearlier later hlater
   obtain rfl:=List.mem_singleton.mp hlater
   exact hsucceeds earlier hearlier

theorem insert_entries (env:SandEnv) (key:SandOperationKey) {id:ℕ}
  (hid:id<state.nextEntry) : (state.insert env key).entries id=state.entries id :=
 Function.update_of_ne (Nat.ne_of_lt hid) _ _

theorem insert_owners (env:SandEnv) (key:SandOperationKey) {id:ℕ}
  (hid:id<state.nextEntry) : (state.insert env key).owners id=state.owners id :=
 Function.update_of_ne (Nat.ne_of_lt hid) _ _

theorem insert (h:Owned env state) {key:SandOperationKey} (habsent:state.operations.lookup key=none)
  (hroom:state.operations.keys.length<env.operationEntryLimit) :
  Owned env { state.insert env key with admission := none }:=by
 refine ⟨?_,?_,?_,?_,fun _ _ _ hnone=>absurd hnone (by simp),
  fun _ _ _ _ hnone=>absurd hnone (by simp),?_⟩
 · intro id
   change Ended (Function.update state.entries state.nextEntry (SandState.admitted env) id)
   by_cases hid:id=state.nextEntry
   · subst hid
     rw [Function.update_self]
     exact ended_subscribe (ended_new env) true
   · rw [Function.update_of_ne hid]
     exact h.ended id
 · intro id hid
   dsimp only
   rcases Nat.lt_succ_iff_lt_or_eq.mp hid with hold | rfl
   · rw [insert_entries env key hold,insert_owners env key hold]
     refine (h.retained id hold).imp_left fun hregistered=>?_
     have hkey:state.owners id≠key:=by
      rintro rfl
      rw [habsent] at hregistered
      exact absurd hregistered (by simp)
     exact (AList.lookup_insert_ne hkey).trans hregistered
   · left
     change (state.operations.insert key state.nextEntry).lookup
      (Function.update state.owners state.nextEntry key state.nextEntry)=some state.nextEntry
     rw [Function.update_self,AList.lookup_insert]
 · intro outcome hmem id hanswer
   obtain ⟨hlt,hkey⟩:=h.outcomes outcome hmem id hanswer
   exact ⟨Nat.lt_succ_of_lt hlt,(insert_owners env key hlt).trans hkey⟩
 · refine h.pairwise.imp_of_mem fun hearlier _ hsucceeds first second hfirst hsecond hkey=>?_
   obtain ⟨finished,hfinished,hover⟩:=hsucceeds first second hfirst hsecond hkey
   have hlt:=(h.outcomes _ hearlier first hfirst).1
   exact ⟨finished,(congrArg (·.entry.finishedAt) (insert_entries env key hlt)).trans hfinished,hover⟩
 · change (state.operations.insert key state.nextEntry).keys.length ≤ env.operationEntryLimit
   rw [AList.keys_insert,List.erase_of_not_mem (AList.mem_keys.not.mp
    (AList.lookup_eq_none.mp habsent)),List.length_cons]
   exact hroom

theorem own (h:Owned env state) {key:SandOperationKey} (habsent:state.operations.lookup key=none)
  (hroom:state.operations.keys.length<env.operationEntryLimit) : Owned env (state.own env key):=by
 refine (h.insert habsent hroom).answer key ?_ ?_
 · intro id hid
   cases hid
   exact ⟨Nat.lt_succ_self _,Function.update_self _ _ _⟩
 · intro earlier hearlier first second hfirst hsecond hkey
   obtain ⟨hlt,hfirstKey⟩:=h.outcomes earlier hearlier first hfirst
   rcases h.retained first hlt with hregistered | ⟨finished,hfinished,hover⟩
   · rw [hfirstKey,hkey,habsent] at hregistered
     exact absurd hregistered (by simp)
   · exact ⟨finished,(congrArg (·.entry.finishedAt) (insert_entries env key hlt)).trans hfinished,hover⟩

theorem replace (h:Owned env state) {key oldest:SandOperationKey} {finished:ℕ}
  (hadmission:state.admission=some ⟨key,.evicting [] (some (oldest,finished))⟩) :
  Owned env ((state.remove oldest).own env key):=by
 obtain ⟨hfinished,hover⟩:=h.oldest key [] oldest finished hadmission
 have habsent:=h.absent key [] _ hadmission
 have hmem:oldest∈state.operations.keys:=by
  obtain ⟨id,hlookup,_⟩:=Option.bind_eq_some_iff.mp hfinished
  exact AList.mem_keys.mp (AList.lookup_isSome.mp (by rw [hlookup]; rfl))
 refine (h.remove hfinished hover).own ?_ ?_
 · change (state.operations.erase oldest).lookup key=none
   refine AList.lookup_eq_none.mpr fun hkept=>?_
   exact AList.lookup_eq_none.mp habsent (AList.mem_erase.mp hkept).2
 · change (state.operations.erase oldest).keys.length<env.operationEntryLimit
   have hbounded:=h.bounded
   have hpositive:=List.length_pos_of_mem hmem
   rw [AList.keys_erase,List.length_erase_of_mem hmem]
   omega

theorem prune (h:Owned env state) (key visited:SandOperationKey) (pending:List SandOperationKey) :
  Owned env { state.prune env visited with admission := some ⟨key,.pruning pending⟩ }:=by
 unfold RegistryState.prune
 split
 · rename_i finished hfinished
   split_ifs with hfresh
   · exact h.pruning key pending
   · exact (h.remove hfinished (retention_over hfresh)).pruning key pending
 · exact h.pruning key pending

theorem scan (h:Owned env state) {key visited:SandOperationKey}
  {pending:List SandOperationKey} {oldest:Option (SandOperationKey×ℕ)}
  (hadmission:state.admission=some ⟨key,.evicting (visited::pending) oldest⟩) :
  Owned env { state with
   admission := some ⟨key,.evicting pending (state.scan env visited oldest)⟩ }:=by
 refine h.withAdmission _ ?_ ?_
 · intro key' pending' oldest' hstage
   cases hstage
   exact h.absent key _ oldest hadmission
 · intro key' pending' oldest' finished' hstage
   simp only [Option.some.injEq,Admission.mk.injEq,AdmissionStage.evicting.injEq] at hstage
   obtain ⟨_,_,hscan⟩:=hstage
   have hkept:oldest=some (oldest',finished') → state.finishedAt oldest'=some finished' ∧
     finished'+env.terminalReplayTtl ≤ state.clock:=by
    rintro rfl
    exact h.oldest key _ oldest' finished' hadmission
   unfold RegistryState.scan at hscan
   split at hscan
   · rename_i finished hfinished
     split_ifs at hscan with hfresh
     · exact hkept hscan
     · have htaken:some (visited,finished)=some (oldest',finished') →
         state.finishedAt oldest'=some finished' ∧ finished'+env.terminalReplayTtl ≤ state.clock:=by
        intro heq
        cases heq
        exact ⟨hfinished,retention_over hfresh⟩
       split at hscan
       · split_ifs at hscan
         · exact htaken hscan
         · exact hkept hscan
       · exact htaken hscan
   · exact hkept hscan

end Owned

theorem subscriptionAnswer_ne (id owner:ℕ) (result:Except SubscribeError ℕ) :
  subscriptionAnswer id result ≠ .owner owner:=by
 unfold subscriptionAnswer
 split <;> simp

theorem owned_step {action:RegistryAction} (h:Owned env state)
  (hstep:RegistryStep env state action next) : Owned env next:=by
 obtain ⟨now,hclock,heffect⟩:=hstep.effect
 have hread:=h.tick hclock
 cases heffect with
 | started key order=>exact hread.pruning key order
 | pruned key visited pending=>exact hread.prune key visited pending
 | joined key id=>
  have hsubscribed:=ended_step (hread.ended id) (rfl:SandStep env _ .subscribe _)
  refine Owned.answer (hread.withEntry hsubscribed.1 hsubscribed.2) key ?_ ?_
  · exact fun _ howner=>absurd howner (subscriptionAnswer_ne _ _ _)
  · exact fun _ _ _ _ _ howner=>absurd howner (subscriptionAnswer_ne _ _ _)
 | full key order habsent=>
  refine hread.withAdmission _ (fun _ _ _ hstage=>?_)
   (fun _ _ _ _ hstage=>absurd hstage (by simp))
  cases hstage
  exact habsent
 | owned key habsent hroom=>exact hread.own habsent hroom
 | scanned key visited pending oldest hadmission=>exact hread.scan hadmission
 | replaced key oldest finished hadmission=>exact hread.replace hadmission
 | exceeded key=>
  exact hread.answer key (fun _ howner=>absurd howner (by simp))
   fun _ _ _ _ _ howner=>absurd howner (by simp)
 | operated id action entry hentry=>
  obtain ⟨hended,hstable⟩:=ended_step (hread.ended id) hentry
  exact hread.withEntry hended hstable

theorem entry_run {actions:List RegistryAction} (hrun:Trace (RegistryStep env) (RegistryState.new env) actions state) :
  ∀ id<state.nextEntry,∃ operations,Trace (SandStep env) (SandState.admitted env) operations (state.entries id):=by
 refine hrun.invariant (fun state=>∀ id<state.nextEntry,∃ operations,
  Trace (SandStep env) (SandState.admitted env) operations (state.entries id)) ?_
  (fun id hid=>absurd hid (Nat.not_lt_zero id))
 intro state action next _ h hstep
 obtain ⟨now,_,heffect⟩:=hstep.effect
 have hupdate:∀ {id:ℕ} {operation:SandAction} {entry:SandState},
   SandStep env (state.entries id) operation entry → ∀ other<state.nextEntry,∃ operations,
    Trace (SandStep env) (SandState.admitted env) operations (Function.update state.entries id entry other):=by
  intro id operation entry hentry other hother
  obtain ⟨operations,hoperations⟩:=h other hother
  by_cases hsame:other=id
  · subst hsame
    rw [Function.update_self]
    exact ⟨_,hoperations.append (.single hentry)⟩
  · rw [Function.update_of_ne hsame]
    exact ⟨operations,hoperations⟩
 have hown:∀ id<state.nextEntry+1,∃ operations,
   Trace (SandStep env) (SandState.admitted env) operations
    (Function.update state.entries state.nextEntry (SandState.admitted env) id):=by
  intro id hid
  by_cases hsame:id=state.nextEntry
  · subst hsame
    rw [Function.update_self]
    exact ⟨[],.nil _⟩
  · rw [Function.update_of_ne hsame]
    exact h id (by omega)
 cases heffect with
 | started=>exact h
 | pruned key visited pending=>
  unfold RegistryState.prune
  split
  · split_ifs <;> exact h
  · exact h
 | joined key id=>exact hupdate (rfl:SandStep env (state.entries id) .subscribe _)
 | full=>exact h
 | owned=>exact hown
 | scanned=>exact h
 | replaced=>exact hown
 | exceeded=>exact h
 | operated id action entry hentry=>exact hupdate hentry

/-- In every run, whenever a key got a second owner the operation of the first one
had finished at least the retention before; and the registry stays in its limit. -/
theorem one_owner {actions:List RegistryAction} (hrun:Trace (RegistryStep env) (RegistryState.new env) actions state) :
    (state.outcomes.Pairwise fun earlier later=>∀ first second,
      earlier.answer=.owner first → later.answer=.owner second → earlier.key=later.key →
        ∃ finished,(state.entries first).entry.finishedAt=some finished ∧
          finished+env.terminalReplayTtl ≤ later.time) ∧
      state.operations.keys.length ≤ env.operationEntryLimit:=by
  have howned:Owned env state:=hrun.invariant (Owned env) (fun _ _ _ _ h hstep=>owned_step h hstep) (Owned.new env)
  exact ⟨howned.pairwise,howned.bounded⟩

/-- A second owner 30 s after the first one failed. -/
def readmittedActions : List RegistryAction :=
 let key:=SandOperationKey.new "sand-1"
 [.request key [],.lookup [],.operate 0 (.fail "closed"),.operate 0 (.sendOwner true),
  .operate 0 .settle,.operate 0 (.finish 5),.request key [key],.prune 30000000005,.lookup []]

theorem one_owner_readmitted :
    ∃ state,perform (RegistryState.step defaultEnv) (RegistryState.new defaultEnv) readmittedActions=some state ∧
      (state.outcomes.Pairwise fun earlier later=>∀ first second,
        earlier.answer=.owner first → later.answer=.owner second → earlier.key=later.key →
          ∃ finished,(state.entries first).entry.finishedAt=some finished ∧
            finished+defaultEnv.terminalReplayTtl ≤ later.time) ∧
        state.operations.keys.length ≤ defaultEnv.operationEntryLimit:=by
  obtain ⟨state,hstate⟩ : ∃ state,perform (RegistryState.step defaultEnv)
      (RegistryState.new defaultEnv) readmittedActions=some state :=
    Option.isSome_iff_exists.mp (by decide +kernel)
  exact ⟨state,hstate,one_owner (perform_trace hstate)⟩

/-- Whatever the registry does, each of its operations runs as it would alone, and what a subscriber
was sent begins what the operation published. -/
theorem operations_faithful {actions:List RegistryAction} (hrun:Trace (RegistryStep env) (RegistryState.new env) actions state) :
  ∀ id<state.nextEntry,
   (∃ operations,Trace (SandStep env) (SandState.admitted env) operations (state.entries id)) ∧
    ∀ channel,((state.entries id).channels channel).sent <+: (state.entries id).published:=by
 intro id hid
 obtain ⟨operations,hoperations⟩:=entry_run hrun id hid
 have hfaithful:=hoperations.invariant Faithful (fun _ _ _ _ h hstep=>faithful_step h hstep)
  ((Faithful.new env).subscribe true)
 exact ⟨⟨operations,hoperations⟩,hfaithful.sent⟩

theorem operations_faithful_readmitted :
  ∃ state,perform (RegistryState.step defaultEnv) (RegistryState.new defaultEnv) readmittedActions=some state ∧
   ∀ id<state.nextEntry,
    (∃ operations,Trace (SandStep defaultEnv) (SandState.admitted defaultEnv) operations (state.entries id)) ∧
     ∀ channel,((state.entries id).channels channel).sent <+: (state.entries id).published:=by
 obtain ⟨state,hstate⟩ : ∃ state,perform (RegistryState.step defaultEnv)
   (RegistryState.new defaultEnv) readmittedActions=some state :=
  Option.isSome_iff_exists.mp (by decide +kernel)
 exact ⟨state,hstate,operations_faithful (perform_trace hstate)⟩

end CursorProxy.SandOwnership
