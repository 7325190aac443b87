import CursorProxy.SessionModel

namespace CursorProxy.SessionRuns
open SessionModel Sessions

variable {ρ κ:Type} [DecidableEq ρ] [DecidableEq κ]

structure QueueExact (store:SessionStore κ) : Prop where
 nodup : store.order.Nodup
 keys : ∀ id,id∈store.order ↔ (store.map id).isSome=true
 bounded : store.order.length ≤ maxSessions

/-- The records of the session, the last one first, back to the first gap that is too long. -/
def window (id:κ) : ℕ → List (Record κ) → List (Record κ)
 | _,[]=>[]
 | now,record::earlier=>
  if record.id=id then
   if now-record.state.lastSeen > sessionIdleTtlMs then []
   else record::window id record.state.lastSeen earlier
  else window id now earlier

/-- The numbers grow, and a request without a provider of its own keeps the last one's. -/
structure RecordSound (earlier:List (Record κ)) (record:Record κ) : Prop where
 seq : ∀ other∈window record.id record.state.lastSeen earlier,other.state.seq<record.state.seq
 affinity : record.pinned=false → ∀ last,
  (window record.id record.state.lastSeen earlier).head?=some last →
   record.state.affinityProvider=last.state.affinityProvider

def LogSound : List (Record κ) → Prop
 | []=>True
 | record::earlier=>RecordSound earlier record ∧ LogSound earlier

/-- No record of the session came since the caller's read, and the front of the queue that is
dropped is idle. -/
def StepMet (s:Sessions ρ κ) : Action ρ κ → Prop
 | .read _ _ _=>True
 | .record caller _ _ now=>∀ reading,s.callers caller=some reading →
  reading.recorded=recordsOf s.log reading.id ∧
   ∀ id∈(s.store.touched reading.id).take
     ((s.store.touched reading.id).length-maxSessions),
    ∀ state,s.store.map id=some state → now-state.lastSeen > sessionIdleTtlMs

def Met (env:SessionEnv) : Sessions ρ κ → List (Action ρ κ) → Prop
 | _,[]=>True
 | s,action::actions=>StepMet s action ∧ Met env (s.step env action) actions

def Timely : ℕ → List (Action ρ κ) → Prop
 | _,[]=>True
 | now,action::actions=>now ≤ action.now ∧ Timely action.now actions

theorem evict_eq (map:κ → Option SessionState) (order:List κ) :
  (SessionStore.evict map order).order=order.drop (order.length-maxSessions) ∧
   ∀ id,(SessionStore.evict map order).map id =
    if id∈order.take (order.length-maxSessions) then none else map id:=by
 induction order generalizing map with
 | nil=>
  rw [List.drop_nil,List.take_nil]
  exact ⟨rfl,fun id=>(if_neg List.not_mem_nil).symm⟩
 | cons front order ih=>
  unfold SessionStore.evict
  split_ifs with hlong
  · obtain ⟨horder,hmap⟩:=ih (Function.update map front none)
    have hcount:(front::order).length-maxSessions = order.length-maxSessions+1:=by
     rw [List.length_cons] at hlong ⊢
     omega
    rw [hcount,List.drop_succ_cons]
    refine ⟨horder,fun id=>?_⟩
    rw [hmap id,List.take_succ_cons]
    simp only [List.mem_cons]
    by_cases hid:id=front
    · rw [hid,Function.update_self]
      simp
    · rw [Function.update_of_ne hid]
      simp [hid]
  · have hcount:(front::order).length-maxSessions=0:=by omega
    rw [hcount,List.drop_zero,List.take_zero]
    exact ⟨rfl,fun id=>(if_neg List.not_mem_nil).symm⟩

variable {store:SessionStore κ}

theorem QueueExact.remove (h:QueueExact store) (id:κ) : QueueExact (store.remove id) where
 nodup := h.nodup.filter _
 keys:=by
  intro other
  unfold SessionStore.remove
  dsimp only
  rw [List.mem_filter,h.keys]
  by_cases hid:other=id
  · rw [hid,Function.update_self]
    simp
  · rw [Function.update_of_ne hid]
    simp [hid]
 bounded := Nat.le_trans (List.length_filter_le _ _) h.bounded

theorem QueueExact.existingSession (h:QueueExact store) (id:κ) (now:ℕ)
  : QueueExact (store.existingSession id now).2:=by
 unfold SessionStore.existingSession
 cases store.map id with
 | none=>exact h
 | some state=>
  dsimp only
  split_ifs
  · exact h.remove id
  · exact h

theorem touched_nodup (h:QueueExact store) (id:κ) : (store.touched id).Nodup:=by
 unfold SessionStore.touched
 refine List.Nodup.append (h.nodup.filter _) (List.nodup_singleton id) ?_
 intro other hfilter hsingle
 rw [List.mem_singleton] at hsingle
 simp [hsingle] at hfilter

theorem mem_touched (store:SessionStore κ) (id other:κ) : other∈store.touched id ↔ other=id ∨ other∈store.order:=by
 unfold SessionStore.touched
 rw [List.mem_append,List.mem_filter,List.mem_singleton]
 by_cases hid:other=id
 · simp [hid]
 · simp [hid]

theorem QueueExact.record (h:QueueExact store) (env:SessionEnv) (id:κ)
  (prior:Option SessionState) (providerName model:String) (now:ℕ) :
  QueueExact (store.recordSessionRequest env id prior providerName model now).2:=by
 unfold SessionStore.recordSessionRequest
 dsimp only
 obtain ⟨horder,hmap⟩:=evict_eq
  (Function.update store.map id (some (SessionStore.nextState env prior providerName model now))) (store.touched id)
 have hnodup:=touched_nodup h id
 refine ⟨?_,fun other=>?_,?_⟩
 · rw [horder]
   exact hnodup.sublist (List.drop_sublist _ _)
 · rw [horder,hmap other]
   have hsplit:=List.take_append_drop ((store.touched id).length-maxSessions) (store.touched id)
   have hall:=mem_touched store id other
   rw [← hsplit,List.mem_append] at hall
   rw [← hsplit] at hnodup
   have happart:=List.disjoint_of_nodup_append hnodup
   have hkept:(Function.update store.map id
     (some (SessionStore.nextState env prior providerName model now)) other).isSome=true ↔
      other=id ∨ other∈store.order:=by
    by_cases hid:other=id
    · rw [hid,Function.update_self]
      simp
    · rw [Function.update_of_ne hid,← h.keys]
      simp [hid]
   split_ifs with htaken
   · exact iff_of_false (fun hdropped=>happart htaken hdropped) nofun
   · rw [hkept,← hall]
     exact ⟨Or.inr,fun hor=>hor.resolve_left htaken⟩
 · rw [horder,List.length_drop]
   omega

variable {s:Sessions ρ κ}

theorem QueueExact.step (h:QueueExact s.store) (env:SessionEnv) (action:Action ρ κ)
  : QueueExact (s.step env action).store:=by
 cases action with
 | read caller id now=>exact h.existingSession id now
 | record caller providerName model now=>
  unfold Sessions.step
  dsimp only
  cases s.callers caller with
  | none=>exact h
  | some reading=>exact h.record env _ _ _ _ _

theorem queueExact_run (env:SessionEnv) (actions:List (Action ρ κ)) (h:QueueExact s.store)
  : QueueExact (s.run env actions).store:=by
 induction actions generalizing s with
 | nil=>exact h
 | cons action actions ih=>exact ih (h.step env action)

omit [DecidableEq κ] in
theorem queueExact_empty : QueueExact (SessionStore.empty : SessionStore κ) :=
 ⟨List.nodup_nil,fun _=>iff_of_false List.not_mem_nil nofun,Nat.zero_le _⟩

def lastOf (log:List (Record κ)) (id:κ) : Option (Record κ) :=
 log.find? fun record=>record.id=id

/-- The map has what was recorded last, or has forgotten it after the session was idle. -/
def Remembers (found:Option SessionState) (last:Option (Record κ)) (now:ℕ) : Prop :=
 match last with
 | none=>found=none
 | some record=>found=some record.state ∨
  found=none ∧ now-record.state.lastSeen > sessionIdleTtlMs

structure Known (now:ℕ) (s:Sessions ρ κ) : Prop where
 queue : QueueExact s.store
 map : ∀ id,Remembers (s.store.map id) (lastOf s.log id) now
 callers : ∀ caller reading,s.callers caller=some reading →
  reading.recorded=recordsOf s.log reading.id → Remembers reading.prior (lastOf s.log reading.id) now
 counted : ∀ caller reading,s.callers caller=some reading → reading.recorded ≤ recordsOf s.log reading.id
 sound : LogSound s.log

variable {now:ℕ}

omit [DecidableEq κ] in
theorem Remembers.later {found:Option SessionState} {last:Option (Record κ)} {later:ℕ}
  (h:Remembers found last now) (hlater:now ≤ later) : Remembers found last later:=by
 cases last with
 | none=>exact h
 | some record=>
  rcases h with hfound | ⟨hnone,hidle⟩
  · exact Or.inl hfound
  · exact Or.inr ⟨hnone,by omega⟩

theorem window_cons (id:κ) (now:ℕ) (record:Record κ) (earlier:List (Record κ)) :
  window id now (record::earlier) =
   if record.id=id then
    if now-record.state.lastSeen > sessionIdleTtlMs then []
    else record::window id record.state.lastSeen earlier
   else window id now earlier := rfl

variable {log:List (Record κ)} {id:κ}

theorem window_nil (h:lastOf log id=none) : window id now log=[]:=by
 induction log with
 | nil=>rfl
 | cons record log ih=>
  unfold lastOf at h
  rw [List.find?_cons] at h
  rw [window_cons]
  by_cases hid:record.id=id
  · rw [decide_eq_true hid] at h
    exact (nomatch h)
  · rw [decide_eq_false hid] at h
    rw [if_neg hid]
    exact ih h

theorem window_last {last:Record κ} (h:lastOf log id=some last) (now:ℕ) :
  ∃ earlier,last.id=id ∧ (∃ later,log=later++last::earlier) ∧ window id now log =
   if now-last.state.lastSeen > sessionIdleTtlMs then []
   else last::window id last.state.lastSeen earlier:=by
 induction log with
 | nil=>exact (nomatch h)
 | cons record log ih=>
  unfold lastOf at h
  rw [List.find?_cons] at h
  rw [window_cons]
  by_cases hid:record.id=id
  · rw [decide_eq_true hid] at h
    obtain rfl:=Option.some.inj h
    rw [if_pos hid]
    exact ⟨log,hid,⟨[],rfl⟩,rfl⟩
  · rw [decide_eq_false hid] at h
    rw [if_neg hid]
    obtain ⟨earlier,hlast,⟨later,hlog⟩,hwindow⟩:=ih h
    exact ⟨earlier,hlast,⟨record::later,by rw [hlog]; rfl⟩,hwindow⟩

theorem LogSound.of_append {later earlier:List (Record κ)} {record:Record κ}
  (h:LogSound (later++record::earlier)) : RecordSound earlier record:=by
 induction later with
 | nil=>exact h.1
 | cons _ later ih=>exact ih h.2

theorem recordSound (hsound:LogSound log) {prior:Option SessionState}
  (hprior:Remembers prior (lastOf log id) now) (env:SessionEnv) (providerName model:String) :
  RecordSound log ⟨id,SessionStore.nextState env prior providerName model now,
   SessionStore.pins env providerName model⟩:=by
 have hseen:(SessionStore.nextState env prior providerName model now).lastSeen=now:=rfl
 cases hlast:lastOf log id with
 | none=>
  have hnil:window id (SessionStore.nextState env prior providerName model now).lastSeen log = [] := window_nil hlast
  constructor
  · intro other hmem
    rw [hnil] at hmem
    exact (nomatch hmem)
  · intro _ last hhead
    rw [hnil] at hhead
    exact (nomatch hhead)
 | some last=>
  obtain ⟨earlier,hid,⟨later,hlog⟩,hwindow⟩:=window_last hlast now
  have hold:=LogSound.of_append (hlog ▸ hsound)
  rw [hlast] at hprior
  by_cases hidle:now-last.state.lastSeen > sessionIdleTtlMs
  · rw [if_pos hidle] at hwindow
    constructor
    · intro other hmem
      rw [hseen,hwindow] at hmem
      exact (nomatch hmem)
    · intro _ other hhead
      rw [hseen,hwindow] at hhead
      exact (nomatch hhead)
  · rw [if_neg hidle] at hwindow
    rcases hprior with rfl | ⟨-,hgone⟩
    · constructor
      · intro other hmem
        rw [hseen,hwindow] at hmem
        change other.state.seq<last.state.seq+1
        rcases List.mem_cons.mp hmem with rfl | hmem
        · exact Nat.lt_succ_self _
        · exact Nat.lt_succ_of_lt (hold.seq other (hid ▸ hmem))
      · intro hpinned other hhead
        rw [hseen,hwindow] at hhead
        obtain rfl:=Option.some.inj hhead
        unfold SessionStore.nextState
        dsimp only at hpinned ⊢
        rw [hpinned]
        rfl
    · exact absurd hgone hidle

theorem existing_remembers (h:∀ id,Remembers (store.map id) (lastOf log id) now) (id:κ) :
  Remembers (store.existingSession id now).1 (lastOf log id) now ∧
   ∀ other,Remembers ((store.existingSession id now).2.map other) (lastOf log other) now:=by
 have hid:=h id
 unfold SessionStore.existingSession
 cases hfound:store.map id with
 | none=>
  rw [hfound] at hid
  exact ⟨hid,h⟩
 | some state=>
  dsimp only
  rw [hfound] at hid
  split_ifs with hidle
  · have hgone:Remembers none (lastOf log id) now:=by
     cases hlast:lastOf log id with
     | none=>exact rfl
     | some record=>
      rw [hlast] at hid
      rcases hid with hstate | ⟨hnone,-⟩
      · exact Or.inr ⟨rfl,Option.some.inj hstate ▸ hidle⟩
      · exact (nomatch hnone)
    refine ⟨hgone,fun other=>?_⟩
    unfold SessionStore.remove
    dsimp only
    by_cases hother:other=id
    · rw [hother,Function.update_self]
      exact hgone
    · rw [Function.update_of_ne hother]
      exact h other
  · exact ⟨hid,h⟩

theorem Known.read {later:ℕ} (h:Known now s) (hlater:now ≤ later) (env:SessionEnv)
  (caller:ρ) (id:κ) : Known later (s.step env (.read caller id later)):=by
 obtain ⟨hprior,hmap⟩:=existing_remembers (fun id=>(h.map id).later hlater) id
 refine ⟨h.queue.existingSession id later,hmap,fun other reading hreading hcount=>?_,
  fun other reading hreading=>?_,h.sound⟩
 · change Function.update s.callers caller _ other=some reading at hreading
   by_cases hother:other=caller
   · rw [hother,Function.update_self] at hreading
     obtain rfl:=Option.some.inj hreading
     exact hprior
   · rw [Function.update_of_ne hother] at hreading
     exact (h.callers other reading hreading hcount).later hlater
 · change Function.update s.callers caller _ other=some reading at hreading
   by_cases hother:other=caller
   · rw [hother,Function.update_self] at hreading
     obtain rfl:=Option.some.inj hreading
     exact Nat.le_refl _
   · rw [Function.update_of_ne hother] at hreading
     exact h.counted other reading hreading

theorem recorded_kept (store:SessionStore κ) (id:κ) :
  id ∉ (store.touched id).take ((store.touched id).length-maxSessions):=by
 have hmax:0 < maxSessions:=by decide
 unfold SessionStore.touched
 have hlength:((store.order.filter fun item=>item≠id)++[id]).length-maxSessions ≤
   (store.order.filter fun item=>item≠id).length:=by
  rw [List.length_append,List.length_singleton]
  omega
 rw [List.take_append_of_le_length hlength]
 intro hmem
 have hfilter:=List.mem_of_mem_take hmem
 simp at hfilter

theorem lastOf_cons (record:Record κ) (log:List (Record κ)) (id:κ) :
  lastOf (record::log) id=if record.id=id then some record else lastOf log id:=by
 unfold lastOf
 rw [List.find?_cons]
 by_cases hid:record.id=id
 · rw [decide_eq_true hid,if_pos hid]
 · rw [decide_eq_false hid,if_neg hid]

theorem recordsOf_cons (record:Record κ) (log:List (Record κ)) (id:κ) :
  recordsOf (record::log) id=recordsOf log id+if record.id=id then 1 else 0:=by
 unfold recordsOf
 rw [List.countP_cons]
 by_cases hid:record.id=id
 · rw [if_pos hid,if_pos (decide_eq_true hid)]
 · rw [if_neg hid,if_neg (by simpa using hid)]

theorem Known.record {later:ℕ} (h:Known now s) (hlater:now ≤ later) (env:SessionEnv)
  (caller:ρ) (providerName model:String) (hmet:StepMet s (.record caller providerName model later)) :
  Known later (s.step env (.record caller providerName model later)):=by
 have hqueue:=h.queue.step env (.record caller providerName model later)
 unfold Sessions.step at hqueue ⊢
 dsimp only at hqueue ⊢
 cases hreading:s.callers caller with
 | none=>exact ⟨h.queue,fun id=>(h.map id).later hlater,
   fun other reading hother hcount=>(h.callers other reading hother hcount).later hlater,
   h.counted,h.sound⟩
 | some reading=>
  rw [hreading] at hqueue
  obtain ⟨hcount,hidle⟩:=hmet reading hreading
  have hprior:=(h.callers caller reading hreading hcount).later hlater
  refine ⟨hqueue,fun other=>?_,fun other reading' hother hcount'=>?_,
   fun other reading' hother=>?_,recordSound h.sound hprior env providerName model,h.sound⟩
  · unfold SessionStore.recordSessionRequest
    dsimp only
    rw [(evict_eq _ _).2 other,lastOf_cons]
    dsimp only
    by_cases hid:reading.id=other
    · subst hid
      rw [if_neg (recorded_kept s.store reading.id),if_pos rfl,Function.update_self]
      exact Or.inl rfl
    · rw [if_neg hid,Function.update_of_ne (Ne.symm hid)]
      have hold:=(h.map other).later hlater
      split_ifs with htaken
      · cases hlast:lastOf s.log other with
        | none=>exact rfl
        | some record=>
         rw [hlast] at hold
         rcases hold with hfound | ⟨-,hgone⟩
         · exact Or.inr ⟨rfl,hidle other htaken record.state hfound⟩
         · exact Or.inr ⟨rfl,hgone⟩
      · exact hold
  · dsimp only at hother hcount' ⊢
    by_cases hsame:other=caller
    · rw [hsame,Function.update_self] at hother
      exact (nomatch hother)
    · rw [Function.update_of_ne hsame] at hother
      have hcounted:=h.counted other reading' hother
      rw [recordsOf_cons] at hcount'
      rw [lastOf_cons]
      dsimp only at hcount' ⊢
      split_ifs at hcount' ⊢ with hid
      · omega
      · exact (h.callers other reading' hother hcount').later hlater
  · dsimp only at hother ⊢
    by_cases hsame:other=caller
    · rw [hsame,Function.update_self] at hother
      exact (nomatch hother)
    · rw [Function.update_of_ne hsame] at hother
      rw [recordsOf_cons]
      exact Nat.le_add_right_of_le (h.counted other reading' hother)

theorem known_run (env:SessionEnv) (actions:List (Action ρ κ)) (h:Known now s)
  (htimely:Timely now actions) (hmet:Met env s actions) : LogSound (s.run env actions).log:=by
 induction actions generalizing now s with
 | nil=>exact h.sound
 | cons action actions ih=>
  have hnext:Known action.now (s.step env action) → LogSound ((s.step env action).run env actions).log :=
   fun hknown=>ih hknown htimely.2 hmet.2
  apply hnext
  cases action with
  | read caller id later=>exact h.read htimely.1 env caller id
  | record caller providerName model later=>
   exact h.record htimely.1 env caller providerName model hmet.1

omit [DecidableEq ρ] in
theorem known_start : Known 0 (start:Sessions ρ κ) :=
 ⟨queueExact_empty,fun _=>rfl,nofun,nofun,trivial⟩

/-- The queue is exact in every run, and no update is lost in those that meet the condition. -/
theorem sessions_lose_no_update (env:SessionEnv) (actions:List (Action ρ κ)) :
    QueueExact (run env (start:Sessions ρ κ) actions).store ∧
      (Timely 0 actions → Met env (start:Sessions ρ κ) actions → LogSound (run env (start:Sessions ρ κ) actions).log) :=
  ⟨queueExact_run env actions queueExact_empty,known_run env actions known_start⟩

def noAlias : SessionEnv := ⟨fun model=>model = "fable"⟩

/-- One request after the other. -/
theorem sessions_lose_no_update_pair :
    LogSound (run noAlias (start:Sessions ℕ ℕ)
      [.read 0 7 10,.record 0 "kimi" "k2" 11,.read 1 7 12,.record 1 "codex" "fable" 13]).log:=by
  refine (sessions_lose_no_update noAlias _).2 ?_ ?_
  · exact ⟨by decide,by decide,by decide,by decide,trivial⟩
  · refine ⟨trivial,fun reading hreading=>?_,trivial,fun reading hreading=>?_,trivial⟩
    · obtain rfl:=Option.some.inj hreading
      exact ⟨rfl,fun id hmem=>absurd hmem (List.not_mem_nil)⟩
    · obtain rfl:=Option.some.inj hreading
      exact ⟨rfl,fun id hmem=>absurd hmem (List.not_mem_nil)⟩

/-- Two requests read before either of them records. -/
theorem overlapping_requests_collide :
    ¬LogSound (run noAlias (start:Sessions ℕ ℕ)
      [.read 0 7 10,.read 1 7 11,.record 0 "kimi" "k2" 12,.record 1 "codex" "fable" 13]).log:=by
  intro hsound
  have hless:=hsound.1.seq
  exact absurd (hless _ List.mem_cons_self) (by decide)

end CursorProxy.SessionRuns
