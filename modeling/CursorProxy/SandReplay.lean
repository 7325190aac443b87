import CursorProxy.SandFidelity

/-! The retained events are the end of what was published, within both capacities, and the byte
counter is exact. -/
namespace CursorProxy.SandReplay
open SandModel SandFidelity Traces

variable {env:SandEnv} {state next:SandState}

def admittedWith (env:SandEnv) (capacity byteCapacity:ℕ) : SandState :=
 ({ SandState.new env with entry := { SandOperationEntry.new env with
  replayCapacity := capacity
  replayByteCapacity := byteCapacity } }.subscribe env true).1

def bytesOf (env:SandEnv) (replay:List LiveEventResult) : ℕ :=
 (replay.map (replayEventBytes env)).sum

theorem bytesOf_cons (event:LiveEventResult) (replay:List LiveEventResult) :
  bytesOf env (event::replay)=replayEventBytes env event+bytesOf env replay := rfl

theorem bytesOf_append (replay:List LiveEventResult) (event:LiveEventResult) :
  bytesOf env (replay++[event])=bytesOf env replay+replayEventBytes env event:=by
 unfold bytesOf
 rw [List.map_append,List.sum_append,List.map_singleton,List.sum_singleton]

/-- What is left after the oldest events have made room. -/
structure Roomy (env:SandEnv) (capacity byteCapacity eventBytes:ℕ)
  (replay:List LiveEventResult) (truncated:Bool)
  (room:List LiveEventResult×ℕ×Bool) : Prop where
 suffix : room.1 <:+ replay
 bytes : room.2.1=bytesOf env room.1
 lengthRoom : room.1.length<capacity
 byteRoom : saturatingAdd room.2.1 eventBytes ≤ byteCapacity
 kept : room.2.2=false ↔ truncated=false ∧ room.1=replay

theorem makeRoom_roomy {capacity byteCapacity eventBytes:ℕ} (hcapacity:0<capacity)
  (hevent:eventBytes ≤ byteCapacity) (replay:List LiveEventResult) : ∀ truncated,
  Roomy env capacity byteCapacity eventBytes replay truncated
   (makeRoom env capacity byteCapacity eventBytes replay (bytesOf env replay) truncated):=by
 induction replay with
 | nil=>
  intro truncated
  rw [makeRoom]
  refine ⟨List.suffix_refl _,rfl,hcapacity,?_,?_⟩
  · change min (0+eventBytes) usizeMax ≤ byteCapacity
    omega
  · simp
 | cons oldest replay ih=>
  intro truncated
  rw [makeRoom]
  split_ifs with hfull
  · have hbytes:bytesOf env (oldest::replay)-replayEventBytes env oldest = bytesOf env replay:=by
     rw [bytesOf_cons]
     omega
    rw [hbytes]
    have hrest:=ih true
    refine ⟨hrest.suffix.trans (List.suffix_cons oldest replay),hrest.bytes,hrest.lengthRoom,hrest.byteRoom,?_⟩
    constructor
    · exact fun hfalse=>nomatch (hrest.kept.mp hfalse).1
    · rintro ⟨-,hsame⟩
      have hlength:=hrest.suffix.length_le
      rw [hsame,List.length_cons] at hlength
      omega
  · obtain ⟨hlength,hbytes⟩:=not_or.mp hfull
    exact ⟨List.suffix_refl _,rfl,Nat.lt_of_not_le hlength,Nat.le_of_not_lt hbytes,by simp⟩

/-- The replay is the end of what was published, within its bounds. -/
structure Recorded (env:SandEnv) (state:SandState) : Prop where
 bytes : state.entry.replayBytes=bytesOf env state.entry.replay
 byteBound : state.entry.replayBytes ≤ state.entry.replayByteCapacity
 lengthBound : state.entry.replay.length ≤ state.entry.replayCapacity
 suffix : state.entry.replay <:+ state.published

def Marked (state:SandState) : Prop :=
 state.entry.replayTruncated=false ↔ state.entry.replay=state.published

theorem Recorded.publish (hcapacity:0<state.entry.replayCapacity)
  (hbytes:state.entry.replayByteCapacity<usizeMax) (h:Recorded env state)
  (event:LiveEventResult) : Recorded env (state.beginPublish env event) ∧
   (Marked state → Marked (state.beginPublish env event)):=by
 unfold Marked SandState.beginPublish appendReplay
 dsimp only
 split_ifs with hgiant
 · refine ⟨⟨rfl,Nat.zero_le _,Nat.zero_le _,List.nil_suffix⟩,fun _=>?_⟩
   exact iff_of_false nofun fun hsame=>List.append_ne_nil_of_right_ne_nil _ (by simp) hsame.symm
 · have hroom:=@makeRoom_roomy env _ _ _ hcapacity (Nat.le_of_not_lt hgiant)
    state.entry.replay state.entry.replayTruncated
   rw [← h.bytes] at hroom
   generalize makeRoom env state.entry.replayCapacity state.entry.replayByteCapacity
    (replayEventBytes env event) state.entry.replay state.entry.replayBytes
     state.entry.replayTruncated=room at hroom ⊢
   have hexact:saturatingAdd room.2.1 (replayEventBytes env event) = room.2.1+replayEventBytes env event:=by
    have hbound:=hroom.byteRoom
    unfold saturatingAdd at hbound ⊢
    omega
   obtain ⟨before,hbefore⟩:=hroom.suffix.trans h.suffix
   refine ⟨⟨?_,hroom.byteRoom,?_,before,?_⟩,fun hmarked=>?_⟩
   · change saturatingAdd _ _=bytesOf env (room.1++[event])
     rw [hexact,bytesOf_append,hroom.bytes]
   · change (room.1++[event]).length ≤ _
     rw [List.length_append,List.length_singleton]
     exact hroom.lengthRoom
   · change before++(room.1++[event])=state.published++[event]
     rw [← List.append_assoc,hbefore]
   · rw [hroom.kept,List.append_cancel_right_eq]
     rw [hmarked]
     constructor
     · rintro ⟨hwhole,hsame⟩
       rw [hsame,hwhole]
     · intro hwhole
       have hall:room.1=state.entry.replay:=by
        refine hroom.suffix.eq_of_length_le ?_
        rw [hwhole]
        exact h.suffix.length_le
       exact ⟨hall.symm.trans hwhole,hall⟩

/-- The owner goes away before the operation has finished. -/
def DroppedEarly (state:SandState) (action:SandAction) : Prop :=
 (∃ now,action=.dropOwner now) ∧ state.entry.finishedAt=none ∧
  (state.phase=.opening ∨ state.phase=.failing ∨ state.phase=.failed)

/-- A step with which the owner is not dropped early. -/
def OwnerKept (env:SandEnv) (state:SandState) (action:SandAction) (next:SandState) : Prop :=
 SandStep env state action next ∧ ¬DroppedEarly state action

structure SameReplay (state next:SandState) : Prop where
 replay : next.entry.replay=state.entry.replay
 bytes : next.entry.replayBytes=state.entry.replayBytes
 capacity : next.entry.replayCapacity=state.entry.replayCapacity
 byteCapacity : next.entry.replayByteCapacity=state.entry.replayByteCapacity
 published : next.published=state.published

theorem SameReplay.refl (state:SandState) : SameReplay state state := ⟨rfl,rfl,rfl,rfl,rfl⟩

theorem subscribe_replay (env:SandEnv) (state:SandState) (owner:Bool) :
  SameReplay state (state.subscribe env owner).1 ∧
   (state.subscribe env owner).1.entry.replayTruncated=state.entry.replayTruncated:=by
 unfold SandState.subscribe
 dsimp only
 split_ifs <;> exact ⟨⟨rfl,rfl,rfl,rfl,rfl⟩,rfl⟩

theorem dropOwner_replay (state:SandState) (now:ℕ) : SameReplay state (state.dropOwner now) ∧
  (¬DroppedEarly state (.dropOwner now) →
   (state.dropOwner now).entry.replayTruncated=state.entry.replayTruncated):=by
 unfold SandState.dropOwner
 split
 case h_1 | h_2 | h_3=>exact ⟨.refl state,fun _=>rfl⟩
 all_goals
  rename_i hphase
  dsimp only
  split_ifs with hfinished
  · refine ⟨⟨rfl,rfl,rfl,rfl,rfl⟩,fun hkept=>(hkept ⟨⟨now,rfl⟩,?_,?_⟩).elim⟩
    · exact Option.isNone_iff_eq_none.mp hfinished
    · rw [hphase]
      simp
  · exact ⟨⟨rfl,rfl,rfl,rfl,rfl⟩,fun _=>rfl⟩

theorem step_replay {action:SandAction} (hstep:SandStep env state action next) :
  (∃ event phase,next={ state.beginPublish env event with phase }) ∨
  SameReplay state next ∧ (¬DroppedEarly state action →
   next.entry.replayTruncated=state.entry.replayTruncated):=by
 cases hstep.effect with
 | subscribed=>
  obtain ⟨hsame,hmark⟩:=subscribe_replay env state false
  exact Or.inr ⟨hsame,fun _=>hmark⟩
 | began _ event phase=>exact Or.inl ⟨event,phase,rfl⟩
 | dropped now=>exact Or.inr (dropOwner_replay state now)
 | _=>exact Or.inr ⟨⟨rfl,rfl,rfl,rfl,rfl⟩,fun _=>rfl⟩

structure RecordedIn (env:SandEnv) (capacity byteCapacity:ℕ) (state:SandState) : Prop
  extends Recorded env state where
 capacity_eq : state.entry.replayCapacity=capacity
 byteCapacity_eq : state.entry.replayByteCapacity=byteCapacity

variable {capacity byteCapacity:ℕ}

theorem appendReplay_capacities (env:SandEnv) (entry:SandOperationEntry) (event:LiveEventResult) :
  (appendReplay env entry event).replayCapacity=entry.replayCapacity ∧
   (appendReplay env entry event).replayByteCapacity=entry.replayByteCapacity:=by
 unfold appendReplay
 dsimp only
 split_ifs <;> exact ⟨rfl,rfl⟩

theorem SameReplay.recordedIn (hsame:SameReplay state next)
  (h:RecordedIn env capacity byteCapacity state) : RecordedIn env capacity byteCapacity next where
 bytes := by rw [hsame.bytes,hsame.replay,h.bytes]
 byteBound := by rw [hsame.bytes,hsame.byteCapacity]; exact h.byteBound
 lengthBound := by rw [hsame.replay,hsame.capacity]; exact h.lengthBound
 suffix := by rw [hsame.replay,hsame.published]; exact h.suffix
 capacity_eq := hsame.capacity.trans h.capacity_eq
 byteCapacity_eq := hsame.byteCapacity.trans h.byteCapacity_eq

theorem recordedIn_step (hcapacity:0<capacity) (hbytes:byteCapacity<usizeMax)
  {action:SandAction} (hstep:SandStep env state action next) (h:RecordedIn env capacity byteCapacity state) :
  RecordedIn env capacity byteCapacity next ∧ (¬DroppedEarly state action → Marked state → Marked next):=by
 obtain ⟨event,phase,rfl⟩ | ⟨hsame,hmark⟩:=step_replay hstep
 · obtain ⟨hrecorded,hmarked⟩:=h.toRecorded.publish (by rw [h.capacity_eq]; exact hcapacity)
    (by rw [h.byteCapacity_eq]; exact hbytes) event
   obtain ⟨hsame,hsame'⟩:=appendReplay_capacities env state.entry event
   exact ⟨⟨⟨hrecorded.bytes,hrecorded.byteBound,hrecorded.lengthBound,hrecorded.suffix⟩,
    hsame.trans h.capacity_eq,hsame'.trans h.byteCapacity_eq⟩,fun _=>hmarked⟩
 · refine ⟨hsame.recordedIn h,fun hkept hmarked=>?_⟩
   unfold Marked
   rw [hmark hkept,hsame.replay,hsame.published]
   exact hmarked

theorem admittedWith_recordedIn (env:SandEnv) (capacity byteCapacity:ℕ) :
  RecordedIn env capacity byteCapacity (admittedWith env capacity byteCapacity) ∧
   Marked (admittedWith env capacity byteCapacity):=by
 obtain ⟨hsame,hmark⟩:=subscribe_replay env { SandState.new env with
  entry := { SandOperationEntry.new env with
   replayCapacity := capacity
   replayByteCapacity := byteCapacity } } true
 refine ⟨hsame.recordedIn ⟨⟨rfl,Nat.zero_le _,Nat.zero_le _,List.suffix_refl _⟩,rfl,rfl⟩,?_⟩
 unfold Marked admittedWith
 rw [hmark,hsame.replay,hsame.published]
 exact iff_of_true rfl rfl

/-- In every run the byte counter is exact, both bounds hold and the replay is the end of what was
published; unless the owner is dropped early, it is marked exactly if it is not the whole. -/
theorem replay_represented {actions:List SandAction} (hcapacity:0<capacity) (hbytes:byteCapacity<usizeMax)
    (hrun:Trace (SandStep env) (admittedWith env capacity byteCapacity) actions state) :
    RecordedIn env capacity byteCapacity state ∧
      (Trace (OwnerKept env) (admittedWith env capacity byteCapacity) actions state → Marked state):=by
  obtain ⟨hstart,hmarked⟩:=admittedWith_recordedIn env capacity byteCapacity
  constructor
  · exact hrun.invariant _ (fun _ _ _ _ h hstep=>
      (recordedIn_step hcapacity hbytes hstep h).1) hstart
  · intro hkept
    refine (hkept.invariant (fun state=>RecordedIn env capacity byteCapacity state ∧ Marked state)
      ?_ ⟨hstart,hmarked⟩).2
    rintro mid action after-⟨h,hmark⟩ ⟨hstep,hlate⟩
    obtain ⟨hnext,hstill⟩:=recordedIn_step hcapacity hbytes hstep h
    exact ⟨hnext,hstill hlate hmark⟩

def crowdedActions : List SandAction :=
 [.forwardFrom,.publish (.ok (.cursor (.textDelta "a"))),.sendOwner true,.settle,
  .publish (.ok (.cursor .end))]

theorem replay_represented_crowded :
    ∃ state,perform (SandState.step defaultEnv) (admittedWith defaultEnv 1 200) crowdedActions =
        some state ∧ RecordedIn defaultEnv 1 200 state ∧
      (Trace (OwnerKept defaultEnv) (admittedWith defaultEnv 1 200) crowdedActions state → Marked state):=by
  obtain ⟨state,hstate⟩ : ∃ state,perform (SandState.step defaultEnv)
      (admittedWith defaultEnv 1 200) crowdedActions=some state :=
    Option.isSome_iff_exists.mp (by decide +kernel)
  exact ⟨state,hstate,replay_represented (by decide) (by decide) (perform_trace hstate)⟩

end CursorProxy.SandReplay
