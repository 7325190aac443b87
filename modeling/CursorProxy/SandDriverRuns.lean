import CursorProxy.SandDriver

namespace CursorProxy.SandDriverRuns
open RunInference SandDriver Driver
open SandModel (CursorStreamEvent)

def shown (env:SandEnv) (polls:List Poll) : List CursorStreamEvent :=
 polls.filterMap fun poll=>match poll.next with
  | .event event=>normalizeSandStreamEvent env event
  | _=>none

def commits : CursorStreamEvent → Bool
 | .textDelta text=>!text.isEmpty
 | .nativeTool _ _ _=>true
 | _=>false

/-- In a compaction turn a thought is an answer too. -/
def Answered (env:SandEnv) (events:List CursorStreamEvent) : Prop :=
 (∃ event∈events,commits event=true) ∨
  env.compactionMode=true ∧ ∃ text, .thinkingDelta text∈events ∧ text.isEmpty=false

/-- The stream has been read up to some place, and what it has shown is delivered or buffered. -/
structure Told (env:SandEnv) (s:Driver) (compactionThinking:Bool)
  (seen:List CursorStreamEvent) : Prop where
 events : ∃ events,s.delivered=events.map .event ∧ events++s.buffered=seen ∧ (s.committed=false → events=[])
 unended : .end ∉ seen
 committed : s.committed=true → ∃ event∈seen,commits event=true
 thinking : compactionThinking=true → env.compactionMode=true ∧ ∃ text, .thinkingDelta text∈seen ∧ text.isEmpty=false

theorem Told.answered {env:SandEnv} {s:Driver} {compactionThinking:Bool}
  {seen:List CursorStreamEvent} (h:Told env s compactionThinking seen)
  (hcomplete:(s.committed||env.compactionMode&&compactionThinking)=true)
  (more:List CursorStreamEvent) : Answered env (seen++more):=by
 rcases Bool.or_eq_true_iff.mp hcomplete with hcommitted | hthinking
 · obtain ⟨event,hmem,hcommits⟩:=h.committed hcommitted
   exact Or.inl ⟨event,List.mem_append_left _ hmem,hcommits⟩
 · obtain ⟨hmode,text,hmem,htext⟩:=h.thinking (Bool.and_eq_true_iff.mp hthinking).2
   exact Or.inr ⟨hmode,text,List.mem_append_left _ hmem,htext⟩

theorem send_spec (s:Driver) (accepted:Option ℕ) :
  s.sendSandBufferedEvents accepted =
    ({ s with delivered := s.delivered++s.buffered.map .event,buffered := [] },true) ∨
   ∃ count,count<s.buffered.length ∧ s.sendSandBufferedEvents accepted =
    ({ s with
     delivered := s.delivered++(s.buffered.take count).map .event
     buffered := [] },false):=by
 unfold sendSandBufferedEvents
 cases accepted with
 | none=>exact Or.inl rfl
 | some count=>
  dsimp only
  split_ifs with hcount
  · exact Or.inr ⟨count,hcount,rfl⟩
  · exact Or.inl rfl

/-- What is delivered when the inner loop is left. -/
def Leaves (env:SandEnv) (before:Driver) (all:List CursorStreamEvent) (result:Driver×Read) : Prop :=
 result.1.current=before.current ∧ result.1.opens=before.opens ∧
  match result.2 with
  | .closed=>∃ events,result.1.delivered=events.map .event ∧ events <+: all ∧
   .end ∉ events
  | .returned=>∃ events,result.1.delivered=(events++[.end]).map .event ∧
   events++[.end] <+: all ∧ .end ∉ events ∧ Answered env (events++[.end])
  | _=>∃ seen compactionThinking,Told env result.1 compactionThinking seen ∧ seen <+: all

section reading
variable {env:SandEnv} {s:Driver} {compactionThinking:Bool} {seen:List CursorStreamEvent}

theorem Told.stays (h:Told env s compactionThinking seen) (more:List CursorStreamEvent) :
  ∃ seen' thinking,Told env s thinking seen' ∧ seen' <+: seen++more :=
 ⟨seen,compactionThinking,h,List.prefix_append seen more⟩

theorem noteThinking_told (h:Told env s compactionThinking seen) (event:CursorStreamEvent)
  (hthinking:noteThinking env compactionThinking event=true) :
  env.compactionMode=true ∧ ∃ text, .thinkingDelta text∈seen++[event] ∧ text.isEmpty=false:=by
 have hold:compactionThinking=true → env.compactionMode=true ∧
   ∃ text, .thinkingDelta text∈seen++[event] ∧ text.isEmpty=false:=by
  intro hthinking
  obtain ⟨hmode,text,hmem,htext⟩:=h.thinking hthinking
  exact ⟨hmode,text,List.mem_append_left _ hmem,htext⟩
 cases event with
 | thinkingDelta text=>
  rcases Bool.or_eq_true_iff.mp hthinking with hthinking | hnew
  · exact hold hthinking
  · obtain ⟨hmode,htext⟩:=Bool.and_eq_true_iff.mp hnew
    exact ⟨hmode,text,List.mem_append_right _ (List.mem_singleton_self _),Bool.not_eq_true' _ |>.mp htext⟩
 | _=>exact hold hthinking

theorem classify_end {event:CursorStreamEvent} {committed compactionMode thinking:Bool}
  (h:classifySandStreamEvent event committed compactionMode thinking=.complete ∨
   classifySandStreamEvent event committed compactionMode thinking=.hollowEnd) : event=.end:=by
 cases event with
 | «end» => rfl
 | textDelta text=>
  unfold classifySandStreamEvent at h
  dsimp only at h
  split_ifs at h <;> exact h.elim (nomatch ·) (nomatch ·)
 | _=>exact h.elim (nomatch ·) (nomatch ·)

theorem classify_commits {event:CursorStreamEvent} {committed compactionMode thinking:Bool} :
  (classifySandStreamEvent event committed compactionMode thinking=.commit → commits event=true ∧ event ≠ .end) ∧
  (classifySandStreamEvent event committed compactionMode thinking=.buffer → event ≠ .end):=by
 cases event with
 | «end» =>
  unfold classifySandStreamEvent
  dsimp only
  split_ifs <;> exact ⟨nofun,nofun⟩
 | textDelta text=>
  unfold classifySandStreamEvent commits
  dsimp only
  split_ifs with hempty
  · exact ⟨nofun,nofun⟩
  · exact ⟨fun _=>⟨by rw [Bool.not_eq_true _ |>.mp hempty]; rfl,nofun⟩,nofun⟩
 | nativeTool toolUseId name input=>exact ⟨fun _=>⟨rfl,nofun⟩,nofun⟩
 | _=>exact ⟨nofun,nofun⟩

theorem end_not_mem {event:CursorStreamEvent} (h:.end ∉ seen) (hevent:event ≠ .end) :
  CursorStreamEvent.end ∉ seen++[event]:=by
 intro hmem
 rcases List.mem_append.mp hmem with hmem | hmem
 · exact h hmem
 · exact hevent (List.mem_singleton.mp hmem).symm

theorem shown_skip {poll:Poll} (polls:List Poll)
  (h:∀ event,poll.next=.event event → normalizeSandStreamEvent env event=none) :
  shown env (poll::polls)=shown env polls:=by
 unfold shown
 rw [List.filterMap_cons_none]
 cases hnext:poll.next with
 | event event=>exact h event hnext
 | _=>rfl

theorem shown_event {poll:Poll} (polls:List Poll) {event normalized:CursorStreamEvent}
  (hnext:poll.next=.event event) (hevent:normalizeSandStreamEvent env event=some normalized) :
  shown env (poll::polls)=normalized::shown env polls:=by
 unfold shown
 rw [List.filterMap_cons_some]
 rw [hnext]
 exact hevent

theorem Told.part (h:Told env s compactionThinking seen) (event:CursorStreamEvent)
  {count:ℕ} (hcount:count<(s.buffered++[event]).length)
  (all:List CursorStreamEvent) : ∃ events,
   s.delivered++((s.buffered++[event]).take count).map .event =
    events.map Delivery.event ∧ events <+: seen++all ∧ .end ∉ events:=by
 obtain ⟨events,hdelivered,hseen,-⟩:=h.events
 rw [List.length_append,List.length_singleton] at hcount
 have hle:count ≤ s.buffered.length:=by omega
 have hpart:events++s.buffered.take count <+: seen:=by
  rw [← hseen]
  exact (List.prefix_append_right_inj events).mpr (List.take_prefix count s.buffered)
 refine ⟨events++s.buffered.take count,?_,hpart.trans (List.prefix_append seen all),
  fun hmem=>h.unended (hpart.subset hmem)⟩
 rw [List.take_append_of_le_length hle,hdelivered,List.map_append]

theorem readStream_leaves (polls:List Poll) : ∀ {s:Driver} {compactionThinking:Bool}
  {seen:List CursorStreamEvent},Told env s compactionThinking seen →
   Leaves env s (seen++shown env polls) (readStream env s compactionThinking polls):=by
 induction polls with
 | nil=>exact fun h=>⟨rfl,rfl,h.stays _⟩
 | cons poll polls ih=>
  intro s compactionThinking seen h
  rw [readStream]
  by_cases hexpired:(!s.committed&&poll.expired)=true
  · rw [if_pos hexpired]
    exact ⟨rfl,rfl,h.stays _⟩
  · rw [if_neg hexpired]
    cases hnext:poll.next with
    | error error=>exact ⟨rfl,rfl,h.stays _⟩
    | ended=>exact ⟨rfl,rfl,h.stays _⟩
    | idle exhausted=>exact ⟨rfl,rfl,h.stays _⟩
    | closed=>
     obtain ⟨events,hdelivered,hseen,-⟩:=h.events
     have hbegins:events <+: seen:=⟨s.buffered,hseen⟩
     exact ⟨rfl,rfl,events,hdelivered,hbegins.trans (List.prefix_append seen _),
      fun hmem=>h.unended (hbegins.subset hmem)⟩
    | event event=>
     dsimp only
     cases hevent:normalizeSandStreamEvent env event with
     | none=>
      rw [shown_skip polls fun other hother=>by
       rw [hnext] at hother
       cases hother
       exact hevent]
      exact ih h
     | some event=>
      rw [shown_event polls hnext hevent]
      have hassoc:seen++event::shown env polls=seen++[event]++shown env polls:=by
       rw [List.append_assoc]
       rfl
      have hthinking:=noteThinking_told h event
      obtain ⟨events,hdelivered,hseen,hidle⟩:=h.events
      dsimp only
      cases hclass:classifySandStreamEvent event s.committed env.compactionMode
        (noteThinking env compactionThinking event) with
      | buffer=>
       dsimp only
       rw [hassoc]
       refine ih ⟨⟨events,hdelivered,?_,hidle⟩,end_not_mem h.unended (classify_commits.2 hclass),?_,hthinking⟩
       · rw [← List.append_assoc,hseen]
       · intro hcommitted
         obtain ⟨other,hmem,hcommits⟩:=h.committed hcommitted
         exact ⟨other,List.mem_append_left _ hmem,hcommits⟩
      | commit=>
       obtain ⟨hcommits,hnot⟩:=classify_commits.1 hclass
       dsimp only
       rcases send_spec { s with buffered := s.buffered++[event],committed := true }
        poll.accepted with hsent | ⟨count,hcount,hsent⟩
       · rw [hsent,hassoc]
         dsimp only
         refine ih ⟨⟨seen++[event],?_,List.append_nil _,nofun⟩,
          end_not_mem h.unended hnot,fun _=>⟨event,?_,hcommits⟩,hthinking⟩
         · dsimp only
           rw [hdelivered,← hseen,← List.map_append,List.append_assoc]
         · exact List.mem_append_right _ (List.mem_singleton_self event)
       · rw [hsent]
         exact ⟨rfl,rfl,h.part event hcount _⟩
      | complete=>
       obtain rfl:=classify_end (Or.inl hclass)
       have hcomplete:(s.committed||env.compactionMode&&compactionThinking)=true:=by
        unfold classifySandStreamEvent noteThinking at hclass
        dsimp only at hclass
        split_ifs at hclass with hcomplete
        exact hcomplete
       dsimp only
       rcases send_spec { s with buffered := s.buffered++[.end] } poll.accepted with
        hsent | ⟨count,hcount,hsent⟩
       · rw [hsent,hassoc]
         refine ⟨rfl,rfl,seen,?_,List.prefix_append _ _,h.unended,h.answered hcomplete _⟩
         dsimp only
         rw [hdelivered,← hseen,← List.map_append,List.append_assoc]
       · rw [hsent]
         exact ⟨rfl,rfl,h.part .end hcount _⟩
      | hollowEnd=>exact ⟨rfl,rfl,h.stays _⟩

end reading

/-- A beginning of the stream that was opened last, and then its end or one error. -/
def Delivers (env:SandEnv) (result:Driver×Status) : Prop :=
 ∃ events tail,result.1.delivered=events.map .event++tail ∧
  events <+: shown env result.1.current ∧ (.end∈events → Answered env events) ∧
  match result.2 with
  | .again=>events=[] ∧ tail=[]
  | .returned=>tail=[] ∧ events.getLast?=some .end ∨
   (∃ message,tail=[.error message]) ∧ .end ∉ events
  | _=>tail=[] ∧ .end ∉ events

structure Good (env:SandEnv) (result:Driver×Status) : Prop where
 delivers : Delivers env result
 committed : result.2=.again → result.1.committed=false
 buffered : result.2=.again → result.1.buffered=[]

structure Held (env:SandEnv) (s:Driver) : Prop where
 events : ∃ events,s.delivered=events.map .event ∧
  events++s.buffered <+: shown env s.current ∧ .end ∉ events++s.buffered ∧ (s.committed=false → events=[])

section delivering
variable {env:SandEnv} {s:Driver}

theorem Held.discard (h:Held env s) : Held env s.discardSandReplayBuffer:=by
 obtain ⟨events,hdelivered,hbegins,hend,hidle⟩:=h.events
 refine ⟨events,hdelivered,?_,?_,hidle⟩
 · exact (List.append_nil events).symm ▸ (List.prefix_append events _).trans hbegins
 · exact fun hmem=>hend (List.mem_append_left _ (List.append_nil events ▸ hmem))

theorem Held.discardUnlessCommitted (h:Held env s) : Held env s.discardUnlessCommitted:=by
 unfold Driver.discardUnlessCommitted
 split_ifs
 · exact h
 · exact h.discard

theorem Held.part (h:Held env s) (buffered:List CursorStreamEvent)
  (hbuffered:buffered <+: s.buffered) : ∃ events,
   s.delivered++buffered.map .event=events.map Delivery.event ∧ events <+: shown env s.current ∧ .end ∉ events:=by
 obtain ⟨events,hdelivered,hbegins,hend,-⟩:=h.events
 have hpart:events++buffered <+: events++s.buffered :=
  (List.prefix_append_right_inj events).mpr hbuffered
 refine ⟨events++buffered,?_,hpart.trans hbegins,fun hmem=>hend (hpart.subset hmem)⟩
 rw [hdelivered,List.map_append]

theorem Held.closed (h:Held env s) : Good env (s,.closed):=by
 obtain ⟨events,hdelivered,hbegins,hend⟩:=h.part [] List.nil_prefix
 refine ⟨⟨events,[],?_,hbegins,fun hmem=>absurd hmem hend,rfl,hend⟩,nofun,nofun⟩
 rw [List.append_nil,← hdelivered]
 exact (List.append_nil _).symm

theorem Held.sends (h:Held env s) (accepted:Option ℕ) (error:CursorError) :
  Good env (s.sendSandBufferedError env accepted error):=by
 unfold sendSandBufferedError
 dsimp only
 rcases send_spec s accepted with hsent | ⟨count,hcount,hsent⟩
 · obtain ⟨events,hdelivered,hbegins,hend⟩:=h.part s.buffered (List.prefix_refl _)
   rw [hsent]
   dsimp only
   split_ifs
   · refine ⟨⟨events,[],?_,hbegins,fun hmem=>absurd hmem hend,rfl,hend⟩,nofun,nofun⟩
     exact hdelivered.trans (List.append_nil _).symm
   · refine ⟨⟨events,_,?_,hbegins,fun hmem=>absurd hmem hend,
      Or.inr ⟨⟨env.clientMessage error,rfl⟩,hend⟩⟩,nofun,nofun⟩
     exact congrArg (· ++ _) hdelivered
 · obtain ⟨events,hdelivered,hbegins,hend⟩:=h.part _ (List.take_prefix count s.buffered)
   rw [hsent]
   refine ⟨⟨events,[],?_,hbegins,fun hmem=>absurd hmem hend,rfl,hend⟩,nofun,nofun⟩
   exact hdelivered.trans (List.append_nil _).symm

theorem Held.again (h:Held env s) (hcommitted:s.committed=false) {next:Driver}
  (hsame:next.delivered=s.delivered) (hnext:next.committed=s.committed)
  (hbuffered:next.buffered=[]) : Good env (next,.again):=by
 obtain ⟨events,hdelivered,-,-,hidle⟩:=h.events
 have hnil:next.delivered=[]:=by
  rw [hsame,hdelivered,hidle hcommitted]
  rfl
 exact ⟨⟨[],[],hnil, List.nil_prefix,nofun,rfl,rfl⟩,fun _=>hnext.trans hcommitted,
  fun _=>hbuffered⟩

theorem uncommitted {rest:Bool} (h:(!s.committed&&rest)=true) : s.committed=false :=
 Bool.not_eq_true' _ |>.mp (Bool.and_eq_true_iff.mp h).1

theorem openFailed_good (h:Held env s) (attempt:Attempt) (error:CursorError) :
  Good env (s.openFailed env attempt error):=by
 unfold openFailed
 split_ifs with hbudget hcapability hfallback hfailover hclosed hreplacement hretry hdelay hsleep
 · exact h.discard.sends _ _
 · exact h.again (uncommitted hcapability) rfl rfl rfl
 · exact h.discard.sends _ _
 · exact h.closed
 · exact h.again (uncommitted (Bool.and_assoc _ _ _ ▸ hfailover)) rfl rfl rfl
 · exact h.discard.sends _ _
 · exact h.discard.sends _ _
 · exact h.discard.closed
 · simp only [Bool.and_assoc] at hretry
   exact h.again (uncommitted hretry) rfl rfl rfl
 · exact h.discardUnlessCommitted.sends _ _

/-- The stream failed for want of capacity, no other account is free, and capacity came. -/
def waitsLater (env:SandEnv) (s:Driver) (attempt:Attempt) (error:CursorError) : Prop :=
 s.committed=false ∧ attempt.replaySafe=true ∧
  env.sandAttemptBudgetExhausted error=false ∧ env.isSandToolCapabilityError error=false ∧
  (env.isAccountFailoverOpenError error||env.cursorErrorIsAccountFailoverPolicy error ||
   env.isSandAccountFailoverError error)=true ∧
  attempt.closedFailover=false ∧ s.replaces env attempt.replacement=false ∧
  env.isSandAdmissionCapacityError error=true ∧ attempt.closedWaiting=false ∧
  attempt.capacityReleased=true

theorem streamFailedLater_good (h:Held env s) (attempt:Attempt) (error:CursorError)
  (hwaits:waitsLater env s attempt error → s.buffered=[]) : Good env (s.streamFailedLater env attempt error):=by
 unfold streamFailedLater
 split_ifs with hbudget hcapability hfallback hfailover hclosed hreplacement hleft hreleased hretry hdelay hsleep
 · exact h.discard.sends _ _
 · simp only [Bool.and_assoc] at hcapability
   exact h.again (uncommitted hcapability) rfl rfl rfl
 · exact h.discard.sends _ _
 · exact h.closed
 · simp only [Bool.and_assoc] at hfailover
   exact h.again (uncommitted hfailover) rfl rfl rfl
 · exact h.closed
 · have hall:=hfailover
   simp only [Bool.and_assoc] at hfailover
   refine h.again (uncommitted hfailover) rfl rfl (hwaits ?_)
   simp only [Bool.and_eq_true,Bool.not_eq_true',Bool.not_eq_true] at *
   obtain ⟨⟨⟨hcommitted,hsafe⟩,hexhausted⟩,hclass⟩:=hall
   refine ⟨hcommitted,hsafe,hexhausted,?_,hclass,hclosed,hreplacement,hreleased.1,?_,hreleased.2⟩
   · by_contra hcap
     exact hcapability ⟨⟨hcommitted,Bool.not_eq_false _ |>.mp hcap⟩,hsafe⟩
   · by_contra hwaiting
     exact hleft ⟨hreleased.1,Bool.not_eq_false _ |>.mp hwaiting⟩
 · exact h.discard.sends _ _
 · exact h.discard.sends _ _
 · exact h.discard.closed
 · simp only [Bool.and_assoc] at hretry
   exact h.again (uncommitted hretry) rfl rfl rfl
 · exact h.discardUnlessCommitted.sends _ _

/-- The bridge for a stream without progress and the account swap for it do not apply. -/
def Waits (env:SandEnv) (s:Driver) (attempt:Attempt) (error:CursorError) : Prop :=
 ¬(!s.committed&&attempt.replaySafe&&env.endedWithoutProgress error&&s.fallbackRequest)=true ∧
 ((!s.committed&&attempt.replaySafe&&!s.hollowAccountFailoverAttempted&&!env.modelBound &&
   env.endedWithoutProgress error&&!env.sandAttemptBudgetExhausted error)=true →
  ¬attempt.closedHollow=true ∧ ¬s.replaces env attempt.hollowReplacement=true) ∧
 waitsLater env s attempt error

theorem streamFailed_good (h:Held env s) (attempt:Attempt) (error:CursorError)
  (hwaits:Waits env s attempt error → s.buffered=[]) : Good env (s.streamFailed env attempt error):=by
 unfold streamFailed
 dsimp only
 split_ifs with hfallback hhollow hclosed hreplacement
 · simp only [Bool.and_assoc] at hfallback
   exact h.again (uncommitted hfallback) rfl rfl rfl
 · exact Held.closed ⟨h.events⟩
 · simp only [Bool.and_assoc] at hhollow
   exact h.again (uncommitted hhollow) rfl rfl rfl
 · have hheld:Held env { s with hollowAccountFailoverAttempted:=true } := ⟨h.events⟩
   exact streamFailedLater_good hheld attempt error fun hlater=>
    hwaits ⟨hfallback,fun _=>⟨hclosed,hreplacement⟩,hlater⟩
 · exact streamFailedLater_good h attempt error fun hlater=>
    hwaits ⟨hfallback,fun hhollow'=>absurd hhollow' hhollow,hlater⟩

/-- Between two attempts nothing is left of the one before. -/
structure Ready (s:Driver) : Prop where
 committed : s.committed=false
 buffered : s.buffered=[]
 delivered : s.delivered=[]

theorem Good.ready {result:Driver×Status} (h:Good env result) (hagain:result.2=.again) : Ready result.1:=by
 obtain ⟨events,tail,hdelivered,-,-,hstatus⟩:=h.delivers
 rw [hagain] at hstatus
 obtain ⟨rfl,rfl⟩:=hstatus
 exact ⟨h.committed hagain,h.buffered hagain,hdelivered⟩

theorem Ready.held (h:Ready s) : Held env s:=by
 refine ⟨[],h.delivered,?_,?_,fun _=>rfl⟩
 · rw [h.buffered]
   exact List.nil_prefix
 · rw [h.buffered]
   exact List.not_mem_nil

theorem Ready.told (h:Ready s) (attempt:Attempt) : Told env (s.openStream attempt) false [] :=
 ⟨⟨[],h.delivered,h.buffered,fun _=>rfl⟩,List.not_mem_nil,
  fun hcommitted=>absurd (h.committed.symm.trans hcommitted) Bool.false_ne_true,nofun⟩

theorem drain_good (h:Ready s) (attempt:Attempt)
  (hwaits:∀ s' error,readStream env (s.openStream attempt) false attempt.polls =
   (s',.failed error) → Waits env s' attempt error → s'.buffered=[]) : Good env (s.drain env attempt):=by
 have htold:Told env (s.openStream attempt) false []:=h.told attempt
 obtain ⟨hcurrent,-,hleft⟩:=readStream_leaves attempt.polls htold
 have hstream:(s.openStream attempt).current=attempt.polls:=rfl
 rw [hstream] at hcurrent
 rw [List.nil_append] at hleft
 unfold drain
 cases hread:readStream env (s.openStream attempt) false attempt.polls with
 | mk next read=>
  rw [hread] at hcurrent hleft
  dsimp only at hcurrent hleft
  cases read with
  | closed=>
   obtain ⟨events,hdelivered,hbegins,hend⟩:=hleft
   refine ⟨⟨events,[],hdelivered.trans (List.append_nil _).symm,?_,
    fun hmem=>absurd hmem hend,rfl,hend⟩,nofun,nofun⟩
   rw [hcurrent]
   exact hbegins
  | returned=>
   obtain ⟨events,hdelivered,hbegins,hend,hanswered⟩:=hleft
   refine ⟨⟨events++[.end],[],hdelivered.trans (List.append_nil _).symm,?_,
    fun _=>hanswered,Or.inl ⟨rfl,List.getLast?_concat⟩⟩,nofun,nofun⟩
   rw [hcurrent]
   exact hbegins
  | waiting=>
   obtain ⟨seen,thinking,htold,hbegins⟩:=hleft
   obtain ⟨events,hdelivered,hseen,-⟩:=htold.events
   have hpart:events <+: seen:=⟨next.buffered,hseen⟩
   refine ⟨⟨events,[],hdelivered.trans (List.append_nil _).symm,?_,
    fun hmem=>absurd (hpart.subset hmem) htold.unended,rfl,
    fun hmem=>htold.unended (hpart.subset hmem)⟩,nofun,nofun⟩
   rw [hcurrent]
   exact hpart.trans hbegins
  | failed error=>
   obtain ⟨seen,thinking,htold,hbegins⟩:=hleft
   obtain ⟨events,hdelivered,hseen,hidle⟩:=htold.events
   refine streamFailed_good ⟨events,hdelivered,?_,?_,hidle⟩ attempt error (hwaits next error hread)
   · rw [hseen,hcurrent]
     exact hbegins
   · rw [hseen]
     exact htold.unended

/-- An attempt that leaves the loop waiting for capacity has shown nothing. -/
def Empties (env:SandEnv) (s:Driver) (attempt:Attempt) : Prop :=
 ∀ kind s' error,readStream env (({ s with nextOpenKind := kind } : Driver).openStream attempt)
  false attempt.polls=(s',.failed error) → Waits env s' attempt error → s'.buffered=[]

theorem iterate_good (h:Ready s) (attempt:Attempt) (hempties:Empties env s attempt) :
  Good env (s.iterate env attempt):=by
 have hheld:Held env s:=h.held
 unfold iterate
 split_ifs
 · exact hheld.closed
 · exact drain_good h attempt (hempties s.nextOpenKind)
 · exact hheld.discard.sends _ _
 · exact hheld.closed
 · cases attempt.opened with
   | none=>
    have hready:Ready { s with nextOpenKind:=.transport } :=
     ⟨h.committed,h.buffered,h.delivered⟩
    exact drain_good hready attempt (hempties .transport)
   | some error=>exact openFailed_good hheld attempt error

def AllEmpty (env:SandEnv) : Driver → List Attempt → Prop
 | _,[]=>True
 | s,attempt::attempts=>Empties env s attempt ∧
  ((s.iterate env attempt).2=.again → AllEmpty env (s.iterate env attempt).1 attempts)

theorem drive_again {attempt:Attempt} (attempts:List Attempt) (hagain:(s.iterate env attempt).2=.again) :
  driveSandStreamWithRetries env s (attempt::attempts) =
   driveSandStreamWithRetries env (s.iterate env attempt).1 attempts:=by
 rw [driveSandStreamWithRetries]
 generalize s.iterate env attempt=result at *
 obtain ⟨next,status⟩:=result
 obtain rfl : status=.again:=hagain
 rfl

theorem drive_stops {attempt:Attempt} (attempts:List Attempt) (hstops:(s.iterate env attempt).2 ≠ .again) :
  driveSandStreamWithRetries env s (attempt::attempts)=s.iterate env attempt:=by
 rw [driveSandStreamWithRetries]
 generalize s.iterate env attempt=result at *
 obtain ⟨next,status⟩:=result
 cases status with
 | again=>exact absurd rfl hstops
 | _=>rfl

theorem drive_good (attempts:List Attempt) : ∀ {s:Driver},Ready s → AllEmpty env s attempts →
  Good env (driveSandStreamWithRetries env s attempts):=by
 induction attempts with
 | nil=>
  intro s h _
  exact h.held.again h.committed rfl rfl h.buffered
 | cons attempt attempts ih=>
  intro s h hempty
  have hgood:=iterate_good h attempt hempty.1
  by_cases hagain:(s.iterate env attempt).2=.again
  · rw [drive_again attempts hagain]
    exact ih (hgood.ready hagain) (hempty.2 hagain)
  · rw [drive_stops attempts hagain]
    exact hgood

theorem drive_append (before after:List Attempt) : ∀ {s:Driver},
  (driveSandStreamWithRetries env s before).2 ≠ .again →
   driveSandStreamWithRetries env s (before++after) = driveSandStreamWithRetries env s before:=by
 induction before with
 | nil=>exact fun h=>absurd rfl h
 | cons attempt before ih=>
  intro s h
  rw [List.cons_append]
  by_cases hagain:(s.iterate env attempt).2=.again
  · rw [drive_again _ hagain] at h ⊢
    rw [drive_again _ hagain]
    exact ih h
  · rw [drive_stops _ hagain,drive_stops _ hagain]

theorem allEmpty_before (before after:List Attempt) : ∀ {s:Driver},
  AllEmpty env s (before++after) → AllEmpty env s before:=by
 induction before with
 | nil=>exact fun _=>trivial
 | cons attempt before ih=>exact fun h=>⟨h.1,fun hagain=>ih (h.2 hagain)⟩

theorem ready_start (fallbackRequest:Bool) (swaps:ℕ) : Ready (start fallbackRequest swaps) :=
 ⟨rfl,rfl,rfl⟩

end delivering

/-- A compaction turn is off; the only error is one of capacity, for one account. -/
def oneAccount : SandEnv where
 compactionMode := false
 resolveAdvertisedName := some
 adaptToolInputForClient := fun _ input=>input
 maxRetries := 3
 idleSecs := 15
 swapLimit := 0
 modelBound := false
 clientMessage := CursorError.message
 isSandToolCapabilityError := fun _=>false
 sandAttemptBudgetExhausted := fun _=>false
 isSandAccountFailoverError := fun _=>false
 isAccountFailoverOpenError := fun error=>error.status=401
 cursorErrorIsAccountFailoverPolicy := fun _=>false
 isSandAdmissionCapacityError := fun error=>error.status=401
 streamErrorIsRetryable := fun _=>true
 endedWithoutProgress := fun _=>false
 sandToolCapabilityClientError := id

/-- Nothing closes, no other account is free, and capacity comes. -/
def attemptOf (events:List Next) : Attempt where
 closed := false
 expired := false
 closedOpening := false
 opened := none
 polls := events.map fun next=>⟨false,next,none⟩
 replaySafe := true
 closedHollow := false
 hollowReplacement := false
 closedFailover := false
 replacement := false
 closedWaiting := false
 capacityReleased := true
 delayFits := true
 closedSleeping := false
 accepted := none

def capacityError : CursorError :=
 ⟨401,"unauthenticated: sand open admission queue timed out",none⟩

end CursorProxy.SandDriverRuns
