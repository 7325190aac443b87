import CursorProxy.LiveRegistry

namespace CursorProxy.LiveSlots
open XmlElements LiveRunKeys LedgerModel LiveRegistry

theorem get_insertKey (runs:LiveRunMap) (key:Text) (entry:LiveRunEntry) (k:Text) :
 (runs.insertKey key entry).get k=if k=key then some entry else runs.get k:=by
 unfold LiveRunMap.insertKey LiveRunMap.get
 split_ifs with hkey
 · rw [hkey]
   exact AList.lookup_insert _
 · exact AList.lookup_insert_ne hkey

theorem get_removeKey (runs:LiveRunMap) (key k:Text) :
 (runs.removeKey key).get k=if k=key then none else runs.get k:=by
 unfold LiveRunMap.removeKey
 cases hget:runs.get key with
 | none=>
  split_ifs with hkey
  · rw [hkey,hget]
  · rfl
 | some entry=>
  unfold LiveRunMap.get
  split_ifs with hkey
  · rw [hkey]
    exact AList.lookup_erase _ _
  · exact AList.lookup_erase_ne hkey

theorem get_foldl_removeKey (keys:List Text) (runs:LiveRunMap) (k:Text) :
 (keys.foldl LiveRunMap.removeKey runs).get k=if k∈keys then none else runs.get k:=by
 induction keys generalizing runs with
 | nil=>rfl
 | cons key keys ih=>
  rw [List.foldl_cons,ih,get_removeKey]
  by_cases hmem:k∈keys
  · rw [if_pos hmem,if_pos (List.mem_cons_of_mem _ hmem)]
  · rw [if_neg hmem]
    by_cases hkey:k=key
    · rw [if_pos hkey,if_pos (hkey ▸ List.mem_cons_self)]
    · rw [if_neg hkey,if_neg (fun h=>(List.mem_cons.mp h).elim hkey hmem)]

structure Indexed (runs:LiveRunMap) : Prop where
 listed : ∀ session key,key∈runs.keysFor session ↔ (runs.get key).isSome ∧ claudeSessionOf key=session
 once : ∀ session,(runs.keysFor session).Nodup

theorem keysFor_insertKey (runs:LiveRunMap) (key:Text) (entry:LiveRunEntry) (session:Text) :
 (runs.insertKey key entry).keysFor session = if session=claudeSessionOf key ∧ key ∉ runs.keysFor session
  then runs.keysFor session++[key] else runs.keysFor session:=by
 unfold LiveRunMap.insertKey
 dsimp only
 by_cases hsession:session=claudeSessionOf key
 · rw [← hsession]
   conv_lhs=>rw [LiveRunMap.keysFor,AList.lookup_insert,Option.getD_some]
   by_cases hmem:key∈runs.keysFor session
   · rw [if_pos (List.contains_iff_mem.mpr hmem),if_neg (fun h=>h.2 hmem)]
   · rw [if_neg (fun h=>hmem (List.contains_iff_mem.mp h)),if_pos ⟨rfl,hmem⟩]
 · unfold LiveRunMap.keysFor
   dsimp only
   rw [AList.lookup_insert_ne hsession,if_neg (fun h=>hsession h.1)]

theorem keysFor_removeKey (runs:LiveRunMap) (key session:Text) :
 (runs.removeKey key).keysFor session = if session=claudeSessionOf key ∧ (runs.get key).isSome
  then (runs.keysFor session).filter (· ≠ key) else runs.keysFor session:=by
 unfold LiveRunMap.removeKey
 cases hget:runs.get key with
 | none=>simp
 | some entry=>
  by_cases hsession:session=claudeSessionOf key
  · rw [if_pos ⟨hsession,rfl⟩,← hsession]
    dsimp only
    split_ifs with hempty
    · conv_lhs=>rw [LiveRunMap.keysFor]
      dsimp only
      rw [AList.lookup_erase,List.isEmpty_iff.mp hempty]
      rfl
    · conv_lhs=>rw [LiveRunMap.keysFor]
      dsimp only
      rw [AList.lookup_insert]
      rfl
  · rw [if_neg (fun h=>hsession h.1)]
    dsimp only
    split_ifs with hempty
    · conv_lhs=>rw [LiveRunMap.keysFor]
      dsimp only
      rw [AList.lookup_erase_ne hsession]
      rfl
    · conv_lhs=>rw [LiveRunMap.keysFor]
      dsimp only
      rw [AList.lookup_insert_ne hsession]
      rfl

theorem Indexed.new : Indexed LiveRunMap.new :=
 ⟨fun session key=>by simp [LiveRunMap.new,LiveRunMap.keysFor,LiveRunMap.get],
  fun session=>by simp [LiveRunMap.new,LiveRunMap.keysFor]⟩

variable {runs:LiveRunMap}

theorem Indexed.insertKey (h:Indexed runs) (key:Text) (entry:LiveRunEntry) : Indexed (runs.insertKey key entry):=by
 constructor
 · intro session k
   rw [keysFor_insertKey,get_insertKey]
   by_cases hkey:k=key
   · subst hkey
     rw [if_pos rfl]
     by_cases hsession:session=claudeSessionOf k
     · by_cases hmem:k∈runs.keysFor session
       · simp [hmem,hsession.symm]
       · simp [hmem,hsession.symm]
     · have hout:k ∉ runs.keysFor session :=
        fun hmem=>hsession ((h.listed session k).mp hmem).2.symm
       exact iff_of_false (by simp [hsession,hout]) (fun h=>hsession h.2.symm)
   · rw [if_neg hkey,← h.listed]
     split_ifs
     · simp [hkey]
     · rfl
 · intro session
   rw [keysFor_insertKey]
   split_ifs with hnew
   · exact List.nodup_append.mpr ⟨h.once session,List.nodup_singleton _,by
      intro a ha b hb hab
      rw [List.mem_singleton] at hb
      exact hnew.2 (hb ▸ hab ▸ ha)⟩
   · exact h.once session

theorem Indexed.removeKey (h:Indexed runs) (key:Text) : Indexed (runs.removeKey key):=by
 constructor
 · intro session k
   rw [keysFor_removeKey,get_removeKey]
   by_cases hkey:k=key
   · subst hkey
     rw [if_pos rfl]
     have hout:k ∉ (if session=claudeSessionOf k ∧ (runs.get k).isSome
      then (runs.keysFor session).filter (· ≠ k) else runs.keysFor session):=by
      split_ifs with hdrop
      · simp
      · intro hmem
        have hlisted:=(h.listed session k).mp hmem
        exact hdrop ⟨hlisted.2.symm,hlisted.1⟩
     exact iff_of_false hout (by simp)
   · rw [if_neg hkey,← h.listed]
     split_ifs
     · simp [hkey]
     · rfl
 · intro session
   rw [keysFor_removeKey]
   split_ifs
   · exact (h.once session).filter _
   · exact h.once session

theorem Indexed.foldl_removeKey (h:Indexed runs) (keys:List Text) : Indexed (keys.foldl LiveRunMap.removeKey runs):=by
 induction keys generalizing runs with
 | nil=>exact h
 | cons key keys ih=>exact ih (h.removeKey key)

variable {env:LiveEnv}

def kept (env:LiveEnv) (s:LiveState) (key:Text) : Option LiveRunEntry :=
 (s.runs.get key).filter fun entry=>!s.finished env entry

theorem get_pruneFinished (s:LiveState) (key:Text) : (s.pruneFinished env).runs.get key=kept env s key:=by
 unfold LiveState.pruneFinished kept
 rw [get_foldl_removeKey]
 have hstale:key∈(s.runs.runs.entries.filterMap fun slot=>
  if s.finished env slot.2 then some slot.1 else none) ↔
  ∃ entry,s.runs.get key=some entry ∧ s.finished env entry=true:=by
  rw [List.mem_filterMap]
  constructor
  · rintro ⟨slot,hslot,hkey⟩
    split_ifs at hkey with hfinished
    refine ⟨slot.2,?_,hfinished⟩
    rw [← Option.some.inj hkey]
    exact AList.mem_lookup_iff.mpr hslot
  · rintro ⟨entry,hentry,hfinished⟩
    exact ⟨⟨key,entry⟩,AList.mem_lookup_iff.mp hentry,if_pos hfinished⟩
 cases hget:s.runs.get key with
 | none=>
  rw [if_neg]
  · rfl
  · rw [hstale,hget]
    rintro ⟨entry,hentry,-⟩
    exact absurd hentry (by simp)
 | some entry=>
  rw [Option.filter_some]
  cases hfinished:s.finished env entry with
  | true=>exact if_pos (hstale.mpr ⟨entry,hget,hfinished⟩)
  | false=>
   apply if_neg
   rw [hstale,hget]
   rintro ⟨other,hother,hdone⟩
   rw [← Option.some.inj hother,hfinished] at hdone
   exact absurd hdone (by decide)

variable {s:LiveState}

theorem Indexed.pruneFinished (h:Indexed s.runs) : Indexed (s.pruneFinished env).runs :=
 h.foldl_removeKey _

variable {key:Text} {id:ℕ}

theorem kept_starting (h:s.runs.get key=some (.starting id)) : kept env s key=some (.starting id):=by
 unfold kept
 rw [h]
 rfl

variable {handle:ℕ}

theorem kept_running (h:s.runs.get key=some (.running handle))
 (hopen:(s.handles handle).completed=false) : kept env s key=some (.running handle):=by
 have hkept:s.finished env (.running handle)=false:=by
  change ((s.handles handle).completed&&_)=false
  rw [hopen,Bool.false_and]
 unfold kept
 rw [h,Option.filter_some,hkept]
 rfl

variable {entry:LiveRunEntry}

theorem kept_some (h:kept env s key=some entry) : s.runs.get key=some entry ∧ s.finished env entry=false:=by
 obtain ⟨hget,hopen⟩:=Option.filter_eq_some_iff.mp h
 exact ⟨hget,by simpa using hopen⟩

inductive Trimmed : Option LiveRunEntry → Option LiveRunEntry → Prop where
 | same (entry:Option LiveRunEntry) : Trimmed entry entry
 | dropped (runId:String) (fingerprint:UInt64) (until_:ℕ) (replay:Option Replay) :
  Trimmed (some (.succeeded runId fingerprint until_ replay))
   (some (.succeeded runId fingerprint until_ none))

theorem Trimmed.trans {a b c:Option LiveRunEntry} (h:Trimmed a b) (h':Trimmed b c) : Trimmed a c:=by
 cases h with
 | same=>exact h'
 | dropped runId fingerprint until_ replay=>
  cases h' with
  | same=>exact .dropped _ _ _ _
  | dropped=>exact .dropped _ _ _ _

theorem Trimmed.isSome {a b:Option LiveRunEntry} (h:Trimmed a b) : b.isSome=a.isSome:=by
 cases h with
 | same=>rfl
 | dropped=>rfl

theorem get_dropReplay (runs:LiveRunMap) (key k:Text) :
 Trimmed (runs.get k) ((LiveState.dropReplay runs key).get k):=by
 unfold LiveState.dropReplay
 cases hget:runs.get key with
 | none=>exact .same _
 | some entry=>
  cases entry with
  | succeeded runId fingerprint until_ replay=>
   by_cases hkey:k=key
   · have hnew:AList.lookup key
      (runs.runs.insert key (.succeeded runId fingerprint until_ none)) =
       some (.succeeded runId fingerprint until_ none) := AList.lookup_insert _
     rw [hkey,hget]
     unfold LiveRunMap.get
     dsimp only
     rw [hnew]
     exact .dropped _ _ _ _
   · unfold LiveRunMap.get
     dsimp only
     rw [AList.lookup_insert_ne hkey]
     exact .same _
  | starting=>exact .same _
  | running=>exact .same _
  | ambiguous=>exact .same _

theorem keysFor_dropReplay (runs:LiveRunMap) (key session:Text) :
 (LiveState.dropReplay runs key).keysFor session=runs.keysFor session:=by
 unfold LiveState.dropReplay
 split <;> rfl

theorem get_foldl_dropReplay (keys:List Text) (runs:LiveRunMap) (k:Text) :
 Trimmed (runs.get k) ((keys.foldl LiveState.dropReplay runs).get k):=by
 induction keys generalizing runs with
 | nil=>exact .same _
 | cons key keys ih=>exact (get_dropReplay runs key k).trans (ih _)

theorem keysFor_foldl_dropReplay (keys:List Text) (runs:LiveRunMap) (session:Text) :
 (keys.foldl LiveState.dropReplay runs).keysFor session=runs.keysFor session:=by
 induction keys generalizing runs with
 | nil=>rfl
 | cons key keys ih=>rw [List.foldl_cons,ih,keysFor_dropReplay]

theorem get_enforceReplayBudget (s:LiveState) (key:Text) :
 Trimmed (s.runs.get key) (s.enforceReplayBudget.runs.get key):=by
 unfold LiveState.enforceReplayBudget
 dsimp only
 split_ifs
 · exact .same _
 · exact get_foldl_dropReplay _ _ _

theorem Indexed.enforceReplayBudget (h:Indexed s.runs) : Indexed s.enforceReplayBudget.runs:=by
 have hkeys:∀ session,s.enforceReplayBudget.runs.keysFor session=s.runs.keysFor session:=by
  intro session
  unfold LiveState.enforceReplayBudget
  dsimp only
  split_ifs
  · rfl
  · exact keysFor_foldl_dropReplay _ _ _
 constructor
 · intro session key
   rw [hkeys,(get_enforceReplayBudget s key).isSome]
   exact h.listed session key
 · intro session
   rw [hkeys]
   exact h.once session

/-! A reservation is live until it is used up or cancelled; a run is up until it is completed,
cancelled, handed over, sealed or read out. -/

def Live (s:LiveState) (id:ℕ) (key:Text) : Prop :=
 ∃ reservation,s.reservations id=some reservation ∧ reservation.key=key ∧
  reservation.committed=false ∧ reservation.cancelled=false

def Up (s:LiveState) (handle:ℕ) (key:Text) : Prop :=
 s.published handle=some key ∧ (s.handles handle).completed=false ∧ (s.handles handle).cancelRequested=false

def RegistryCallKey : RegistryCall → Option Text
 | .reserveRun key | .tryClaimRunForOperation key _ | .claimReplacementForRun key _ _
 | .claimReplacementForOccupiedSlot key | .claimSuccessRelease key _
 | .claimAmbiguousRelease key _ | .cancelRun key | .cancelRunIfGeneration key _
 | .cancelRunningOnly key | .supersedeRun key | .probeRun key
 | .takeTerminalErrorMatchingRun key _=>some key
 | .sealSuccessIf _ _ _ _ | .prune=>none

/-- Why a slot is given to a new reservation; the run that it takes the slot from. -/
inductive Admission (env:LiveEnv) (s:LiveState) (key:Text) :
 RegistryCall → Option ℕ → Prop where
 | vacant {call:RegistryCall} (hkey:RegistryCallKey call=some key)
  (h:kept env s key=none) : Admission env s key call none
 | ambiguous {call:RegistryCall} {until_:ℕ} {stored fingerprint:UInt64}
  (h:kept env s key=some (.ambiguous until_ stored))
  (hother:ambiguousBlocksOperation stored fingerprint=false)
  (hcall:call=.tryClaimRunForOperation key fingerprint ∨
   call=.claimAmbiguousRelease key fingerprint) : Admission env s key call none
 | succeeded {call:RegistryCall} {runId:String} {until_:ℕ} {stored fingerprint:UInt64}
  {replay:Option Replay} (h:kept env s key=some (.succeeded runId stored until_ replay))
  (hother:stored≠fingerprint)
  (hcall:call=.tryClaimRunForOperation key fingerprint ∧ fingerprint≠0 ∨
   call=.claimSuccessRelease key fingerprint) : Admission env s key call none
 | generation {runId:String} {until_:ℕ} {stored:UInt64} {replay:Option Replay}
  {fresh:Bool} (h:kept env s key=some (.succeeded runId stored until_ replay)) :
  Admission env s key (.claimReplacementForRun key runId fresh) none
 | replaced {handle:ℕ} {fresh:Bool} (h:kept env s key=some (.running handle)) :
  Admission env s key (.claimReplacementForRun key (s.handles handle).runId fresh) (some handle)
 | superseded {handle:ℕ} (h:kept env s key=some (.running handle)) :
  Admission env s key (.supersedeRun key) (some handle)

def LiveReply.reservation : LiveReply → Option ℕ
 | .reserved id _=>some id
 | _=>none

/-- What a step does to the slots, to the live reservations and to the runs that are up. -/
inductive Effect (env:LiveEnv) (s:LiveState) : LiveAction → LiveState → LiveReply → Prop where
 | quiet {action:LiveAction} {s':LiveState} {reply:LiveReply}
  (hslots:∀ k,s'.runs.get k=s.runs.get k ∨ s'.runs.get k=kept env s k)
  (hlive:∀ id k,Live s' id k → Live s id k) (hup:∀ h k,Up s' h k → Up s h k)
  (hreply:LiveReply.reservation reply=none)
  (hindexed:Indexed s.runs → Indexed s'.runs) : Effect env s action s' reply
 | admitted {call:RegistryCall} {s':LiveState} {reply:LiveReply} {key:Text}
  {taken:Option ℕ} (hadmission:Admission env s key call taken)
  (hslots:∀ k,s'.runs.get k=if k=key then some (.starting s.issued) else kept env s k)
  (hlive:∀ id k,Live s' id k → Live s id k ∨ id=s.issued ∧ k=key)
  (hup:∀ h k,Up s' h k → Up s h k ∧ taken≠some h)
  (hindexed:Indexed s.runs → Indexed s'.runs) : Effect env s (.call call) s' reply
 | aborted {s':LiveState} {reply:LiveReply} {key:Text} {id:ℕ}
  (h:s.runs.get key=some (.starting id))
  (hslots:∀ k,s'.runs.get k=if k=key then none else kept env s k)
  (hlive:∀ i k,Live s' i k → Live s i k ∧ i≠id) (hup:∀ h k,Up s' h k → Up s h k)
  (hreply:LiveReply.reservation reply=none)
  (hindexed:Indexed s.runs → Indexed s'.runs) : Effect env s (.call (.cancelRun key)) s' reply
 | stopped {call:RegistryCall} {s':LiveState} {reply:LiveReply} {key:Text} {handle:ℕ}
  (entry:Option LiveRunEntry) (h:kept env s key=some (.running handle))
  (hslots:∀ k,s'.runs.get k=if k=key then entry else kept env s k)
  (hlive:∀ id k,Live s' id k → Live s id k) (hup:∀ h k,Up s' h k → Up s h k ∧ h≠handle)
  (hreply:LiveReply.reservation reply=none)
  (hindexed:Indexed s.runs → Indexed s'.runs) : Effect env s (.call call) s' reply
 | sealed {action:LiveAction} {s':LiveState} {reply:LiveReply} {key:Text} {handle:ℕ}
  (entry:LiveRunEntry) (h:s.runs.get key=some (.running handle))
  (hslots:∀ k,Trimmed (if k=key then some entry else s.runs.get k) (s'.runs.get k))
  (hlive:∀ id k,Live s' id k → Live s id k) (hup:∀ h k,Up s' h k → Up s h k ∧ h≠handle)
  (hreply:LiveReply.reservation reply=none)
  (hindexed:Indexed s.runs → Indexed s'.runs) : Effect env s action s' reply
 | used {call:HolderCall} {s':LiveState} {reply:LiveReply} {key:Text} {id:ℕ}
  (entry:Option LiveRunEntry) (h:s.runs.get key=some (.starting id))
  (hslots:∀ k,s'.runs.get k=if k=key then entry else s.runs.get k)
  (hlive:∀ i k,Live s' i k → Live s i k ∧ i≠id) (hup:∀ h k,Up s' h k → Up s h k)
  (hreply:LiveReply.reservation reply=none)
  (hindexed:Indexed s.runs → Indexed s'.runs) : Effect env s (.holder id call) s' reply
 | published {action:LiveAction} {s':LiveState} {reply:LiveReply} {id:ℕ} (key:Text)
  (handle:ℕ) (h:kept env s key=none ∨ kept env s key=some (.starting id))
  (hslots:∀ k,s'.runs.get k=if k=key then some (.running handle) else kept env s k)
  (hlive:∀ i k,Live s' i k → Live s i k ∧ i≠id)
  (hup:∀ h k,Up s' h k → if h=handle then k=key else Up s h k)
  (hreply:LiveReply.reservation reply=none)
  (hindexed:Indexed s.runs → Indexed s'.runs) : Effect env s action s' reply

/-- A live reservation has its slot, and so has a run that is up. -/
structure Occupied (s:LiveState) : Prop where
 reserved : ∀ id key,Live s id key → s.runs.get key=some (.starting id)
 running : ∀ handle key,Up s handle key → s.runs.get key=some (.running handle)

theorem Occupied.kept_reserved (h:Occupied s) (hlive:Live s id key) : kept env s key=some (.starting id) :=
 kept_starting (h.reserved id key hlive)

theorem Occupied.kept_up (h:Occupied s) (hup:Up s handle key) : kept env s key=some (.running handle) :=
 kept_running (h.running handle key hup) hup.2.1

theorem Occupied.reserved_ne (h:Occupied s) {k:Text} (hlive:Live s id k)
 (hslot:s.runs.get key=some entry) (hentry:entry ≠ .starting id) : k≠key:=by
 rintro rfl
 rw [h.reserved id k hlive] at hslot
 exact hentry (Option.some.inj hslot).symm

theorem Occupied.up_ne (h:Occupied s) {k:Text} (hup:Up s handle k)
 (hslot:s.runs.get key=some entry) (hentry:entry ≠ .running handle) : k≠key:=by
 rintro rfl
 rw [h.running handle k hup] at hslot
 exact hentry (Option.some.inj hslot).symm

theorem Admission.not_starting {call:RegistryCall} {taken:Option ℕ}
 (h:Admission env s key call taken) (id:ℕ) : kept env s key≠some (.starting id):=by
 intro hstarting
 cases h with
 | vacant _ hslot=>simp [hslot] at hstarting
 | ambiguous hslot=>simp [hslot] at hstarting
 | succeeded hslot=>simp [hslot] at hstarting
 | generation hslot=>simp [hslot] at hstarting
 | replaced hslot=>simp [hslot] at hstarting
 | superseded hslot=>simp [hslot] at hstarting

theorem Admission.running {call:RegistryCall} {taken:Option ℕ}
 (h:Admission env s key call taken) (hrunning:kept env s key=some (.running handle)) : taken=some handle:=by
 cases h with
 | vacant _ hslot=>simp [hslot] at hrunning
 | ambiguous hslot=>simp [hslot] at hrunning
 | succeeded hslot=>simp [hslot] at hrunning
 | generation hslot=>simp [hslot] at hrunning
 | replaced hslot=>
  rw [hslot] at hrunning
  exact congrArg some (LiveRunEntry.running.inj (Option.some.inj hrunning))
 | superseded hslot=>
  rw [hslot] at hrunning
  exact congrArg some (LiveRunEntry.running.inj (Option.some.inj hrunning))

theorem Effect.indexed {s':LiveState} {action:LiveAction} {reply:LiveReply}
 (heffect:Effect env s action s' reply) (h:Indexed s.runs) : Indexed s'.runs:=by
 cases heffect with
 | quiet _ _ _ _ hindexed=>exact hindexed h
 | admitted _ _ _ _ hindexed=>exact hindexed h
 | aborted _ _ _ _ _ hindexed=>exact hindexed h
 | stopped _ _ _ _ _ _ hindexed=>exact hindexed h
 | sealed _ _ _ _ _ _ hindexed=>exact hindexed h
 | used _ _ _ _ _ _ hindexed=>exact hindexed h
 | published _ _ _ _ _ _ _ hindexed=>exact hindexed h

theorem Effect.occupied {s':LiveState} {action:LiveAction} {reply:LiveReply}
 (heffect:Effect env s action s' reply) (h:Occupied s) : Occupied s':=by
 cases heffect with
 | quiet hslots hlive hup _ _=>
  constructor
  · intro id key hid
    have hold:=hlive id key hid
    rcases hslots key with hslot | hslot
    · rw [hslot,h.reserved id key hold]
    · rw [hslot,h.kept_reserved hold]
  · intro handle key hhandle
    have hold:=hup handle key hhandle
    rcases hslots key with hslot | hslot
    · rw [hslot,h.running handle key hold]
    · rw [hslot,h.kept_up hold]
 | @admitted call _ _ key taken hadmission hslots hlive hup _=>
  constructor
  · intro id k hid
    rw [hslots]
    rcases hlive id k hid with hold | ⟨rfl,rfl⟩
    · rw [if_neg]
      · exact h.kept_reserved hold
      · rintro rfl
        exact hadmission.not_starting id (h.kept_reserved hold)
    · exact if_pos rfl
  · intro handle k hhandle
    obtain ⟨hold,htaken⟩:=hup handle k hhandle
    rw [hslots,if_neg]
    · exact h.kept_up hold
    · rintro rfl
      exact htaken (hadmission.running (h.kept_up hold))
 | @aborted _ _ key id hslot hslots hlive hup _ _=>
  constructor
  · intro i k hi
    obtain ⟨hold,hother⟩:=hlive i k hi
    have hne:=h.reserved_ne hold hslot fun hsame=>hother (LiveRunEntry.starting.inj hsame).symm
    rw [hslots,if_neg hne,h.kept_reserved hold]
  · intro handle k hhandle
    have hold:=hup handle k hhandle
    rw [hslots,if_neg (h.up_ne hold hslot nofun),h.kept_up hold]
 | @stopped call _ _ key handle entry hslot hslots hlive hup _ _=>
  obtain ⟨hslot,-⟩:=kept_some hslot
  constructor
  · intro id k hid
    have hold:=hlive id k hid
    rw [hslots,if_neg (h.reserved_ne hold hslot nofun),h.kept_reserved hold]
  · intro other k hother
    obtain ⟨hold,hapart⟩:=hup other k hother
    have hne:=h.up_ne hold hslot fun hsame=>hapart (LiveRunEntry.running.inj hsame).symm
    rw [hslots,if_neg hne,h.kept_up hold]
 | @sealed action _ _ key handle entry hslot hslots hlive hup _ _=>
  constructor
  · intro id k hid
    have hold:=h.reserved id k (hlive id k hid)
    have hkey:=h.reserved_ne (hlive id k hid) hslot nofun
    have hnew:=hslots k
    rw [if_neg hkey,hold] at hnew
    generalize s'.runs.get k=new at hnew
    cases hnew with
    | same=>rfl
  · intro other k hother
    obtain ⟨hup',hne⟩:=hup other k hother
    have hold:=h.running other k hup'
    have hkey:=h.up_ne hup' hslot fun hsame=>hne (LiveRunEntry.running.inj hsame).symm
    have hnew:=hslots k
    rw [if_neg hkey,hold] at hnew
    generalize s'.runs.get k=new at hnew
    cases hnew with
    | same=>rfl
 | @used call _ _ key id entry hslot hslots hlive hup _ _=>
  constructor
  · intro i k hi
    obtain ⟨hold,hother⟩:=hlive i k hi
    have hne:=h.reserved_ne hold hslot fun hsame=>hother (LiveRunEntry.starting.inj hsame).symm
    rw [hslots,if_neg hne,h.reserved i k hold]
  · intro handle k hhandle
    have hold:=hup handle k hhandle
    rw [hslots,if_neg (h.up_ne hold hslot nofun),h.running handle k hold]
 | @published action _ _ id key handle hslot hslots hlive hup _ _=>
  constructor
  · intro i k hi
    obtain ⟨hold,hother⟩:=hlive i k hi
    rw [hslots,if_neg]
    · exact h.kept_reserved hold
    · rintro rfl
      rw [h.kept_reserved hold] at hslot
      rcases hslot with hslot | hslot
      · exact absurd hslot (by simp)
      · exact hother (LiveRunEntry.starting.inj (Option.some.inj hslot))
  · intro other k hother
    have hnew:=hup other k hother
    rw [hslots]
    split_ifs at hnew with hsame
    · rw [if_pos hnew,hsame]
    · rw [if_neg]
      · exact h.kept_up hnew
      · rintro rfl
        rw [h.kept_up hnew] at hslot
        rcases hslot with hslot | hslot
        · exact absurd hslot (by simp)
        · exact absurd hslot (by simp)

end CursorProxy.LiveSlots
