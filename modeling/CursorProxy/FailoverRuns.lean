import CursorProxy.AccountFailover

namespace CursorProxy.FailoverRuns
open XmlElements AccountFailover

def idsOf (call:Call) (token:Text) : List Text :=
 (call.profiles.filter fun profile=>trim profile.accessToken=token).map
  CursorAccountProfile.id

def currentIds (call:Call) : List Text :=
 (call.profiles.filter fun profile=>profile.accessToken=call.currentToken).map
  CursorAccountProfile.id

def grantCount (log:List Event) : ℕ :=
 log.countP fun event=>match event with
  | .granted _ _ _=>true
  | _=>false

section statement
variable (env:FailoverEnv)

/-- A candidate that an earlier part of the log allows. -/
structure GrantSound (earlier:List Event) (call:Call) (moment:Moment) (token:Text) :
  Prop where
 current : cursorAccountDigest env token≠cursorAccountDigest env call.currentToken ∧
  ∀ id∈idsOf call token,id ∉ currentIds call
 granted : ∀ call' moment' token', .granted call' moment' token'∈earlier →
  cursorAccountDigest env token≠cursorAccountDigest env token' ∧ ∀ id∈idsOf call token,id ∉ idsOf call' token'
 marked : ∀ id' digest', .marked id' digest'∈earlier →
  cursorAccountDigest env token≠digest' ∧ ∀ id∈idsOf call token,id'≠some id
 selected : ∃ profile∈call.profiles,trim profile.accessToken=token ∧ selectorAllows moment call.model profile=true
 available : cooledDown moment call.model call.clientType token=false ∧ exhausted moment call.clientType token=false
 within : grantCount earlier+1 ≤ accountFailoverSwapLimit call.profiles

def LogSound : List Event → Prop
 | []=>True
 | .granted call moment token::earlier=>
  GrantSound env earlier call moment token ∧ LogSound earlier
 | _::earlier=>LogSound earlier

/-- The profile that is found for a token has the id of every profile with the token. -/
def FoundAgain (call:Call) (token:Text) : Prop :=
 ∀ profile∈call.profiles,trim profile.accessToken=token → profileIdOf call.profiles token=some profile.id

end statement

section runs
variable {κ:Type} [DecidableEq κ] (env:FailoverEnv)

/-- A caller that claims an account finds its candidates again. -/
def StepMet (s:FailoverState κ) : Action κ → Prop
 | .claim key=>match s.callers key with
  | .chosen call _ candidates=>∀ token∈candidates,FoundAgain call token
  | _=>True
 | _=>True

def Met : FailoverState κ → List (Action κ) → Prop
 | _,[]=>True
 | s,action::actions=>StepMet s action ∧ Met (s.step env action) actions

structure CandidateSound (call:Call) (moment:Moment) (token:Text) : Prop where
 current : cursorAccountDigest env token≠cursorAccountDigest env call.currentToken
 selected : ∃ profile∈call.profiles,trim profile.accessToken=token ∧ selectorAllows moment call.model profile=true
 available : cooledDown moment call.model call.clientType token=false ∧ exhausted moment call.clientType token=false

variable {call:Call} {moment:Moment} {attempted:List Text}

theorem candidateOf_some {profile:CursorAccountProfile} {candidate:Text×Text}
  (h:candidateOf env moment call attempted profile=some candidate) :
  trim profile.accessToken=candidate.2 ∧
   cursorAccountDigest env candidate.2≠cursorAccountDigest env call.currentToken ∧
   selectorAllows moment call.model profile=true ∧ cooledDown moment call.model call.clientType candidate.2=false ∧
   exhausted moment call.clientType candidate.2=false:=by
 unfold candidateOf at h
 dsimp only at h
 split_ifs at h with hempty hseen hselector hcooled hexhausted
 obtain rfl:=Option.some.inj h
 rw [Bool.not_eq_true] at hcooled hexhausted
 rw [Bool.not_eq_true',Bool.not_eq_false] at hselector
 refine ⟨rfl,fun hsame=>hseen ?_,hselector,hcooled,hexhausted⟩
 rw [decide_eq_true hsame]
 rfl

variable {token:Text}

theorem candidates_sound (h:token∈accountFailoverCandidates env moment call attempted) :
  CandidateSound env call moment token:=by
 unfold accountFailoverCandidates at h
 obtain ⟨candidate,hmem,rfl⟩:=List.mem_map.mp h
 rw [List.mem_insertionSort,List.mem_filterMap] at hmem
 obtain ⟨profile,hprofile,hcandidate⟩:=hmem
 obtain ⟨htoken,hcurrent,hselector,hcooled,hexhausted⟩:=candidateOf_some env hcandidate
 exact ⟨hcurrent,⟨profile,hprofile,htoken,hselector⟩,hcooled,hexhausted⟩

theorem mem_walk {candidates:List Text} {offset:ℕ} (h:token∈walk candidates offset) : token∈candidates:=by
 obtain ⟨step,-,hstep⟩:=List.mem_filterMap.mp h
 exact List.mem_of_getElem? hstep

/-- What is known of a caller while the others take their turns. -/
def PhaseSound (attempted:List Text) : Phase → Prop
 | .idle=>True
 | .entered call=>∀ id∈currentIds call,id∈attempted
 | .read call _=>∀ id∈currentIds call,id∈attempted
 | .chosen call moment candidates=>(∀ id∈currentIds call,id∈attempted) ∧
  ∀ token∈candidates,CandidateSound env call moment token

/-- Whatever was granted or marked is attempted, and the swaps count the grants. -/
structure Recorded (s:FailoverState κ) : Prop where
 swaps : s.swaps=grantCount s.log
 granted : ∀ call moment token, .granted call moment token∈s.log →
  cursorAccountDigest env token∈s.attempted ∧ ∀ id∈idsOf call token,id∈s.attempted
 marked : ∀ id digest, .marked id digest∈s.log → digest∈s.attempted ∧ ∀ id'∈id,id'∈s.attempted

structure Inv (s:FailoverState κ) : Prop where
 recorded : Recorded env s
 phases : ∀ key,PhaseSound env s.attempted (s.callers key)
 log : LogSound env s.log

variable {phase:Phase}

theorem PhaseSound.mono {attempted':List Text} (h:PhaseSound env attempted phase)
  (hsub:∀ text∈attempted,text∈attempted') : PhaseSound env attempted' phase:=by
 cases phase with
 | idle=>trivial
 | entered call=>exact fun id hid=>hsub id (h id hid)
 | read call _=>exact fun id hid=>hsub id (h id hid)
 | chosen call moment candidates=>exact ⟨fun id hid=>hsub id (h.1 id hid),h.2⟩

variable {s:FailoverState κ}

theorem phases_update (h:∀ key,PhaseSound env s.attempted (s.callers key))
  (hsub:∀ text∈s.attempted,text∈attempted) (key:κ) (hphase:PhaseSound env attempted phase) (key':κ) :
  PhaseSound env attempted (Function.update s.callers key phase key'):=by
 by_cases hkey:key'=key
 · subst hkey
   rw [Function.update_self]
   exact hphase
 · rw [Function.update_of_ne hkey]
   exact (h key').mono env hsub

variable {env}

theorem Inv.refuse (h:Inv env s) (key:κ) (call:Call) : Inv env (s.refuse key call):=by
 refine ⟨⟨h.recorded.swaps,fun call' moment token hmem=>?_,fun id digest hmem=>?_⟩,
  phases_update env h.phases (fun _ hmem=>hmem) key trivial,h.log⟩
 · rcases List.mem_cons.mp hmem with heq | hmem
   · exact (nomatch heq)
   · exact h.recorded.granted call' moment token hmem
 · rcases List.mem_cons.mp hmem with heq | hmem
   · exact (nomatch heq)
   · exact h.recorded.marked id digest hmem

theorem Inv.moved (h:Inv env s) (key:κ) (hphase:PhaseSound env s.attempted phase) : Inv env (s.moved key phase) :=
 ⟨⟨h.recorded.swaps,h.recorded.granted,h.recorded.marked⟩,
  phases_update env h.phases (fun _ hmem=>hmem) key hphase,h.log⟩

omit [DecidableEq κ] in
theorem Inv.markPreRebalance (h:Inv env s) (previousId:Option Text) (previousDigest:Text)
  (rebalanced:Bool) : Inv env (s.markPreRebalance previousId previousDigest rebalanced):=by
 unfold FailoverState.markPreRebalance
 split_ifs
 · have hsub:∀ text∈s.attempted,text∈previousId.toList++previousDigest::s.attempted :=
    fun text hmem=>List.mem_append_right _ (List.mem_cons_of_mem _ hmem)
   refine ⟨⟨h.recorded.swaps,fun call moment token hmem=>?_,fun id digest hmem=>?_⟩,
    fun key=>(h.phases key).mono env hsub,h.log⟩
   · rcases List.mem_cons.mp hmem with heq | hmem
     · exact (nomatch heq)
     · have hold:=h.recorded.granted call moment token hmem
       exact ⟨hsub _ hold.1,fun id hid=>hsub _ (hold.2 id hid)⟩
   · rcases List.mem_cons.mp hmem with heq | hmem
     · obtain ⟨rfl,rfl⟩:=Event.marked.inj heq
       refine ⟨List.mem_append_right _ List.mem_cons_self,fun id' hid'=>?_⟩
       exact List.mem_append_left _ (Option.mem_toList.mpr hid')
     · have hold:=h.recorded.marked id digest hmem
       exact ⟨hsub _ hold.1,fun id' hid'=>hsub _ (hold.2 id' hid')⟩
 · exact h

theorem Inv.enter (h:Inv env s) (key:κ) (call:Call) : Inv env (s.enter key call):=by
 unfold FailoverState.enter
 cases s.callers key with
 | idle=>
  have hsub:∀ text∈s.attempted,text∈currentIds call++s.attempted :=
   fun text hmem=>List.mem_append_right _ hmem
  refine ⟨⟨h.recorded.swaps,fun call' moment token hmem=>?_,fun id digest hmem=>?_⟩,
   phases_update env h.phases hsub key fun id hid=>List.mem_append_left _ hid,h.log⟩
  · have hold:=h.recorded.granted call' moment token hmem
    exact ⟨hsub _ hold.1,fun id hid=>hsub _ (hold.2 id hid)⟩
  · have hold:=h.recorded.marked id digest hmem
    exact ⟨hsub _ hold.1,fun id' hid'=>hsub _ (hold.2 id' hid')⟩
 | entered _=>exact h
 | read _ _=>exact h
 | chosen _ _ _=>exact h

theorem Inv.read (h:Inv env s) (key:κ) : Inv env (s.read key):=by
 have hphase:=h.phases key
 unfold FailoverState.read
 cases hcase:s.callers key with
 | entered call=>
  rw [hcase] at hphase
  dsimp only
  split_ifs
  · exact h.refuse key call
  · exact h.moved key hphase
 | idle=>exact h
 | read _ _=>exact h
 | chosen _ _ _=>exact h

theorem Inv.select (h:Inv env s) (key:κ) (moment:Moment) : Inv env (s.select env key moment):=by
 have hphase:=h.phases key
 unfold FailoverState.select
 cases hcase:s.callers key with
 | read call attempted=>
  rw [hcase] at hphase
  exact h.moved key ⟨hphase,fun token hmem=>candidates_sound env hmem⟩
 | idle=>exact h
 | entered _=>exact h
 | chosen _ _ _=>exact h

omit [DecidableEq κ] in
theorem grantSound (h:Recorded env s) (hcurrent:∀ id∈currentIds call,id∈s.attempted)
  (hcandidate:CandidateSound env call moment token) (hlimit:¬accountFailoverSwapLimit call.profiles ≤ s.swaps)
  (hfresh:isAttempted env s.attempted call.profiles token=false)
  (hfound:FoundAgain call token) : GrantSound env s.log call moment token:=by
 unfold isAttempted at hfresh
 rw [Bool.or_eq_false_iff,List.contains_eq_mem,decide_eq_false_iff_not] at hfresh
 obtain ⟨hdigest,hid⟩:=hfresh
 have hids:∀ id∈idsOf call token,id ∉ s.attempted:=by
  intro id hmem hattempted
  obtain ⟨profile,hprofile,rfl⟩:=List.mem_map.mp hmem
  obtain ⟨hprofile,htoken⟩:=List.mem_filter.mp hprofile
  rw [hfound profile hprofile (of_decide_eq_true htoken),Option.any_some,
   List.contains_eq_mem,decide_eq_false_iff_not] at hid
  exact hid hattempted
 constructor
 · exact ⟨hcandidate.current,fun id hmem hsame=>hids id hmem (hcurrent id hsame)⟩
 · intro call' moment' token' hmem
   obtain ⟨hdigest',hids'⟩:=h.granted call' moment' token' hmem
   exact ⟨fun hsame=>hdigest (hsame ▸ hdigest'),fun id hid hid'=>
    hids id hid (hids' id hid')⟩
 · intro id' digest' hmem
   obtain ⟨hdigest',hid'⟩:=h.marked id' digest' hmem
   exact ⟨fun hsame=>hdigest (hsame ▸ hdigest'),fun id hid hsame=>
    hids id hid (hid' id hsame)⟩
 · exact hcandidate.selected
 · exact hcandidate.available
 · rw [← h.swaps]
   exact Nat.not_le.mp hlimit

theorem Inv.grant (h:Inv env s) (key:κ) (hgrant:GrantSound env s.log call moment token)
  (hfound:FoundAgain call token) : Inv env (s.grant env key call moment token):=by
 have hsub:∀ text∈s.attempted,text∈(profileIdOf call.profiles token).toList ++
   cursorAccountDigest env token::s.attempted :=
  fun text hmem=>List.mem_append_right _ (List.mem_cons_of_mem _ hmem)
 have hswaps:(s.grant env key call moment token).swaps = grantCount (.granted call moment token::s.log) :=
  (congrArg (· + 1) h.recorded.swaps).trans (List.countP_cons_of_pos rfl).symm
 refine ⟨⟨hswaps,fun call' moment' token' hmem=>?_,fun id digest hmem=>?_⟩,
  phases_update env h.phases hsub key trivial,hgrant,h.log⟩
 · rcases List.mem_cons.mp hmem with heq | hmem
   · obtain ⟨rfl,rfl,rfl⟩:=Event.granted.inj heq
     refine ⟨List.mem_append_right _ List.mem_cons_self,fun id hid=>?_⟩
     obtain ⟨profile,hprofile,rfl⟩:=List.mem_map.mp hid
     obtain ⟨hprofile,htoken⟩:=List.mem_filter.mp hprofile
     refine List.mem_append_left _ (Option.mem_toList.mpr ?_)
     exact hfound profile hprofile (of_decide_eq_true htoken)
   · have hold:=h.recorded.granted call' moment' token' hmem
     exact ⟨hsub _ hold.1,fun id hid=>hsub _ (hold.2 id hid)⟩
 · rcases List.mem_cons.mp hmem with heq | hmem
   · exact (nomatch heq)
   · have hold:=h.recorded.marked id digest hmem
     exact ⟨hsub _ hold.1,fun id' hid'=>hsub _ (hold.2 id' hid')⟩

theorem Inv.claim (h:Inv env s) (key:κ) (hmet:StepMet s (.claim key)) : Inv env (s.claim env key):=by
 have hphase:=h.phases key
 unfold FailoverState.claim
 cases hcase:s.callers key with
 | chosen call moment candidates=>
  unfold StepMet at hmet
  dsimp only at hmet
  rw [hcase] at hphase hmet
  dsimp only at hmet ⊢
  split_ifs with hlimit
  · exact h.refuse key call
  · cases hfind:(walk candidates call.offset).find? fun token=>
      !isAttempted env s.attempted call.profiles token with
    | none=>exact h.refuse key call
    | some token=>
     have hmem:token∈candidates:=mem_walk (List.mem_of_find?_eq_some hfind)
     have hfresh:=List.find?_some hfind
     rw [Bool.not_eq_true'] at hfresh
     exact h.grant key (grantSound h.recorded hphase.1 (hphase.2 token hmem) hlimit hfresh
      (hmet token hmem)) (hmet token hmem)
 | idle=>exact h
 | entered _=>exact h
 | read _ _=>exact h

theorem Inv.step (h:Inv env s) (action:Action κ) (hmet:StepMet s action) : Inv env (s.step env action):=by
 cases action with
 | markPreRebalance previousId previousDigest rebalanced=>
  exact h.markPreRebalance previousId previousDigest rebalanced
 | enter key call=>exact h.enter key call
 | read key=>exact h.read key
 | select key moment=>exact h.select key moment
 | claim key=>exact h.claim key hmet

omit [DecidableEq κ] in
theorem inv_new (currentToken:Text) : Inv env (FailoverState.new env currentToken : FailoverState κ):=by
 refine ⟨⟨rfl,fun call moment token hmem=>?_,fun id digest hmem=>?_⟩,
  fun _=>trivial,trivial⟩
 · exact (nomatch List.mem_singleton.mp hmem)
 · obtain ⟨rfl,rfl⟩:=Event.marked.inj (List.mem_singleton.mp hmem)
   exact ⟨List.mem_cons_self,fun id' hid'=>(nomatch hid')⟩

theorem inv_run (actions:List (Action κ)) : ∀ s:FailoverState κ,Inv env s →
  Met env s actions → Inv env (s.run env actions):=by
 induction actions with
 | nil=>exact fun _ h _=>h
 | cons action actions ih=>
  intro s h hmet
  exact ih _ (h.step action hmet.1) hmet.2

/-- No account is taken twice, in any run whose callers find their candidates again. -/
theorem accounts_never_revisited (env:FailoverEnv) (currentToken:Text)
    (actions:List (Action κ)) (hmet:Met env (.new env currentToken) actions) :
    LogSound env ((FailoverState.new env currentToken).run env actions).log ∧
      Recorded env ((FailoverState.new env currentToken).run env actions):=by
  have h:=inv_run actions _ (inv_new currentToken) hmet
  exact ⟨h.log,h.recorded⟩

def callOf : Phase → Option Call
 | .idle=>none
 | .entered call=>some call
 | .read call _=>some call
 | .chosen call _ _=>some call

theorem callOf_update {P:Call → Prop} (h:∀ key,∀ call∈callOf (s.callers key),P call)
  (key:κ) (hphase:∀ call∈callOf phase,P call) (key':κ) :
  ∀ call∈callOf (Function.update s.callers key phase key'),P call:=by
 by_cases hkey:key'=key
 · subst hkey
   rw [Function.update_self]
   exact hphase
 · rw [Function.update_of_ne hkey]
   exact h key'

theorem callOf_step (s:FailoverState κ) (action:Action κ) {P:Call → Prop} (h:∀ key,∀ call∈callOf (s.callers key),P call)
  (haction:∀ key call,action=.enter key call → P call) :
  ∀ key,∀ call∈callOf ((s.step env action).callers key),P call:=by
 cases action with
 | markPreRebalance previousId previousDigest rebalanced=>
  change ∀ key,∀ call∈callOf ((s.markPreRebalance previousId previousDigest rebalanced).callers key),P call
  unfold FailoverState.markPreRebalance
  split_ifs <;> exact h
 | enter key call=>
  change ∀ key',∀ call'∈callOf ((s.enter key call).callers key'),P call'
  unfold FailoverState.enter
  cases s.callers key with
  | idle=>exact callOf_update h key fun call' hcall=>Option.some.inj hcall ▸ haction key call rfl
  | entered _=>exact h
  | read _ _=>exact h
  | chosen _ _ _=>exact h
 | read key=>
  have hkey:=h key
  change ∀ key',∀ call∈callOf ((s.read key).callers key'),P call
  unfold FailoverState.read
  cases hcase:s.callers key with
  | entered call=>
   rw [hcase] at hkey
   dsimp only
   split_ifs
   · exact callOf_update h key fun _ hnone=>(nomatch hnone)
   · exact callOf_update h key hkey
  | idle=>exact h
  | read _ _=>exact h
  | chosen _ _ _=>exact h
 | select key moment=>
  have hkey:=h key
  change ∀ key',∀ call∈callOf ((s.select env key moment).callers key'),P call
  unfold FailoverState.select
  cases hcase:s.callers key with
  | read call attempted=>
   rw [hcase] at hkey
   exact callOf_update h key hkey
  | idle=>exact h
  | entered _=>exact h
  | chosen _ _ _=>exact h
 | claim key=>
  change ∀ key',∀ call∈callOf ((s.claim env key).callers key'),P call
  unfold FailoverState.claim
  cases s.callers key with
  | chosen call moment candidates=>
   dsimp only
   split_ifs
   · exact callOf_update h key fun _ hnone=>(nomatch hnone)
   · cases (walk candidates call.offset).find? fun token=>
       !isAttempted env s.attempted call.profiles token with
     | none=>exact callOf_update h key fun _ hnone=>(nomatch hnone)
     | some token=>exact callOf_update h key fun _ hnone=>(nomatch hnone)
  | idle=>exact h
  | entered _=>exact h
  | read _ _=>exact h

theorem met_of_snapshots (actions:List (Action κ)) : ∀ s:FailoverState κ,
  (∀ key,∀ call∈callOf (s.callers key),∀ token,FoundAgain call token) →
  (∀ key call, .enter key call∈actions → ∀ token,FoundAgain call token) → Met env s actions:=by
 induction actions with
 | nil=>exact fun _ _ _=>trivial
 | cons action actions ih=>
  intro s hs hactions
  have hnext:∀ key,∀ call∈callOf ((s.step env action).callers key),∀ token,FoundAgain call token :=
   callOf_step s action hs fun key call heq=>hactions key call (heq ▸ List.mem_cons_self)
  refine ⟨?_,ih _ hnext fun key call hmem=>hactions key call (List.mem_cons_of_mem _ hmem)⟩
  cases action with
  | claim key=>
   have hkey:=hs key
   unfold StepMet
   dsimp only
   cases hcase:s.callers key with
   | chosen call moment candidates=>
    rw [hcase] at hkey
    exact fun token _=>hkey call rfl token
   | idle=>trivial
   | entered _=>trivial
   | read _ _=>trivial
  | markPreRebalance _ _ _=>trivial
  | enter _ _=>trivial
  | read _=>trivial
  | select _ _=>trivial

end runs

def sampleEnv : FailoverEnv := ⟨fun _=>none,id⟩

/-- No model is pinned, and no account is cooled down or exhausted. -/
def sampleMoment : Moment :=
 ⟨fun _=>none,fun _ _ _=>false,fun _ _=>false,fun _=>none⟩

def sampleProfile (id token:Text) : CursorAccountProfile := ⟨id,none,none,token⟩

def sampleCall (current:Text) (profiles:List CursorAccountProfile) : Call :=
 ⟨profiles,current,"m".toList,"cli".toList,0⟩

def turns (call:Call) : List (Action ℕ) :=
 [.enter 0 call,.read 0,.select 0 sampleMoment,.claim 0]

theorem accounts_never_revisited_pair :
    LogSound sampleEnv ((FailoverState.new sampleEnv ['x']).run sampleEnv
      (turns (sampleCall ['x'] [sampleProfile ['a'] ['1'],sampleProfile ['c'] ['x']]))).log ∧
    Recorded sampleEnv ((FailoverState.new sampleEnv ['x']).run sampleEnv
      (turns (sampleCall ['x'] [sampleProfile ['a'] ['1'],sampleProfile ['c'] ['x']]))):=by
  refine accounts_never_revisited sampleEnv ['x'] _ (met_of_snapshots _ _ ?_ ?_)
  · intro key call hcall
    exact (nomatch hcall)
  · intro key call hmem token profile hprofile htoken
    obtain ⟨-,rfl⟩ : key=0 ∧ call=sampleCall ['x'] [sampleProfile ['a'] ['1'],sampleProfile ['c'] ['x']]:=by
      simpa [turns] using hmem
    rw [← htoken]
    have hall:∀ profile∈[sampleProfile ['a'] ['1'],sampleProfile ['c'] ['x']],
        profileIdOf [sampleProfile ['a'] ['1'],sampleProfile ['c'] ['x']]
          (trim profile.accessToken)=some profile.id:=by
      decide
    exact hall profile hprofile

def paddedRun : List (Action ℕ) :=
 turns (sampleCall ['x'] [sampleProfile ['a'] [' ','1'],sampleProfile ['b'] ['3'],sampleProfile ['c'] ['x']]) ++
 turns (sampleCall ['1'] [sampleProfile ['a'] ['2'],sampleProfile ['b'] ['3'],sampleProfile ['c'] ['x']])

/-- The token of an account has a space before it; after its rotation the account is taken again. -/
theorem padded_account_revisited :
    ¬ ∀ (env:FailoverEnv) (currentToken:Text) (actions:List (Action ℕ)),
      LogSound env ((FailoverState.new env currentToken).run env actions).log:=by
  intro h
  have hlog:((FailoverState.new sampleEnv ['x']).run sampleEnv paddedRun).log =
    [.granted (sampleCall ['1'] [sampleProfile ['a'] ['2'],sampleProfile ['b'] ['3'],
        sampleProfile ['c'] ['x']]) sampleMoment ['2'],
      .granted (sampleCall ['x'] [sampleProfile ['a'] [' ','1'],sampleProfile ['b'] ['3'],
        sampleProfile ['c'] ['x']]) sampleMoment ['1'],
      .marked none (cursorAccountDigest sampleEnv ['x'])]:=by
    rfl
  have hsound:=h sampleEnv ['x'] paddedRun
  rw [hlog] at hsound
  exact (hsound.1.granted _ _ _ List.mem_cons_self).2 ['a'] (by decide) (by decide)

end CursorProxy.FailoverRuns
