import CursorProxy.PiEdits
import CursorProxy.Traces

namespace CursorProxy.PiEditRuns
open XmlElements LiveRunKeys PendingExecs PiEdits LogicalToolTracker Traces

inductive EditAction where
 | rememberPiEditFallback (started:ToolCallStarted) (now:ℕ)
 | resolvePiEditFallback (exec:PendingCursorExec)
 | completePiEditFallback (callId modelCallId:Text)
 | takePiEditFallbacks
 | restorePiEditFallback (fallback:PendingPiEditFallback) (now:ℕ)
 | markPiEditAuthoritative (fallback:PendingPiEditFallback)
 | markPiEditPromoted (fallback:PendingPiEditFallback)
 | markPiEditAcknowledged (path:Text) (edits:List PiEditReplacement)
 | started (callId modelCallId:Text) (now:ℕ)
 | completed (callId modelCallId:Text)

/-- The call ids that were announced, completed, resolved by an exec and promoted; those of
promoted edits under which an exec has come since; the identities of the resolved execs; and the
payloads that were recorded with an identity. -/
structure EditHistory where
 announced : List Text
 completed : List Text
 resolved : List Text
 promoted : List Text
 served : List Text
 execIds : List Text
 identified : List Text

structure EditRun where
 tracker : LogicalToolTracker
 history : EditHistory

def execNames (exec:PendingCursorExec) : List Text :=
 [exec.execId.getD [],exec.toolUseId].filter fun name=>!name.isEmpty

def nonempty (callId:Text) : List Text := if callId.isEmpty then [] else [callId]

def recordedArgs (tracker:LogicalToolTracker) (started:ToolCallStarted) : Option PiEditToolArgs :=
 (((started.toolCall.bind ToolCall.piEditToolCall).filter PiEditToolCall.hasResult).bind
  fun edit=>edit.args.filter fun args=>!args.path.isEmpty&&!args.edits.isEmpty).filter
   fun args=>!(tracker.piEditExactIdentitySeen
    (startedPiEditIdentity started.callId).toList ||
     ((startedPiEditIdentity started.callId).toList.isEmpty &&
      piEditKey args.path args.edits∈tracker.resolvedPiEditKeys))

def recordedKeys (tracker:LogicalToolTracker) (started:ToolCallStarted) : List Text :=
 if started.callId.isEmpty then []
 else (recordedArgs tracker started).toList.map fun args=>piEditKey args.path args.edits

namespace EditHistory

def start : EditHistory := ⟨[],[],[],[],[],[],[]⟩

def afterStarted (history:EditHistory) (tracker:LogicalToolTracker) (started:ToolCallStarted) : EditHistory :=
 match started.toolCall.bind ToolCall.piEditToolCall with
 | none=>history
 | some edit=>
  { history with
    announced := nonempty started.callId++history.announced
    completed := (if edit.hasResult then nonempty started.callId else [])++history.completed
    identified := recordedKeys tracker started++history.identified }

/-- What an exec of an edit leaves behind; `claimed` is the announced edit that it has taken. -/
def afterExec (history:EditHistory) (exec:PendingCursorExec) (key:Text)
  (claimed:Option PendingPiEditFallback) (resolution:PiEditResolution) : EditHistory :=
 let served:={ history with
  served := (execNames exec).filter (· ∈ history.promoted)++history.served }
 match resolution with
 | .new | .alreadyPromoted=>
  { served with
    resolved := execNames exec ++ (claimed.toList.flatMap fun fallback=>nonempty fallback.callId)++history.resolved
    execIds := execPiEditIdentities exec++history.execIds
    identified := key::history.identified }
 | .alreadyResolved | .notPiEdit=>served

def afterRecord (history:EditHistory) (fallback:PendingPiEditFallback) : EditHistory :=
 if fallback.callId.isEmpty then history
 else { history with identified := fallback.key::history.identified }

end EditHistory

namespace EditRun

def start : EditRun := ⟨.default,.start⟩

def claimed (run:EditRun) (exec:PendingCursorExec) (path:Text)
  (edits:List PiEditReplacement) : Option PendingPiEditFallback :=
 (run.tracker.matchIndex exec path edits).bind fun index=>run.tracker.piEditFallbacks[index]?

def step (run:EditRun) : EditAction → EditRun
 | .rememberPiEditFallback started now=>
  ⟨(run.tracker.rememberPiEditFallback started now).1,run.history.afterStarted run.tracker started⟩
 | .resolvePiEditFallback exec=>
  ⟨(run.tracker.resolvePiEditFallback exec).1,
   match exec.kind with
   | .piEdit path edits=>run.history.afterExec exec (piEditKey path edits)
     (run.claimed exec path edits) (run.tracker.resolvePiEditFallback exec).2
   | _=>run.history⟩
 | .completePiEditFallback callId modelCallId=>
  ⟨run.tracker.completePiEditFallback callId modelCallId,
   { (run.tracker.completing callId modelCallId).elim run.history run.history.afterRecord with
     completed := nonempty callId++run.history.completed }⟩
 | .takePiEditFallbacks=>⟨run.tracker.takePiEditFallbacks.1,run.history⟩
 | .restorePiEditFallback fallback now=>
  ⟨run.tracker.restorePiEditFallback fallback now,run.history⟩
 | .markPiEditAuthoritative fallback=>
  ⟨run.tracker.markPiEditAuthoritative fallback,run.history.afterRecord fallback⟩
 | .markPiEditPromoted fallback=>
  ⟨run.tracker.markPiEditPromoted fallback,
   { run.history.afterRecord fallback with
     promoted := nonempty fallback.callId++run.history.promoted }⟩
 | .markPiEditAcknowledged path edits=>
  ⟨run.tracker.markPiEditAcknowledged path edits,run.history⟩
 | .started callId modelCallId now=>
  ⟨run.tracker.started callId modelCallId now,run.history⟩
 | .completed callId modelCallId=>⟨run.tracker.completed callId modelCallId,run.history⟩

def after (actions:List EditAction) : EditRun := actions.foldl step start

end EditRun

/-- The recorded identities are those of the resolved execs, and call ids; and a payload that was
recorded with an identity has one. -/
structure Linked (run:EditRun) : Prop where
 ids : ∀ identity∈run.tracker.resolvedPiEditIds,identity∈run.history.execIds ∨ "call:".toList <+: identity
 execs : ∀ identity∈run.history.execIds,identity∈run.tracker.resolvedPiEditIds
 payloads : ∀ key∈run.history.identified,(run.tracker.resolvedPiEditPayloadIds.lookup key).isSome=true

structure Fences (tracker tracker':LogicalToolTracker) (identities keys:List Text) :
  Prop where
 ids : tracker'.resolvedPiEditIds=tracker.resolvedPiEditIds ∪ identities.toFinset
 payloads : ∀ key,(tracker'.resolvedPiEditPayloadIds.lookup key).isSome=true ↔
  (tracker.resolvedPiEditPayloadIds.lookup key).isSome=true ∨ key∈keys

theorem Fences.same {tracker tracker':LogicalToolTracker} (hids:tracker'.resolvedPiEditIds=tracker.resolvedPiEditIds)
  (hpayloads:tracker'.resolvedPiEditPayloadIds=tracker.resolvedPiEditPayloadIds) : Fences tracker tracker' [] [] :=
 ⟨by rw [hids,List.toFinset_nil,Finset.union_empty],fun key=>by simp [hpayloads]⟩

theorem removeFallback_fences (tracker:LogicalToolTracker) (index:Option ℕ) :
  (tracker.removeFallback index).resolvedPiEditIds=tracker.resolvedPiEditIds ∧
   (tracker.removeFallback index).resolvedPiEditPayloadIds = tracker.resolvedPiEditPayloadIds:=by
 unfold LogicalToolTracker.removeFallback
 split
 · exact ⟨rfl,rfl⟩
 · split <;> exact ⟨rfl,rfl⟩

theorem resolution_fences (tracker:LogicalToolTracker) (key:Text) (identities:List Text) :
  Fences tracker (tracker.rememberPiEditExactIdentities key identities) identities
   (if identities.isEmpty then [] else [key]):=by
 refine ⟨rfl,fun other=>?_⟩
 unfold rememberPiEditExactIdentities rememberPiEditResolution
 dsimp only
 split_ifs
 · simp
 · by_cases hkey:other=key
   · rw [hkey,AList.lookup_insert]
     simp
   · rw [AList.lookup_insert_ne hkey]
     simp [hkey]

variable {identities keys:List Text}

theorem Fences.trans {a b c:LogicalToolTracker} (h:Fences b c identities keys)
  (hids:b.resolvedPiEditIds=a.resolvedPiEditIds) (hpayloads:b.resolvedPiEditPayloadIds=a.resolvedPiEditPayloadIds) :
  Fences a c identities keys :=
 ⟨by rw [h.ids,hids],fun key=>by rw [h.payloads,hpayloads]⟩

theorem Fences.of {a b c:LogicalToolTracker} (h:Fences a b identities keys)
  (hids:c.resolvedPiEditIds=b.resolvedPiEditIds) (hpayloads:c.resolvedPiEditPayloadIds=b.resolvedPiEditPayloadIds) :
  Fences a c identities keys :=
 ⟨by rw [hids,h.ids],fun key=>by rw [hpayloads,h.payloads]⟩

variable {run:EditRun}

theorem Linked.of_fences {run':EditRun} (h:Linked run) (hfences:Fences run.tracker run'.tracker identities keys)
  (hids:∀ identity∈identities,identity∈run'.history.execIds ∨ "call:".toList <+: identity)
  (hkept:∀ identity∈run.history.execIds,identity∈run'.history.execIds)
  (hexecs:∀ identity∈run'.history.execIds,identity∈run.history.execIds ∨ identity∈identities)
  (hkeys:∀ key∈run'.history.identified,key∈run.history.identified ∨ key∈keys) : Linked run':=by
 refine ⟨fun identity hidentity=>?_,fun identity hidentity=>?_,fun key hkey=>?_⟩
 · rw [hfences.ids,Finset.mem_union,List.mem_toFinset] at hidentity
   rcases hidentity with hold | hnew
   · exact (h.ids identity hold).imp_left (hkept identity)
   · exact hids identity hnew
 · rw [hfences.ids,Finset.mem_union,List.mem_toFinset]
   exact (hexecs identity hidentity).imp_left (h.execs identity)
 · rw [hfences.payloads]
   exact (hkeys key hkey).imp_left (h.payloads key)

theorem startedIdentity_call {callId identity:Text}
  (h:identity∈(startedPiEditIdentity callId).toList) : "call:".toList <+: identity:=by
 unfold startedPiEditIdentity at h
 split_ifs at h
 · exact absurd h (by simp)
 · rw [List.mem_singleton.mp h]
   exact List.prefix_append _ _

theorem Linked.start : Linked .start :=
 ⟨fun _ h=>absurd h (by simp [EditRun.start,LogicalToolTracker.default]),
  fun _ h=>absurd h (by simp [EditRun.start,EditHistory.start]),
  fun _ h=>absurd h (by simp [EditRun.start,EditHistory.start])⟩

theorem Linked.quiet {run':EditRun} (h:Linked run) (hids:run'.tracker.resolvedPiEditIds=run.tracker.resolvedPiEditIds)
  (hpayloads:run'.tracker.resolvedPiEditPayloadIds=run.tracker.resolvedPiEditPayloadIds)
  (hexecs:run'.history.execIds=run.history.execIds)
  (hkeys:run'.history.identified=run.history.identified) : Linked run':=by
 refine h.of_fences (.same hids hpayloads) (fun _ hnone=>absurd hnone (by simp)) ?_ ?_ ?_
 · rw [hexecs]
   exact fun _ hmem=>hmem
 · rw [hexecs]
   exact fun _ hmem=>Or.inl hmem
 · rw [hkeys]
   exact fun _ hmem=>Or.inl hmem

theorem recordFallback_fences (tracker:LogicalToolTracker) (fallback:PendingPiEditFallback) :
  Fences tracker (tracker.recordFallback fallback) fallback.identity.toList
   (if fallback.callId.isEmpty then [] else [fallback.key]):=by
 have hfences:=resolution_fences tracker fallback.key fallback.identity.toList
 have hnamed:fallback.identity.toList.isEmpty=fallback.callId.isEmpty:=by
  unfold PendingPiEditFallback.identity startedPiEditIdentity
  split_ifs with hempty
  · rw [hempty]
    rfl
  · rw [Bool.eq_false_iff.mpr hempty]
    rfl
 rw [hnamed] at hfences
 exact hfences

theorem linked_record (h:Linked run) {tracker:LogicalToolTracker}
  (fallback:PendingPiEditFallback) (completed promoted:List Text)
  (hfences:Fences run.tracker tracker fallback.identity.toList (if fallback.callId.isEmpty then [] else [fallback.key]))
  :
  Linked ⟨tracker,{ run.history.afterRecord fallback with
   completed := completed,promoted := promoted }⟩:=by
 have hexecs:(run.history.afterRecord fallback).execIds=run.history.execIds:=by
  unfold EditHistory.afterRecord
  split_ifs <;> rfl
 refine h.of_fences hfences (fun _ hid=>Or.inr (startedIdentity_call hid)) ?_ ?_ ?_
 · intro identity hmem
   exact hexecs ▸ hmem
 · intro identity hmem
   exact Or.inl (hexecs ▸ hmem)
 · intro key hkey
   change key∈(run.history.afterRecord fallback).identified at hkey
   unfold EditHistory.afterRecord at hkey
   split_ifs at hkey ⊢
   · exact Or.inl hkey
   · exact (List.mem_cons.mp hkey).symm.imp_right List.mem_singleton.mpr

theorem rememberCompleted_fences (tracker:LogicalToolTracker) (started:ToolCallStarted)
  (args:PiEditToolArgs) (hnew:(tracker.piEditExactIdentitySeen (startedPiEditIdentity started.callId).toList ||
    ((startedPiEditIdentity started.callId).toList.isEmpty &&
     piEditKey args.path args.edits∈tracker.resolvedPiEditKeys))=false) :
  Fences tracker (tracker.rememberCompleted started args) (startedPiEditIdentity started.callId).toList
   (if (startedPiEditIdentity started.callId).toList.isEmpty then []
    else [piEditKey args.path args.edits]):=by
 unfold rememberCompleted
 dsimp only
 rw [hnew,if_neg (by decide)]
 obtain ⟨hids,hpayloads⟩:=removeFallback_fences (tracker.rememberPiEditExactIdentities
  (piEditKey args.path args.edits) (startedPiEditIdentity started.callId).toList) _
 exact (resolution_fences _ _ _).of hids hpayloads

theorem nonempty_identity (callId:Text) : (startedPiEditIdentity callId).toList.isEmpty=callId.isEmpty:=by
 unfold startedPiEditIdentity
 split_ifs with hempty
 · exact hempty.symm
 · exact (Bool.eq_false_iff.mpr hempty).symm

theorem remember_fences (tracker:LogicalToolTracker) (started:ToolCallStarted) (now:ℕ) :
  ∃ identities,(∀ identity∈identities, "call:".toList <+: identity) ∧
   Fences tracker (tracker.rememberPiEditFallback started now).1 identities (recordedKeys tracker started):=by
 have hsame:∀ tracker':LogicalToolTracker,tracker'.resolvedPiEditIds=tracker.resolvedPiEditIds →
   tracker'.resolvedPiEditPayloadIds=tracker.resolvedPiEditPayloadIds →
   ∃ identities,(∀ identity∈identities, "call:".toList <+: identity) ∧
    Fences tracker tracker' identities (if started.callId.isEmpty then [] else
     (none:Option PiEditToolArgs).toList.map fun args=>
      piEditKey args.path args.edits):=by
  intro tracker' hids hpayloads
  refine ⟨[],by simp,?_⟩
  rw [Option.toList_none,List.map_nil,ite_self]
  exact Fences.same hids hpayloads
 unfold rememberPiEditFallback recordedKeys recordedArgs
 cases hedit:started.toolCall.bind ToolCall.piEditToolCall with
 | none=>exact hsame tracker rfl rfl
 | some edit=>
  dsimp only
  cases hresult:edit.hasResult with
  | false=>
   rw [if_neg Bool.false_ne_true,Option.filter_some,hresult,if_neg Bool.false_ne_true,
    Option.bind_none,Option.filter_none]
   split
   · exact hsame _ rfl rfl
   · split
     · exact hsame _ rfl rfl
     · split
       · exact hsame _ rfl rfl
       · split <;> exact hsame _ rfl rfl
  | true=>
   rw [if_pos rfl,Option.filter_some,hresult,if_pos rfl,Option.bind_some]
   cases edit.args.filter fun args=>!args.path.isEmpty&&!args.edits.isEmpty with
   | none=>exact hsame _ rfl rfl
   | some args=>
    rw [Option.filter_some]
    cases hseen:tracker.piEditExactIdentitySeen (startedPiEditIdentity started.callId).toList ||
          ((startedPiEditIdentity started.callId).toList.isEmpty &&
           piEditKey args.path args.edits∈tracker.resolvedPiEditKeys) with
    | true=>
     rw [if_neg (by decide:¬(!true)=true)]
     apply hsame
     · unfold rememberCompleted
       dsimp only
       rw [hseen,if_pos rfl]
     · unfold rememberCompleted
       dsimp only
       rw [hseen,if_pos rfl]
    | false=>
     have hfences:=rememberCompleted_fences tracker started args hseen
     rw [nonempty_identity] at hfences
     exact ⟨_,fun _=>startedIdentity_call,hfences⟩

theorem linked_started (h:Linked run) (started:ToolCallStarted) (now:ℕ) :
  Linked (run.step (.rememberPiEditFallback started now)):=by
 obtain ⟨identities,hcall,hfences⟩:=remember_fences run.tracker started now
 have hexecs:(run.history.afterStarted run.tracker started).execIds=run.history.execIds:=by
  unfold EditHistory.afterStarted
  split <;> rfl
 refine h.of_fences hfences (fun _ hid=>Or.inr (hcall _ hid)) ?_ ?_ ?_
 · exact fun identity hmem=>hexecs.symm ▸ hmem
 · exact fun identity hmem=>Or.inl (hexecs ▸ hmem)
 · intro key hkey
   change key∈(run.history.afterStarted run.tracker started).identified at hkey
   unfold EditHistory.afterStarted at hkey
   split at hkey
   · exact Or.inl hkey
   · exact (List.mem_append.mp hkey).symm

theorem linked_completed (h:Linked run) (callId modelCallId:Text) :
  Linked (run.step (.completePiEditFallback callId modelCallId)):=by
 unfold EditRun.step completePiEditFallback
 dsimp only
 cases hfound:run.tracker.completing callId modelCallId with
 | none=>
  split_ifs
  · exact h.quiet rfl rfl rfl rfl
  · exact h.quiet rfl rfl rfl rfl
 | some fallback=>
  have hcalled:¬(callId.isEmpty&&modelCallId.isEmpty)=true:=by
   intro hnone
   unfold completing completionIndex at hfound
   rw [if_pos hnone] at hfound
   exact absurd hfound (by simp)
  rw [if_neg hcalled]
  obtain ⟨hids,hpayloads⟩:=removeFallback_fences run.tracker (run.tracker.completionIndex callId modelCallId)
  exact linked_record h fallback _ _ (((recordFallback_fences _ fallback).trans hids hpayloads).of rfl rfl)

theorem foldl_marker_fences (fallbacks:List PendingPiEditFallback) (tracker:LogicalToolTracker) :
  (fallbacks.foldl removeFallbackLogicalMarker tracker).resolvedPiEditIds = tracker.resolvedPiEditIds ∧
   (fallbacks.foldl removeFallbackLogicalMarker tracker).resolvedPiEditPayloadIds =
    tracker.resolvedPiEditPayloadIds:=by
 induction fallbacks generalizing tracker with
 | nil=>exact ⟨rfl,rfl⟩
 | cons fallback fallbacks ih=>exact ih (tracker.removeFallbackLogicalMarker fallback)

/-- The exec shares an identity with one that was resolved before. -/
def Repeats (run:EditRun) (exec:PendingCursorExec) : Prop :=
 ∃ identity∈execPiEditIdentities exec,identity∈run.history.execIds

/-- Nothing that waits has the ids or the payload of the exec. -/
def Unannounced (run:EditRun) (exec:PendingCursorExec) (path:Text) (edits:List PiEditReplacement) : Prop :=
 ∀ fallback∈run.tracker.piEditFallbacks,fallback.callId ∉ execNames exec ∧ ¬(fallback.path=path ∧ fallback.edits=edits)

theorem not_call_prefix {word rest:Text} (hword:word.length=5)
  (hne:word ≠ "call:".toList) : ¬"call:".toList <+: word++rest:=by
 intro hprefix
 have htake:=List.prefix_iff_eq_take.mp hprefix
 rw [List.take_left' (by rw [hword]; rfl)] at htake
 exact hne htake.symm

variable {exec:PendingCursorExec}

theorem exec_identity_ne_call {identity:Text} (h:identity∈execPiEditIdentities exec)
  : ¬"call:".toList <+: identity:=by
 unfold execPiEditIdentities at h
 rcases List.mem_append.mp h with hnamed | htool
 · rcases List.mem_cons.mp hnamed with rfl | hexec
   · have hnumeric : "numer".toList ≠ "call:".toList:=by decide
     have hsplit : "numeric:".toList++decimal exec.id.toNat =
       "numer".toList++("ic:".toList++decimal exec.id.toNat) := rfl
     rw [hsplit]
     exact not_call_prefix rfl hnumeric
   · obtain ⟨id,-,rfl⟩:=List.mem_map.mp hexec
     have hexec : "exec:".toList ≠ "call:".toList:=by decide
     exact not_call_prefix rfl hexec
 · split_ifs at htool
   · exact absurd htool List.not_mem_nil
   · rw [List.mem_singleton.mp htool]
     have htool : "tool:".toList ≠ "call:".toList:=by decide
     exact not_call_prefix rfl htool

theorem seen_iff (h:Linked run) (exec:PendingCursorExec) :
  run.tracker.piEditExactIdentitySeen (execPiEditIdentities exec)=true ↔ Repeats run exec:=by
 unfold piEditExactIdentitySeen Repeats
 rw [List.any_eq_true]
 refine exists_congr fun identity=>and_congr_right fun hidentity=>?_
 rw [decide_eq_true_iff]
 refine ⟨fun hseen=>?_,h.execs identity⟩
 exact (h.ids identity hseen).resolve_right (exec_identity_ne_call hidentity)

variable {path:Text} {edits:List PiEditReplacement}

theorem matchIndex_none : (run.tracker.matchIndex exec path edits).isNone=true ↔ Unannounced run exec path edits:=by
 have hnames:∀ callId:Text,((!(exec.execId.getD []).isEmpty&&callId==exec.execId.getD [])
   || (!exec.toolUseId.isEmpty&&callId==exec.toolUseId))=false ↔
    callId ∉ execNames exec:=by
  intro callId
  unfold execNames
  rw [List.mem_filter,Bool.or_eq_false_iff]
  constructor
  · rintro ⟨hexec,htool⟩ ⟨hmem,hfull⟩
    rcases List.mem_cons.mp hmem with rfl | hmem
    · rw [hfull,beq_self_eq_true] at hexec
      exact absurd hexec (by decide)
    · rw [← List.mem_singleton.mp hmem,hfull,beq_self_eq_true] at htool
      exact absurd htool (by decide)
  · intro hnot
    constructor
    · by_contra hexec
      have hboth:=Bool.and_eq_true_iff.mp (Bool.not_eq_false _ ▸ hexec)
      exact hnot ⟨by simp [beq_iff_eq.mp hboth.2],by rw [beq_iff_eq.mp hboth.2]; exact hboth.1⟩
    · by_contra htool
      have hboth:=Bool.and_eq_true_iff.mp (Bool.not_eq_false _ ▸ htool)
      exact hnot ⟨by simp [beq_iff_eq.mp hboth.2],by rw [beq_iff_eq.mp hboth.2]; exact hboth.1⟩
 have hpayload:∀ fallback:PendingPiEditFallback,
   (fallback.path==path&&fallback.edits==edits)=false ↔ ¬(fallback.path=path ∧ fallback.edits=edits):=by
  intro fallback
  rw [← Bool.not_eq_true,Bool.and_eq_true_iff,beq_iff_eq,beq_iff_eq]
 unfold matchIndex Unannounced
 rw [Option.isNone_iff_eq_none,Option.or_eq_none_iff,List.findIdx?_eq_none_iff,List.findIdx?_eq_none_iff,← forall₂_and]
 exact forall₂_congr fun fallback _=>and_congr (hnames fallback.callId) (hpayload fallback)

theorem resolution_iff {run:EditRun} (h:Linked run) {exec:PendingCursorExec} {path:Text}
  {edits:List PiEditReplacement} :
  ((run.tracker.resolvePiEdit exec path edits).2=.new ↔ ¬Repeats run exec ∧
   ¬(Unannounced run exec path edits ∧ (run.tracker.wasPromoted (piEditKey path edits)=true ∨
    run.tracker.payloadOnly (piEditKey path edits)=true))) ∧
  ((run.tracker.resolvePiEdit exec path edits).2=.alreadyPromoted ↔ ¬Repeats run exec ∧
   Unannounced run exec path edits ∧ run.tracker.wasPromoted (piEditKey path edits)=true) ∧
  ((run.tracker.resolvePiEdit exec path edits).2=.alreadyResolved ↔ Repeats run exec ∨
   Unannounced run exec path edits ∧ run.tracker.wasPromoted (piEditKey path edits)=false ∧
    run.tracker.payloadOnly (piEditKey path edits)=true):=by
 have hreplay:run.tracker.payloadOnlyReplay (piEditKey path edits)
   (execPiEditIdentities exec)=run.tracker.payloadOnly (piEditKey path edits) := rfl
 rw [← seen_iff h,← matchIndex_none]
 unfold resolvePiEdit
 dsimp only
 rw [hreplay]
 cases run.tracker.piEditExactIdentitySeen (execPiEditIdentities exec) with
 | true=>simp
 | false=>
  cases (run.tracker.matchIndex exec path edits).isNone <;>
   cases run.tracker.wasPromoted (piEditKey path edits) <;>
    cases run.tracker.payloadOnly (piEditKey path edits) <;> simp

/-- A settled edit is not handed over again; a promoted one is acknowledged once and then ignored;
and an edit whose payload has been seen before is resolved by its own first exec, and only by
that. -/
structure HandedOnce (run:EditRun) (exec:PendingCursorExec) (key:Text)
  (resolution:PiEditResolution) : Prop where
 settled : ∀ name∈execNames exec,name∈run.history.announced →
  (name∈run.history.completed ∨ name∈run.history.resolved) → resolution ≠ .new
 first : ∀ name∈execNames exec,name∈run.history.promoted → name ∉ run.history.served →
  resolution=.alreadyPromoted
 later : ∀ name∈execNames exec,name∈run.history.promoted → name∈run.history.served → resolution=.alreadyResolved
 repeated : Repeats run exec → resolution=.alreadyResolved
 sibling : ¬Repeats run exec → key∈run.history.identified → resolution ≠ .alreadyResolved

/-- The exec of a settled edit repeats an earlier one, or nothing waits with its ids or payload and
a promotion of the payload is outstanding or the payload is only known without ids; the first exec
of a promoted edit repeats none, nothing waits, and a promotion is outstanding; a later one
repeats an earlier one, or nothing waits, no promotion is outstanding and the payload is only known
without ids. -/
structure Fits (run:EditRun) (exec:PendingCursorExec) (path:Text)
  (edits:List PiEditReplacement) : Prop where
 settled : ∀ name∈execNames exec,name∈run.history.announced →
  (name∈run.history.completed ∨ name∈run.history.resolved) →
  Repeats run exec ∨ Unannounced run exec path edits ∧
   (run.tracker.wasPromoted (piEditKey path edits)=true ∨ run.tracker.payloadOnly (piEditKey path edits)=true)
 first : ∀ name∈execNames exec,name∈run.history.promoted → name ∉ run.history.served →
  ¬Repeats run exec ∧ Unannounced run exec path edits ∧
   run.tracker.wasPromoted (piEditKey path edits)=true
 later : ∀ name∈execNames exec,name∈run.history.promoted → name∈run.history.served →
  Repeats run exec ∨ Unannounced run exec path edits ∧ run.tracker.wasPromoted (piEditKey path edits)=false ∧
   run.tracker.payloadOnly (piEditKey path edits)=true

theorem step_edit (hkind:exec.kind=.piEdit path edits) :
  run.step (.resolvePiEditFallback exec)=⟨(run.tracker.resolvePiEdit exec path edits).1,
   run.history.afterExec exec (piEditKey path edits) (run.claimed exec path edits)
    (run.tracker.resolvePiEdit exec path edits).2⟩:=by
 unfold EditRun.step resolvePiEditFallback
 dsimp only
 rw [hkind]

theorem step_other (hkind:∀ path edits,exec.kind ≠ .piEdit path edits) :
  run.step (.resolvePiEditFallback exec)=run:=by
 unfold EditRun.step resolvePiEditFallback
 dsimp only
 cases hexec:exec.kind with
 | piEdit path edits=>exact absurd hexec (hkind path edits)
 | _=>rfl

theorem linked_exec (h:Linked run) (exec:PendingCursorExec) : Linked (run.step (.resolvePiEditFallback exec)):=by
 by_cases hedit:∃ path edits,exec.kind=.piEdit path edits
 · obtain ⟨path,edits,hkind⟩:=hedit
   rw [step_edit hkind]
   obtain ⟨hids,hpayloads⟩:=removeFallback_fences run.tracker (run.tracker.matchIndex exec path edits)
   have hrecorded:Fences run.tracker ((run.tracker.removeFallback
     (run.tracker.matchIndex exec path edits)).rememberPiEditExactIdentities
      (piEditKey path edits) (execPiEditIdentities exec)).settleAge
     (execPiEditIdentities exec) [piEditKey path edits] :=
    ((resolution_fences _ _ _).trans hids hpayloads).of rfl rfl
   have hresolved:∀ (tracker:LogicalToolTracker) (claimed:Option PendingPiEditFallback)
     (resolution:PiEditResolution),Fences run.tracker tracker (execPiEditIdentities exec)
      [piEditKey path edits] → resolution=.new ∨ resolution=.alreadyPromoted →
     Linked ⟨tracker,run.history.afterExec exec (piEditKey path edits) claimed resolution⟩:=by
    intro tracker claimed resolution hfences hresolution
    rcases hresolution with rfl | rfl
    all_goals
     exact h.of_fences hfences (fun _ hid=>Or.inl (List.mem_append_left _ hid))
      (fun _ hid=>List.mem_append_right _ hid)
      (fun _ hid=>(List.mem_append.mp hid).symm)
      (fun _ hkey=>(List.mem_cons.mp hkey).symm.imp_right List.mem_singleton.mpr)
   unfold resolvePiEdit
   dsimp only
   split
   · exact h.quiet rfl rfl rfl rfl
   · split
     · exact hresolved _ _ _ hrecorded (Or.inr rfl)
     · split
       · exact h.quiet hids hpayloads rfl rfl
       · exact hresolved _ _ _ hrecorded (Or.inl rfl)
 · rw [step_other fun path edits hkind=>hedit ⟨path,edits,hkind⟩]
   exact h

theorem step_linked (h:Linked run) (action:EditAction) : Linked (run.step action):=by
 cases action with
 | rememberPiEditFallback started now=>exact linked_started h started now
 | resolvePiEditFallback exec=>exact linked_exec h exec
 | completePiEditFallback callId modelCallId=>exact linked_completed h callId modelCallId
 | takePiEditFallbacks=>
  obtain ⟨hids,hpayloads⟩:=foldl_marker_fences run.tracker.piEditFallbacks { run.tracker with piEditFallbacks := [] }
  exact h.quiet hids hpayloads rfl rfl
 | restorePiEditFallback fallback now=>exact h.quiet rfl rfl rfl rfl
 | markPiEditAuthoritative fallback=>
  exact linked_record h fallback _ _ ((recordFallback_fences _ fallback).of rfl rfl)
 | markPiEditPromoted fallback=>
  exact linked_record h fallback _ _ ((recordFallback_fences _ fallback).of rfl rfl)
 | markPiEditAcknowledged path edits=>exact h.quiet rfl rfl rfl rfl
 | started callId modelCallId now=>
  unfold EditRun.step LogicalToolTracker.started
  dsimp only
  split <;> exact h.quiet rfl rfl rfl rfl
 | completed callId modelCallId=>
  unfold EditRun.step LogicalToolTracker.completed
  dsimp only
  split <;> exact h.quiet rfl rfl rfl rfl

theorem after_linked (actions:List EditAction) : Linked (EditRun.after actions):=by
 induction actions using List.reverseRecOn with
 | nil=>exact Linked.start
 | append_singleton actions action ih=>
  unfold EditRun.after
  rw [List.foldl_append]
  exact step_linked ih action

theorem handedOnce_iff (h:Linked run) : HandedOnce run exec (piEditKey path edits)
      (run.tracker.resolvePiEdit exec path edits).2 ↔ Fits run exec path edits:=by
 obtain ⟨hnew,hpromoted,hresolved⟩:=@resolution_iff run h exec path edits
 constructor
 · intro honce
   refine ⟨fun name hname hannounced hsettled=>?_,
    fun name hname hmem hserved=>hpromoted.mp (honce.first name hname hmem hserved),
    fun name hname hmem hserved=>hresolved.mp (honce.later name hname hmem hserved)⟩
   have hnot:=mt hnew.mpr (honce.settled name hname hannounced hsettled)
   by_cases hrepeats:Repeats run exec
   · exact Or.inl hrepeats
   · exact Or.inr (by_contra fun hwait=>hnot ⟨hrepeats,hwait⟩)
 · intro hfits
   refine ⟨fun name hname hannounced hsettled hisNew=>?_,
    fun name hname hmem hserved=>hpromoted.mpr (hfits.first name hname hmem hserved),
    fun name hname hmem hserved=>hresolved.mpr (hfits.later name hname hmem hserved),
    fun hrepeats=>hresolved.mpr (Or.inl hrepeats),fun hfresh hkey hisResolved=>?_⟩
   · obtain ⟨hfresh,hwait⟩:=hnew.mp hisNew
     exact (hfits.settled name hname hannounced hsettled).elim hfresh hwait
   · have honly:=((hresolved.mp hisResolved).resolve_left hfresh).2.2
     have hknown:=h.payloads _ hkey
     unfold payloadOnly at honly
     rw [Option.isNone_iff_eq_none.mp (Bool.and_eq_true_iff.mp honly).2] at hknown
     exact absurd hknown (by decide)

/-- In every run of the tracker each exec is answered as its edit asks exactly if it fits what has
been seen of it. -/
theorem edits_handed_once (actions:List EditAction) :
    (∀ before exec after path edits,actions=before ++ .resolvePiEditFallback exec::after →
      exec.kind=.piEdit path edits → HandedOnce (.after before) exec (piEditKey path edits)
        ((EditRun.after before).tracker.resolvePiEditFallback exec).2) ↔
    ∀ before exec after path edits,actions=before ++ .resolvePiEditFallback exec::after →
      exec.kind=.piEdit path edits → Fits (.after before) exec path edits:=by
  refine forall₅_congr fun before exec _ path edits=>forall₂_congr fun _ hkind=>?_
  rw [← handedOnce_iff (after_linked before)]
  unfold resolvePiEditFallback
  rw [hkind]

def renameEdit : List PiEditReplacement := [⟨"a".toList,"b".toList⟩]

def announceX : ToolCallStarted :=
 ⟨"X".toList,[],some ⟨some ⟨some ⟨"f".toList,renameEdit⟩,false⟩⟩⟩

def execX : PendingCursorExec :=
 ⟨7,some "X".toList,[],.piEdit "f".toList renameEdit⟩

/-- The edit announced under `X` is completed by a frame for `X`; the exec `X` is new all the
same. -/
theorem completed_edit_is_new :
    ¬HandedOnce (.after [.rememberPiEditFallback announceX 0,
        .completePiEditFallback "X".toList []]) execX (piEditKey "f".toList renameEdit)
      ((EditRun.after [.rememberPiEditFallback announceX 0,
        .completePiEditFallback "X".toList []]).tracker.resolvePiEditFallback execX).2:=by
  intro honce
  refine honce.settled "X".toList (by decide +kernel) (by decide +kernel)
    (Or.inl (by decide +kernel)) (by decide +kernel)

end CursorProxy.PiEditRuns
