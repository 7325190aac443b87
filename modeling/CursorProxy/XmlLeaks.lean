import CursorProxy.XmlRecovery
import CursorProxy.XmlVisibleText

namespace CursorProxy.XmlLeaks
open CautiousScan StreamingLoop XmlElements XmlParser XmlScanning XmlGaps XmlRuns XmlRecovery XmlVisibleText

variable {env:XmlEnv} {kind:XmlToolKind} {buffer:Text}

def HoldsStartTag (text:Text) : Prop :=
 ∃ kind:XmlToolKind,∃ place,xmlTagOpenAt (text.drop place) kind.openTag=true

def Leakless (events:List RecoveredCursorEvent) : Prop :=
 ∀ text,RecoveredCursorEvent.text text∈events → ¬HoldsStartTag text

theorem leakless_append {events more:List RecoveredCursorEvent} :
  Leakless (events++more) ↔ Leakless events ∧ Leakless more:=by
 unfold Leakless
 constructor
 · intro h
   exact ⟨fun text hmem=>h text (List.mem_append_left _ hmem),
    fun text hmem=>h text (List.mem_append_right _ hmem)⟩
 · rintro ⟨hfirst,hsecond⟩ text hmem
   rcases List.mem_append.mp hmem with hleft | hright
   · exact hfirst text hleft
   · exact hsecond text hright

theorem leakless_nil : Leakless [] := fun _ hmem=>absurd hmem List.not_mem_nil

theorem leakless_pushText {recovered:Bool} {text:Text} (h:¬HoldsStartTag text) :
  Leakless (pushText recovered text):=by
 intro shown hmem
 unfold pushText at hmem
 split_ifs at hmem
 · exact absurd hmem List.not_mem_nil
 · exact absurd hmem List.not_mem_nil
 · rw [List.mem_singleton] at hmem
   cases hmem
   exact h

theorem startless_text (h:nextXmlToolStart buffer=none) : ¬HoldsStartTag buffer:=by
 rintro ⟨kind,place,hopen⟩
 refine not_open_of_no_start (no_start_suffix h (List.drop_suffix place buffer)) kind ?_
 unfold xmlTagOpenAt at hopen
 exact List.isPrefixOf_iff_prefix.mp (Bool.and_eq_true_iff.mp hopen).1

theorem startless_front {start length:ℕ} (h:nextXmlToolStart buffer=some (start,kind))
  (hlength:length ≤ start) : nextXmlToolStart (buffer.take length)=none:=by
 cases hfront:nextXmlToolStart (buffer.take length) with
 | none=>rfl
 | some found=>
  obtain ⟨place,other⟩:=found
  have hagain:=nextXmlToolStart_append (buffer.drop length) hfront
  rw [List.take_append_drop,h] at hagain
  obtain ⟨rfl,rfl⟩:=Prod.mk.inj (Option.some.inj hagain)
  have hinside:=(nextXmlToolStart_some hfront).length_le
  have hpositive:=(openTags_length kind).1
  rw [List.length_drop,List.length_take] at hinside
  omega

theorem startless_take (h:nextXmlToolStart buffer=none) (length:ℕ) : nextXmlToolStart (buffer.take length)=none:=by
 cases hfront:nextXmlToolStart (buffer.take length) with
 | none=>rfl
 | some found=>
  have hagain:=nextXmlToolStart_append (buffer.drop length) hfront
  rw [List.take_append_drop,h] at hagain
  exact absurd hagain (by simp)

theorem element_leakless (env:XmlEnv) (parser:CursorToolUseXmlParser) (kind:XmlToolKind)
  (raw rest:Text) : Leakless (element env parser kind raw rest).2:=by
 intro text hmem
 unfold element at hmem
 split at hmem
 · rw [List.mem_singleton] at hmem
   exact absurd hmem (by simp)
 · exact absurd hmem List.not_mem_nil

variable {parser:CursorToolUseXmlParser}

theorem round_leakless {events:List RecoveredCursorEvent} :
  (∀ next,drainBody env false parser=.again next events → Leakless events) ∧
   ∀ last,drainBody env false parser=.done last events () → Leakless events:=by
 constructor
 · intro next h
   have hturn:=drainBody_turn env false parser
   rw [h] at hturn
   cases hturn with
   | dropped=>exact leakless_nil
   | passed start kind _ hnext _=>
    exact leakless_pushText (startless_text (startless_front hnext (Nat.le_refl start)))
   | completed=>exact element_leakless _ _ _ _ _
 · intro last h
   have hturn:=drainBody_turn env false parser
   rw [h] at hturn
   cases hturn with
   | empty=>exact leakless_nil
   | ended stop _ hnext=>exact leakless_pushText (startless_text (startless_take hnext stop))
   | pending=>exact leakless_nil
   | flushed _ hflush=>exact absurd hflush (by simp)

theorem push_leakless (env:XmlEnv) (parser:CursorToolUseXmlParser) (delta:Text) :
  Leakless (parser.push env delta).2:=by
 refine (drain env false).run_induction
  (P := fun parser=>Leakless ((drain env false).run parser).out) ?_ ?_ (parser.extend delta)
 · intro parser last events exit hbody
   rw [(drain env false).run_done hbody]
   exact round_leakless.2 last hbody
 · intro parser next events hbody ih
   rw [(drain env false).run_again hbody,Finished.emitBefore_out]
   exact leakless_append.mpr ⟨round_leakless.1 next hbody,ih⟩

/-- The buffer begins with a look-alike of a start tag and holds a genuine one. -/
def LeaksOnFlush (buffer:Text) : Prop :=
 HoldsStartTag buffer ∧ ∃ kind:XmlToolKind,
  nextXmlToolStart buffer=some (0,kind) ∧ xmlTagOpenAt buffer kind.openTag=false

/-- What a push leaves: nothing to pass, and no round that would go on. -/
structure Settled (env:XmlEnv) (parser:CursorToolUseXmlParser) : Prop where
 held : restOf parser.recoveredToolUse parser.buffer=parser.buffer
 waits : nextXmlToolStart parser.buffer=none ∨ drainBody env false parser=.done parser [] ()

theorem settled_new (env:XmlEnv) : Settled env .new := ⟨rfl,.inl rfl⟩

theorem settled_push (env:XmlEnv) (parser:CursorToolUseXmlParser) (delta:Text) :
  Settled env (parser.push env delta).1:=by
 obtain ⟨prior,events,hbody⟩:=(drain env false).run_stopped (parser.extend delta)
 change Settled env ((drain env false).run (parser.extend delta)).state
 generalize ((drain env false).run (parser.extend delta)).state=last at hbody
 change drainBody env false prior=.done last events () at hbody
 obtain ⟨rfl,_,_⟩:=round_stopped hbody
 refine ⟨rest_rest _ _,?_⟩
 have hturn:=drainBody_turn env false prior
 rw [hbody] at hturn
 generalize hlast : ({ prior with
  buffer := restOf prior.recoveredToolUse prior.buffer } : CursorToolUseXmlParser)=last at *
 cases hturn with
 | empty=>exact .inr hbody
 | ended stop _ hnext=>
  exact .inl (no_start_suffix hnext (List.drop_suffix stop prior.buffer))
 | pending=>exact .inr hbody
 | flushed _ hflush=>exact absurd hflush (by simp)

theorem settled_drop_none (h:Settled env parser) :
  dropRedundantCloseTag parser.recoveredToolUse parser.buffer=none:=by
 have hdrop:=drop_none_of_rest parser.recoveredToolUse parser.buffer
 rwa [h.held] at hdrop

theorem settled_start (h:Settled env parser) {start:ℕ}
  (hnext:nextXmlToolStart parser.buffer=some (start,kind)) : start=0:=by
 have hrest:=(gap_of_start parser.recoveredToolUse hnext).2
 rw [h.held] at hrest
 have hlength:=congrArg List.length hrest
 have hinside:=(nextXmlToolStart_some hnext).length_le
 have hpositive:=(openTags_length kind).1
 rw [List.length_drop] at hlength hinside
 omega

theorem settled_close (h:Settled env parser) (hnext:nextXmlToolStart parser.buffer=some (0,kind)) :
  findMatchingNamedClose parser.buffer kind.openTag kind.closeTag=none:=by
 rcases h.waits with hnone | hwaits
 · rw [hnone] at hnext
   exact absurd hnext (by simp)
 · cases hclose:findMatchingNamedClose parser.buffer kind.openTag kind.closeTag with
   | none=>rfl
   | some closeStart=>
    unfold drainBody at hwaits
    rw [if_neg (nonempty_of_start hnext)] at hwaits
    simp only [settled_drop_none h,hnext,hclose,Nat.lt_irrefl,if_false] at hwaits
    exact absurd hwaits (by simp)

theorem flush_pending (h:Settled env parser) (hnext:nextXmlToolStart parser.buffer=some (0,kind)) :
  (parser.flush env).2=if xmlTagOpenAt parser.buffer kind.openTag then []
   else pushText parser.recoveredToolUse parser.buffer:=by
 have hbody:drainBody env true parser=.done { parser with buffer:=[] }
   (if xmlTagOpenAt parser.buffer kind.openTag then []
    else pushText parser.recoveredToolUse parser.buffer) ():=by
  unfold drainBody
  rw [if_neg (nonempty_of_start hnext)]
  simp only [settled_drop_none h,hnext,settled_close h hnext,Nat.lt_irrefl,if_false,if_true]
 exact congrArg Finished.out ((drain env true).run_done hbody)

theorem flush_ended (h:Settled env parser) (hnext:nextXmlToolStart parser.buffer=none) :
  Leakless (parser.flush env).2:=by
 have hturn:=drainBody_turn env true parser
 cases hbody:drainBody env true parser with
 | again next events=>
  rw [hbody] at hturn
  cases hturn with
  | dropped buffer hdrop=>
   rw [settled_drop_none h] at hdrop
   exact absurd hdrop (by simp)
  | passed start kind _ hstart=>
   rw [hnext] at hstart
   exact absurd hstart (by simp)
  | completed kind closeStart closeEnd _ hstart=>
   rw [hnext] at hstart
   exact absurd hstart (by simp)
 | done last events exit=>
  have hout:(parser.flush env).2=events :=
   congrArg Finished.out ((drain env true).run_done hbody)
  rw [hout]
  have hevents:events=[] ∨ ∃ stop,events=pushText parser.recoveredToolUse (parser.buffer.take stop):=by
   unfold drainBody at hbody
   simp only [settled_drop_none h,hnext] at hbody
   split_ifs at hbody <;> cases hbody
   · exact .inl rfl
   · exact .inr ⟨_,rfl⟩
  rcases hevents with rfl | ⟨stop,rfl⟩
  · exact leakless_nil
  · exact leakless_pushText (startless_text (startless_take hnext stop))

theorem pushText_start {recovered:Bool} (hnext:nextXmlToolStart buffer=some (0,kind)) :
  pushText recovered buffer=[.text buffer]:=by
 have hopen:=nextXmlToolStart_some hnext
 rw [List.drop_zero] at hopen
 have hmarked : '<' ∈ buffer:=hopen.subset (by cases kind <;> decide)
 have hshown:¬(trim buffer).isEmpty=true:=fun hempty=>
  absurd (blank_iff.mp (List.isEmpty_iff.mp hempty) '<' hmarked) (by decide)
 unfold pushText
 rw [if_neg (nonempty_of_start hnext),if_neg]
 rw [Bool.and_eq_true_iff]
 exact fun hboth=>hshown hboth.2

theorem flush_leakless_iff (h:Settled env parser) : Leakless (parser.flush env).2 ↔ ¬LeaksOnFlush parser.buffer:=by
 cases hnext:nextXmlToolStart parser.buffer with
 | none=>
  refine iff_of_true (flush_ended h hnext) ?_
  rintro ⟨_,kind,hstart,_⟩
  rw [hnext] at hstart
  exact absurd hstart (by simp)
 | some found=>
  obtain ⟨start,kind⟩:=found
  obtain rfl:=settled_start h hnext
  rw [flush_pending h hnext]
  cases hopen:xmlTagOpenAt parser.buffer kind.openTag with
  | true=>
   refine iff_of_true leakless_nil ?_
   rintro ⟨_,other,hstart,hlookalike⟩
   rw [hnext] at hstart
   obtain ⟨_,rfl⟩:=Prod.mk.inj (Option.some.inj hstart)
   rw [hopen] at hlookalike
   exact absurd hlookalike (by simp)
  | false=>
   rw [if_neg Bool.false_ne_true]
   constructor
   · rintro hleakless ⟨hholds,_⟩
     refine hleakless parser.buffer ?_ hholds
     rw [pushText_start hnext]
     exact List.mem_singleton_self _
   · intro hsafe
     exact leakless_pushText fun hholds=>hsafe ⟨hholds,kind,hnext,hopen⟩

def pushAll (env:XmlEnv) : CursorToolUseXmlParser → List Text → CursorToolUseXmlParser
 | parser,[]=>parser
 | parser,delta::deltas=>pushAll env (parser.push env delta).1 deltas

theorem recover_leakless_iff (env:XmlEnv) (parser:CursorToolUseXmlParser) (deltas:List Text) (h:Settled env parser) :
  Leakless (parser.recover env deltas) ↔ ¬LeaksOnFlush (pushAll env parser deltas).buffer:=by
 induction deltas generalizing parser with
 | nil=>exact flush_leakless_iff h
 | cons delta deltas ih=>
  change Leakless ((parser.push env delta).2++_) ↔ _
  rw [leakless_append,ih _ (settled_push env parser delta)]
  exact and_iff_right (push_leakless env parser delta)

theorem pushAll_feed (env:XmlEnv) (parser:CursorToolUseXmlParser) (deltas:List Text) :
  pushAll env parser deltas=((recoveryResumable env).feed parser deltas).1:=by
 induction deltas generalizing parser with
 | nil=>rfl
 | cons delta deltas ih=>
  have hpush:(recoveryResumable env).push parser delta=⟨(parser.push env delta).1,
    toolUses (parser.push env delta).2,()⟩ := (drain env false).run_project toolUse _
  unfold pushAll Resumable.feed
  dsimp only
  rw [hpush,ih]

theorem pushAll_eq (env:XmlEnv) (deltas:List Text) :
  pushAll env .new deltas=(CursorToolUseXmlParser.new.push env deltas.flatten).1:=by
 cases deltas with
 | nil=>rfl
 | cons delta deltas=>
  have hwhole:=pushAll_feed env .new [(delta::deltas).flatten]
  rw [Resumable.feed_eq_push,List.flatten_singleton] at hwhole
  rw [pushAll_feed,Resumable.feed_eq_push,← hwhole]
  rfl

/-- No genuine start tag becomes visible text, exactly unless the text that waits for
the flush begins with a look-alike and holds a genuine start tag further on. -/
theorem no_leak_iff (env:XmlEnv) (deltas:List Text) :
    (∀ text,RecoveredCursorEvent.text text∈CursorToolUseXmlParser.new.recover env deltas → ¬HoldsStartTag text) ↔
      ¬LeaksOnFlush (CursorToolUseXmlParser.new.push env deltas.flatten).1.buffer:=by
  rw [← pushAll_eq]
  exact recover_leakless_iff env .new deltas (settled_new env)

def lookAlikeText : Text :=
 "<tool_user> <tool_use name=\"Read\">\x7b\x7d</tool_use>".toList

def showsStartTagAt (place:ℕ) : RecoveredCursorEvent → Bool
 | .text text=>xmlTagOpenAt (text.drop place) XmlToolKind.toolUse.openTag
 | .toolUse _=>false

/-- A look-alike in front makes a complete element visible and loses its tool. -/
theorem look_alike_leaks :
    (∃ text, .text text∈CursorToolUseXmlParser.new.recover emptyObjectEnv [lookAlikeText] ∧ HoldsStartTag text) ∧
      (toolUses (CursorToolUseXmlParser.new.recover emptyObjectEnv [lookAlikeText])).isEmpty:=by
  have hshown:(CursorToolUseXmlParser.new.recover emptyObjectEnv [lookAlikeText]).any
      (showsStartTagAt 12)=true := by decide +kernel
  obtain ⟨event,hmem,hshows⟩:=List.any_eq_true.mp hshown
  refine ⟨?_,by decide +kernel⟩
  cases event with
  | text text=>exact ⟨text,hmem,.toolUse,12,hshows⟩
  | toolUse tool=>exact absurd hshows (by simp [showsStartTagAt])

end CursorProxy.XmlLeaks
