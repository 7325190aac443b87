import CursorProxy.XmlRuns

namespace CursorProxy.XmlVisibleText
open CautiousScan StreamingLoop XmlElements XmlParser XmlScanning XmlGaps XmlRuns

variable {env:XmlEnv} {recovered:Bool}

def visibleText : RecoveredCursorEvent → Text
 | .text text=>text
 | .toolUse _=>[]

def visible (events:List RecoveredCursorEvent) : Text := events.flatMap visibleText

theorem visible_append (events more:List RecoveredCursorEvent) :
  visible (events++more)=visible events++visible more := List.flatMap_append

/-- A cut that is harmless shows the whole text, any other one less. -/
def Compares (cut whole:Text) (harmless:Prop) : Prop :=
 (harmless → cut=whole) ∧ (¬harmless → cut.length<whole.length)

namespace Compares
variable {cut middle whole:Text} {harmless harmless':Prop}

theorem eq_iff (h:Compares cut whole harmless) : cut=whole ↔ harmless:=by
 refine ⟨fun heq=>?_,h.1⟩
 by_contra hlossy
 have hshorter:=h.2 hlossy
 rw [heq] at hshorter
 exact absurd hshorter (Nat.lt_irrefl _)

theorem length_le (h:Compares cut whole harmless) : cut.length ≤ whole.length:=by
 by_cases hharmless:harmless
 · rw [h.1 hharmless]
 · exact (h.2 hharmless).le

theorem behind (front:Text) (h:Compares cut whole harmless) : Compares (front++cut) (front++whole) harmless:=by
 refine ⟨fun hharmless=>congrArg (front ++ ·) (h.1 hharmless),fun hlossy=>?_⟩
 have:=h.2 hlossy
 rw [List.length_append,List.length_append]
 omega

theorem before (after:Text) (h:Compares cut whole harmless) : Compares (cut++after) (whole++after) harmless:=by
 refine ⟨fun hharmless=>congrArg (· ++ after) (h.1 hharmless),fun hlossy=>?_⟩
 have:=h.2 hlossy
 rw [List.length_append,List.length_append]
 omega

theorem trans (h:Compares cut middle harmless) (h':Compares middle whole harmless') :
  Compares cut whole (harmless' ∧ harmless):=by
 refine ⟨fun ⟨hharmless',hharmless⟩=>(h.1 hharmless).trans (h'.1 hharmless'),fun hlossy=>?_⟩
 by_cases hharmless:harmless
 · rw [h.1 hharmless]
   exact h'.2 fun hharmless'=>hlossy ⟨hharmless',hharmless⟩
 · exact (h.2 hharmless).trans_le h'.length_le

end Compares

def Blank (text:Text) : Prop := trim text=[]

instance (text:Text) : Decidable (Blank text) := inferInstanceAs (Decidable (_=_))

theorem blank_iff {text:Text} : Blank text ↔ ∀ char∈text,isWhitespace char=true:=by
 unfold Blank trim trimStart
 rw [List.rdropWhile_eq_nil_iff]
 constructor
 · intro h
   rw [← List.dropWhile_eq_nil_iff]
   by_contra hne
   have hhead:=List.head_dropWhile_not isWhitespace hne
   rw [h _ (List.head_mem hne)] at hhead
   exact absurd hhead (by simp)
 · exact fun h char hmem=>h char ((List.dropWhile_suffix _).subset hmem)

theorem blank_nil : Blank [] := rfl

def shown (recovered:Bool) (text:Text) : Text := if recovered ∧ Blank text then [] else text

theorem visible_pushText (recovered:Bool) (text:Text) : visible (pushText recovered text)=shown recovered text:=by
 unfold pushText shown Blank
 split_ifs <;> simp_all [visible,visibleText]

theorem shown_length (recovered:Bool) (text:Text) : (shown recovered text).length ≤ text.length:=by
 unfold shown
 split_ifs
 · exact Nat.zero_le _
 · exact Nat.le_refl _

theorem shown_blank {text:Text} (h:Blank text) : shown true text=[] := if_pos ⟨rfl,h⟩

theorem shown_of_not_blank {text:Text} (h:¬Blank text) : shown true text=text :=
 if_neg fun hblank=>h hblank.2

theorem strip_frame (recovered:Bool) (buffer:Text) :
  restOf recovered (stripCloseTags recovered buffer)=restOf recovered buffer ∧
   (stripCloseTags recovered buffer).length ≤ buffer.length:=by
 fun_induction stripCloseTags recovered buffer with
 | case1 buffer buffer' hdrop ih=>
  have hshorter:=dropRedundantCloseTag_shorter hdrop
  exact ⟨ih.1.trans (gap_of_drop hdrop).symm,ih.2.trans hshorter.le⟩
 | case2=>exact ⟨rfl,Nat.le_refl _⟩

theorem gap_length (recovered:Bool) (buffer:Text) :
  (gapOf recovered buffer).length+(restOf recovered buffer).length=buffer.length:=by
 rw [← List.length_append]
 exact congrArg List.length (gap_append_rest _ buffer)

theorem strip_gap_shorter {buffer buffer':Text} (h:dropRedundantCloseTag recovered buffer=some buffer') :
  (gapOf recovered (stripCloseTags recovered buffer)).length < (gapOf recovered buffer).length:=by
 obtain ⟨hrest,hlength⟩:=strip_frame recovered buffer'
 have hshorter:=dropRedundantCloseTag_shorter h
 have hgap:=gap_length recovered buffer
 have hgap':=gap_length recovered (stripCloseTags recovered buffer')
 rw [hrest,← gap_of_drop h] at hgap'
 rw [stripCloseTags_drop h]
 omega

theorem trimStart_blank {passed:Text} (h:Blank passed) (text:Text) :
  trimStart (passed++text)=trimStart text ∧
   (passed++text).takeWhile isWhitespace=passed++text.takeWhile isWhitespace:=by
 have hall:=blank_iff.mp h
 unfold trimStart
 exact ⟨List.dropWhile_append_of_pos hall,List.takeWhile_append_of_pos hall⟩

theorem drop_blank {passed:Text} (h:Blank passed) (text:Text) :
  dropRedundantCloseTag recovered (passed++text) = (dropRedundantCloseTag recovered text).map (passed ++ ·):=by
 obtain ⟨htrim,htake⟩:=trimStart_blank h text
 unfold dropRedundantCloseTag
 dsimp only
 rw [htrim,htake]
 cases recovered with
 | false=>rfl
 | true=>
  rw [if_pos rfl,if_pos rfl,Option.map_map]
  exact congrArg (Option.map · _) (funext fun tag=>List.append_assoc _ _ _)

theorem strip_blank {passed:Text} (h:Blank passed) (text:Text) :
  stripCloseTags recovered (passed++text)=passed++stripCloseTags recovered text:=by
 fun_induction stripCloseTags recovered text with
 | case1 text text' hdrop ih=>
  rw [stripCloseTags_drop ((drop_blank h text).trans (congrArg _ hdrop))]
  exact ih
 | case2 text hdrop=>
  exact stripCloseTags_none ((drop_blank h text).trans (congrArg _ hdrop))

theorem drop_none_of_shown {buffer:Text} (hdrop:dropRedundantCloseTag true buffer=none)
  (hshown:¬Blank (gapOf true buffer)) (xs:Text) : dropRedundantCloseTag true (buffer++xs)=none:=by
 cases hlater:dropRedundantCloseTag true (buffer++xs) with
 | none=>rfl
 | some dropped=>
  have hne:trimStart buffer≠[]:=by
   intro hnil
   refine hshown (blank_iff.mpr fun char hmem=>?_)
   have hsplit:=buffer_split buffer
   rw [hnil,List.append_nil] at hsplit
   have hgap:gapOf true buffer <:+: buffer :=
    ⟨[],restOf true buffer,gap_append_rest _ buffer⟩
   exact takeWhile_whitespace buffer char (hsplit ▸ hgap.subset hmem)
  obtain ⟨hgap,_⟩:=gap_of_later_drop hdrop hlater hne
  rw [hgap] at hshown
  exact absurd (blank_iff.mpr (takeWhile_whitespace buffer)) hshown

/-- A cut after a recovery is harmless if what the parser has passed of the gap is
nothing, or is blank like all that the gap still shows, or shows and the gap then
ends or goes on with more than whitespace and no close tag to drop. -/
def HarmlessCut (recovered:Bool) (buffer upcoming:Text) : Prop :=
 recovered=true →
  let following:=restOf true buffer++upcoming
  if Blank (gapOf true buffer) then
   gapOf true buffer=[] ∨ Blank (gapOf true (stripCloseTags true following))
  else dropRedundantCloseTag true following=none ∧ (gapOf true following=[] ∨ ¬Blank (gapOf true following))

theorem compares_blank {passed text:Text} (h:Blank passed) :
  Compares (shown true text) (shown true (passed++text)) (passed=[] ∨ Blank text):=by
 by_cases htext:Blank text
 · have hboth:Blank (passed++text):=by
    refine blank_iff.mpr fun char hmem=>?_
    rcases List.mem_append.mp hmem with hpassed | hmore
    · exact blank_iff.mp h char hpassed
    · exact blank_iff.mp htext char hmore
   rw [shown_blank htext,shown_blank hboth]
   exact ⟨fun _=>rfl,fun hlossy=>absurd (.inr htext) hlossy⟩
 · have hboth:¬Blank (passed++text):=fun hblank=>
    htext (blank_iff.mpr fun char hmem=>blank_iff.mp hblank char (List.mem_append_right _ hmem))
   rw [shown_of_not_blank htext,shown_of_not_blank hboth]
   refine ⟨fun hharmless=>?_,fun hlossy=>?_⟩
   · rw [hharmless.resolve_right htext,List.nil_append]
   · have hpositive:=List.length_pos_of_ne_nil fun hnil=>hlossy (.inl hnil)
     rw [List.length_append]
     omega

theorem compares_shown (following:Text) :
  Compares (shown true (gapOf true (stripCloseTags true following))) (gapOf true following)
   (dropRedundantCloseTag true following=none ∧ (gapOf true following=[] ∨ ¬Blank (gapOf true following))):=by
 cases hdrop:dropRedundantCloseTag true following with
 | some dropped=>
  refine ⟨fun hharmless=>absurd hharmless.1 (by simp),fun _=>?_⟩
  exact (shown_length true _).trans_lt (strip_gap_shorter hdrop)
 | none=>
  rw [stripCloseTags_none hdrop]
  by_cases hblank:Blank (gapOf true following)
  · rw [shown_blank hblank]
    refine ⟨fun hharmless=>?_,fun hlossy=>?_⟩
    · exact (hharmless.2.resolve_right fun hshows=>hshows hblank).symm
    · exact List.length_pos_of_ne_nil fun hnil=>hlossy ⟨rfl,.inl hnil⟩
  · rw [shown_of_not_blank hblank]
    exact ⟨fun _=>rfl,fun hlossy=>absurd ⟨rfl,.inr hblank⟩ hlossy⟩

theorem compares_gap {buffer:Text} (hdrop:dropRedundantCloseTag recovered buffer=none) (upcoming:Text) :
  Compares (shown recovered (gapOf recovered buffer)++shown recovered (gapOf recovered
    (stripCloseTags recovered (restOf recovered buffer++upcoming))))
   (shown recovered (gapOf recovered (stripCloseTags recovered (buffer++upcoming))))
   (HarmlessCut recovered buffer upcoming):=by
 have hcut:=(rest_append (endsGap_cautious recovered) buffer upcoming).1
 change gapOf recovered (buffer++upcoming)=gapOf recovered buffer ++
  gapOf recovered (restOf recovered buffer++upcoming) at hcut
 cases recovered with
 | false=>
  have hstrip:∀ text,stripCloseTags false text=text:=fun text=>stripCloseTags_none rfl
  have hshown:∀ text,shown false text=text:=fun text=>if_neg fun h=>by simp at h
  rw [hstrip,hstrip,hshown,hshown,hshown,hcut]
  exact ⟨fun _=>rfl,fun hlossy=>absurd (fun hfalse=>absurd hfalse (by simp)) hlossy⟩
 | true=>
  unfold HarmlessCut
  by_cases hblank:Blank (gapOf true buffer)
  · have hwhole:gapOf true (stripCloseTags true (buffer++upcoming))=gapOf true buffer ++
      gapOf true (stripCloseTags true (restOf true buffer++upcoming)):=by
     have hsplit:gapOf true buffer++restOf true buffer=buffer:=gap_append_rest _ buffer
     conv_lhs=>rw [← hsplit,List.append_assoc,strip_blank hblank]
     exact (gap_passes true (whitespace_passes (blank_iff.mp hblank)) _).1
    rw [shown_blank hblank,hwhole,List.nil_append]
    simp only [true_implies,if_pos hblank]
    exact compares_blank hblank
  · have hwhole:¬Blank (gapOf true buffer++gapOf true (restOf true buffer++upcoming)) :=
     fun hboth=>hblank (blank_iff.mpr fun char hmem=>
      blank_iff.mp hboth char (List.mem_append_left _ hmem))
    rw [stripCloseTags_none (drop_none_of_shown hdrop hblank upcoming),hcut,
     shown_of_not_blank hblank,shown_of_not_blank hwhole]
    simp only [true_implies,if_neg hblank]
    exact (compares_shown _).behind _

/-- All that is shown of a buffer that is drained and then flushed. -/
def total (env:XmlEnv) (parser:CursorToolUseXmlParser) : Text :=
 visible ((drain env false).run parser).out ++ visible (((drain env false).run parser).state.flush env).2

theorem total_of_run {parser parser':CursorToolUseXmlParser} {events:List RecoveredCursorEvent}
  (h:(drain env false).run parser=((drain env false).run parser').emitBefore events) :
  total env parser=visible events++total env parser':=by
 unfold total
 rw [h,Finished.emitBefore_out,Finished.emitBefore_state,visible_append,List.append_assoc]

theorem total_gap (env:XmlEnv) (parser:CursorToolUseXmlParser) : total env parser =
  shown parser.recoveredToolUse (gapOf parser.recoveredToolUse
   (stripCloseTags parser.recoveredToolUse parser.buffer)) ++
   total env { parser with buffer := restOf parser.recoveredToolUse parser.buffer }:=by
 rw [← visible_pushText]
 exact total_of_run (run_gap env parser)

/-- The state in which a push stops tells whether the cut behind it is harmless. -/
def HarmlessStop (env:XmlEnv) (parser:CursorToolUseXmlParser) (upcoming:Text) : Prop :=
 let stopped:=(drain env false).last parser
 HarmlessCut stopped.recoveredToolUse stopped.buffer upcoming

theorem compares_run (env:XmlEnv) (parser:CursorToolUseXmlParser) (upcoming:Text) :
  Compares (visible ((drain env false).run parser).out ++
    total env (((drain env false).run parser).state.extend upcoming))
   (total env (parser.extend upcoming)) (HarmlessStop env parser upcoming):=by
 refine (drain env false).run_induction (P := fun parser=>
  Compares (visible ((drain env false).run parser).out ++
    total env (((drain env false).run parser).state.extend upcoming))
   (total env (parser.extend upcoming)) (HarmlessStop env parser upcoming)) ?_ ?_ parser
 · intro parser last events exit hbody
   obtain ⟨rfl,rfl,hdrop⟩:=round_stopped hbody
   have hrest:=(rest_append (endsGap_cautious parser.recoveredToolUse) parser.buffer upcoming).2
   unfold HarmlessStop
   rw [(drain env false).run_done hbody,(drain env false).last_done hbody,visible_pushText,
    total_gap env (parser.extend upcoming),
    total_gap env (CursorToolUseXmlParser.extend _ upcoming),← List.append_assoc]
   unfold CursorToolUseXmlParser.extend
   dsimp only
   rw [restOf,hrest]
   exact (compares_gap hdrop upcoming).before _
 · intro parser next events hbody ih
   have hrun:=(drain env false).run_again hbody
   have hlater:(drain env false).run (parser.extend upcoming) =
     ((drain env false).run (next.extend upcoming)).emitBefore events :=
    (drain env false).run_again (round_extend upcoming hbody)
   unfold HarmlessStop at ih ⊢
   rw [hrun,Finished.emitBefore_out,Finished.emitBefore_state,visible_append,
    List.append_assoc,total_of_run hlater,(drain env false).last_again hbody]
   exact ih.behind _

def HarmlessCuts (env:XmlEnv) : CursorToolUseXmlParser → List Text → Prop
 | _,[]=>True
 | parser,delta::deltas=>
  HarmlessStop env (parser.extend delta) deltas.flatten ∧ HarmlessCuts env (parser.push env delta).1 deltas

theorem harmless_end (env:XmlEnv) (parser:CursorToolUseXmlParser) : HarmlessStop env parser []:=by
 unfold HarmlessStop HarmlessCut
 intro stopped _
 dsimp only
 have hgap:∀ buffer,gapOf true (restOf true buffer)=[]:=fun buffer=>gap_rest _ buffer
 rw [List.append_nil,stripCloseTags_none (drop_none_of_rest true _),hgap]
 split_ifs
 · exact .inr blank_nil
 · exact ⟨drop_none_of_rest true _,.inl rfl⟩

theorem compares_recover (env:XmlEnv) (parser:CursorToolUseXmlParser) (delta:Text) (deltas:List Text) :
  Compares (visible (parser.recover env (delta::deltas))) (total env (parser.extend (delta::deltas).flatten))
   (HarmlessCuts env parser (delta::deltas)):=by
 induction deltas generalizing parser delta with
 | nil=>
  have hwhole:visible (parser.recover env [delta])=total env (parser.extend delta) :=
   visible_append _ _
  rw [hwhole,List.flatten_singleton]
  exact ⟨fun _=>rfl,fun hlossy=>absurd ⟨harmless_end env _,trivial⟩ hlossy⟩
 | cons next deltas ih=>
  have hcut:=compares_run env (parser.extend delta) (next::deltas).flatten
  have hlater:=(ih (parser.push env delta).1 next).behind (visible (parser.push env delta).2)
  have hextend:(parser.extend delta).extend (next::deltas).flatten = parser.extend (delta::next::deltas).flatten:=by
   unfold CursorToolUseXmlParser.extend
   simp only [List.flatten_cons,List.append_assoc]
  have hsplit:visible (parser.recover env (delta::next::deltas)) =
    visible (parser.push env delta).2 ++
     visible ((parser.push env delta).1.recover env (next::deltas)) := visible_append _ _
  rw [hextend] at hcut
  rw [hsplit]
  exact hlater.trans hcut

/-- The visible text is that of the text pushed at once exactly if every cut between
two deltas is harmless. -/
theorem visible_recover_iff (env:XmlEnv) (deltas:List Text) :
    visible (CursorToolUseXmlParser.new.recover env deltas) =
        visible (CursorToolUseXmlParser.new.recover env [deltas.flatten]) ↔ HarmlessCuts env .new deltas:=by
  cases deltas with
  | nil=>exact iff_of_true rfl trivial
  | cons delta deltas=>
    have hwhole:visible (CursorToolUseXmlParser.new.recover env [(delta::deltas).flatten]) =
        total env (CursorToolUseXmlParser.new.extend (delta::deltas).flatten) :=
      visible_append _ _
    rw [hwhole]
    exact (compares_recover env .new delta deltas).eq_iff

def emptyObjectEnv : XmlEnv where
 allowedToolNames := none
 fromStr text := if text = "\x7b\x7d".toList then some (.object []) else none

def spacedDeltas : List Text :=
 ["<tool_use name=\"Read\">\x7b\x7d</tool_use>".toList,"hello".toList," ".toList,"world".toList]

/-- After a recovered tool the blank between two words is lost. -/
theorem visible_depends_on_cuts :
    visible (CursorToolUseXmlParser.new.recover emptyObjectEnv spacedDeltas) = "helloworld".toList ∧
      visible (CursorToolUseXmlParser.new.recover emptyObjectEnv [spacedDeltas.flatten]) = "hello world".toList:=by
  decide +kernel

end CursorProxy.XmlVisibleText
