import CursorProxy.XmlGaps

namespace CursorProxy.XmlRuns
open CautiousScan StreamingLoop XmlElements XmlParser XmlScanning XmlGaps

variable {env:XmlEnv} {recovered:Bool} {kind:XmlToolKind} {buffer buffer':Text}

theorem takeWhile_whitespace (text:Text) : ∀ char∈text.takeWhile isWhitespace,isWhitespace char=true :=
 fun _ hmem=>List.mem_takeWhile_imp hmem

theorem buffer_split (text:Text) : text=text.takeWhile isWhitespace++trimStart text :=
 List.takeWhile_append_dropWhile.symm

theorem gap_of_drop (h:dropRedundantCloseTag recovered buffer=some buffer') :
 restOf recovered buffer=restOf recovered buffer':=by
 obtain ⟨tag,htag,after,hslice,rfl,_⟩:=dropRedundantCloseTag_some h
 have hspace:=whitespace_passes (takeWhile_whitespace buffer)
 rw [(gap_passes recovered hspace after).2]
 conv_lhs=>rw [buffer_split buffer,hslice]
 rw [(gap_passes recovered hspace (tag++after)).2,(gap_passes_closeTag recovered htag after).2]

theorem drop_none_nil (recovered:Bool) : dropRedundantCloseTag recovered []=none:=by
 cases recovered <;> decide

theorem drop_none_of_rest (recovered:Bool) (buffer:Text) :
 dropRedundantCloseTag recovered (restOf recovered buffer)=none:=by
 cases hdrop:dropRedundantCloseTag recovered (restOf recovered buffer) with
 | none=>rfl
 | some dropped=>
  obtain ⟨tag,htag,after,hslice,_,_⟩:=dropRedundantCloseTag_some hdrop
  have hends:=rest_nil_or_stops (endsGap recovered) buffer
  change restOf recovered buffer=[] ∨ endsGap recovered (restOf recovered buffer)=true at hends
  cases hrest:restOf recovered buffer with
  | nil=>
   have hlength:=congrArg List.length hslice
   have hpositive:=redundantCloseTags_ne tag htag
   rw [hrest,List.length_append,trimStart,List.dropWhile_nil,List.length_nil] at hlength
   omega
  | cons char text=>
   rw [hrest] at hends hslice
   have hstopped:=hends.resolve_left (by simp)
   obtain rfl:=endsGap_head hstopped
   change '<' :: text=tag++after at hslice
   rw [hslice,not_endsGap_closeTag recovered htag after] at hstopped
   exact absurd hstopped (by simp)

theorem gap_of_later_drop {dropped xs:Text} (hdrop:dropRedundantCloseTag true buffer=none)
 (hlater:dropRedundantCloseTag true (buffer++xs)=some dropped) (hne:trimStart buffer≠[]) :
 gapOf true buffer=buffer.takeWhile isWhitespace ∧ restOf true buffer=trimStart buffer ∧
  ∃ tag∈redundantCloseTags,trimStart buffer <+: tag:=by
 obtain ⟨tag,htag,after,hslice,_,_⟩:=dropRedundantCloseTag_some hlater
 rw [(trimStart_append xs hne).1] at hslice
 have hnot:=dropRedundantCloseTag_none hdrop htag
 have hshort:trimStart buffer <+: tag :=
  (List.prefix_or_prefix_of_prefix ⟨after,hslice.symm⟩ (List.prefix_append _ xs)).resolve_left hnot
 have hlonger:(trimStart buffer).length<tag.length :=
  Nat.lt_of_le_of_ne hshort.length_le
   fun heq=>hnot (hshort.eq_of_length heq ▸ List.prefix_refl _)
 have hends:endsGap true (trimStart buffer)=true :=
  endsGap_iff.mpr (.inr ⟨tag,List.mem_append_right _ htag,hshort,hlonger⟩)
 have hat:gapOf true (trimStart buffer)=[] ∧ restOf true (trimStart buffer)=trimStart buffer:=by
  cases htrim:trimStart buffer with
  | nil=>exact absurd htrim hne
  | cons char text=>exact ⟨gap_stopped (htrim ▸ hends),rest_stopped (htrim ▸ hends)⟩
 obtain ⟨hgap,hrest⟩:=gap_passes true (whitespace_passes (takeWhile_whitespace buffer)) (trimStart buffer)
 rw [← buffer_split buffer,hat.1,List.append_nil] at hgap
 rw [← buffer_split buffer,hat.2] at hrest
 exact ⟨hgap,hrest,tag,htag,hshort⟩

theorem drop_none_append (hdrop:dropRedundantCloseTag recovered buffer=none) {start:ℕ}
 (hnext:nextXmlToolStart buffer=some (start,kind)) (xs:Text) :
 dropRedundantCloseTag recovered (buffer++xs)=none:=by
 cases recovered with
 | false=>rfl
 | true=>
  have hopen:kind.openTag <+: restOf true buffer:=by
   rw [(gap_of_start true hnext).2]
   exact nextXmlToolStart_some hnext
  cases hlater:dropRedundantCloseTag true (buffer++xs) with
  | none=>rfl
  | some dropped=>
   have hne:trimStart buffer≠[]:=by
    intro hnil
    have hrest:=(gap_passes true (whitespace_passes (takeWhile_whitespace buffer)) (trimStart buffer)).2
    rw [← buffer_split buffer,hnil] at hrest
    rw [hrest] at hopen
    have hlength:=hopen.length_le
    have hpositive:=(openTags_length kind).1
    change kind.openTag.length ≤ 0 at hlength
    omega
   obtain ⟨_,hrest,tag,htag,hshort⟩:=gap_of_later_drop hdrop hlater hne
   obtain ⟨huse,hcall,_⟩:=closeTags_not_open tag htag
   rw [hrest] at hopen
   cases kind
   · exact absurd (hopen.trans hshort) huse
   · exact absurd (hopen.trans hshort) hcall

def stripCloseTags (recovered:Bool) (buffer:Text) : Text :=
 match _hdrop:dropRedundantCloseTag recovered buffer with
 | some buffer'=>stripCloseTags recovered buffer'
 | none=>buffer
termination_by buffer.length
decreasing_by exact dropRedundantCloseTag_shorter _hdrop

theorem stripCloseTags_drop (h:dropRedundantCloseTag recovered buffer=some buffer') :
 stripCloseTags recovered buffer=stripCloseTags recovered buffer':=by
 conv_lhs=>unfold stripCloseTags
 split
 · rename_i dropped hdropped
   rw [h] at hdropped
   obtain rfl:=Option.some.inj hdropped
   rfl
 · rename_i hnone
   rw [h] at hnone
   exact absurd hnone (by simp)

theorem stripCloseTags_none (h:dropRedundantCloseTag recovered buffer=none) :
 stripCloseTags recovered buffer=buffer:=by
 unfold stripCloseTags
 split
 · rename_i dropped hdropped
   rw [h] at hdropped
   exact absurd hdropped (by simp)
 · rfl

theorem run_held (parser:CursorToolUseXmlParser) (hnext:nextXmlToolStart parser.buffer=none)
 (hrest:restOf parser.recoveredToolUse parser.buffer=parser.buffer) :
 (drain env false).run parser=⟨parser,[],()⟩:=by
 have hdrop:=drop_none_of_rest parser.recoveredToolUse parser.buffer
 rw [hrest] at hdrop
 refine (drain env false).run_done ?_
 change drainBody env false parser=.done parser [] ()
 have hturn:=drainBody_turn env false parser
 generalize drainBody env false parser=turn at hturn
 cases hturn with
 | empty=>rfl
 | dropped buffer hdropped=>
  rw [hdrop] at hdropped
  exact absurd hdropped (by simp)
 | ended stop _ _ hstop=>
  have hheld:=held_eq_rest parser.recoveredToolUse hnext
  rw [hrest] at hheld
  obtain rfl : stop=0:=by
   rw [hstop,if_neg Bool.false_ne_true]
   omega
  rfl
 | passed start kind _ hstart=>
  rw [hnext] at hstart
  exact absurd hstart (by simp)
 | pending=>rfl
 | flushed events hflush=>exact absurd hflush (by simp)
 | completed kind closeStart closeEnd _ hstart=>
  rw [hnext] at hstart
  exact absurd hstart (by simp)

/-- A run shows the gap, without the close tags at its start, and then does what it
would have done at the end of the gap. -/
def PassesGap (env:XmlEnv) (parser:CursorToolUseXmlParser) : Prop :=
 (drain env false).run parser =
  ((drain env false).run { parser with
   buffer := restOf parser.recoveredToolUse parser.buffer }).emitBefore
   (pushText parser.recoveredToolUse (gapOf parser.recoveredToolUse
    (stripCloseTags parser.recoveredToolUse parser.buffer)))

theorem passesGap_at_start {parser:CursorToolUseXmlParser}
 (hnext:nextXmlToolStart parser.buffer=some (0,kind)) : PassesGap env parser:=by
 obtain ⟨hgap,hrest⟩:=gap_of_start parser.recoveredToolUse hnext
 have hdrop:=drop_none_of_rest parser.recoveredToolUse parser.buffer
 rw [List.drop_zero] at hrest
 rw [hrest] at hdrop
 unfold PassesGap
 rw [hrest,stripCloseTags_none hdrop,hgap]
 rfl

theorem run_gap (env:XmlEnv) (parser:CursorToolUseXmlParser) : PassesGap env parser:=by
 refine (drain env false).run_induction (P := PassesGap env) ?_ ?_ parser
 · intro parser last events exit hbody
   change drainBody env false parser=_ at hbody
   have hturn:=drainBody_turn env false parser
   rw [hbody] at hturn
   have hrun:=(drain env false).run_done hbody
   cases hturn with
   | empty hempty=>
    unfold PassesGap
    rw [hempty,stripCloseTags_none (drop_none_nil parser.recoveredToolUse)]
    obtain ⟨buffer,recovered,ids⟩:=parser
    obtain rfl : buffer=[]:=hempty
    rfl
   | ended stop hdrop hnext hstop=>
    obtain ⟨hgap,hrest⟩:=gap_of_end parser.recoveredToolUse hnext
    rw [if_neg Bool.false_ne_true] at hstop
    unfold PassesGap
    rw [stripCloseTags_none hdrop,hgap,hrest,← hstop,hrun,run_held]
    · exact congrArg (Finished.mk _ · ()) (List.append_nil _).symm
    · exact no_start_suffix hnext (List.drop_suffix _ _)
    · dsimp only
      rw [hstop,← hrest]
      exact rest_rest _ _
   | pending kind hnext=>exact passesGap_at_start hnext
   | flushed _ hflush=>exact absurd hflush (by simp)
 · intro parser next events hbody ih
   change drainBody env false parser=_ at hbody
   have hturn:=drainBody_turn env false parser
   rw [hbody] at hturn
   have hrun:=(drain env false).run_again hbody
   cases hturn with
   | dropped buffer hdrop=>
    unfold PassesGap at ih ⊢
    rw [hrun,Finished.emitBefore_nil,ih,gap_of_drop hdrop,stripCloseTags_drop hdrop]
   | passed start kind hdrop hnext=>
    obtain ⟨hgap,hrest⟩:=gap_of_start parser.recoveredToolUse hnext
    unfold PassesGap
    rw [stripCloseTags_none hdrop,hgap,hrest,hrun]
   | completed kind closeStart closeEnd _ hnext=>exact passesGap_at_start hnext

theorem nonempty_of_start {start:ℕ} (h:nextXmlToolStart buffer=some (start,kind)) : ¬buffer.isEmpty=true:=by
 intro hempty
 rw [List.isEmpty_iff.mp hempty,nextXmlToolStart_nil] at h
 exact absurd h (by simp)

theorem nonempty_of_drop (h:dropRedundantCloseTag recovered buffer=some buffer') : ¬buffer.isEmpty=true:=by
 have hshorter:=dropRedundantCloseTag_shorter h
 intro hempty
 rw [List.isEmpty_iff.mp hempty,List.length_nil] at hshorter
 omega

theorem element_extend (parser:CursorToolUseXmlParser) (raw rest xs:Text)
 (buffer:Text) : element env { parser with buffer } kind raw (rest++xs) =
  ((element env parser kind raw rest).1.extend xs,(element env parser kind raw rest).2):=by
 unfold element CursorToolUseXmlParser.extend
 dsimp only
 split
 · rfl
 · rw [List.append_assoc]

theorem round_extend {parser next:CursorToolUseXmlParser} {events:List RecoveredCursorEvent}
 (xs:Text) (h:drainBody env false parser=.again next events) :
 drainBody env false (parser.extend xs)=.again (next.extend xs) events:=by
 have hturn:=drainBody_turn env false parser
 rw [h] at hturn
 unfold drainBody CursorToolUseXmlParser.extend
 cases hturn with
 | dropped buffer hdrop=>
  have hlater:=dropRedundantCloseTag_append xs hdrop
  rw [if_neg (nonempty_of_drop hlater)]
  simp only [hlater]
 | passed start kind hdrop hnext hstart=>
  have hlater:=nextXmlToolStart_append xs hnext
  have hlength:=(nextXmlToolStart_some hnext).length_le
  have hopen:=(openTags_length kind).1
  rw [List.length_drop] at hlength
  rw [if_neg (nonempty_of_start hlater)]
  simp only [drop_none_append hdrop hnext xs,hlater,if_pos hstart]
  rw [List.drop_append_of_le_length (by omega),List.take_append_of_le_length (by omega)]
 | completed kind closeStart closeEnd hdrop hnext hclose hend=>
  have hlater:=nextXmlToolStart_append xs hnext
  obtain ⟨hlength,hcloseLater⟩:=findMatchingNamedClose_append (tags_length kind) xs hclose
  rw [← hend] at hlength
  rw [if_neg (nonempty_of_start hlater)]
  simp only [drop_none_append hdrop hnext xs,hlater,hcloseLater,← hend,if_neg (Nat.lt_irrefl 0)]
  rw [List.drop_append_of_le_length hlength,List.take_append_of_le_length hlength,element_extend]
  rfl

theorem round_stopped {parser last:CursorToolUseXmlParser} {events:List RecoveredCursorEvent}
 (h:drainBody env false parser=.done last events ()) :
 last={ parser with buffer := restOf parser.recoveredToolUse parser.buffer } ∧
  events=pushText parser.recoveredToolUse (gapOf parser.recoveredToolUse parser.buffer) ∧
  dropRedundantCloseTag parser.recoveredToolUse parser.buffer=none:=by
 have hturn:=drainBody_turn env false parser
 rw [h] at hturn
 cases hturn with
 | empty hempty=>
  obtain ⟨buffer,recovered,ids⟩:=parser
  obtain rfl : buffer=[]:=hempty
  exact ⟨rfl,rfl,drop_none_nil recovered⟩
 | ended stop hdrop hnext hstop=>
  obtain ⟨hgap,hrest⟩:=gap_of_end parser.recoveredToolUse hnext
  rw [if_neg Bool.false_ne_true] at hstop
  rw [hgap,hrest,← hstop]
  exact ⟨rfl,rfl,hdrop⟩
 | pending kind hnext=>
  obtain ⟨hgap,hrest⟩:=gap_of_start parser.recoveredToolUse hnext
  have hdrop:=drop_none_of_rest parser.recoveredToolUse parser.buffer
  rw [List.drop_zero] at hrest
  rw [hrest] at hdrop ⊢
  rw [hgap]
  exact ⟨rfl,rfl,hdrop⟩
 | flushed _ hflush=>exact absurd hflush (by simp)

end CursorProxy.XmlRuns
