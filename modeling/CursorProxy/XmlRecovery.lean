import CursorProxy.XmlRuns

namespace CursorProxy.XmlRecovery
open CautiousScan StreamingLoop XmlElements XmlParser XmlGaps XmlRuns

def toolUse : RecoveredCursorEvent → Option RecoveredCursorToolUse
 | .toolUse tool=>some tool
 | .text _=>none

def toolUses (events:List RecoveredCursorEvent) : List RecoveredCursorToolUse :=
 events.filterMap toolUse

theorem toolUses_pushText (recovered:Bool) (text:Text) : (pushText recovered text).filterMap toolUse=[]:=by
 unfold pushText
 split_ifs <;> rfl

def recoveryLoop (env:XmlEnv) : MeasuredLoop CursorToolUseXmlParser RecoveredCursorToolUse Unit :=
 (drain env false).project toolUse

theorem recovery_gap (env:XmlEnv) (parser:CursorToolUseXmlParser) :
  (recoveryLoop env).run parser=(recoveryLoop env).run { parser with
   buffer := restOf parser.recoveredToolUse parser.buffer }:=by
 have hgap:=run_gap env parser
 unfold PassesGap at hgap
 unfold recoveryLoop
 rw [MeasuredLoop.run_project,MeasuredLoop.run_project,hgap,Finished.emitBefore_state,
  Finished.emitBefore_out,List.filterMap_append,toolUses_pushText,List.nil_append]

def recoveryResumable (env:XmlEnv) : Resumable Char (recoveryLoop env) where
 extend := CursorToolUseXmlParser.extend
 extend_nil parser:=by
  unfold CursorToolUseXmlParser.extend
  rw [List.append_nil]
 extend_append parser xs ys:=by
  unfold CursorToolUseXmlParser.extend
  rw [List.append_assoc]
 again_extend parser next kept xs h:=by
  obtain ⟨events,hbody,rfl⟩:=Turn.project_again toolUse h
  exact congrArg (Turn.project toolUse) (round_extend xs hbody)
 done_extend parser last kept exit xs h:=by
  obtain ⟨events,hbody,rfl⟩:=Turn.project_done toolUse h
  obtain ⟨rfl,rfl,_⟩:=round_stopped hbody
  rw [toolUses_pushText,Finished.emitBefore_nil,recovery_gap env (parser.extend xs),
   recovery_gap env (CursorToolUseXmlParser.extend _ xs)]
  unfold CursorToolUseXmlParser.extend
  dsimp only
  rw [restOf,(rest_append (endsGap_cautious parser.recoveredToolUse) parser.buffer xs).2]

theorem toolUses_recover_feed (env:XmlEnv) (parser:CursorToolUseXmlParser)
  (deltas:List Text) : toolUses (parser.recover env deltas) =
   ((recoveryResumable env).feed parser deltas).2 ++
    toolUses (((recoveryResumable env).feed parser deltas).1.flush env).2:=by
 induction deltas generalizing parser with
 | nil=>rfl
 | cons delta deltas ih=>
  have hpush:(recoveryResumable env).push parser delta=⟨(parser.push env delta).1,
    toolUses (parser.push env delta).2,()⟩ := (drain env false).run_project toolUse _
  unfold CursorToolUseXmlParser.recover Resumable.feed
  dsimp only
  rw [hpush,List.append_assoc,← ih]
  exact List.filterMap_append

/-- The same tool uses are recovered in the same order however the text is cut. -/
theorem toolUses_recover (env:XmlEnv) (deltas:List Text) :
    toolUses (CursorToolUseXmlParser.new.recover env deltas) =
      toolUses (CursorToolUseXmlParser.new.recover env [deltas.flatten]):=by
  cases deltas with
  | nil=>rfl
  | cons delta deltas=>
    rw [toolUses_recover_feed,toolUses_recover_feed,Resumable.feed_eq_push,
      Resumable.feed_eq_push,List.flatten_singleton]

end CursorProxy.XmlRecovery
