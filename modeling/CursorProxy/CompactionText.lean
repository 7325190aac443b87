import CursorProxy.BlockLanes

/-! In compaction mode both answers consist of text alone, and of the thinking if Cursor sends no
text. -/
namespace CursorProxy.CompactionText
open XmlElements BlockLanes

structure Gathered where
 shown : Text
 fallback : Text
 seen : Bool

namespace Gathered

def start : Gathered := ⟨[],[],false⟩

def think (gathered:Gathered) (thought:Text) : Gathered :=
 if gathered.seen then gathered
 else { gathered with fallback := gathered.fallback++thought }

def say (gathered:Gathered) (text:Text) : Gathered :=
 ⟨gathered.shown++text,[],true⟩

def answer (gathered:Gathered) : Text :=
 if gathered.shown.isEmpty then gathered.fallback else gathered.shown

end Gathered

/-- A streamed answer passes over a text delta without text. -/
def streamGather (gathered:Gathered) : Piece → Gathered
 | .text text=>if text.isEmpty then gathered else gathered.say text
 | .thinking thought _=>gathered.think thought
 | _=>gathered

def streamText : Gathered → List Piece → Text
 | gathered,[]=>gathered.answer
 | gathered, .finish::_=>gathered.answer
 | gathered,piece::pieces=>streamText (streamGather gathered piece) pieces

/-- In a collected answer it drops the thinking. -/
def messageGather (gathered:Gathered) : Piece → Gathered
 | .text text=>gathered.say text
 | .thinking thought _=>gathered.think thought
 | _=>gathered

def messageText (gathered:Gathered) (pieces:List Piece) : Text :=
 (pieces.foldl messageGather gathered).answer

def spokenIn : Piece → Text
 | .text text=>text
 | _=>[]

def thoughtIn : Piece → Text
 | .thinking thought _=>thought
 | _=>[]

def spoken (pieces:List Piece) : Text := (pieces.map spokenIn).flatten
def thought (pieces:List Piece) : Text := (pieces.map thoughtIn).flatten

def isText : Piece → Bool
 | .text _=>true
 | _=>false

def isFinish : Piece → Bool
 | .finish=>true
 | _=>false

def beforeEnd (pieces:List Piece) : List Piece := pieces.takeWhile fun piece=>!isFinish piece
def afterEnd (pieces:List Piece) : List Piece := pieces.dropWhile fun piece=>!isFinish piece

/-- With text before the end, none comes after it. Without, a text delta after the end
repeats the thinking before it; and if no text comes at all, there was either no text
delta and no thinking after the end, or no thinking before it. -/
def SameText (pieces:List Piece) : Prop :=
 if spoken (beforeEnd pieces)≠[] then spoken (afterEnd pieces)=[]
 else if spoken (afterEnd pieces)≠[] then
  spoken (afterEnd pieces)=thought (beforeEnd pieces)
 else if pieces.any isText then thought (beforeEnd pieces)=[]
 else thought (afterEnd pieces)=[]

theorem streamText_seen {shown:Text} (h:shown≠[]) (pieces:List Piece) :
 streamText ⟨shown,[],true⟩ pieces=shown++spoken (beforeEnd pieces):=by
 have hanswer:∀ {shown:Text},shown≠[] → Gathered.answer ⟨shown,[],true⟩=shown :=
  fun h=>if_neg fun hempty=>h (List.isEmpty_iff.mp hempty)
 induction pieces generalizing shown with
 | nil=>exact (hanswer h).trans (List.append_nil _).symm
 | cons piece pieces ih=>
  cases piece with
  | text text=>
   change streamText (if text.isEmpty then _ else _) pieces=shown++(text++_)
   cases text with
   | nil=>exact ih h
   | cons char text=>
    rw [← List.append_assoc]
    exact ih (by simp)
  | finish=>exact (hanswer h).trans (List.append_nil _).symm
  | thinking | completed | other=>exact ih h

theorem streamText_thinking (fallback:Text) (pieces:List Piece) :
 streamText ⟨[],fallback,false⟩ pieces = if spoken (beforeEnd pieces)=[] then fallback++thought (beforeEnd pieces)
  else spoken (beforeEnd pieces):=by
 induction pieces generalizing fallback with
 | nil=>exact (List.append_nil _).symm
 | cons piece pieces ih=>
  cases piece with
  | text text=>
   change streamText (if text.isEmpty then _ else _) pieces =
    if text++spoken (beforeEnd pieces)=[] then
     fallback++([]++thought (beforeEnd pieces)) else text++spoken (beforeEnd pieces)
   cases text with
   | nil=>exact ih fallback
   | cons char text=>
    rw [if_neg (by simp)]
    exact streamText_seen (by simp) pieces
  | thinking more signature=>
   change streamText ⟨[],fallback++more,false⟩ pieces =
    if []++spoken (beforeEnd pieces)=[] then
     fallback++(more++thought (beforeEnd pieces)) else []++spoken (beforeEnd pieces)
   rw [ih,List.append_assoc,List.nil_append]
  | finish=>exact (List.append_nil _).symm
  | completed | other=>exact ih fallback

theorem messageText_seen (shown:Text) (pieces:List Piece) :
 messageText ⟨shown,[],true⟩ pieces=shown++spoken pieces:=by
 induction pieces generalizing shown with
 | nil=>
  cases shown <;> simp [messageText,Gathered.answer,spoken]
 | cons piece pieces ih=>
  cases piece with
  | text text=>
   change messageText ⟨shown++text,[],true⟩ pieces=shown++(text++_)
   rw [ih,List.append_assoc]
   rfl
  | thinking | completed | finish | other=>exact ih shown

theorem messageText_thinking (fallback:Text) (pieces:List Piece) :
 messageText ⟨[],fallback,false⟩ pieces = if pieces.any isText then spoken pieces else fallback++thought pieces:=by
 induction pieces generalizing fallback with
 | nil=>exact (List.append_nil _).symm
 | cons piece pieces ih=>
  cases piece with
  | text text=>exact messageText_seen text pieces
  | thinking more signature=>
   change messageText ⟨[],fallback++more,false⟩ pieces =
    if pieces.any isText then []++spoken pieces else fallback++(more++thought pieces)
   rw [ih,List.append_assoc,List.nil_append]
  | completed | finish | other=>exact ih fallback

theorem spoken_split (pieces:List Piece) : spoken pieces=spoken (beforeEnd pieces)++spoken (afterEnd pieces):=by
 unfold spoken beforeEnd afterEnd
 rw [← List.flatten_append,← List.map_append,List.takeWhile_append_dropWhile]

theorem thought_split (pieces:List Piece) : thought pieces=thought (beforeEnd pieces)++thought (afterEnd pieces):=by
 unfold thought beforeEnd afterEnd
 rw [← List.flatten_append,← List.map_append,List.takeWhile_append_dropWhile]

theorem spoken_silent {pieces:List Piece} (h:¬pieces.any isText=true) : spoken pieces=[]:=by
 refine List.flatten_eq_nil_iff.mpr fun text hmem=>?_
 obtain ⟨piece,hpiece,rfl⟩:=List.mem_map.mp hmem
 cases piece with
 | text text=>exact absurd (List.any_eq_true.mpr ⟨_,hpiece,rfl⟩) h
 | thinking | completed | finish | other=>rfl

theorem sameText_iff (pieces:List Piece) : streamText .start pieces=messageText .start pieces ↔ SameText pieces:=by
 have hspoken:=spoken_split pieces
 have hthought:=thought_split pieces
 unfold Gathered.start SameText
 rw [streamText_thinking,messageText_thinking,List.nil_append,List.nil_append]
 by_cases hheard:spoken (beforeEnd pieces)=[]
 · rw [hheard,List.nil_append] at hspoken
   simp only [hheard,ne_eq,not_true_eq_false,if_true,if_false]
   by_cases hlate:spoken (afterEnd pieces)=[]
   · simp only [hlate,not_true_eq_false,if_false]
     by_cases htext:pieces.any isText=true
     · rw [if_pos htext,if_pos htext,hspoken,hlate]
     · rw [if_neg htext,if_neg htext,hthought]
       exact List.self_eq_append_right
   · have htext:pieces.any isText=true:=by
      by_contra hnone
      exact hlate (hspoken.symm.trans (spoken_silent hnone))
     simp only [hlate,htext,not_false_eq_true,if_true]
     rw [hspoken]
     exact eq_comm
 · have htext:pieces.any isText=true:=by
    by_contra hnone
    have hboth:=hspoken.symm.trans (spoken_silent hnone)
    exact hheard (List.append_eq_nil_iff.mp hboth).1
   simp only [hheard,htext,ne_eq,not_false_eq_true,if_true,if_false]
   rw [hspoken]
   exact List.self_eq_append_right

end CursorProxy.CompactionText
