import CursorProxy.LiveRunKeys
import CursorProxy.PosixWords

namespace CursorProxy.DeleteCommands
open PosixWords XmlElements ToolNames

def escapedQuote : Text := "'\\''".toList

def shellSingleQuote (s:Text) : Text :=
 '\'' :: s.flatMap (fun char=>if char = '\'' then escapedQuote else [char])++['\'']

def deletePrefix : Text := "rm -f -- ".toList

def deleteCommand (path:Text) : Text := deletePrefix++shellSingleQuote path

def powershellSingleQuote (s:Text) : Text :=
 '\'' :: s.flatMap (fun char=>if char = '\'' then ['\'','\''] else [char])++['\'']

/-- The text up to the next quote is kept, and behind a quote has to stand the rest of an escaped
one. -/
def unquoteInner : Text → Option Text
 | []=>some []
 | '\'' :: '\\' :: '\'' :: '\'' :: rest=>(unquoteInner rest).map ('\'' :: ·)
 | char::rest=>if char = '\'' then none else (unquoteInner rest).map (char :: ·)

def unquotePosixSingle (value:Text) : Option Text :=
 if value.length<2 ∨ value.head? ≠ some '\'' ∨ value.getLast? ≠ some '\'' then none
 else unquoteInner value.tail.dropLast

def removeItemPrefix : Text := "Remove-Item -Force -LiteralPath ".toList

def rewriteCursorDeleteForPowershell (command:Text) : Option Text :=
 (stripPrefix deletePrefix command).bind fun quoted=>
  (unquotePosixSingle (trim quoted)).map fun path=>
   removeItemPrefix++powershellSingleQuote path

def adaptedCommand (powerShell:Bool) (command:Text) : Text :=
 if powerShell then (rewriteCursorDeleteForPowershell command).getD command else command

section posix

theorem escapedQuote_eq : escapedQuote=['\'','\\','\'','\''] := by decide

theorem run_char (lexer:Lexer) (chars:Text) (char:Char) :
  (lexer.push chars .single).run (if char = '\'' then escapedQuote else [char]) =
   some (lexer.push (chars++[char]) .single):=by
 by_cases h:char = '\''
 · rw [if_pos h,escapedQuote_eq,h]
   simp [Lexer.run,Lexer.step,Lexer.push]
 · rw [if_neg h,Lexer.run_cons]
   have hstep:(lexer.push chars .single).step char = some ((lexer.push chars .single).push [char] .single) := if_neg h
   rw [hstep,Lexer.push_push]
   rfl

theorem run_quoted (lexer:Lexer) (chars path:Text) :
  (lexer.push chars .single).run (path.flatMap fun char=>if char = '\'' then escapedQuote else [char]) =
   some (lexer.push (chars++path) .single):=by
 induction path generalizing chars with
 | nil=>
  rw [List.append_nil]
  rfl
 | cons char path ih=>
  rw [List.flatMap_cons,Lexer.run_append,run_char,Option.bind_some,ih,List.append_assoc]
  rfl

theorem posixWords_delete (path:Text) :
  posixWords (deleteCommand path)=some ["rm".toList,"-f".toList,"--".toList,path]:=by
 have hfront:Lexer.start.run deletePrefix = some ⟨["rm".toList,"-f".toList,"--".toList],none,.plain⟩ := by decide
 have hopen:(⟨["rm".toList,"-f".toList,"--".toList],none,.plain⟩ : Lexer).step '\'' =
   some (Lexer.push ⟨["rm".toList,"-f".toList,"--".toList],none,.plain⟩ [] .single) := rfl
 unfold posixWords deleteCommand shellSingleQuote
 rw [Lexer.run_append,hfront,Option.bind_some,List.cons_append,Lexer.run_cons,hopen,
  Option.bind_some,Lexer.run_append,run_quoted,Option.bind_some,List.nil_append]
 simp [Lexer.run,Lexer.step,Lexer.push,Lexer.finish]

end posix

theorem unquoteInner_char (char:Char) (rest:Text) :
  unquoteInner ((if char = '\'' then escapedQuote else [char])++rest) =
   (unquoteInner rest).map (char :: ·):=by
 by_cases h:char = '\''
 · rw [if_pos h,escapedQuote_eq,h]
   rfl
 · rw [if_neg h,List.singleton_append,unquoteInner,if_neg h]
   intro _ hquote
   exact absurd hquote h

theorem unquoteInner_quoted (path:Text) :
  unquoteInner (path.flatMap fun char=>if char = '\'' then escapedQuote else [char]) =
   some path:=by
 induction path with
 | nil=>rfl
 | cons char path ih=>
  rw [List.flatMap_cons,unquoteInner_char,ih]
  rfl

theorem unquotePosixSingle_quoted (path:Text) : unquotePosixSingle (shellSingleQuote path)=some path:=by
 have hquoted:shellSingleQuote path =
   '\'' :: (path.flatMap (fun char=>if char = '\'' then escapedQuote else [char])++['\'']) :=
  rfl
 unfold unquotePosixSingle
 rw [hquoted,if_neg,List.tail_cons,List.dropLast_concat]
 · exact unquoteInner_quoted path
 · rw [List.length_cons,List.length_append,List.head?_cons,← List.cons_append,List.getLast?_concat]
   simp

theorem rewrite_delete (path:Text) :
  rewriteCursorDeleteForPowershell (deleteCommand path) = some (removeItemPrefix++powershellSingleQuote path):=by
 have htrim:trim (shellSingleQuote path)=shellSingleQuote path :=
  LiveRunKeys.trim_eq_self (by decide) (by decide)
 unfold rewriteCursorDeleteForPowershell deleteCommand
 rw [stripPrefix_append,Option.bind_some,htrim,unquotePosixSingle_quoted]
 rfl

def isSingleQuote (char:Char) : Bool :=
 char == '\'' || char == '\u2018' || char == '\u2019' || char == '\u201a' || char == '\u201b'

/-- Which two quotes count as one that is doubled: a quote and itself, and no pair counts as
anything but one of its two. -/
structure Doubling where
 one : Char → Char → Option Char
 same : ∀ char,one char char=some char
 of_pair : ∀ first second char,one first second=some char → char=first ∨ char=second

section powershell
variable (doubling:Doubling)

/-- What is read up to the first quote that is not doubled, and what stands behind it. -/
def readLiteral : Text → Option (Text×Text)
 | []=>none
 | [char]=>if isSingleQuote char then some ([],[]) else none
 | first::second::rest=>
  if isSingleQuote first then
   match if isSingleQuote second then doubling.one first second else none with
   | some char=>(readLiteral rest).map fun (text,behind)=>(char::text,behind)
   | none=>some ([],second::rest)
  else (readLiteral (second::rest)).map fun (text,behind)=>(first::text,behind)

def powershellLiteral : Text → Option (Text×Text)
 | []=>none
 | char::text=>if isSingleQuote char then readLiteral doubling text else none

variable {doubling}

/-- What a text read from a literal took of it. -/
def weight (text:Text) : ℕ := (text.map fun char=>if isSingleQuote char then 2 else 1).sum

theorem weight_cons (char:Char) (text:Text) :
  weight (char::text)=(if isSingleQuote char then 2 else 1)+weight text:=by
 unfold weight
 rw [List.map_cons,List.sum_cons]

theorem readLiteral_weight (literal:Text) {text behind:Text} (h:readLiteral doubling literal=some (text,behind)) :
  literal.length=weight text+1+behind.length:=by
 fun_induction readLiteral doubling literal generalizing text behind with
 | case1=>exact (nomatch h)
 | case2 char hquote=>
  obtain ⟨rfl,rfl⟩:=Prod.mk.inj (Option.some.inj h)
  rfl
 | case3 char hquote=>exact (nomatch h)
 | case4 first second rest hfirst char hchar ih=>
  obtain ⟨⟨text',behind'⟩,hrest,hpair⟩:=Option.map_eq_some_iff.mp h
  obtain ⟨rfl,rfl⟩:=Prod.mk.inj hpair
  have hquote:isSingleQuote char=true:=by
   split_ifs at hchar with hsecond
   rcases doubling.of_pair _ _ _ hchar with rfl | rfl
   · exact hfirst
   · exact hsecond
  have hlength:=ih hrest
  rw [weight_cons,if_pos hquote,List.length_cons,List.length_cons]
  omega
 | case5 first second rest hfirst hnone=>
  obtain ⟨rfl,rfl⟩:=Prod.mk.inj (Option.some.inj h)
  rw [List.length_cons,List.length_cons]
  change _=0+1+_
  omega
 | case6 first second rest hfirst ih=>
  obtain ⟨⟨text',behind'⟩,hrest,hpair⟩:=Option.map_eq_some_iff.mp h
  obtain ⟨rfl,rfl⟩:=Prod.mk.inj hpair
  have hlength:=ih hrest
  rw [weight_cons,if_neg hfirst,List.length_cons]
  omega

theorem readLiteral_ink {char:Char} {text:Text} (h:isSingleQuote char=false)
  (hne:text≠[]) : readLiteral doubling (char::text) =
   (readLiteral doubling text).map fun (read,behind)=>(char::read,behind):=by
 obtain ⟨second,rest,rfl⟩:=List.exists_cons_of_ne_nil hne
 rw [readLiteral,if_neg (Bool.eq_false_iff.mp h)]

def doubled (path:Text) : Text :=
 path.flatMap fun char=>if char = '\'' then ['\'','\''] else [char]

theorem readLiteral_doubled {path:Text} (h:∀ char∈path,isSingleQuote char=true → char = '\'') :
  readLiteral doubling (doubled path++['\''])=some (path,[]):=by
 induction path with
 | nil=>rfl
 | cons char path ih=>
  have hrest:=ih fun other hmem=>h other (List.mem_cons_of_mem _ hmem)
  unfold doubled at hrest ⊢
  rw [List.flatMap_cons,List.append_assoc]
  by_cases hchar:char = '\''
  · rw [if_pos hchar,hchar]
    have hquote:isSingleQuote '\'' = true:=by decide
    rw [List.cons_append,List.cons_append,List.nil_append,readLiteral,if_pos hquote,if_pos hquote,doubling.same]
    dsimp only
    rw [hrest]
    rfl
  · have hink:isSingleQuote char=false :=
     Bool.eq_false_iff.mpr fun hquote=>hchar (h char List.mem_cons_self hquote)
    rw [if_neg hchar,List.singleton_append,readLiteral_ink hink (by simp),hrest]
    rfl

theorem doubled_length (path:Text) : (doubled path).length ≤ weight path ∧
  ((doubled path).length=weight path → ∀ char∈path,isSingleQuote char=true → char = '\''):=by
 induction path with
 | nil=>exact ⟨Nat.le_refl _,fun _ _ h=>(nomatch h)⟩
 | cons char path ih=>
  obtain ⟨hle,hall⟩:=ih
  have hsplit:(doubled (char::path)).length = (if char = '\'' then 2 else 1)+(doubled path).length:=by
   unfold doubled
   rw [List.flatMap_cons,List.length_append]
   split_ifs <;> rfl
  rw [hsplit,weight_cons]
  by_cases hquote:isSingleQuote char=true
  · rw [if_pos hquote]
    by_cases hchar:char = '\''
    · rw [if_pos hchar]
      refine ⟨by omega,fun heq other hmem hother=>?_⟩
      rcases List.mem_cons.mp hmem with rfl | hmem
      · exact hchar
      · exact hall (by omega) other hmem hother
    · rw [if_neg hchar]
      exact ⟨by omega,fun heq=>by omega⟩
  · have hchar:char ≠ '\'' := fun hsame=>hquote (hsame ▸ by decide)
    rw [if_neg hquote,if_neg hchar]
    refine ⟨by omega,fun heq other hmem hother=>?_⟩
    rcases List.mem_cons.mp hmem with rfl | hmem
    · exact absurd hother hquote
    · exact hall (by omega) other hmem hother

theorem powershellLiteral_iff (doubling:Doubling) (path:Text) :
  powershellLiteral doubling (powershellSingleQuote path)=some (path,[]) ↔
   ∀ char∈path,isSingleQuote char=true → char = '\'' := by
 have hliteral:powershellLiteral doubling (powershellSingleQuote path) =
   readLiteral doubling (doubled path++['\'']) := rfl
 rw [hliteral]
 refine ⟨fun hread=>?_,readLiteral_doubled⟩
 have hweight:=readLiteral_weight _ hread
 rw [List.length_append,List.length_singleton,List.length_nil] at hweight
 exact (doubled_length path).2 (by omega)

end powershell

/-- For every path the shell gets the four words; in PowerShell the path comes back exactly if it
has none of the typographic quotes. -/
theorem delete_commands (doubling:Doubling) (path:Text) :
    posixWords (adaptedCommand false (deleteCommand path)) = some ["rm".toList,"-f".toList,"--".toList,path] ∧
    ∃ literal,adaptedCommand true (deleteCommand path)=removeItemPrefix++literal ∧
      (powershellLiteral doubling literal=some (path,[]) ↔
        ∀ char∈path,char ∉ ['\u2018','\u2019','\u201a','\u201b']):=by
  refine ⟨posixWords_delete path,powershellSingleQuote path,?_,?_⟩
  · unfold adaptedCommand
    rw [if_pos rfl,rewrite_delete]
    rfl
  · rw [powershellLiteral_iff]
    refine forall₂_congr fun char _=>?_
    unfold isSingleQuote
    simp only [Bool.or_eq_true,beq_iff_eq,List.mem_cons,List.not_mem_nil,or_false]
    constructor
    · rintro h (rfl | rfl | rfl | rfl)
      all_goals exact absurd (h (by decide)) (by decide)
    · rintro h ((((hquote | hquote) | hquote) | hquote) | hquote)
      · exact hquote
      all_goals exact absurd (by simp [hquote]) h

def sameQuote : Doubling where
 one first second := if first=second then some first else none
 same _ := if_pos rfl
 of_pair first second char h:=by
  split_ifs at h
  exact .inl (Option.some.inj h).symm

/-- The literal ends at the apostrophe of the name. -/
theorem typographic_apostrophe :
    adaptedCommand true (deleteCommand "it\u2019s; x".toList) = removeItemPrefix ++ "'it\u2019s; x'".toList ∧
      powershellLiteral sameQuote "'it\u2019s; x'".toList = some ("it".toList,"s; x'".toList) ∧
      "it".toList ≠ "it\u2019s; x".toList:=by
  refine ⟨?_,by decide,by decide⟩
  decide

end CursorProxy.DeleteCommands
